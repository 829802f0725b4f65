/-
How far the lines of an outline are indented.

The depth that an outline keeps for its next line stays at zero where `depth` goes on below.  Behind
any calls it is the height of `depth` over the lowest point that `depth` has passed:
`keptDepth_take`.  So the lines of all sequences of calls have a closed form, balanced or not, and
where the calls are balanced the lowest point is zero.
-/
import Mathlib.Data.Finset.Lattice.Fold
import Mathlib.Data.Finset.Range
import TrackSearch.Proofs.Query.Meaning
import TrackSearch.Proofs.Query.Nesting

namespace TrackSearch

namespace Call

variable {calls : List Call}

theorem depth_take_succ {i : Nat} {c : Call} (h : calls[i]? = some c) :
    depth (calls.take (i + 1)) = depth (calls.take i) + c.depthChange := by
  have hlast : depth [c] = c.depthChange := Int.add_zero _
  rw [List.take_add_one, h, depth_append]
  exact congrArg _ hlast

/-! ## The depth that is kept -/

/-- The depth that is kept for the next line, behind some calls whose lines begin at a depth. -/
def keptDepth (start : Nat) (calls : List Call) : Nat :=
  calls.foldl (fun kept c => depthBehind (shownDepth kept c) c) start

theorem keptDepth_take_succ {start i : Nat} {c : Call} (h : calls[i]? = some c) :
    keptDepth start (calls.take (i + 1)) =
      depthBehind (shownDepth (keptDepth start (calls.take i)) c) c := by
  rw [List.take_add_one, h]
  exact List.foldl_append

/-- The depth at which a line is shown is known from the depth that is kept in front of it. -/
theorem getElem?_outlineFrom (start : Nat) (calls : List Call) (i : Nat) :
    (outlineFrom start calls)[i]? =
      calls[i]?.map fun c => c.writeAt (shownDepth (keptDepth start (calls.take i)) c) := by
  induction calls generalizing start i with
  | nil => rfl
  | cons c calls ih =>
    rw [outlineFrom]
    cases i with
    | zero => rfl
    | succ i => exact ih _ i

theorem length_outlineFrom (start : Nat) (calls : List Call) :
    (outlineFrom start calls).length = calls.length := by
  induction calls generalizing start with
  | nil => rfl
  | cons c calls ih => rw [outlineFrom, List.length_cons, List.length_cons, ih]

/-- One call: the depth that is kept changes as the depth does, but not to below zero. -/
theorem depthBehind_shownDepth (kept : Nat) (c : Call) :
    (depthBehind (shownDepth kept c) c : Int) = max 0 (kept + c.depthChange) := by
  cases c with
  | endScope =>
    show ((kept - 1 : Nat) : Int) = max 0 ((kept : Int) + -1)
    omega
  | beginOr | beginAnd =>
    show ((kept + 1 : Nat) : Int) = max 0 (kept + 1)
    omega
  | textFilter | numberFilter =>
    show (kept : Int) = max 0 (kept + 0)
    omega

/-! ## The lowest depth -/

/-- The least of the depths behind the first `j` calls of a sequence, for `j` up to `k`. -/
def lowestDepth (calls : List Call) (k : Nat) : Int :=
  (Finset.range (k + 1)).inf' Finset.nonempty_range_add_one fun j => depth (calls.take j)

theorem le_lowestDepth_iff {k : Nat} {d : Int} :
    d ≤ lowestDepth calls k ↔ ∀ j ≤ k, d ≤ depth (calls.take j) := by
  simp only [lowestDepth, Finset.le_inf'_iff, Finset.mem_range, Nat.lt_succ_iff]

theorem lowestDepth_le {j k : Nat} (h : j ≤ k) : lowestDepth calls k ≤ depth (calls.take j) :=
  le_lowestDepth_iff.mp (Int.le_refl _) j h

theorem lowestDepth_zero (calls : List Call) : lowestDepth calls 0 = 0 := rfl

theorem lowestDepth_succ (calls : List Call) (k : Nat) :
    lowestDepth calls (k + 1) = min (lowestDepth calls k) (depth (calls.take (k + 1))) := by
  apply Int.le_antisymm
  · refine Int.le_min.mpr ⟨le_lowestDepth_iff.mpr fun j hj => ?_, lowestDepth_le (Nat.le_refl _)⟩
    exact lowestDepth_le (Nat.le_succ_of_le hj)
  · refine le_lowestDepth_iff.mpr fun j hj => ?_
    rcases Nat.le_succ_iff.mp hj with hj | rfl
    · exact Int.le_trans (Int.min_le_left _ _) (lowestDepth_le hj)
    · exact Int.min_le_right _ _

/-- The lowest depth stays what it is as long as the depth does not go below it. -/
theorem lowestDepth_eq_of_forall {k n : Nat} (h : k ≤ n)
    (hdepth : ∀ j, k < j → j ≤ n → lowestDepth calls k ≤ depth (calls.take j)) :
    lowestDepth calls n = lowestDepth calls k := by
  apply Int.le_antisymm
  · exact le_lowestDepth_iff.mpr fun j hj => lowestDepth_le (Nat.le_trans hj h)
  · refine le_lowestDepth_iff.mpr fun j hj => ?_
    rcases Nat.lt_or_ge k j with hlt | hge
    · exact hdepth j hlt hj
    · exact lowestDepth_le hge

/-- A run of calls: what is kept is the height of the depth over the lowest one so far. -/
theorem keptDepth_take (calls : List Call) (k : Nat) :
    (keptDepth 0 (calls.take k) : Int) = depth (calls.take k) - lowestDepth calls k := by
  induction k with
  | zero => rfl
  | succ k ih =>
    have hlow := lowestDepth_succ calls k
    cases hc : calls[k]? with
    | none =>
      have htake : calls.take (k + 1) = calls.take k := by
        rw [List.take_add_one, hc]
        exact List.append_nil _
      have hle : lowestDepth calls k ≤ depth (calls.take k) := lowestDepth_le (Nat.le_refl k)
      rw [htake] at hlow ⊢
      omega
    | some c =>
      have hstep := depthBehind_shownDepth (keptDepth 0 (calls.take k)) c
      have hdepth := depth_take_succ hc
      rw [keptDepth_take_succ hc]
      omega

/-! ## Lines -/

/-- The number of calls behind which the depth counts for the line of a call: those in front of it,
and the call itself if it is the end of a scope. -/
def callsUpTo (c : Call) (i : Nat) : Nat :=
  if c = .endScope then i + 1 else i

theorem shownDepth_keptDepth {c : Call} {i : Nat} (h : calls[i]? = some c) :
    shownDepth (keptDepth 0 (calls.take i)) c = keptDepth 0 (calls.take (c.callsUpTo i)) := by
  by_cases hend : c = .endScope
  · rw [callsUpTo, if_pos hend, keptDepth_take_succ h, hend]
    rfl
  · rw [callsUpTo, if_neg hend]
    cases c with
    | endScope => exact absurd rfl hend
    | _ => rfl

theorem getElem?_outline {c : Call} {i : Nat} (h : calls[i]? = some c) :
    (outline calls)[i]? = some (c.writeAt (keptDepth 0 (calls.take (c.callsUpTo i)))) := by
  rw [outline, getElem?_outlineFrom, h, ← shownDepth_keptDepth h]
  rfl

/-! ## Scopes -/

/-- Whether a scope is opened by one call of a sequence and closed by another. -/
structure IsScope (calls : List Call) (first last : Nat) : Prop where
  lt : first < last
  opens : ∃ j : Junction, calls[first]? = some j.call
  closes : calls[last]? = some .endScope
  balanced : Balanced ((calls.take last).drop (first + 1))

theorem depth_take_of_le {k n : Nat} (h : k ≤ n) :
    depth (calls.take n) = depth (calls.take k) + depth ((calls.take n).drop k) := by
  rw [← depth_append, ← Nat.min_eq_left h, ← List.take_take, Nat.min_eq_left h,
    List.take_append_drop]

namespace IsScope

variable {first last : Nat}

theorem depth_take_first_succ (h : IsScope calls first last) :
    depth (calls.take (first + 1)) = depth (calls.take first) + 1 := by
  obtain ⟨j, hj⟩ := h.opens
  rw [depth_take_succ hj, depthChange_junction]

/-- Between its beginning and its end a scope is open. -/
theorem depth_take_first_lt (h : IsScope calls first last) {k : Nat} (hfirst : first < k)
    (hlast : k ≤ last) : depth (calls.take first) < depth (calls.take k) := by
  have hfront : (calls.take k).drop (first + 1) <+: (calls.take last).drop (first + 1) :=
    (List.take_prefix_take_left hlast).drop _
  have hinner := h.balanced.depth_of_isPrefix _ hfront
  have hle : first + 1 ≤ k := hfirst
  rw [depth_take_of_le hle, h.depth_take_first_succ]
  omega

/-- Behind its end a scope has left no trace. -/
theorem depth_take_last_succ (h : IsScope calls first last) :
    depth (calls.take (last + 1)) = depth (calls.take first) := by
  have hle : first + 1 ≤ last := h.lt
  rw [depth_take_succ h.closes, depth_take_of_le hle, h.depth_take_first_succ,
    h.balanced.depth_eq]
  show depth (calls.take first) + 1 + 0 + -1 = depth (calls.take first)
  omega

/-- Whatever the calls in front of a scope are, the lowest depth is not in the scope, so the end of
the scope comes back to the depth of its beginning. -/
theorem keptDepth_take_last_succ (h : IsScope calls first last) :
    keptDepth 0 (calls.take (last + 1)) = keptDepth 0 (calls.take first) := by
  have hlow : lowestDepth calls (last + 1) = lowestDepth calls first := by
    refine lowestDepth_eq_of_forall (Nat.le_succ_of_le (Nat.le_of_lt h.lt)) fun k hfirst hlast => ?_
    refine Int.le_trans (lowestDepth_le (Nat.le_refl first)) ?_
    rcases Nat.le_succ_iff.mp hlast with hlast | rfl
    · exact Int.le_of_lt (h.depth_take_first_lt hfirst hlast)
    · exact Int.le_of_eq h.depth_take_last_succ.symm
  have hkept : (keptDepth 0 (calls.take (last + 1)) : Int) = keptDepth 0 (calls.take first) := by
    rw [keptDepth_take, keptDepth_take, hlow, h.depth_take_last_succ]
  exact Int.ofNat_inj.mp hkept

theorem exists_writeAt (h : IsScope calls first last) {j : Junction}
    (hj : calls[first]? = some j.call) :
    ∃ x : Nat, (outline calls)[first]? = some (j.call.writeAt x) ∧
      (outline calls)[last]? = some (Call.endScope.writeAt x) := by
  have hfirst : j.call.callsUpTo first = first := by cases j <;> rfl
  refine ⟨keptDepth 0 (calls.take first), ?_, ?_⟩
  · rw [getElem?_outline hj, hfirst]
  · rw [getElem?_outline h.closes, ← h.keptDepth_take_last_succ]
    rfl

/-- No scope is closed twice. -/
theorem last_le {last' : Nat} (h : IsScope calls first last) (h' : IsScope calls first last') :
    last' ≤ last := by
  apply Nat.le_of_not_lt
  intro hlt
  have hopen := h'.depth_take_first_lt (Nat.lt_succ_of_lt h.lt) hlt
  rw [h.depth_take_last_succ] at hopen
  exact Int.lt_irrefl _ hopen

end IsScope

namespace Balanced

theorem depth_take_nonneg (h : Balanced calls) (k : Nat) : 0 ≤ depth (calls.take k) :=
  h.depth_of_isPrefix _ (List.take_prefix k calls)

theorem lowestDepth_eq (h : Balanced calls) (k : Nat) : lowestDepth calls k = 0 := by
  rw [← lowestDepth_zero calls]
  exact lowestDepth_eq_of_forall (Nat.zero_le k) fun j _ _ => h.depth_take_nonneg j

theorem keptDepth_take (h : Balanced calls) (k : Nat) :
    (keptDepth 0 (calls.take k) : Int) = depth (calls.take k) := by
  rw [Call.keptDepth_take, h.lowestDepth_eq, Int.sub_zero]

theorem keptDepth_pos (h : Balanced calls) {i : Nat} (hend : calls[i]? = some .endScope) :
    0 < keptDepth 0 (calls.take i) := by
  have hkept := h.keptDepth_take i
  have hbehind : 0 ≤ depth (calls.take i) + -1 := by
    have hnonneg := h.depth_take_nonneg (i + 1)
    rw [depth_take_succ hend] at hnonneg
    exact hnonneg
  omega

/-- Behind a call that opens a scope, the calls up to its end are balanced. -/
theorem exists_closing {front rest : List Call} {j : Junction}
    (h : Balanced (front ++ j.call :: rest)) :
    ∃ inner back, rest = inner ++ .endScope :: back ∧ Balanced inner := by
  obtain ⟨n, hn⟩ := Int.eq_ofNat_of_zero_le (h.depth_of_isPrefix front (List.prefix_append _ _))
  have hdepth (ds : List Call) : depth (front ++ j.call :: ds) = n + 1 + depth ds := by
    rw [depth_append, depth, depthChange_junction, hn, Int.add_assoc]
  have hfront (ds : List Call) (hds : ds <+: rest) : -((n + 1 : Nat) : Int) ≤ depth ds := by
    have hlonger : front ++ j.call :: ds <+: front ++ j.call :: rest :=
      (List.prefix_append_right_inj front).mpr (List.cons_prefix_cons.mpr ⟨rfl, hds⟩)
    have hnonneg := h.depth_of_isPrefix _ hlonger
    rw [hdepth] at hnonneg
    omega
  have hrest : depth rest = -((n + 1 : Nat) : Int) := by
    have hwhole := h.depth_eq
    rw [hdepth] at hwhole
    omega
  obtain ⟨ps, rows, hlength, rfl⟩ := exists_rows rest (n + 1) hfront hrest
  cases rows with
  | nil => exact absurd hlength (by simp)
  | cons qs rows =>
    rw [List.flatMap_cons]
    exact ⟨Part.callsAll ps, _, rfl, balanced_callsAll ps⟩

/-- Every scope that is opened is closed again, by one call. -/
theorem existsUnique_isScope (h : Balanced calls) {first : Nat} {j : Junction}
    (hj : calls[first]? = some j.call) : ∃! last, IsScope calls first last := by
  obtain ⟨hlt, hget⟩ := List.getElem?_eq_some_iff.mp hj
  have hsplit : calls.take first ++ j.call :: calls.drop (first + 1) = calls := by
    rw [← hget, List.getElem_cons_drop, List.take_append_drop]
  obtain ⟨inner, back, hdrop, hinner⟩ := exists_closing (hsplit.symm ▸ h)
  have hscope : IsScope calls first (first + 1 + inner.length) := by
    refine ⟨by omega, ⟨j, hj⟩, ?_, ?_⟩
    · rw [← List.getElem?_drop, hdrop, List.getElem?_append_right (Nat.le_refl _), Nat.sub_self]
      rfl
    · rw [List.drop_take, Nat.add_sub_cancel_left, hdrop, List.take_left]
      exact hinner
  exact ⟨_, hscope, fun last hlast => Nat.le_antisymm (hscope.last_le hlast) (hlast.last_le hscope)⟩

end Balanced

end Call

/-! ## Complete queries -/

theorem Recorder.balanced_compile {supported : FieldSet} {dates : Resolver} {e : Expression}
    {r : Recorder} (h : ({ supported } : Recorder).compile dates e = (r, none)) :
    Call.Balanced r.calls := by
  obtain ⟨rfl, hnone⟩ := Prod.mk.inj h
  have hcalls := Expression.compile_of_forall (Expression.failure_compile_eq_none_iff.mp hnone)
  show Call.Balanced ([] ++ (e.compile dates supported).calls)
  rw [hcalls]
  exact Call.balanced_callsAll (e.parts dates supported)

/-- The line of every call is indented by the height of the depth over the lowest depth up to it.  In
a complete query on a new recorder that height is the depth itself: no end is one too many, every
scope that is opened is closed again, and the two lines of it are indented alike. -/
theorem outline_indentation :
    (∀ calls : List Call, (Call.outline calls).length = calls.length ∧
      ∀ i (c : Call), calls[i]? = some c →
        ∃ x : Nat,
          (x : Int) = Call.depth (calls.take (c.callsUpTo i)) -
            Call.lowestDepth calls (c.callsUpTo i) ∧
          (Call.outline calls)[i]? =
            some (String.ofList (List.replicate (2 * x) ' ') ++ c.write)) ∧
    ∀ supported dates e r, ({ supported } : Recorder).compile dates e = (r, none) →
      (∀ i (c : Call), r.calls[i]? = some c →
        ∃ x : Nat, (x : Int) = Call.depth (r.calls.take (c.callsUpTo i)) ∧
          (Call.outline r.calls)[i]? = some (c.writeAt x)) ∧
      (∀ k, (Call.keptDepth 0 (r.calls.take k) : Int) = Call.depth (r.calls.take k)) ∧
      (∀ i, r.calls[i]? = some .endScope → 0 < Call.keptDepth 0 (r.calls.take i)) ∧
      ∀ first (j : Junction), r.calls[first]? = some j.call →
        (∃! last, Call.IsScope r.calls first last) ∧
        ∀ last, Call.IsScope r.calls first last →
          ∃ x : Nat, (Call.outline r.calls)[first]? = some (j.call.writeAt x) ∧
            (Call.outline r.calls)[last]? = some (Call.endScope.writeAt x) := by
  refine ⟨fun calls => ⟨Call.length_outlineFrom 0 calls, fun i c hc => ?_⟩,
    fun supported dates e r hr => ?_⟩
  · exact ⟨_, Call.keptDepth_take calls (c.callsUpTo i), Call.getElem?_outline hc⟩
  · have hbalanced := Recorder.balanced_compile hr
    refine ⟨fun i c hc => ?_, hbalanced.keptDepth_take, fun i => hbalanced.keptDepth_pos,
      fun first j hj => ⟨hbalanced.existsUnique_isScope hj, fun last h => h.exists_writeAt hj⟩⟩
    exact ⟨_, hbalanced.keptDepth_take (c.callsUpTo i), Call.getElem?_outline hc⟩

/-- The last of these calls stands at depth minus one, which is one over the lowest. -/
theorem outline_indentation_surplusEnds :
    let calls : List Call := [.endScope, .beginAnd, .endScope, .endScope, .beginOr, .beginOr]
    let r : Recorder := { calls := (mixedExpression.compile fixedDates .full).calls }
    Call.depth (calls.take 5) = -1 ∧ (Call.outline calls)[5]? = some "  begin_or" ∧
      Recorder.compile {} fixedDates mixedExpression = (r, none) ∧
      r.calls[0]? = some .beginOr ∧
      ∃ last x, Call.IsScope r.calls 0 last ∧
        (Call.outline r.calls)[0]? = some (Call.beginOr.writeAt x) ∧
        (Call.outline r.calls)[last]? = some (Call.endScope.writeAt x) := by
  intro calls r
  obtain ⟨hlines, hcomplete⟩ := outline_indentation
  have hsixth : ∃ x : Nat, (x : Int) = Call.depth (calls.take 5) - Call.lowestDepth calls 5 ∧
      (Call.outline calls)[5]? = some (String.ofList (List.replicate (2 * x) ' ') ++ "begin_or") :=
    (hlines calls).2 5 .beginOr rfl
  obtain ⟨x, hx, hline⟩ := hsixth
  have hdepth : Call.depth (calls.take 5) = -1 := by decide
  have hlow : Call.lowestDepth calls 5 = -2 := by decide +kernel
  obtain rfl : x = 1 := by omega
  have hrecord : Recorder.compile {} fixedDates mixedExpression = (r, none) := by decide +kernel
  have hfirst : r.calls[0]? = some (Junction.call .any) := by decide +kernel
  obtain ⟨-, -, -, hopened⟩ := hcomplete .full fixedDates mixedExpression r hrecord
  obtain ⟨⟨last, hscope, -⟩, hlast⟩ := hopened 0 .any hfirst
  obtain ⟨y, hbegin, hend⟩ := hlast last hscope
  exact ⟨hdepth, hline, hrecord, hfirst, last, y, hscope, hbegin, hend⟩

end TrackSearch
