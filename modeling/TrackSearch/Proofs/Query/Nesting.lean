/-
Sequences of calls whose scopes are closed in order.

`Call.Balanced` looks at the depth behind every call alone.  It comes to the same as being the flat
form of a row of `Part`s, and the row is then the only one with that flat form:
`Call.balanced_iff_existsUnique`.  So a balanced sequence of calls splits into scopes in one way.
-/
import Mathlib.Logic.ExistsUnique
import TrackSearch.Proofs.Query.Scope

namespace TrackSearch

namespace Call

theorem depth_append (cs ds : List Call) : depth (cs ++ ds) = depth cs + depth ds := by
  induction cs with
  | nil => rw [List.nil_append, depth, Int.zero_add]
  | cons c cs ih => rw [List.cons_append, depth, depth, ih, Int.add_assoc]

theorem depthChange_junction (j : Junction) : j.call.depthChange = 1 := by
  cases j <;> rfl

theorem depthChange_filter (exclude : Bool) (f : Filter) : (f.call exclude).depthChange = 0 := by
  cases f <;> rfl

theorem eq_junction_or_end_or_filter (c : Call) :
    (∃ j : Junction, c = j.call) ∨ c = .endScope ∨ ∃ exclude f, c = Filter.call exclude f := by
  cases c with
  | beginOr => exact Or.inl ⟨.any, rfl⟩
  | beginAnd => exact Or.inl ⟨.every, rfl⟩
  | endScope => exact Or.inr (Or.inl rfl)
  | textFilter exclude field text matchStart matchEnd =>
    exact Or.inr (Or.inr ⟨exclude, .text field text matchStart matchEnd, rfl⟩)
  | numberFilter exclude field value comparison =>
    exact Or.inr (Or.inr ⟨exclude, .number field value comparison, rfl⟩)

/-- Whether no scope is closed that was not opened before, and none is left open. -/
structure Balanced (cs : List Call) : Prop where
  depth_of_isPrefix : ∀ front, front <+: cs → 0 ≤ depth front
  depth_eq : depth cs = 0

/-! ## The calls of parts are balanced -/

theorem balanced_nil : Balanced [] where
  depth_of_isPrefix := fun front h => by
    rw [List.prefix_nil.mp h]
    exact Int.le_refl 0
  depth_eq := rfl

theorem Balanced.append {cs ds : List Call} (hc : Balanced cs) (hd : Balanced ds) :
    Balanced (cs ++ ds) where
  depth_of_isPrefix := fun front h => by
    rcases List.prefix_or_prefix_of_prefix h (List.prefix_append cs ds) with hf | ⟨rest, rfl⟩
    · exact hc.depth_of_isPrefix front hf
    · have hrest : rest <+: ds := (List.prefix_append_right_inj cs).mp h
      rw [depth_append, hc.depth_eq, Int.zero_add]
      exact hd.depth_of_isPrefix rest hrest
  depth_eq := by rw [depth_append, hc.depth_eq, hd.depth_eq]; rfl

theorem balanced_filter (exclude : Bool) (f : Filter) : Balanced [f.call exclude] where
  depth_of_isPrefix := fun front h => by
    rcases List.prefix_cons_iff.mp h with rfl | ⟨rest, rfl, hrest⟩
    · exact Int.le_refl 0
    · rw [depth, depthChange_filter, List.prefix_nil.mp hrest]
      exact Int.le_refl 0
  depth_eq := by rw [depth, depthChange_filter]; rfl

theorem Balanced.scope {cs : List Call} (h : Balanced cs) (j : Junction) :
    Balanced (j.call :: (cs ++ [.endScope])) := by
  have hdepth : depth (j.call :: (cs ++ [.endScope])) = 0 := by
    rw [depth, depthChange_junction, depth_append, h.depth_eq]
    rfl
  refine ⟨fun front hf => ?_, hdepth⟩
  rcases List.prefix_cons_iff.mp hf with rfl | ⟨rest, rfl, hrest⟩
  · exact Int.le_refl 0
  · rcases List.prefix_concat_iff.mp hrest with rfl | hrest
    · exact Int.le_of_eq hdepth.symm
    · have hnonneg := h.depth_of_isPrefix rest hrest
      rw [depth, depthChange_junction]
      omega

mutual

theorem balanced_calls (p : Part) : Balanced p.calls := by
  cases p with
  | filter exclude f =>
    rw [Part.calls]
    exact balanced_filter exclude f
  | scope j parts =>
    rw [Part.calls]
    exact (balanced_callsAll parts).scope j

theorem balanced_callsAll (ps : List Part) : Balanced (Part.callsAll ps) := by
  cases ps with
  | nil =>
    rw [Part.callsAll]
    exact balanced_nil
  | cons p ps =>
    rw [Part.callsAll]
    exact (balanced_calls p).append (balanced_callsAll ps)

end

/-! ## Balanced calls are those of some parts -/

/-- Calls that close `n` scopes they have not opened are `n + 1` rows of parts with the ends of
these scopes between them. -/
theorem exists_rows (cs : List Call) (n : Nat)
    (hfront : ∀ front, front <+: cs → -n ≤ depth front) (hdepth : depth cs = -n) :
    ∃ (ps : List Part) (rows : List (List Part)), rows.length = n ∧
      cs = Part.callsAll ps ++ rows.flatMap fun qs => .endScope :: Part.callsAll qs := by
  induction cs generalizing n with
  | nil =>
    rw [depth] at hdepth
    have hn : n = 0 := by omega
    exact ⟨[], [], hn.symm, by rw [Part.callsAll]; rfl⟩
  | cons c cs ih =>
    have htail (front : List Call) (h : front <+: cs) : -n ≤ c.depthChange + depth front :=
      hfront (c :: front) (List.cons_prefix_cons.mpr ⟨rfl, h⟩)
    rw [depth] at hdepth
    rcases eq_junction_or_end_or_filter c with ⟨j, rfl⟩ | rfl | ⟨exclude, f, rfl⟩
    · -- The first end behind the row closes the new scope.
      rw [depthChange_junction] at htail hdepth
      obtain ⟨ps, rows, hlength, hcs⟩ := ih (n + 1)
        (fun front h => by have := htail front h; omega) (by omega)
      cases rows with
      | nil => simp at hlength
      | cons qs rows =>
        refine ⟨.scope j ps :: qs, rows, by simpa using hlength, ?_⟩
        rw [hcs, List.flatMap_cons, Part.callsAll, Part.calls]
        simp
    · have hn : -n ≤ depth [.endScope] := hfront _ (by simp)
      obtain ⟨m, rfl⟩ : ∃ m, n = m + 1 := ⟨n - 1, by simp [depth, depthChange] at hn; omega⟩
      have hchange : depthChange .endScope = -1 := rfl
      rw [hchange] at htail hdepth
      obtain ⟨ps, rows, hlength, hcs⟩ := ih m
        (fun front h => by have := htail front h; omega) (by omega)
      refine ⟨[], ps :: rows, by simpa using hlength, ?_⟩
      rw [hcs, List.flatMap_cons, Part.callsAll]
      rfl
    · rw [depthChange_filter] at htail hdepth
      obtain ⟨ps, rows, hlength, hcs⟩ := ih n
        (fun front h => by have := htail front h; omega) (by omega)
      refine ⟨.filter exclude f :: ps, rows, hlength, ?_⟩
      rw [hcs, Part.callsAll, Part.calls]
      rfl

theorem Balanced.exists_callsAll {cs : List Call} (h : Balanced cs) :
    ∃ ps, Part.callsAll ps = cs := by
  obtain ⟨ps, rows, hlength, hcs⟩ :=
    exists_rows cs 0 (fun front hf => by have := h.depth_of_isPrefix front hf; omega) h.depth_eq
  rw [List.length_eq_zero_iff.mp hlength] at hcs
  exact ⟨ps, by rw [hcs]; simp⟩

end Call

/-! ## The parts are known from the calls -/

theorem Filter.call_inj {exclude exclude' : Bool} {f g : Filter}
    (h : f.call exclude = g.call exclude') : exclude = exclude' ∧ f = g := by
  cases f <;> cases g <;> simp_all [Filter.call]

theorem Filter.call_ne_junction (exclude : Bool) (f : Filter) (j : Junction) :
    f.call exclude ≠ j.call := by
  cases f <;> cases j <;> simp [Filter.call, Junction.call]

theorem Junction.call_inj {j k : Junction} (h : j.call = k.call) : j = k := by
  cases j <;> cases k <;> simp_all [Junction.call]

namespace Part

/-- A part does not begin with the end of a scope. -/
theorem calls_append_ne_endScope (p : Part) (cs ds : List Call) :
    p.calls ++ cs ≠ .endScope :: ds := by
  cases p with
  | filter exclude f => rw [calls]; cases f <;> simp [Filter.call]
  | scope j parts => rw [calls]; cases j <;> simp [Junction.call]

-- By recursion on the first of the two parts.  What stands behind the calls is general, and behind
-- a row of parts it begins with the end of a scope, which shows where the row ends.
mutual

theorem calls_append_inj {p q : Part} {cs ds : List Call} (h : p.calls ++ cs = q.calls ++ ds) :
    p = q ∧ cs = ds := by
  cases p with
  | filter exclude f =>
    cases q with
    | filter exclude' g =>
      rw [calls, calls] at h
      obtain ⟨hcall, hrest⟩ := List.cons.inj h
      obtain ⟨rfl, rfl⟩ := Filter.call_inj hcall
      exact ⟨rfl, hrest⟩
    | scope j qs =>
      rw [calls, calls] at h
      exact absurd (List.cons.inj h).1 (Filter.call_ne_junction exclude f j)
  | scope j ps =>
    cases q with
    | filter exclude g =>
      rw [calls, calls] at h
      exact absurd (List.cons.inj h).1.symm (Filter.call_ne_junction exclude g j)
    | scope k qs =>
      rw [calls, calls] at h
      obtain ⟨hcall, hrest⟩ := List.cons.inj h
      obtain rfl := Junction.call_inj hcall
      have hrow : callsAll ps ++ .endScope :: cs = callsAll qs ++ .endScope :: ds := by
        simpa using hrest
      obtain ⟨rfl, rfl⟩ := callsAll_append_inj hrow
      exact ⟨rfl, rfl⟩

theorem callsAll_append_inj {ps qs : List Part} {cs ds : List Call}
    (h : callsAll ps ++ .endScope :: cs = callsAll qs ++ .endScope :: ds) :
    ps = qs ∧ cs = ds := by
  cases ps with
  | nil =>
    cases qs with
    | nil =>
      rw [callsAll] at h
      exact ⟨rfl, (List.cons.inj h).2⟩
    | cons q qs =>
      rw [callsAll, callsAll, List.append_assoc] at h
      exact absurd h.symm (calls_append_ne_endScope q _ _)
  | cons p ps =>
    cases qs with
    | nil =>
      rw [callsAll, callsAll, List.append_assoc] at h
      exact absurd h (calls_append_ne_endScope p _ _)
    | cons q qs =>
      rw [callsAll, callsAll, List.append_assoc, List.append_assoc] at h
      obtain ⟨rfl, hrest⟩ := calls_append_inj h
      obtain ⟨rfl, rfl⟩ := callsAll_append_inj hrest
      exact ⟨rfl, rfl⟩

end

theorem callsAll_injective {ps qs : List Part} (h : callsAll ps = callsAll qs) : ps = qs := by
  have hend : callsAll ps ++ [.endScope] = callsAll qs ++ [.endScope] := by rw [h]
  exact (callsAll_append_inj hend).1

end Part

/-- Calls are balanced just when they split into filters and scopes, which they do in one way. -/
theorem Call.balanced_iff_existsUnique (cs : List Call) :
    Call.Balanced cs ↔ ∃! ps, Part.callsAll ps = cs := by
  constructor
  · intro h
    obtain ⟨ps, rfl⟩ := h.exists_callsAll
    exact ⟨ps, rfl, fun qs hqs => Part.callsAll_injective hqs⟩
  · rintro ⟨ps, rfl, -⟩
    exact Call.balanced_callsAll ps

end TrackSearch
