/-
Queries that a fault stops.

The only fault is a size that is no finite number, asked for in a field that is supported.
`compile_fault` says which element stops a query, with what error, and which calls have been made by
then: those for all that stands before the element, and the one that opens its own scope.
-/
import TrackSearch.Command.Report
import TrackSearch.Proofs.Query.Shape

namespace TrackSearch

variable {dates : Resolver} {supported : FieldSet}

/-! ## The elements that are at fault -/

namespace Element

/-- Whether an element asks for a size, of a store that knows sizes, and names no finite number. -/
def isUnreadableSize (supported : FieldSet) (e : Element) : Bool :=
  !e.isUnqualified && Field.ofName? e.field == some .fileSize && supported.supports .fileSize &&
    (finiteValue? e.text).isNone

theorem fieldCondition?_eq_none_iff {field : Field} {e : Element} :
    e.fieldCondition? dates field = none ↔
      field = .fileSize ∧ (finiteValue? e.text).isNone = true := by
  cases field with
  | fileSize => simp [fieldCondition?, Field.kind]
  | _ => simp [fieldCondition?, Field.kind]

theorem isUnreadableSize_iff {e : Element} :
    e.isUnreadableSize supported = true ↔
      e.isUnqualified = false ∧ Field.ofName? e.field = some .fileSize ∧
        supported.supports .fileSize = true ∧ (finiteValue? e.text).isNone = true := by
  simp [isUnreadableSize, and_assoc]

theorem condition?_eq_none_iff {e : Element} :
    e.condition? dates supported = none ↔ e.isUnreadableSize supported = true := by
  rw [isUnreadableSize_iff, condition?]
  cases hu : e.isUnqualified with
  | true => simp
  | false =>
    cases hf : Field.ofName? e.field with
    | none => simp
    | some field =>
      rw [if_neg Bool.false_ne_true]
      dsimp only
      by_cases hs : supported.supports field = true
      · rw [if_pos hs, fieldCondition?_eq_none_iff]
        constructor
        · rintro ⟨rfl, htext⟩
          exact ⟨rfl, rfl, hs, htext⟩
        · rintro ⟨-, hfield, -, htext⟩
          exact ⟨Option.some.inj hfield, htext⟩
      · rw [if_neg hs]
        constructor
        · intro h
          cases h
        · rintro ⟨-, hfield, hsize, -⟩
          rw [Option.some.inj hfield] at hs
          exact absurd hsize hs

theorem isSome_condition?_of_readable {e : Element} (h : e.isUnreadableSize supported = false) :
    (e.condition? dates supported).isSome := by
  rw [Option.isSome_iff_ne_none, ne_eq, condition?_eq_none_iff, h]
  exact Bool.false_ne_true

def fault (e : Element) : SearchError :=
  .invalidNumber .fileSize e.text

theorem failure_compile (dates : Resolver) (supported : FieldSet) (e : Element) :
    (e.compile dates supported).failure =
      (Option.guard (isUnreadableSize supported) e).map fault := by
  cases he : e.isUnreadableSize supported with
  | false =>
    rw [failure_compile_eq_none_iff.mpr (isSome_condition?_of_readable he), Option.guard, if_neg]
    · rfl
    · simp [he]
  | true =>
    rw [compile_of_condition_none (condition?_eq_none_iff.mpr he), Option.guard, if_pos he]
    rfl

end Element

/-! ## The first fault -/

theorem Emission.failure_concat (es : List Emission) :
    (concat es).failure = es.findSome? failure := by
  induction es with
  | nil => rfl
  | cons e es ih =>
    show (e ++ concat es).failure = _
    rw [failure_append, ih, List.findSome?_cons]
    cases e.failure <;> rfl

theorem Group.failure_compile (dates : Resolver) (supported : FieldSet) (g : Group) :
    (g.compile dates supported).failure =
      (g.find? (Element.isUnreadableSize supported)).map Element.fault := by
  have helements : Emission.failure ∘ Element.compile dates supported =
      Option.map Element.fault ∘ Option.guard (Element.isUnreadableSize supported) :=
    funext fun e => Element.failure_compile dates supported e
  have hends (m : Emission) :
      (Emission.ofCalls [.beginOr] ++ m ++ Emission.ofCalls [.endScope]).failure = m.failure := by
    rw [Emission.failure_append, Emission.failure_append]
    exact Option.or_none
  rw [Group.compile, hends, Emission.failure_concat, List.findSome?_map, helements,
    ← List.map_findSome?, List.findSome?_guard]

theorem Expression.failure_compile (dates : Resolver) (supported : FieldSet) (e : Expression) :
    (e.compile dates supported).failure =
      (e.elements.find? (Element.isUnreadableSize supported)).map Element.fault := by
  have hgroups : Emission.failure ∘ Group.compile dates supported =
      Option.map Element.fault ∘ List.find? (Element.isUnreadableSize supported) :=
    funext fun g => Group.failure_compile dates supported g
  rw [Expression.compile, Emission.failure_concat, List.findSome?_map, hgroups,
    ← List.map_findSome?, Expression.elements, List.find?_flatten]

/-! ## The calls before a fault -/

namespace Emission

theorem append_of_failure {a : Emission} {err : SearchError} (h : a.failure = some err)
    (b : Emission) : a ++ b = a := by
  show andThen a b = a
  rw [andThen, h]

theorem append_assoc (a b c : Emission) : a ++ b ++ c = a ++ (b ++ c) := by
  show andThen (andThen a b) c = andThen a (andThen b c)
  cases ha : a.failure with
  | some err => simp [andThen, ha]
  | none =>
    cases hb : b.failure with
    | some err => simp [andThen, ha, hb]
    | none => simp [andThen, ha, hb]

theorem nil_append (a : Emission) : ({} : Emission) ++ a = a := rfl

theorem concat_singleton (a : Emission) : concat [a] = a := by
  obtain ⟨calls, _ | err⟩ := a
  · show ofCalls (calls ++ []) = ofCalls calls
    rw [List.append_nil]
  · rfl

theorem concat_append (as bs : List Emission) : concat (as ++ bs) = concat as ++ concat bs := by
  induction as with
  | nil => exact (nil_append (concat bs)).symm
  | cons a as ih =>
    show a ++ concat (as ++ bs) = a ++ concat as ++ concat bs
    rw [ih, append_assoc]

/-- Nothing behind the first fault is emitted. -/
theorem concat_append_cons_of_failure {a : Emission} {err : SearchError} (h : a.failure = some err)
    (front back : List Emission) : concat (front ++ a :: back) = concat front ++ a := by
  rw [concat_append]
  show concat front ++ (a ++ concat back) = _
  rw [append_of_failure h]

end Emission

/-- The calls of a group without the one that closes its scope. -/
def Group.openCalls (dates : Resolver) (supported : FieldSet) (g : Group) : List Call :=
  .beginOr :: Part.callsAll (g.flatMap (Element.parts dates supported))

theorem Group.calls_part (g : Group) :
    (g.part dates supported).calls = g.openCalls dates supported ++ [.endScope] := by
  rw [Group.part, Part.calls]
  rfl

theorem Group.depth_openCalls (g : Group) : Call.depth (g.openCalls dates supported) = 1 := by
  rw [openCalls, Call.depth, (Call.balanced_callsAll _).depth_eq]
  rfl

/-- A group with a fault is cut off where the scope of the element at fault has been opened. -/
theorem Group.compile_of_fault {front : Group} {bad : Element} (back : List Element)
    (hfront : ∀ e ∈ front, e.isUnreadableSize supported = false)
    (hbad : bad.isUnreadableSize supported = true) :
    Group.compile dates supported (front ++ bad :: back) =
      { calls := front.openCalls dates supported ++ [(Junction.ofSign bad.negate).call]
        failure := some bad.fault } := by
  have hstop : bad.compile dates supported =
      { calls := [(Junction.ofSign bad.negate).call], failure := some bad.fault } := by
    rw [Junction.call_ofSign]
    exact Element.compile_of_condition_none (Element.condition?_eq_none_iff.mpr hbad)
  have hread : Emission.concat (front.map (Element.compile dates supported)) =
      Emission.ofCalls (Part.callsAll (front.flatMap (Element.parts dates supported))) :=
    Element.concat_compile_of_forall fun e he =>
      Element.isSome_condition?_of_readable (hfront e he)
  rw [Group.compile, List.map_append, List.map_cons, hstop,
    Emission.concat_append_cons_of_failure rfl, hread]
  rfl

/-- The calls in front of a fault are those of the query that ends there, without the last one,
which closes the only scope still open. -/
theorem Expression.exists_calls_of_fault (dates : Resolver) {before : List Group} {front : Group}
    {bad : Element} (back : List Element) (after : List Group)
    (hread : ∀ e ∈ before.flatten ++ front, e.isUnreadableSize supported = false)
    (hbad : bad.isUnreadableSize supported = true) :
    ∃ calls, Call.depth calls = 1 ∧
      Expression.compile dates supported ⟨before ++ [front]⟩ =
        Emission.ofCalls (calls ++ [.endScope]) ∧
      Expression.compile dates supported ⟨before ++ (front ++ bad :: back) :: after⟩ =
        { calls := calls ++ [(Junction.ofSign bad.negate).call], failure := some bad.fault } := by
  have hfront : ∀ e ∈ front, e.isUnreadableSize supported = false :=
    fun e he => hread e (List.mem_append_right before.flatten he)
  have hbefore : Expression.compile dates supported ⟨before⟩ =
      Emission.ofCalls (Part.callsAll (Expression.parts dates supported ⟨before⟩)) :=
    Expression.compile_of_forall fun e he =>
      Element.isSome_condition?_of_readable (hread e (List.mem_append_left front he))
  have hgroup : front.compile dates supported =
      Emission.ofCalls (front.openCalls dates supported ++ [.endScope]) := by
    rw [← Group.calls_part]
    exact Group.compile_of_forall fun e he => Element.isSome_condition?_of_readable (hfront e he)
  rw [Expression.compile] at hbefore
  refine ⟨Part.callsAll (Expression.parts dates supported ⟨before⟩) ++
    front.openCalls dates supported, ?_, ?_, ?_⟩
  · rw [Call.depth_append, (Call.balanced_callsAll _).depth_eq, Group.depth_openCalls]
    rfl
  · rw [Expression.compile, List.map_append, Emission.concat_append, hbefore, List.append_assoc,
      ← Emission.ofCalls_append, ← hgroup]
    exact congrArg (_ ++ ·) (Emission.concat_singleton _)
  · rw [Expression.compile, List.map_append, List.map_cons, Group.compile_of_fault back hfront hbad,
      Emission.concat_append_cons_of_failure rfl, hbefore, List.append_assoc]
    rfl

theorem Report.compile_eq_error_iff {text : String} {form : ReportForm} {err : SearchError} :
    Report.compile text supported dates form = .error err ↔
      ((Expression.parse text).compile dates supported).failure = some err := by
  unfold Report.compile
  dsimp only
  cases ((Expression.parse text).compile dates supported).failure with
  | none => simp
  | some found => simp

/-- What stops a query, and what has been recorded by then.  The first element that asks for a size
and names no number stops it, and its text is reported.  The calls that have been recorded are those
of the groups before it and of the elements of its group before it, with the scope of the group left
open, and the call that opens the scope of the element.  Nothing is printed of such a query. -/
theorem compile_fault (r : Recorder) (dates : Resolver) (e : Expression) :
    Field.fileSize.name = "filesize" ∧
      (r.compile dates e).2 = (e.elements.find? (Element.isUnreadableSize r.supported)).map
        (fun el => .invalidNumber .fileSize el.text) ∧
      (∀ before front bad back after, e.groups = before ++ (front ++ bad :: back) :: after →
        (∀ el ∈ before.flatten ++ front, el.isUnreadableSize r.supported = false) →
        bad.isUnreadableSize r.supported = true →
        ∃ calls,
          r.compile dates ⟨before ++ [front]⟩ = (r.recordAll (calls ++ [.endScope]), none) ∧
          (r.compile dates e).1 =
            r.recordAll (calls ++ [if bad.negate then .beginAnd else .beginOr]) ∧
          (r.compile dates e).1.depth = r.depth + 2) ∧
      ∀ text form err, Report.compile text r.supported dates form = .error err ↔
        (r.compile dates (Expression.parse text)).2 = some err := by
  refine ⟨by decide, Expression.failure_compile dates r.supported e, ?_, fun text form err => ?_⟩
  · rintro before front bad back after hgroups hread hbad
    obtain rfl : e = ⟨before ++ (front ++ bad :: back) :: after⟩ := by cases e; rw [← hgroups]
    obtain ⟨calls, hdepth, hshort, hlong⟩ :=
      Expression.exists_calls_of_fault dates back after hread hbad
    rw [← Junction.call_ofSign, Recorder.compile, Recorder.compile, hshort, hlong]
    refine ⟨calls, rfl, rfl, ?_⟩
    show Call.depth (r.calls ++ (calls ++ [(Junction.ofSign bad.negate).call])) =
      Call.depth r.calls + 2
    rw [Call.depth_append, Call.depth_append, Call.depth, Call.depthChange_junction, hdepth]
    rfl
  · exact Report.compile_eq_error_iff

def twoFaults : Expression :=
  ⟨[[{ text := "live" }],
    [{ field := "artist", text := "Cure" },
      { field := "Size", text := " huge ", negate := true, matchKind := .lessThan },
      { field := "filesize", text := "inf" }],
    [{ field := "rating", text := "4" }]]⟩

/-- The second of the sizes is not looked at. -/
theorem compile_fault_twoFaults :
    let r : Recorder := { calls := [.beginOr] }
    let bad : Element :=
      { field := "Size", text := " huge ", negate := true, matchKind := .lessThan }
    (∀ el ∈ [[{ text := "live" }]].flatten ++ [{ field := "artist", text := "Cure" }],
      Element.isUnreadableSize r.supported el = false) ∧
      bad.isUnreadableSize r.supported = true ∧
      (r.compile fixedDates twoFaults).2 = some (.invalidNumber .fileSize " huge ") ∧
      (r.compile fixedDates twoFaults).1.depth = 3 ∧
      Report.compile "live -Size:<huge" .full fixedDates .json =
        .error (.invalidNumber .fileSize "huge") := by
  intro r bad
  have hread : ∀ el ∈ [[{ text := "live" }]].flatten ++ [{ field := "artist", text := "Cure" }],
      Element.isUnreadableSize r.supported el = false := by decide +kernel
  have hbad : bad.isUnreadableSize r.supported = true := by decide +kernel
  obtain ⟨-, hfailure, hcalls, hreport⟩ := compile_fault r fixedDates twoFaults
  obtain ⟨calls, -, -, hdepth⟩ := hcalls _ _ bad _ _ rfl hread hbad
  exact ⟨hread, hbad, hfailure.trans (by decide +kernel), hdepth,
    (hreport _ .json _).mpr (by decide +kernel)⟩

end TrackSearch
