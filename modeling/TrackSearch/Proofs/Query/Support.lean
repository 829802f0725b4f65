/-
Queries for stores that support different fields.

`compile_filters_of_contains` compares two recorders of which one supports no more fields than the
other.  If the one that supports more takes the whole query of an expression, so does the one that
supports less, and its filters are those of the other on the fields that it supports.
-/
import TrackSearch.Proofs.Catalog.FieldSet
import TrackSearch.Proofs.Query.Fault

namespace TrackSearch

variable {dates : Resolver} {supported small large : FieldSet}

/-! ## Filters among calls -/

namespace Call

/-- The field that a filter is on.  A call that opens or closes a scope is on none. -/
def field? : Call → Option Field
  | textFilter _ field _ _ _ => some field
  | numberFilter _ field _ _ => some field
  | _ => none

def isFilter (c : Call) : Bool :=
  c.field?.isSome

/-- Whether a call is a filter on a supported field. -/
def isSupportedFilter (supported : FieldSet) (c : Call) : Bool :=
  c.field?.any supported.supports

theorem filter_isSupportedFilter (cs : List Call) :
    (cs.filter isFilter).filter (isSupportedFilter supported) =
      cs.filter (isSupportedFilter supported) := by
  rw [List.filter_filter]
  refine List.filter_congr fun c _ => ?_
  unfold isSupportedFilter isFilter
  cases c.field? <;> simp

theorem isFilter_junction (j : Junction) : j.call.isFilter = false := by
  cases j <;> rfl

theorem filter_isFilter_scope (j : Junction) (cs : List Call) :
    (j.call :: (cs ++ [.endScope])).filter isFilter = cs.filter isFilter := by
  rw [List.filter_cons, isFilter_junction, if_neg Bool.false_ne_true, List.filter_append]
  exact List.append_nil _

end Call

/-! ## Conditions on fewer fields -/

namespace Condition

/-- What is left of a condition when only some fields can be asked for. -/
def restrict (supported : FieldSet) : Condition → Condition
  | never => never
  | text field value exact => if supported.supports field then text field value exact else never
  | number field comparison value =>
    if supported.supports field then number field comparison value else never
  | between field low high => if supported.supports field then between field low high else never
  | anyText fields value => anyText (fields.filter supported.supports) value

theorem restrict_ofSize (field : Field) (x : Number.Binary64) (k : MatchKind) :
    (ofSize field x k).restrict supported =
      if supported.supports field then ofSize field x k else never := by
  cases k <;> rfl

theorem restrict_ofDate (field : Field) (date : Resolution) (k : MatchKind) :
    (ofDate field date k).restrict supported =
      if supported.supports field then ofDate field date k else never := by
  unfold ofDate
  split
  · cases k <;> rfl
  · rw [ite_self, restrict]

/-- The filters of a condition on fewer fields are those of the condition on these fields. -/
theorem filter_isFilter_restrict (negate : Bool) (c : Condition) :
    ((c.restrict supported).innerCalls negate).filter Call.isFilter =
      (c.innerCalls negate).filter (Call.isSupportedFilter supported) := by
  cases c with
  | never => rfl
  | text field value exact =>
    by_cases hs : supported.supports field <;>
      simp [restrict, innerCalls, Call.isFilter, Call.isSupportedFilter, Call.field?, hs]
  | number field comparison value =>
    by_cases hs : supported.supports field <;>
      simp [restrict, innerCalls, Call.isFilter, Call.isSupportedFilter, Call.field?, hs]
  | between field low high =>
    by_cases hs : supported.supports field <;>
      simp [restrict, innerCalls, betweenCalls, Call.isFilter, Call.isSupportedFilter, Call.field?,
        hs]
  | anyText fields value =>
    simp [restrict, innerCalls, Call.isFilter, Call.isSupportedFilter, Call.field?,
      List.filter_map, Function.comp_def]

end Condition

namespace Element

theorem restrict_of_fieldCondition? {e : Element} {field : Field} {c : Condition}
    (hc : e.fieldCondition? dates field = some c) :
    c.restrict supported = if supported.supports field then c else .never := by
  rw [fieldCondition?] at hc
  cases hk : field.kind with
  | fileSize =>
    rw [hk] at hc
    obtain ⟨x, -, rfl⟩ := Option.map_eq_some_iff.mp hc
    exact Condition.restrict_ofSize field x e.matchKind
  | date =>
    rw [hk] at hc
    cases hc
    exact Condition.restrict_ofDate field (dates.resolve e.text) e.matchKind
  | text | number | rating | length | format =>
    rw [hk] at hc
    cases hc
    rfl

/-- A store that supports fewer fields is asked for what is left of the condition. -/
theorem condition?_of_contains {e : Element} {c : Condition} (hsub : large.contains small = true)
    (hc : e.condition? dates large = some c) :
    e.condition? dates small = some (c.restrict small) := by
  have hsub := FieldSet.contains_iff.mp hsub
  rw [condition?] at hc ⊢
  -- An element without a field asks for the default fields, any other one for the field it names.
  cases hu : e.isUnqualified with
  | true =>
    rw [hu, if_pos rfl] at hc
    cases hc
    have hfields : (Field.defaultText.filter large.supports).filter small.supports =
        Field.defaultText.filter small.supports := by
      rw [List.filter_filter]
      refine List.filter_congr fun f _ => ?_
      cases hf : small.supports f with
      | true => rw [hsub f hf]; rfl
      | false => rfl
    rw [if_pos rfl, Condition.restrict, hfields]
  | false =>
    rw [hu, if_neg Bool.false_ne_true] at hc
    rw [if_neg Bool.false_ne_true]
    cases hf : Field.ofName? e.field with
    | none =>
      rw [hf] at hc
      cases hc
      rfl
    | some field =>
      rw [hf] at hc
      dsimp only at hc ⊢
      by_cases hsmall : small.supports field = true
      · rw [if_pos (hsub field hsmall)] at hc
        rw [if_pos hsmall, restrict_of_fieldCondition? hc, if_pos hsmall, hc]
      · rw [if_neg hsmall]
        by_cases hlarge : large.supports field = true
        · rw [if_pos hlarge] at hc
          rw [restrict_of_fieldCondition? hc, if_neg hsmall]
        · rw [if_neg hlarge] at hc
          cases hc
          rfl

end Element

/-! ## The filters of a query -/

namespace Element

def filters (dates : Resolver) (supported : FieldSet) (e : Element) : List Call :=
  (Part.callsAll (e.parts dates supported)).filter Call.isFilter

theorem filters_of_condition {e : Element} {c : Condition}
    (hc : e.condition? dates supported = some c) :
    e.filters dates supported = (c.innerCalls e.negate).filter Call.isFilter := by
  rw [filters, parts, hc]
  dsimp only
  rw [Condition.callsAll_parts, ← Junction.call_ofSign, Call.filter_isFilter_scope]

theorem filters_of_contains {e : Element} (hsub : large.contains small = true)
    (hsome : (e.condition? dates large).isSome) :
    e.filters dates small = (e.filters dates large).filter (Call.isSupportedFilter small) := by
  obtain ⟨c, hc⟩ := Option.isSome_iff_exists.mp hsome
  rw [filters_of_condition hc, filters_of_condition (condition?_of_contains hsub hc),
    Condition.filter_isFilter_restrict, Call.filter_isSupportedFilter]

end Element

theorem Group.filter_isFilter_calls (g : Group) :
    (g.part dates supported).calls.filter Call.isFilter =
      g.flatMap (Element.filters dates supported) := by
  have helement (e : Element) :
      ((e.parts dates supported).flatMap Part.calls).filter Call.isFilter =
        e.filters dates supported := by
    rw [Element.filters, Part.callsAll_eq_flatMap]
  rw [Group.part, Part.calls, Call.filter_isFilter_scope, Part.callsAll_eq_flatMap,
    List.flatMap_assoc, List.filter_flatMap]
  simp only [helement]

/-- The filters of a query are those of its elements in order. -/
theorem Expression.filter_isFilter_calls (e : Expression) :
    (Part.callsAll (e.parts dates supported)).filter Call.isFilter =
      e.elements.flatMap (Element.filters dates supported) := by
  rw [Part.callsAll_eq_flatMap, Expression.parts, List.flatMap_map, List.filter_flatMap,
    Expression.elements, List.flatten_eq_flatMap, List.flatMap_assoc]
  simp only [Group.filter_isFilter_calls, id]

/-! ## Stores that support less -/

/-- A store that supports fewer fields has no fault that one with more has not. -/
theorem Expression.isSome_condition?_of_contains {e : Expression}
    (hsub : large.contains small = true)
    (hsome : ∀ el ∈ e.elements, (el.condition? dates large).isSome) :
    ∀ el ∈ e.elements, (el.condition? dates small).isSome := by
  intro el hel
  obtain ⟨c, hc⟩ := Option.isSome_iff_exists.mp (hsome el hel)
  rw [Element.condition?_of_contains hsub hc]
  rfl

theorem Expression.filters_of_contains {e : Expression} (hsub : large.contains small = true)
    (hsome : ∀ el ∈ e.elements, (el.condition? dates large).isSome) :
    e.elements.flatMap (Element.filters dates small) =
      (e.elements.flatMap (Element.filters dates large)).filter
        (Call.isSupportedFilter small) := by
  rw [List.filter_flatMap]
  refine List.flatMap_congr fun el hel => ?_
  exact Element.filters_of_contains hsub (hsome el hel)

/-! ## Calls on supported fields -/

/-- Whether a call is on a supported field, or on none. -/
def Call.IsWithin (supported : FieldSet) (c : Call) : Prop :=
  ∀ field ∈ c.field?, supported.supports field = true

theorem Emission.forall_calls_append {P : Call → Prop} {a b : Emission}
    (ha : ∀ c ∈ a.calls, P c) (hb : ∀ c ∈ b.calls, P c) : ∀ c ∈ (a ++ b).calls, P c := by
  show ∀ c ∈ (andThen a b).calls, P c
  rw [andThen]
  cases a.failure with
  | some err => exact ha
  | none => exact List.forall_mem_append.mpr ⟨ha, hb⟩

theorem Emission.forall_calls_concat {P : Call → Prop} {es : List Emission}
    (h : ∀ m ∈ es, ∀ c ∈ m.calls, P c) : ∀ c ∈ (concat es).calls, P c := by
  induction es with
  | nil => exact fun c hc => absurd hc List.not_mem_nil
  | cons m es ih =>
    have hrest := ih fun n hn => h n (List.mem_cons_of_mem m hn)
    exact forall_calls_append (h m List.mem_cons_self) hrest

/-- Taking away what a store does not support leaves the condition of an element as it is. -/
theorem Element.restrict_of_condition? {e : Element} {c : Condition}
    (hc : e.condition? dates supported = some c) : c.restrict supported = c := by
  have hself : supported.contains supported = true := FieldSet.contains_iff.mpr fun _ h => h
  exact Option.some.inj ((condition?_of_contains hself hc).symm.trans hc)

theorem Element.isWithin_of_mem_innerCalls {e : Element} {c : Condition}
    (hc : e.condition? dates supported = some c) :
    ∀ call ∈ c.innerCalls e.negate, call.IsWithin supported := by
  intro call hcall field hfield
  have hfilter : call ∈ (c.innerCalls e.negate).filter Call.isFilter := by
    refine List.mem_filter.mpr ⟨hcall, ?_⟩
    rw [Call.isFilter, Option.mem_def.mp hfield]
    rfl
  -- A condition that is its own restriction has no filters but those on supported fields.
  rw [← restrict_of_condition? hc, Condition.filter_isFilter_restrict] at hfilter
  have hsupported := (List.mem_filter.mp hfilter).2
  rwa [Call.isSupportedFilter, Option.mem_def.mp hfield] at hsupported

theorem Call.isWithin_junction (j : Junction) : j.call.IsWithin supported := by
  intro field hfield
  cases j <;> cases hfield

theorem Call.isWithin_endScope : Call.endScope.IsWithin supported :=
  fun _ hfield => nomatch hfield

theorem Element.isWithin_compile (e : Element) :
    ∀ call ∈ (e.compile dates supported).calls, call.IsWithin supported := by
  have hopen : Call.IsWithin supported (if e.negate then .beginAnd else .beginOr) := by
    rw [← Junction.call_ofSign]
    exact Call.isWithin_junction _
  cases hc : e.condition? dates supported with
  | none =>
    rw [compile_of_condition_none hc]
    exact List.forall_mem_singleton.mpr hopen
  | some c =>
    rw [compile_of_condition hc, Condition.callsAll_parts]
    exact List.forall_mem_cons.mpr ⟨hopen, List.forall_mem_append.mpr
      ⟨isWithin_of_mem_innerCalls hc, List.forall_mem_singleton.mpr Call.isWithin_endScope⟩⟩

theorem Group.isWithin_compile (g : Group) :
    ∀ call ∈ (g.compile dates supported).calls, call.IsWithin supported := by
  refine Emission.forall_calls_append (Emission.forall_calls_append ?_ ?_) ?_
  · exact List.forall_mem_singleton.mpr (Call.isWithin_junction .any)
  · refine Emission.forall_calls_concat fun m hm => ?_
    obtain ⟨e, -, rfl⟩ := List.mem_map.mp hm
    exact e.isWithin_compile
  · exact List.forall_mem_singleton.mpr Call.isWithin_endScope

/-- A query asks for supported fields only, also when a fault stops it. -/
theorem Expression.isWithin_compile (e : Expression) :
    ∀ call ∈ (e.compile dates supported).calls, call.IsWithin supported := by
  refine Emission.forall_calls_concat fun m hm => ?_
  obtain ⟨g, -, rfl⟩ := List.mem_map.mp hm
  exact g.isWithin_compile

/-- If a store takes the whole query of an expression, so does one that supports fewer fields, and
the filters that it gets are those of the first on the fields that it supports.  No store ever gets
a filter on a field that it does not support. -/
theorem compile_filters_of_contains (dates : Resolver) (e : Expression) :
    (∀ few many : Recorder, many.supported.contains few.supported = true →
      (many.compile dates e).2 = none →
      ∃ fewCalls manyCalls,
        few.compile dates e = (few.recordAll fewCalls, none) ∧
        many.compile dates e = (many.recordAll manyCalls, none) ∧
        fewCalls.filter Call.isFilter =
          manyCalls.filter (Call.isSupportedFilter few.supported)) ∧
      ∀ r : Recorder, ∃ calls, (r.compile dates e).1 = r.recordAll calls ∧
        ∀ c ∈ calls, c.IsWithin r.supported := by
  refine ⟨fun few many hsub hok => ?_, fun r => ⟨_, rfl, e.isWithin_compile⟩⟩
  have hmany := Expression.failure_compile_eq_none_iff.mp hok
  have hfew := Expression.isSome_condition?_of_contains hsub hmany
  refine ⟨Part.callsAll (e.parts dates few.supported), Part.callsAll (e.parts dates many.supported),
    ?_, ?_, ?_⟩
  · rw [Recorder.compile, Expression.compile_of_forall hfew]
    rfl
  · rw [Recorder.compile, Expression.compile_of_forall hmany]
    rfl
  · rw [← Call.filter_isSupportedFilter, Expression.filter_isFilter_calls,
      Expression.filter_isFilter_calls, Expression.filters_of_contains hsub hmany]

/-- Of the filters on the default fields, on the size and on the date, the smaller of these stores
gets the one on the artist. -/
theorem compile_filters_of_contains_artist :
    let few : Recorder := { supported := .single .artist, calls := [.endScope] }
    let many : Recorder := { supported := (FieldSet.single .title).compl }
    many.supported.contains few.supported = true ∧
      (many.compile fixedDates unevenExpression).2 = none ∧
      ∃ fewCalls, few.compile fixedDates unevenExpression = (few.recordAll fewCalls, none) ∧
        fewCalls.filter Call.isFilter =
          [.textFilter true .artist "live" false false,
            .textFilter false .artist "Cure" false false] := by
  intro few many
  have hsub : many.supported.contains few.supported = true := by decide
  have hok : (many.compile fixedDates unevenExpression).2 = none := by decide +kernel
  obtain ⟨fewCalls, manyCalls, hfew, hmany, hfilters⟩ :=
    (compile_filters_of_contains fixedDates unevenExpression).1 few many hsub hok
  have hcalls : manyCalls = (many.compile fixedDates unevenExpression).1.calls := by rw [hmany]; rfl
  refine ⟨hsub, hok, fewCalls, hfew, ?_⟩
  rw [hfilters, hcalls]
  decide +kernel

end TrackSearch
