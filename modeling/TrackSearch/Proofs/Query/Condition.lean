/-
What an element asks of a track, and the calls that ask it.

`Element.condition?` reads an element as a condition on tracks, leaving its sign aside; it is none
for a size that is no number.  `Condition.parts` are the scopes that stand for a condition and a
sign, and `compile_of_forall` says that the query of an expression is made of these scopes, one scope
around those of a group.
-/
import TrackSearch.Proofs.Query.Scope
import TrackSearch.Query.Compile

namespace TrackSearch

open Number

/-! ## Conditions -/

inductive Condition
  /-- No track is asked for, as when nothing is known of a field or a date. -/
  | never
  | text (field : Field) (value : String) (exact : Bool)
  | number (field : Field) (comparison : Comparison) (value : Int64)
  /-- A field is strictly between two values. -/
  | between (field : Field) (low high : Int64)
  | anyText (fields : List Field) (value : String)
  deriving DecidableEq, Repr

namespace Condition

def holds (τ : Track) : Condition → Bool
  | never => false
  | text field value exact => τ.hasText field value exact exact
  | number field comparison value => comparison.holds (τ.number field) value
  | between field low high => decide (low < τ.number field) && decide (τ.number field < high)
  | anyText fields value => fields.any fun f => τ.hasText f value false false

/-- A size in megabytes.  Equality stands for all the sizes past the whole megabytes and short of the
next megabyte. -/
def ofSize (field : Field) (x : Binary64) (k : MatchKind) : Condition :=
  match k.comparison with
  | .equals =>
    let whole := clamp (x.wholeScaled 0)
    let next := clamp (whole.toInt + 1)
    between field (clamp (whole.toInt * bytesPerMegabyte)) (clamp (next.toInt * bytesPerMegabyte))
  | comparison => number field comparison (x.truncScaled 20)

/-- A date.  Equality stands for less than a day's distance; of two dates counted back from now the
later one is the smaller age. -/
def ofDate (field : Field) (date : Resolution) (k : MatchKind) : Condition :=
  if date.isValid then
    match k.comparison with
    | .equals =>
      between field (clamp (date.value.toInt - secondsPerDay))
        (clamp (date.value.toInt + secondsPerDay))
    | .lessThan => number field (if date.isAbsolute then .lessThan else .greaterThan) date.value
    | .greaterThan => number field (if date.isAbsolute then .greaterThan else .lessThan) date.value
  else never

end Condition

def Element.fieldCondition? (dates : Resolver) (field : Field) (e : Element) : Option Condition :=
  match field.kind with
  | .text => some (.text field e.text (e.matchKind == .equals))
  | .number => some (.number field e.matchKind.comparison (wholeValue e.text))
  | .rating => some (.number field e.matchKind.comparison (starsValue e.text))
  | .length =>
    some (.number field e.matchKind.comparison (clamp ((wholeValue e.text).toInt * 1000)))
  | .format =>
    some (.number field e.matchKind.comparison (clamp (FileType.ofName e.text).code))
  | .fileSize => (finiteValue? e.text).map fun x => .ofSize field x e.matchKind
  | .date => some (.ofDate field (dates.resolve e.text) e.matchKind)

/-- What an element asks for when its sign is left aside. -/
def Element.condition? (dates : Resolver) (supported : FieldSet) (e : Element) :
    Option Condition :=
  if e.isUnqualified then some (.anyText (Field.defaultText.filter supported.supports) e.text)
  else
    match Field.ofName? e.field with
    | some field => if supported.supports field then e.fieldCondition? dates field else some .never
    | none => some .never

/-! ## The scopes of a condition -/

def Junction.ofSign (negate : Bool) : Junction :=
  if negate then .every else .any

@[simp] theorem Junction.ofSign_false : Junction.ofSign false = .any := rfl

@[simp] theorem Junction.ofSign_true : Junction.ofSign true = .every := rfl

theorem Junction.call_ofSign (negate : Bool) :
    (Junction.ofSign negate).call = if negate then .beginAnd else .beginOr := by
  cases negate <;> rfl

namespace Condition

/-- The scopes that stand for a condition and a sign.  A field between two values gets a scope of its
own beside that of the element, which stays empty. -/
def parts (negate : Bool) : Condition → List Part
  | never => [.scope (.ofSign negate) []]
  | text field value exact =>
    [.scope (.ofSign negate) [.filter negate (.text field value exact exact)]]
  | number field comparison value =>
    [.scope (.ofSign negate) [.filter negate (.number field value comparison)]]
  | between field low high =>
    [.scope (.ofSign negate) [],
      .scope .every [.filter negate (.number field low .greaterThan),
        .filter negate (.number field high .lessThan)]]
  | anyText fields value =>
    [.scope (.ofSign negate)
      [.scope .any (fields.map fun f => .filter negate (.text f value false false))]]

/-- The calls between the beginning and the end of the scope that an element opens. -/
def innerCalls (negate : Bool) : Condition → List Call
  | never => []
  | text field value exact => [.textFilter negate field value exact exact]
  | number field comparison value => [.numberFilter negate field value comparison]
  | between field low high => betweenCalls negate field low high
  | anyText fields value =>
    [.beginOr] ++ fields.map (.textFilter negate · value false false) ++ [.endScope]

theorem callsAll_parts (negate : Bool) (c : Condition) :
    Part.callsAll (c.parts negate) =
      (if negate then Call.beginAnd else .beginOr) :: (c.innerCalls negate ++ [.endScope]) := by
  have hopen := Junction.call_ofSign negate
  cases c with
  | anyText fields value =>
    have hfilters : Part.callsAll (fields.map fun f => .filter negate (.text f value false false)) =
        fields.map (.textFilter negate · value false false) := by
      rw [Part.callsAll_eq_flatMap, List.flatMap_map]
      induction fields with
      | nil => rfl
      | cons f fs ih =>
        rw [List.flatMap_cons, ih, Part.calls, List.map_cons]
        rfl
    simp [parts, innerCalls, Part.calls, Part.callsAll, hfilters, hopen]
  | between field low high =>
    simp [parts, innerCalls, betweenCalls, Part.calls, Part.callsAll, hopen, Filter.call]
  | never => simp [parts, innerCalls, Part.calls, Part.callsAll, hopen]
  | text field value exact =>
    simp [parts, innerCalls, Part.calls, Part.callsAll, hopen, Filter.call]
  | number field comparison value =>
    simp [parts, innerCalls, Part.calls, Part.callsAll, hopen, Filter.call]

end Condition

/-! ## Elements -/

theorem fileSizeCalls_eq (negate : Bool) (field : Field) (x : Binary64) (k : MatchKind) :
    fileSizeCalls negate field x k = (Condition.ofSize field x k).innerCalls negate := by
  cases k <;> rfl

theorem dateCalls_eq (negate : Bool) (field : Field) (date : Resolution) (k : MatchKind) :
    dateCalls negate field date k = (Condition.ofDate field date k).innerCalls negate := by
  rw [dateCalls, Condition.ofDate]
  by_cases hv : date.isValid = true
  · rw [if_pos hv, if_pos hv]
    cases ha : date.isAbsolute <;> cases k <;> rfl
  · rw [if_neg hv, if_neg hv]
    rfl

theorem Element.isUnqualified_of_ofName? {e : Element} {field : Field}
    (h : Field.ofName? e.field = some field) : e.isUnqualified = false := by
  refine Bool.eq_false_iff.mpr fun hu => ?_
  have hempty : Field.ofName? "" = none := by decide +kernel
  rw [String.isEmpty_iff.mp hu, hempty] at h
  cases h

/-- An element that names a supported field asks for something of that field. -/
theorem Element.condition?_of_supports (dates : Resolver) {supported : FieldSet} {e : Element}
    {field : Field} (hfield : Field.ofName? e.field = some field)
    (hsupported : supported.supports field = true) :
    e.condition? dates supported = e.fieldCondition? dates field := by
  rw [condition?, isUnqualified_of_ofName? hfield, if_neg Bool.false_ne_true, hfield]
  exact if_pos hsupported

theorem eq_fileSize_of_kind {field : Field} (h : field.kind = .fileSize) : field = .fileSize := by
  cases field <;> first | rfl | cases h

/-- The calls of an element are those of its condition, and it is a fault only of a size to be no
number. -/
theorem elementCalls_eq (dates : Resolver) (supported : FieldSet) (e : Element) :
    elementCalls dates supported e =
      match e.condition? dates supported with
      | some c => .ok (c.innerCalls e.negate)
      | none => .error (.invalidNumber .fileSize e.text) := by
  rw [elementCalls, Element.condition?]
  by_cases hu : e.isUnqualified = true
  · rw [if_pos hu, if_pos hu]
    rfl
  · rw [if_neg hu, if_neg hu]
    cases hf : Field.ofName? e.field with
    | none => rfl
    | some field =>
      dsimp only
      by_cases hs : supported.supports field = true
      · rw [if_pos hs, if_pos hs, fieldCalls, Element.fieldCondition?]
        cases hk : field.kind with
        | text => rfl
        | number => rfl
        | rating => rfl
        | length => rfl
        | format => rfl
        | date =>
          dsimp only
          rw [dateCalls_eq]
        | fileSize =>
          obtain rfl := eq_fileSize_of_kind hk
          cases finiteValue? e.text with
          | none => rfl
          | some x =>
            dsimp only [Option.map_some]
            rw [fileSizeCalls_eq]
      · rw [if_neg hs, if_neg hs]
        rfl

def Element.parts (dates : Resolver) (supported : FieldSet) (e : Element) : List Part :=
  match e.condition? dates supported with
  | some c => c.parts e.negate
  | none => []

theorem Element.compile_of_condition {dates : Resolver} {supported : FieldSet} {e : Element}
    {c : Condition} (h : e.condition? dates supported = some c) :
    e.compile dates supported = Emission.ofCalls (Part.callsAll (c.parts e.negate)) := by
  rw [Element.compile, elementCalls_eq, h, Condition.callsAll_parts]
  rfl

theorem Element.compile_of_number {dates : Resolver} {supported : FieldSet} {e : Element}
    {field : Field} {comparison : Comparison} {value : Int64}
    (h : e.condition? dates supported = some (.number field comparison value)) :
    e.compile dates supported = Emission.ofCalls
      [if e.negate then .beginAnd else .beginOr,
        .numberFilter e.negate field value comparison, .endScope] := by
  rw [Element.compile_of_condition h, Condition.callsAll_parts]
  rfl

theorem Element.compile_of_between {dates : Resolver} {supported : FieldSet} {e : Element}
    {field : Field} {low high : Int64}
    (h : e.condition? dates supported = some (.between field low high)) :
    e.compile dates supported = Emission.ofCalls
      [if e.negate then .beginAnd else .beginOr, .endScope, .beginAnd,
        .numberFilter e.negate field low .greaterThan,
        .numberFilter e.negate field high .lessThan, .endScope] := by
  rw [Element.compile_of_condition h, Condition.callsAll_parts]
  rfl

/-- A size that is no number leaves the scope of its element open. -/
theorem Element.compile_of_condition_none {dates : Resolver} {supported : FieldSet} {e : Element}
    (h : e.condition? dates supported = none) :
    e.compile dates supported =
      { calls := [if e.negate then .beginAnd else .beginOr]
        failure := some (.invalidNumber .fileSize e.text) } := by
  rw [Element.compile, elementCalls_eq, h]
  rfl

theorem Element.failure_compile_eq_none_iff {dates : Resolver} {supported : FieldSet}
    {e : Element} :
    (e.compile dates supported).failure = none ↔ (e.condition? dates supported).isSome := by
  cases h : e.condition? dates supported with
  | some c =>
    rw [Element.compile_of_condition h]
    exact ⟨fun _ => rfl, fun _ => rfl⟩
  | none =>
    rw [Element.compile_of_condition_none h]
    constructor
    · intro hf
      cases hf
    · intro hs
      cases hs

/-! ## Emissions -/

namespace Emission

theorem ofCalls_append (cs ds : List Call) : ofCalls cs ++ ofCalls ds = ofCalls (cs ++ ds) := rfl

theorem failure_append (a b : Emission) : (a ++ b).failure = a.failure.or b.failure := by
  show (andThen a b).failure = _
  rw [andThen]
  cases h : a.failure with
  | none => rfl
  | some err => exact h

theorem failure_concat_eq_none_iff {es : List Emission} :
    (concat es).failure = none ↔ ∀ e ∈ es, e.failure = none := by
  induction es with
  | nil => exact ⟨fun _ e he => absurd he (List.not_mem_nil), fun _ => rfl⟩
  | cons e es ih =>
    show (e ++ concat es).failure = none ↔ _
    rw [failure_append, Option.or_eq_none_iff, ih, List.forall_mem_cons]

theorem concat_map_of_forall {α : Type} {f : α → Emission} {calls : α → List Call} {as : List α}
    (h : ∀ a ∈ as, f a = ofCalls (calls a)) : concat (as.map f) = ofCalls (as.flatMap calls) := by
  induction as with
  | nil => rfl
  | cons a as ih =>
    have hrest := ih fun b hb => h b (List.mem_cons_of_mem a hb)
    show f a ++ concat (as.map f) = _
    rw [hrest, h a List.mem_cons_self, List.flatMap_cons]
    rfl

end Emission

/-! ## Groups and expressions -/

variable {dates : Resolver} {supported : FieldSet}

def Group.part (dates : Resolver) (supported : FieldSet) (g : Group) : Part :=
  .scope .any (g.flatMap (Element.parts dates supported))

/-- The scopes of an expression, one to a group. -/
def Expression.parts (dates : Resolver) (supported : FieldSet) (e : Expression) : List Part :=
  e.groups.map (Group.part dates supported)

theorem Group.failure_compile_eq_none_iff {g : Group} :
    (g.compile dates supported).failure = none ↔
      ∀ e ∈ g, (e.condition? dates supported).isSome := by
  have hfailure : (g.compile dates supported).failure =
      (Emission.concat (g.map (Element.compile dates supported))).failure := by
    rw [Group.compile, Emission.failure_append, Emission.failure_append]
    exact Option.or_none
  rw [hfailure, Emission.failure_concat_eq_none_iff, List.forall_mem_map]
  simp only [Element.failure_compile_eq_none_iff]

/-- The query of an expression is complete just when every element of it asks for something. -/
theorem Expression.failure_compile_eq_none_iff {e : Expression} :
    (e.compile dates supported).failure = none ↔
      ∀ el ∈ e.elements, (el.condition? dates supported).isSome := by
  rw [Expression.compile, Emission.failure_concat_eq_none_iff, List.forall_mem_map]
  simp only [Group.failure_compile_eq_none_iff, Expression.elements, List.mem_flatten]
  exact ⟨fun h el ⟨g, hg, hel⟩ => h g hg el hel, fun h g hg el hel => h el ⟨g, hg, hel⟩⟩

theorem Element.concat_compile_of_forall {es : List Element}
    (h : ∀ e ∈ es, (e.condition? dates supported).isSome) :
    Emission.concat (es.map (Element.compile dates supported)) =
      Emission.ofCalls (Part.callsAll (es.flatMap (Element.parts dates supported))) := by
  have helements : ∀ e ∈ es, e.compile dates supported =
      Emission.ofCalls (Part.callsAll (e.parts dates supported)) := by
    intro e he
    obtain ⟨c, hc⟩ := Option.isSome_iff_exists.mp (h e he)
    rw [Element.compile_of_condition hc, Element.parts, hc]
  have hflat : es.flatMap (fun e => Part.callsAll (e.parts dates supported)) =
      Part.callsAll (es.flatMap (Element.parts dates supported)) := by
    simp only [Part.callsAll_eq_flatMap, List.flatMap_assoc]
  rw [Emission.concat_map_of_forall helements, hflat]

theorem Group.compile_of_forall {g : Group} (h : ∀ e ∈ g, (e.condition? dates supported).isSome) :
    g.compile dates supported = Emission.ofCalls (g.part dates supported).calls := by
  rw [Group.compile, Element.concat_compile_of_forall h, Emission.ofCalls_append,
    Emission.ofCalls_append, Group.part, Part.calls]
  rfl

/-- A complete query is made of the scopes of the groups. -/
theorem Expression.compile_of_forall {e : Expression}
    (h : ∀ el ∈ e.elements, (el.condition? dates supported).isSome) :
    e.compile dates supported = Emission.ofCalls (Part.callsAll (e.parts dates supported)) := by
  have hgroups : ∀ g ∈ e.groups, g.compile dates supported =
      Emission.ofCalls (g.part dates supported).calls :=
    fun g hg => Group.compile_of_forall fun el hel => h el (List.mem_flatten.mpr ⟨g, hg, hel⟩)
  rw [Expression.compile, Emission.concat_map_of_forall hgroups, Expression.parts,
    Part.callsAll_eq_flatMap, List.flatMap_map]

end TrackSearch
