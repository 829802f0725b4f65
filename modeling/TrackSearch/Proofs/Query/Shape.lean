/-
The scopes of a query.

`compile_nesting` is about every expression whose query is complete, and every recorder that the
query is recorded on.  The calls that are recorded are the same behind any calls before them, and
they nest in one way: a scope to a group, and in it for each element the scopes that `Element.Nests`
allows it.
-/
import Mathlib.Data.List.Forall2
import TrackSearch.Proofs.Query.Meaning
import TrackSearch.Proofs.Query.Nesting

namespace TrackSearch

variable {dates : Resolver} {supported : FieldSet}

/-! ## The scopes of an element -/

namespace Element

/-- Whether an element asks for the values of a supported field around the one it names. -/
structure IsSupportedRange (dates : Resolver) (supported : FieldSet) (e : Element)
    (field : Field) : Prop where
  ofName?_eq : Field.ofName? e.field = some field
  supports : supported.supports field = true
  matchKind : e.matchKind = .contains ∨ e.matchKind = .equals
  kind : field.kind = .fileSize ∨ field.kind = .date ∧ (dates.resolve e.text).isValid = true

/-- The rows of parts that an element can have in the scope of its group. -/
inductive Nests (dates : Resolver) (supported : FieldSet) (e : Element) : List Part → Prop
  | anyText (hu : e.isUnqualified = true) (filters : List Filter)
      (htext : ∀ f ∈ filters, ∃ field text matchStart matchEnd,
        f = .text field text matchStart matchEnd) :
      Nests dates supported e
        [.scope (.ofSign e.negate) [.scope .any (filters.map (.filter e.negate))]]
  | range (hu : e.isUnqualified = false) {field : Field}
      (hr : e.IsSupportedRange dates supported field) (low high : Int64) :
      Nests dates supported e
        [.scope (.ofSign e.negate) [],
          .scope .every [.filter e.negate (.number field low .greaterThan),
            .filter e.negate (.number field high .lessThan)]]
  | single (hu : e.isUnqualified = false)
      (hr : ∀ field, ¬ e.IsSupportedRange dates supported field) (filters : List Filter)
      (hlength : filters.length ≤ 1) :
      Nests dates supported e [.scope (.ofSign e.negate) (filters.map (.filter e.negate))]

end Element

namespace Condition

theorem exists_between_of_ofSize {k : MatchKind} (hk : k = .contains ∨ k = .equals)
    (field : Field) (x : Number.Binary64) :
    ∃ low high, ofSize field x k = between field low high := by
  rcases hk with rfl | rfl <;> exact ⟨_, _, rfl⟩

theorem exists_between_of_ofDate {k : MatchKind} (hk : k = .contains ∨ k = .equals)
    (field : Field) {date : Resolution} (hvalid : date.isValid = true) :
    ∃ low high, ofDate field date k = between field low high := by
  rw [ofDate, if_pos hvalid]
  rcases hk with rfl | rfl <;> exact ⟨_, _, rfl⟩

/-- A condition with one filter or none has a scope of its own and nothing else. -/
theorem exists_parts_of_isSingle {c : Condition} (h : c.IsSingle) (negate : Bool) :
    ∃ filters : List Filter, filters.length ≤ 1 ∧
      c.parts negate = [.scope (.ofSign negate) (filters.map (.filter negate))] := by
  cases c with
  | never => exact ⟨[], Nat.zero_le 1, rfl⟩
  | text field value exact => exact ⟨[.text field value exact exact], Nat.le_refl 1, rfl⟩
  | number field comparison value => exact ⟨[.number field value comparison], Nat.le_refl 1, rfl⟩
  | between field low high => exact h.elim
  | anyText fields value => exact h.elim

end Condition

namespace Element

/-- What looks like a range is one, or its field or its date is of no use and it asks for
nothing. -/
theorem condition?_of_isRange {e : Element} {c : Condition} (hu : e.isUnqualified = false)
    (hr : e.IsRange) (hc : e.condition? dates supported = some c) :
    (∃ field low high, e.IsSupportedRange dates supported field ∧ c = .between field low high) ∨
      (∀ field, ¬ e.IsSupportedRange dates supported field) ∧ c = .never := by
  obtain ⟨field, hf, hkind, hk⟩ := hr
  have hf : Field.ofName? e.field = some field := hf
  have hfield {g : Field} (h : e.IsSupportedRange dates supported g) : g = field :=
    Option.some.inj (h.ofName?_eq.symm.trans hf)
  rw [condition?, hu, if_neg Bool.false_ne_true, hf] at hc
  dsimp only at hc
  by_cases hs : supported.supports field = true
  · rw [if_pos hs, fieldCondition?] at hc
    rcases hkind with hsize | hdate
    · rw [hsize] at hc
      obtain ⟨x, -, rfl⟩ := Option.map_eq_some_iff.mp hc
      obtain ⟨low, high, hbetween⟩ := Condition.exists_between_of_ofSize hk field x
      exact Or.inl ⟨field, low, high, ⟨hf, hs, hk, Or.inl hsize⟩, hbetween⟩
    · rw [hdate] at hc
      obtain rfl := Option.some.inj hc
      by_cases hvalid : (dates.resolve e.text).isValid = true
      · obtain ⟨low, high, hbetween⟩ := Condition.exists_between_of_ofDate hk field hvalid
        exact Or.inl ⟨field, low, high, ⟨hf, hs, hk, Or.inr ⟨hdate, hvalid⟩⟩, hbetween⟩
      · refine Or.inr ⟨fun g hg => ?_, by rw [Condition.ofDate, if_neg hvalid]⟩
        rcases hg.kind with hsize | ⟨-, h⟩
        · rw [hfield hg, hdate] at hsize
          cases hsize
        · exact hvalid h
  · rw [if_neg hs] at hc
    exact Or.inr ⟨fun g hg => hs (hfield hg ▸ hg.supports), (Option.some.inj hc).symm⟩

theorem nests_parts {e : Element} {c : Condition} (hc : e.condition? dates supported = some c) :
    e.Nests dates supported (c.parts e.negate) := by
  cases hu : e.isUnqualified with
  | true =>
    rw [condition?, if_pos hu] at hc
    obtain rfl := Option.some.inj hc
    have hmap : ∀ fields : List Field,
        (Condition.anyText fields e.text).parts e.negate =
          [.scope (.ofSign e.negate) [.scope .any
            ((fields.map fun f => Filter.text f e.text false false).map (.filter e.negate))]] := by
      intro fields
      rw [List.map_map]
      rfl
    rw [hmap]
    refine .anyText hu _ fun f hf => ?_
    obtain ⟨field, -, rfl⟩ := List.mem_map.mp hf
    exact ⟨field, e.text, false, false, rfl⟩
  | false =>
    by_cases hr : e.IsRange
    · rcases condition?_of_isRange hu hr hc with ⟨field, low, high, hfield, rfl⟩ | ⟨hnone, rfl⟩
      · exact .range hu hfield low high
      · exact .single hu hnone [] (Nat.zero_le 1)
    · have hne : e.field ≠ "" := by simpa [isUnqualified] using hu
      have hnone (field : Field) : ¬ e.IsSupportedRange dates supported field := by
        intro h
        have hkind : field.kind = .fileSize ∨ field.kind = .date := h.kind.imp_right And.left
        exact hr ⟨field, h.ofName?_eq, hkind, h.matchKind⟩
      obtain ⟨filters, hlength, hparts⟩ :=
        Condition.exists_parts_of_isSingle (isSingle_of_condition hne hr hc) e.negate
      rw [hparts]
      exact .single hu hnone filters hlength

end Element

/-! ## The scopes of groups and expressions -/

/-- Whether a part is the scope of a group: one of which a part has to hold, with the rows of its
elements in order. -/
def Group.Nests (dates : Resolver) (supported : FieldSet) (g : Group) (p : Part) : Prop :=
  ∃ rows, p = .scope .any rows.flatten ∧ List.Forall₂ (Element.Nests dates supported) g rows

theorem Group.nests_part {g : Group} (h : ∀ e ∈ g, (e.condition? dates supported).isSome) :
    g.Nests dates supported (g.part dates supported) := by
  refine ⟨g.map (Element.parts dates supported), by rw [Group.part, List.flatMap_def], ?_⟩
  rw [List.forall₂_map_right_iff, List.forall₂_same]
  intro e he
  obtain ⟨c, hc⟩ := Option.isSome_iff_exists.mp (h e he)
  have hparts : e.parts dates supported = c.parts e.negate := by rw [Element.parts, hc]
  rw [hparts]
  exact Element.nests_parts hc

theorem Expression.forall₂_nests_parts {e : Expression}
    (h : ∀ el ∈ e.elements, (el.condition? dates supported).isSome) :
    List.Forall₂ (Group.Nests dates supported) e.groups (e.parts dates supported) := by
  rw [Expression.parts, List.forall₂_map_right_iff, List.forall₂_same]
  intro g hg
  exact Group.nests_part fun el hel => h el (List.mem_flatten.mpr ⟨g, hg, hel⟩)

/-- A complete query is some calls that are recorded behind whatever has been recorded before.  They
close no scope that they do not open and leave none open, and they split into scopes in one way:
into a scope for each group, with the scopes of the elements of the group in it. -/
theorem compile_nesting (r : Recorder) (dates : Resolver) (e : Expression)
    (hok : (r.compile dates e).2 = none) :
    ∃ calls ps,
      (∀ s : Recorder, s.supported = r.supported →
        s.compile dates e = (s.recordAll calls, none)) ∧
      Call.Balanced calls ∧ (∀ qs, Part.callsAll qs = calls ↔ qs = ps) ∧
      List.Forall₂ (Group.Nests dates r.supported) e.groups ps := by
  have hsome := Expression.failure_compile_eq_none_iff.mp hok
  refine ⟨Part.callsAll (e.parts dates r.supported), e.parts dates r.supported, fun s hs => ?_,
    Call.balanced_callsAll _, fun qs => ⟨Part.callsAll_injective, fun h => by rw [h]⟩,
    Expression.forall₂_nests_parts hsome⟩
  rw [Recorder.compile, hs, Expression.compile_of_forall hsome]
  rfl

/-- An empty group, ranges with a sign and without, a date that is none, an unknown field and one
that is not supported. -/
def unevenExpression : Expression :=
  ⟨[[], [{ text := "live", negate := true },
      { field := "size", text := "1.5", negate := true, matchKind := .equals }],
    [{ field := "played", text := "2w" }, { field := "added", text := "soon" },
      { field := "mood", text := "calm" }, { field := "artist", text := "Cure" }]]⟩

theorem compile_nesting_uneven :
    let r : Recorder := { supported := (FieldSet.single .artist).compl, calls := [.endScope] }
    (r.compile fixedDates unevenExpression).2 = none ∧
      ∃ calls ps, r.compile fixedDates unevenExpression = (r.recordAll calls, none) ∧
        Call.Balanced calls ∧ (∀ qs, Part.callsAll qs = calls ↔ qs = ps) ∧
        List.Forall₂ (Group.Nests fixedDates r.supported) unevenExpression.groups ps := by
  intro r
  have hok : (r.compile fixedDates unevenExpression).2 = none := by decide +kernel
  obtain ⟨calls, ps, hrecord, hnesting⟩ := compile_nesting r fixedDates unevenExpression hok
  exact ⟨hok, calls, ps, hrecord r rfl, hnesting⟩

end TrackSearch
