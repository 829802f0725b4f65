/-
Groups of negated elements.

A group of negated elements is meant to exclude all that the elements name.  Its query asks instead
that one of them is not there: the scope of the group is one of which one part has to hold, whatever
the signs of its elements are.  `evaluate?_compile_negated` says what the query comes to, and for
which tracks this is the same.
-/
import TrackSearch.Proofs.Query.Negation

namespace TrackSearch

variable {dates : Resolver} {supported : FieldSet}

namespace Element

/-- The filter that an element puts on the text of a supported field, its sign left aside. -/
def textFilter? (supported : FieldSet) (e : Element) : Option Filter := do
  let field ← Field.ofName? e.field
  let exact := e.matchKind == .equals
  if supported.supports field = true ∧ field.kind = .text then
    some (.text field e.text exact exact)
  else none

/-- Whether a track has the text that an element names. -/
def hasText (supported : FieldSet) (τ : Track) (e : Element) : Bool :=
  (e.textFilter? supported).any fun f => f.holds τ

theorem exists_condition?_of_textFilter? (dates : Resolver) {e : Element} {f : Filter}
    (hf : e.textFilter? supported = some f) :
    ∃ field value exact, f = .text field value exact exact ∧
      e.condition? dates supported = some (.text field value exact) := by
  obtain ⟨field, hfield, hf⟩ := Option.bind_eq_some_iff.mp hf
  obtain ⟨⟨hsupports, hkind⟩, hf⟩ := Option.ite_none_right_eq_some.mp hf
  refine ⟨field, e.text, e.matchKind == .equals, (Option.some.inj hf).symm, ?_⟩
  rw [condition?, isUnqualified_of_ofName? hfield, if_neg Bool.false_ne_true, hfield]
  dsimp only
  rw [if_pos hsupports, fieldCondition?, hkind]

/-- The filter of an element is the one call in its scope. -/
theorem compile_of_textFilter? {e : Element} {f : Filter} (hf : e.textFilter? supported = some f) :
    e.compile dates supported = Emission.ofCalls
      [if e.negate then .beginAnd else .beginOr, f.call e.negate, .endScope] := by
  obtain ⟨field, value, exact, rfl, hc⟩ := exists_condition?_of_textFilter? dates hf
  rw [compile_of_condition hc, Condition.callsAll_parts]
  rfl

theorem any_holds_parts_of_textFilter? {e : Element} (τ : Track) (hneg : e.negate = true)
    (hf : (e.textFilter? supported).isSome) :
    ((e.parts dates supported).any fun p => p.holds τ) = !e.hasText supported τ := by
  obtain ⟨f, hf⟩ := Option.isSome_iff_exists.mp hf
  obtain ⟨field, value, exact, rfl, hc⟩ := exists_condition?_of_textFilter? dates hf
  have hsingle : (Condition.text field value exact).IsSingle := trivial
  rw [parts, hc, hneg, hasText, hf]
  exact Condition.any_holds_parts_negated hsingle τ

end Element

theorem Group.holds_part_of_textFilter? {g : Group} (τ : Track)
    (hg : ∀ e ∈ g, e.negate = true ∧ (e.textFilter? supported).isSome) :
    (g.part dates supported).holds τ = g.any fun e => !e.hasText supported τ := by
  rw [Group.part, Part.holds_scope_any, List.any_flatMap]
  rw [Bool.eq_iff_iff, List.any_eq_true, List.any_eq_true]
  refine exists_congr fun e => and_congr_right fun he => ?_
  rw [Element.any_holds_parts_of_textFilter? τ (hg e he).1 (hg e he).2]

/-- The query of a group of negated elements that each name a text of a supported field says of a
track that it lacks one of the texts.  This comes to lacking all of them just when the track has all
of the texts or none, as it always does of one text. -/
theorem evaluate?_compile_negated (dates : Resolver) (τ : Track) {g : Group} (hne : g ≠ [])
    (hg : ∀ e ∈ g, e.negate = true ∧ (e.textFilter? supported).isSome) :
    (Expression.compile dates supported ⟨[g]⟩).failure = none ∧
      Call.evaluate? τ (Expression.compile dates supported ⟨[g]⟩).calls =
        some (g.any fun e => !e.hasText supported τ) ∧
      ((g.any fun e => !e.hasText supported τ) = (!g.any fun e => e.hasText supported τ) ↔
        ∀ e ∈ g, ∀ e' ∈ g, e.hasText supported τ = e'.hasText supported τ) := by
  have hsome : ∀ e ∈ g, (e.condition? dates supported).isSome := by
    intro e he
    obtain ⟨f, hf⟩ := Option.isSome_iff_exists.mp (hg e he).2
    refine Element.failure_compile_eq_none_iff.mp ?_
    rw [Element.compile_of_textFilter? hf]
    rfl
  refine ⟨?_, ?_, ?_⟩
  · exact Expression.failure_compile_eq_none_iff.mpr (by simpa [Expression.elements] using hsome)
  · rw [Group.evaluate?_group τ hsome, Group.holds_part_of_textFilter? τ hg]
  · rw [any_not_eq_not_any_iff]
    exact and_iff_right hne

def excludedPair : Group :=
  [{ field := "title", text := "live", negate := true },
    { field := "artist", text := "cure", negate := true }]

theorem evaluate?_compile_negated_pair :
    excludedPair ≠ [] ∧
      (∀ e ∈ excludedPair, e.negate = true ∧ (e.textFilter? .full).isSome) ∧
      Call.evaluate? liveTrack (Expression.compile fixedDates .full ⟨[excludedPair]⟩).calls =
        some (excludedPair.any fun e => !e.hasText .full liveTrack) := by
  have hpair : ∀ e ∈ excludedPair, e.negate = true ∧ (e.textFilter? .full).isSome := by
    decide +kernel
  have hne : excludedPair ≠ [] := List.cons_ne_nil _ _
  obtain ⟨-, hvalue, -⟩ := evaluate?_compile_negated fixedDates liveTrack hne hpair
  exact ⟨hne, hpair, hvalue⟩

/-- A track with `live` in its title is found by a query that excludes it, since its artist is
another one. -/
theorem evaluate?_excludedPair_live :
    Expression.parse "-title:live OR -artist:cure" = ⟨[excludedPair]⟩ ∧
      (excludedPair.any fun e => e.hasText .full liveTrack) = true ∧
      Call.evaluate? liveTrack
        ((Expression.parse "-title:live OR -artist:cure").compile fixedDates .full).calls =
        some true := by
  decide +kernel

end TrackSearch
