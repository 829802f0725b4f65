/-
A query says of a track what its expression says.

`evaluate?_compile` is about every expression whose query is complete.  Of its elements, the negated
ones have to ask with a single filter: the sign of an element is put on each filter of it, but the
scopes in which these filters stand are the same for either sign.
-/
import TrackSearch.Proofs.Query.Condition

namespace TrackSearch

variable {dates : Resolver} {supported : FieldSet}

namespace Condition

def IsSingle : Condition → Prop
  | never | text .. | number .. => True
  | between .. | anyText .. => False

/-- The scopes of a plain element say what its condition says.  The empty scope beside that of a
range is one of which a part has to hold, so it adds nothing to the group. -/
theorem any_holds_parts_plain (τ : Track) (c : Condition) :
    ((c.parts false).any fun p => p.holds τ) = c.holds τ := by
  cases c with
  | never => rfl
  | text field value exact => simp [parts, holds, Filter.holds]
  | number field comparison value => simp [parts, holds, Filter.holds]
  | between field low high => simp [parts, holds, Filter.holds, Comparison.holds]
  | anyText fields value => simp [parts, holds, Filter.holds, Function.comp_def]

/-- So do those of a negated element, when there is just one filter for the sign to be put on. -/
theorem any_holds_parts_negated {c : Condition} (h : c.IsSingle) (τ : Track) :
    ((c.parts true).any fun p => p.holds τ) = !c.holds τ := by
  cases c with
  | never => rfl
  | text field value exact => simp [parts, holds, Filter.holds]
  | number field comparison value => simp [parts, holds, Filter.holds]
  | between field low high => exact h.elim
  | anyText fields value => exact h.elim

theorem isSingle_ofSize {k : MatchKind} (field : Field) (x : Number.Binary64)
    (h : ¬ (k = .contains ∨ k = .equals)) : (ofSize field x k).IsSingle := by
  cases k with
  | contains => exact absurd (Or.inl rfl) h
  | equals => exact absurd (Or.inr rfl) h
  | lessThan => exact trivial
  | greaterThan => exact trivial

theorem isSingle_ofDate {k : MatchKind} (field : Field) (date : Resolution)
    (h : ¬ (k = .contains ∨ k = .equals)) : (ofDate field date k).IsSingle := by
  rw [ofDate]
  split
  · cases k with
    | contains => exact absurd (Or.inl rfl) h
    | equals => exact absurd (Or.inr rfl) h
    | lessThan => exact trivial
    | greaterThan => exact trivial
  · exact trivial

end Condition

namespace Element

def IsRange (e : Element) : Prop :=
  ∃ f ∈ Field.ofName? e.field, (f.kind = .fileSize ∨ f.kind = .date) ∧
    (e.matchKind = .contains ∨ e.matchKind = .equals)

instance (e : Element) : Decidable e.IsRange :=
  inferInstanceAs (Decidable (∃ f ∈ Field.ofName? e.field, (f.kind = .fileSize ∨ f.kind = .date) ∧
    (e.matchKind = .contains ∨ e.matchKind = .equals)))

/-- Whether a track is one that an element asks for.  A negated element asks for the tracks that it
would not ask for without its sign. -/
def accepts (dates : Resolver) (supported : FieldSet) (τ : Track) (e : Element) : Bool :=
  match e.condition? dates supported with
  | some c => c.holds τ != e.negate
  | none => false

theorem isSingle_of_condition {e : Element} {c : Condition} (hfield : e.field ≠ "")
    (hrange : ¬ e.IsRange) (hc : e.condition? dates supported = some c) : c.IsSingle := by
  have hu : e.isUnqualified = false := by simpa [isUnqualified] using hfield
  rw [condition?, hu] at hc
  cases hf : Field.ofName? e.field with
  | none =>
    rw [hf] at hc
    cases hc
    exact trivial
  | some field =>
    rw [hf] at hc
    have hkind : (field.kind = .fileSize ∨ field.kind = .date) →
        ¬ (e.matchKind = .contains ∨ e.matchKind = .equals) :=
      fun hk hm => hrange ⟨field, hf, hk, hm⟩
    by_cases hs : supported.supports field = true
    · simp only [hs, if_true] at hc
      rw [if_neg Bool.false_ne_true, fieldCondition?] at hc
      -- Only the kinds that can ask for a range need what is known of the operator.
      cases hk : field.kind with
      | fileSize =>
        rw [hk] at hc
        obtain ⟨x, -, rfl⟩ := Option.map_eq_some_iff.mp hc
        exact Condition.isSingle_ofSize field x (hkind (Or.inl hk))
      | date =>
        rw [hk] at hc
        cases hc
        exact Condition.isSingle_ofDate field (dates.resolve e.text) (hkind (Or.inr hk))
      | text | number | rating | length | format =>
        rw [hk] at hc
        cases hc
        exact trivial
    · simp only [hs] at hc
      cases hc
      exact trivial

/-- One element of a group: the scopes of the element hold for the tracks that it asks for. -/
theorem any_holds_parts {e : Element} (τ : Track)
    (hsome : (e.condition? dates supported).isSome)
    (hneg : e.negate = true → e.field ≠ "" ∧ ¬ e.IsRange) :
    ((e.parts dates supported).any fun p => p.holds τ) = e.accepts dates supported τ := by
  obtain ⟨c, hc⟩ := Option.isSome_iff_exists.mp hsome
  rw [parts, accepts, hc]
  dsimp only
  cases hn : e.negate with
  | false => rw [Condition.any_holds_parts_plain, Bool.bne_false]
  | true =>
    obtain ⟨hfield, hrange⟩ := hneg hn
    rw [Condition.any_holds_parts_negated (isSingle_of_condition hfield hrange hc), Bool.bne_true]

end Element

theorem Group.holds_part {g : Group} (τ : Track)
    (hsome : ∀ e ∈ g, (e.condition? dates supported).isSome)
    (hneg : ∀ e ∈ g, e.negate = true → e.field ≠ "" ∧ ¬ e.IsRange) :
    (g.part dates supported).holds τ = g.any fun e => e.accepts dates supported τ := by
  rw [Group.part, Part.holds_scope_any, List.any_flatMap]
  induction g with
  | nil => rfl
  | cons e es ih =>
    have hhead := Element.any_holds_parts τ (hsome e List.mem_cons_self) (hneg e List.mem_cons_self)
    have hrest := ih (fun f hf => hsome f (List.mem_cons_of_mem e hf))
      (fun f hf => hneg f (List.mem_cons_of_mem e hf))
    rw [List.any_cons, List.any_cons, hhead, hrest]

/-- The query of one group says what the scope of the group says. -/
theorem Group.evaluate?_group {g : Group} (τ : Track)
    (hsome : ∀ e ∈ g, (e.condition? dates supported).isSome) :
    Call.evaluate? τ (Expression.compile dates supported ⟨[g]⟩).calls =
      some ((g.part dates supported).holds τ) := by
  have helements : ∀ e ∈ Expression.elements ⟨[g]⟩, (e.condition? dates supported).isSome := by
    simpa [Expression.elements] using hsome
  rw [Expression.compile_of_forall helements]
  show Call.evaluate? τ (Part.callsAll [g.part dates supported]) = _
  rw [Call.evaluate?_callsAll, List.all_cons, List.all_nil, Bool.and_true]

/-- The query of an expression says of a track that every group has an element that asks for it.
The query has to be complete, and no negated element may be one without a field name or one that
asks for a range. -/
theorem evaluate?_compile {e : Expression} (τ : Track)
    (hok : (e.compile dates supported).failure = none)
    (hneg : ∀ el ∈ e.elements, el.negate = true → el.field ≠ "" ∧ ¬ el.IsRange) :
    Call.evaluate? τ (e.compile dates supported).calls =
      some (e.groups.all fun g => g.any fun el => el.accepts dates supported τ) := by
  have hsome := Expression.failure_compile_eq_none_iff.mp hok
  rw [Expression.compile_of_forall hsome]
  show Call.evaluate? τ (Part.callsAll (e.parts dates supported)) = _
  have hgroups : ∀ g ∈ e.groups, (g.part dates supported).holds τ =
      g.any fun el => el.accepts dates supported τ := by
    intro g hg
    have hmem : ∀ el ∈ g, el ∈ e.elements := fun el hel => List.mem_flatten.mpr ⟨g, hg, hel⟩
    exact Group.holds_part τ (fun el hel => hsome el (hmem el hel))
      (fun el hel => hneg el (hmem el hel))
  rw [Call.evaluate?_callsAll, Expression.parts, List.all_map]
  congr 1
  rw [Bool.eq_iff_iff, List.all_eq_true, List.all_eq_true]
  exact ⟨fun h g hg => hgroups g hg ▸ h g hg, fun h g hg => (hgroups g hg).trans (h g hg)⟩

def fixedDates : Resolver :=
  { now := Calendar.Instant.midnight ⟨2024, 6, 15, by decide⟩ }

def mixedExpression : Expression :=
  ⟨[[{ field := "artist", text := "Cure", matchKind := .equals }, { text := "live" }],
    [{ field := "rating", text := "4", negate := true, matchKind := .lessThan }],
    [{ field := "size", text := "1.5" }],
    [{ field := "lastplayed", text := "2w", matchKind := .lessThan }]]⟩

def mixedTrack : Track :=
  .ofValues (fun field => if field = .title then "alive" else "")
    fun field =>
      if field = .rating then 9 else if field = .fileSize then 1500000
      else if field = .lastPlayed then 1718000000 else 0

theorem evaluate?_compile_mixed :
    (mixedExpression.compile fixedDates .full).failure = none ∧
      (∀ el ∈ mixedExpression.elements, el.negate = true → el.field ≠ "" ∧ ¬ el.IsRange) ∧
      Call.evaluate? mixedTrack (mixedExpression.compile fixedDates .full).calls = some true := by
  have hok : (mixedExpression.compile fixedDates .full).failure = none := by decide +kernel
  have hneg : ∀ el ∈ mixedExpression.elements, el.negate = true →
      el.field ≠ "" ∧ ¬ el.IsRange := by decide +kernel
  have hmeaning : (mixedExpression.groups.all fun g =>
      g.any fun el => el.accepts fixedDates .full mixedTrack) = true := by decide +kernel
  exact ⟨hok, hneg, (evaluate?_compile mixedTrack hok hneg).trans (congrArg some hmeaning)⟩

end TrackSearch
