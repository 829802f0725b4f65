/-
What the sign of an element does to its query.

A sign is meant to turn an element into its opposite.  It does so for an element that asks with one
filter.  It does not for a value without a field name and for a range, whose filters are negated one
by one while the scopes around them stay: `evaluate?_query_negated` says for which tracks the two
queries are still opposites, and `evaluate?_live_either_sign` that there are tracks for which they
are not.
-/
import TrackSearch.Proofs.Query.Meaning

namespace TrackSearch

variable {dates : Resolver} {supported : FieldSet}

namespace Condition

/-- The empty scope of a negated range is one of which every part has to hold, and so it holds. -/
theorem any_holds_parts_between (τ : Track) (field : Field) (low high : Int64) :
    (((between field low high).parts true).any fun p => p.holds τ) = true := by
  simp [parts]

theorem any_holds_parts_anyText (τ : Track) (fields : List Field) (value : String) :
    (((anyText fields value).parts true).any fun p => p.holds τ) =
      fields.any fun f => !τ.hasText f value false false := by
  simp [parts, Filter.holds, Function.comp_def]

/-- What a track has to be like for a sign to give the opposite of a condition.  It must not be in a
range, and the fields that a value is looked for in must be some and must agree on it. -/
def IsComplemented (τ : Track) : Condition → Prop
  | never | text .. | number .. => True
  | between field low high => ¬ (low < τ.number field ∧ τ.number field < high)
  | anyText fields value =>
    fields ≠ [] ∧ ∀ f ∈ fields, ∀ g ∈ fields,
      τ.hasText f value false false = τ.hasText g value false false

end Condition

/-- Some member fails a test just when no member passes it, if there are members and they all give
the same outcome, and else not. -/
theorem any_not_eq_not_any_iff {α : Type} (as : List α) (p : α → Bool) :
    (as.any fun a => !p a) = (!as.any p) ↔ as ≠ [] ∧ ∀ a ∈ as, ∀ b ∈ as, p a = p b := by
  constructor
  · intro h
    have hmixed : ∀ a ∈ as, ∀ b ∈ as, p a = true → p b ≠ false := by
      intro a ha b hb hpa hpb
      have hany : as.any p = true := List.any_eq_true.mpr ⟨a, ha, hpa⟩
      have hnot : (as.any fun b => !p b) = true := List.any_eq_true.mpr ⟨b, hb, by rw [hpb]; rfl⟩
      rw [hany, hnot] at h
      cases h
    refine ⟨fun hnil => ?_, fun a ha b hb => ?_⟩
    · rw [hnil] at h
      cases h
    · cases hpa : p a with
      | true =>
        cases hpb : p b with
        | true => rfl
        | false => exact absurd hpb (hmixed a ha b hb hpa)
      | false =>
        cases hpb : p b with
        | false => rfl
        | true => exact absurd hpa (hmixed b hb a ha hpb)
  · rintro ⟨hne, hall⟩
    obtain ⟨a, as, rfl⟩ := List.exists_cons_of_ne_nil hne
    have hsame : ∀ b ∈ a :: as, p b = p a := fun b hb => hall b hb a List.mem_cons_self
    cases hp : p a with
    | true =>
      have hany : ((a :: as).any p) = true := List.any_eq_true.mpr ⟨a, List.mem_cons_self, hp⟩
      have hnot : ((a :: as).any fun b => !p b) = false :=
        List.any_eq_false.mpr fun b hb => by simp [hsame b hb, hp]
      rw [hany, hnot]
      rfl
    | false =>
      have hany : ((a :: as).any p) = false :=
        List.any_eq_false.mpr fun b hb => by simp [hsame b hb, hp]
      have hnot : ((a :: as).any fun b => !p b) = true :=
        List.any_eq_true.mpr ⟨a, List.mem_cons_self, by simp [hp]⟩
      rw [hany, hnot]
      rfl

theorem Condition.any_holds_parts_eq_not_iff (τ : Track) (c : Condition) :
    ((c.parts true).any fun p => p.holds τ) = (!c.holds τ) ↔ c.IsComplemented τ := by
  cases c with
  | never => exact iff_of_true rfl trivial
  | text field value exact =>
    have hsingle : (text field value exact).IsSingle := trivial
    exact iff_of_true (any_holds_parts_negated hsingle τ) trivial
  | number field comparison value =>
    have hsingle : (number field comparison value).IsSingle := trivial
    exact iff_of_true (any_holds_parts_negated hsingle τ) trivial
  | between field low high =>
    rw [any_holds_parts_between, holds, IsComplemented, eq_comm, Bool.not_eq_true',
      ← Bool.decide_and, decide_eq_false_iff_not]
  | anyText fields value =>
    rw [any_holds_parts_anyText, holds, IsComplemented]
    exact any_not_eq_not_any_iff fields fun f => τ.hasText f value false false

/-! ## An element by itself -/

namespace Element

/-- The query of an element by itself, with or without a sign. -/
def query (dates : Resolver) (supported : FieldSet) (negate : Bool) (e : Element) : Emission :=
  Expression.compile dates supported ⟨[[{ e with negate := negate }]]⟩

theorem failure_query_eq_none_iff {negate : Bool} {e : Element} :
    (e.query dates supported negate).failure = none ↔
      (e.condition? dates supported).isSome := by
  rw [query, Expression.failure_compile_eq_none_iff]
  exact List.forall_mem_singleton

theorem evaluate?_query {e : Element} {c : Condition} (τ : Track) (negate : Bool)
    (hc : e.condition? dates supported = some c) :
    Call.evaluate? τ (e.query dates supported negate).calls =
      some ((c.parts negate).any fun p => p.holds τ) := by
  have hsome : (e.condition? dates supported).isSome := by rw [hc]; rfl
  have hparts : Element.parts dates supported { e with negate := negate } = c.parts negate := by
    rw [Element.parts, show Element.condition? dates supported { e with negate := negate } = some c
      from hc]
  have hforall : ∀ el ∈ ([{ e with negate := negate }] : Group),
      (el.condition? dates supported).isSome :=
    List.forall_mem_singleton.mpr hsome
  rw [query, Group.evaluate?_group τ hforall, Group.part,
    Part.holds_scope_any, List.flatMap_cons, List.flatMap_nil, List.append_nil, hparts]

def IsComplemented (dates : Resolver) (supported : FieldSet) (τ : Track) (e : Element) : Prop :=
  ∀ c ∈ e.condition? dates supported, c.IsComplemented τ

end Element

/-- For every element that has a query without its sign, the query with the sign says the opposite of
a track if and only if the track is not in a range that the element asks for, and the fields that a
value without a field name is looked for in are some and agree on it. -/
theorem evaluate?_query_negated (τ : Track) {e : Element}
    (hok : (e.query dates supported false).failure = none) :
    (e.query dates supported true).failure = none ∧
      ∃ plain negated, Call.evaluate? τ (e.query dates supported false).calls = some plain ∧
        Call.evaluate? τ (e.query dates supported true).calls = some negated ∧
        (negated = (!plain) ↔ e.IsComplemented dates supported τ) := by
  have hsome := Element.failure_query_eq_none_iff.mp hok
  obtain ⟨c, hc⟩ := Option.isSome_iff_exists.mp hsome
  have hplain := Element.evaluate?_query τ false hc
  have hnegated := Element.evaluate?_query τ true hc
  rw [Condition.any_holds_parts_plain] at hplain
  refine ⟨Element.failure_query_eq_none_iff.mpr hsome, c.holds τ, _, hplain, hnegated, ?_⟩
  rw [Condition.any_holds_parts_eq_not_iff]
  constructor
  · intro h d hd
    rw [hc] at hd
    obtain rfl := Option.some.inj hd
    exact h
  · intro h
    exact h c hc

def liveTrack : Track :=
  .ofValues (fun field => if field = .title then "live" else "")
    fun field => if field = .fileSize then 1500000 else 0

/-- A title is asked for by one filter, and so the sign gives the opposite. -/
theorem evaluate?_query_negated_title :
    let e : Element := { field := "title", text := "live" }
    (e.query fixedDates .full false).failure = none ∧
      ∃ plain negated, Call.evaluate? liveTrack (e.query fixedDates .full false).calls = some plain ∧
        Call.evaluate? liveTrack (e.query fixedDates .full true).calls = some negated ∧
        negated = !plain := by
  intro e
  have hok : (e.query fixedDates .full false).failure = none := by decide +kernel
  have hc : e.condition? fixedDates .full = some (.text .title "live" false) := by decide +kernel
  have hcomplemented : e.IsComplemented fixedDates .full liveTrack := by
    intro c hmem
    obtain rfl := Option.some.inj (hc.symm.trans hmem)
    exact trivial
  obtain ⟨-, plain, negated, hplain, hnegated, hiff⟩ := evaluate?_query_negated liveTrack hok
  exact ⟨hok, plain, negated, hplain, hnegated, hiff.mpr hcomplemented⟩

def titleAndArtist : FieldSet :=
  (FieldSet.single .title).union (FieldSet.single .artist)

/-- For a track with `live` in its title, and not in its artist, the queries of `live` and of
`filesize:1` say yes with the sign and without. -/
theorem evaluate?_live_either_sign :
    Call.evaluate? liveTrack
        ((Expression.parse "live").compile fixedDates titleAndArtist).calls = some true ∧
      Call.evaluate? liveTrack
        ((Expression.parse "-live").compile fixedDates titleAndArtist).calls = some true ∧
      Call.evaluate? liveTrack
        ((Expression.parse "filesize:1").compile fixedDates .full).calls = some true ∧
      Call.evaluate? liveTrack
        ((Expression.parse "-filesize:1").compile fixedDates .full).calls = some true := by
  decide +kernel

end TrackSearch
