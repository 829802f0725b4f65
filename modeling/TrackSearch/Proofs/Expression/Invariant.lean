/-
What the parts of the tokenizer's state say about each other.

The stage, the buffer, the pending element and the three flags are not free: a state that some text
leads to has the properties of `Invariant`, which is `invariant_feedAll`.  The properties need each
other.  A keyword, for instance, leaves the pending element as it is; that no operator is pending
behind it follows from two others, as a keyword has no field in front of it and an operator has.

The invariant is kept by each `Step` of the tokenizer, and so by any row of characters.
-/
import TrackSearch.Proofs.Expression.UnclosedQuote

namespace TrackSearch
namespace Tokenizer

variable {t u : Tokenizer} {c : Char}

/-! ## The invariant -/

/-- What holds in every state that a text leads to. -/
structure Invariant (t : Tokenizer) : Prop where
  inQuote : t.inQuote = true → t.stage = .value
  joining : t.joining = true → t.afterKeyword = true
  start : t.stage = .start →
    t.buffer = "" ∧ t.element.field = "" ∧ t.element.matchKind = .contains
  field : t.stage = .field →
    t.inQuote = false ∧ t.element.field = "" ∧ (t.buffer ≠ "" ∨ t.element.negate = true)
  operator : t.stage = .operator →
    t.buffer = "" ∧ t.element.field ≠ "" ∧ t.element.matchKind = .contains
  matchKind : t.element.matchKind ≠ .contains → t.stage = .value ∧ t.element.field ≠ ""
  /-- Only a keyword keeps something for the next element, and that is a sign. -/
  pending : t.stage = .start → t.afterKeyword = false → t.element = {}

namespace Invariant

/-- An operator never comes without a field name. -/
theorem matchKind_of_field_eq (h : t.Invariant) (hf : t.element.field = "") :
    t.element.matchKind = .contains := by
  by_contra hk
  exact (h.matchKind hk).2 hf

theorem field_of_beforeColon (h : t.Invariant) (hs : t.stage.beforeColon = true) :
    t.element.field = "" := by
  cases hstage : t.stage with
  | start => exact (h.start hstage).2.1
  | field => exact (h.field hstage).2.1
  | operator => simp [hstage, Stage.beforeColon] at hs
  | value => simp [hstage, Stage.beforeColon] at hs

/-! ### States by their stage -/

theorem of_start (hs : t.stage = .start) (hq : t.inQuote = false)
    (hj : t.joining = true → t.afterKeyword = true) (hb : t.buffer = "")
    (hf : t.element.field = "") (hk : t.element.matchKind = .contains)
    (hp : t.afterKeyword = false → t.element = {}) : t.Invariant where
  inQuote h := absurd (hq.symm.trans h) Bool.false_ne_true
  joining := hj
  start _ := ⟨hb, hf, hk⟩
  field h := absurd (hs.symm.trans h) Stage.noConfusion
  operator h := absurd (hs.symm.trans h) Stage.noConfusion
  matchKind h := absurd hk h
  pending _ := hp

theorem of_field (hs : t.stage = .field) (hq : t.inQuote = false)
    (hj : t.joining = true → t.afterKeyword = true) (hf : t.element.field = "")
    (hb : t.buffer ≠ "" ∨ t.element.negate = true) (hk : t.element.matchKind = .contains) :
    t.Invariant where
  inQuote h := absurd (hq.symm.trans h) Bool.false_ne_true
  joining := hj
  start h := absurd (hs.symm.trans h) Stage.noConfusion
  field _ := ⟨hq, hf, hb⟩
  operator h := absurd (hs.symm.trans h) Stage.noConfusion
  matchKind h := absurd hk h
  pending h := absurd (hs.symm.trans h) Stage.noConfusion

theorem of_operator (hs : t.stage = .operator) (hq : t.inQuote = false)
    (hj : t.joining = true → t.afterKeyword = true) (hb : t.buffer = "")
    (hf : t.element.field ≠ "") (hk : t.element.matchKind = .contains) : t.Invariant where
  inQuote h := absurd (hq.symm.trans h) Bool.false_ne_true
  joining := hj
  start h := absurd (hs.symm.trans h) Stage.noConfusion
  field h := absurd (hs.symm.trans h) Stage.noConfusion
  operator _ := ⟨hb, hf, hk⟩
  matchKind h := absurd hk h
  pending h := absurd (hs.symm.trans h) Stage.noConfusion

/-- A value can be read in or out of quotes, and with anything in the buffer. -/
theorem of_value (hs : t.stage = .value) (hj : t.joining = true → t.afterKeyword = true)
    (hk : t.element.matchKind ≠ .contains → t.element.field ≠ "") : t.Invariant where
  inQuote _ := hs
  joining := hj
  start h := absurd (hs.symm.trans h) Stage.noConfusion
  field h := absurd (hs.symm.trans h) Stage.noConfusion
  operator h := absurd (hs.symm.trans h) Stage.noConfusion
  matchKind h := ⟨hs, hk h⟩
  pending h := absurd (hs.symm.trans h) Stage.noConfusion

theorem initial : ({} : Tokenizer).Invariant :=
  of_start rfl rfl nofun rfl rfl rfl fun _ => rfl

/-! ### Steps keep it -/

theorem finishElement (t : Tokenizer) : { t.finishElement with inQuote := false }.Invariant :=
  of_start rfl rfl nofun rfl rfl rfl fun _ => rfl

/-- A keyword can only come where no field name is pending, and so no operator is. -/
theorem finishToken (h : t.Invariant) (hq : t.inQuote = false) : t.finishToken.Invariant := by
  have hopen : t.finishToken.inQuote = false := by rw [inQuote_finishToken, hq]
  by_cases hkeyword : t.HasKeyword
  · have hf : t.element.field = "" := (keywordAllowed_iff.mp hkeyword.2).1
    have hk := h.matchKind_of_field_eq hf
    obtain ⟨helement, hafter⟩ := finishToken_of_hasKeyword hkeyword
    refine of_start t.stage_finishToken hopen (fun _ => hafter) t.buffer_finishToken ?_ ?_ ?_
    · rw [helement, hf]
    · rw [helement, hk]
    · intro hnone
      exact absurd (hnone.symm.trans hafter) Bool.false_ne_true
  · rw [finishToken_of_not_hasKeyword hkeyword] at hopen ⊢
    exact of_start rfl hopen nofun rfl rfl rfl fun _ => rfl

theorem pushChar (h : t.Invariant) (hq : t.inQuote = false) (c : Char) :
    (t.pushChar c).Invariant := by
  cases hs : t.stage.beforeColon with
  | true =>
    have hf := h.field_of_beforeColon hs
    have hb : (t.pushChar c).buffer ≠ "" := by simp [Tokenizer.pushChar]
    exact of_field (by simp [Tokenizer.pushChar, hs]) hq h.joining hf (Or.inl hb)
      (h.matchKind_of_field_eq hf)
  | false =>
    exact of_value (by simp [Tokenizer.pushChar, hs]) h.joining fun hk => (h.matchKind hk).2

theorem step (h : t.Invariant) (hstep : Step t c u) : u.Invariant := by
  cases hstep with
  | literal hq _ => exact of_value (h.inQuote hq) h.joining fun hk => (h.matchKind hk).2
  | closeQuote _ => exact finishElement t
  | openQuote _ _ => exact of_value rfl h.joining fun hk => (h.matchKind hk).2
  | openQuoteBehindWord hq _ =>
    have hword := h.finishToken hq
    exact of_value rfl hword.joining fun hk => (hword.matchKind hk).2
  | skipBlank _ _ _ => exact h
  | endToken hq _ _ => exact h.finishToken hq
  | minus hq hs =>
    obtain ⟨-, hf, hk⟩ := h.start hs
    exact of_field rfl hq h.joining hf (Or.inr rfl) hk
  | colon hq hs hb =>
    have hk := h.matchKind_of_field_eq (h.field_of_beforeColon hs)
    exact of_operator rfl hq h.joining rfl hb hk
  | operator _ hs _ =>
    obtain ⟨-, hf, -⟩ := h.operator hs
    exact of_value rfl h.joining fun _ => hf
  | push hq _ _ _ _ => exact h.pushChar hq c

theorem feedAll (h : t.Invariant) (cs : List Char) : (t.feedAll cs).Invariant := by
  induction cs generalizing t with
  | nil => exact h
  | cons c cs ih => exact ih (h.step (step_feed t c))

end Invariant

/-- Every state that a row of characters leads to has the invariant.  An open quote holds a value,
and an `OR` is the last token as long as it joins.  At the start of an element nothing is known of
it but the sign of a keyword.  A word that can become a field name is in no quote and behind no
other field, and it has a character or a sign.  An operator can come directly behind a field name
and nowhere else, and one that has come waits for a value. -/
theorem invariant_feedAll (cs : List Char) : (({} : Tokenizer).feedAll cs).Invariant :=
  Invariant.initial.feedAll cs

-- A sign is kept behind a keyword, so the last property does need that there was none.
example :
    (({} : Tokenizer).feedAll "x -OR ".toList).stage = .start ∧
      (({} : Tokenizer).feedAll "x -OR ".toList).element = { negate := true } := by
  decide +kernel

end Tokenizer
end TrackSearch
