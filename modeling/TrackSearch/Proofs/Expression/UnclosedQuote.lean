/-
Quotes that nothing closes.

A quote that is open at the end of a text is read as if it were closed there, with one exception: a
literal that nothing closes can be a keyword, and one between two quotes can not.
`parse_unclosed_quote` says when the two readings are the same.
-/
import TrackSearch.Proofs.Expression.Separator

namespace TrackSearch
namespace Tokenizer

variable {t : Tokenizer}

theorem keywordAllowed_iff :
    t.keywordAllowed = true ↔
      t.element.field = "" ∧ t.joining = false ∧ t.afterKeyword = false := by
  simp only [keywordAllowed, Bool.and_eq_true, Bool.not_eq_true', String.isEmpty_iff]
  exact and_comm

/-- Whether the word in the buffer is a keyword, if it ends here. -/
def HasKeyword (t : Tokenizer) : Prop :=
  (t.buffer = "AND" ∨ t.buffer = "OR") ∧ t.keywordAllowed = true

theorem finishToken_of_not_hasKeyword (h : ¬t.HasKeyword) : t.finishToken = t.finishElement := by
  have hand : ¬((t.keywordAllowed && t.buffer == "AND") = true) := by
    rw [Bool.and_eq_true, beq_iff_eq]
    exact fun hk => h ⟨Or.inl hk.2, hk.1⟩
  have hor : ¬((t.keywordAllowed && t.buffer == "OR") = true) := by
    rw [Bool.and_eq_true, beq_iff_eq]
    exact fun hk => h ⟨Or.inr hk.2, hk.1⟩
  rw [finishToken, if_neg hand, if_neg hor]

/-- A keyword takes nothing of the pending element, and is remembered. -/
theorem finishToken_of_hasKeyword (h : t.HasKeyword) :
    t.finishToken.element = t.element ∧ t.finishToken.afterKeyword = true := by
  obtain ⟨hword | hword, hallowed⟩ := h
  · simp [finishToken, finishGroup, hallowed, hword]
  · simp [finishToken, hallowed, hword]

/-- A keyword that the text ends with adds nothing to the groups. -/
theorem finish_of_hasKeyword (h : t.HasKeyword) : t.finish = ⟨t.output.closed⟩ := by
  obtain ⟨hword | hword, hallowed⟩ := h
  · simp [finish, finishToken, finishGroup, hallowed, hword, output, Output.closed]
  · simp [finish, finishToken, finishGroup, hallowed, hword, output, Output.closed]

/-- The same word as a value is a group of its own. -/
theorem finish_finishElement_of_hasKeyword (h : t.HasKeyword) :
    t.finishElement.finish =
      ⟨t.output.closed ++ [[{ t.element with text := t.buffer }]]⟩ := by
  obtain ⟨hword, hallowed⟩ := h
  have hjoining : t.joining = false := (keywordAllowed_iff.mp hallowed).2.1
  have hne : t.buffer ≠ "" := by
    rcases hword with hword | hword <;> rw [hword] <;> decide
  rw [finish_of_buffer_eq_empty rfl]
  simp [finishElement, finishGroup, hjoining, hne, output, Output.closed]

/-- The end of the text is the end of a value, unless it is that of a keyword. -/
theorem finish_eq_finish_finishElement_iff :
    t.finish = t.finishElement.finish ↔ ¬t.HasKeyword := by
  constructor
  · intro heq hkeyword
    rw [finish_of_hasKeyword hkeyword, finish_finishElement_of_hasKeyword hkeyword] at heq
    have hlength := congrArg (fun e : Expression => e.groups.length) heq
    simp at hlength
  · intro hkeyword
    rw [← finish_finishToken, finishToken_of_not_hasKeyword hkeyword]

end Tokenizer

/-- A quote that nothing closes is read like one that the end of the text closes, unless the literal
behind it is the word `AND` or `OR` and a keyword may come at the quote: no field is pending, and no
keyword stands in front of it. -/
theorem parse_unclosed_quote (front literal : String) (hfront : Even (front.toList.count '"'))
    (hliteral : ∀ c ∈ literal.toList, c ≠ '"') :
    Expression.parse (front ++ "\"" ++ literal) =
        Expression.parse (front ++ "\"" ++ literal ++ "\"") ↔
      ¬((literal = "AND" ∨ literal = "OR") ∧
        (({} : Tokenizer).feedAll (front ++ "\"").toList).element.field = "" ∧
        (({} : Tokenizer).feedAll (front ++ "\"").toList).joining = false ∧
        (({} : Tokenizer).feedAll (front ++ "\"").toList).afterKeyword = false) := by
  have hbehind : ({} : Tokenizer).feedAll (front ++ "\"").toList =
      (({} : Tokenizer).feedAll front.toList).feed '"' := by
    rw [String.toList_append, Tokenizer.feedAll_append]
    rfl
  have hq := Tokenizer.inQuote_feedAll_of_even hfront
  have hopen : (({} : Tokenizer).feedAll (front ++ "\"").toList).inQuote = true := by
    rw [hbehind, Tokenizer.inQuote_feed_quote, hq]
    rfl
  have hempty : (({} : Tokenizer).feedAll (front ++ "\"").toList).buffer = "" := by
    rw [hbehind, Tokenizer.buffer_feed_quote hq]
  have hread := Tokenizer.feedAll_literal hopen hliteral
  rw [hempty, String.empty_append, String.ofList_toList] at hread
  rw [Expression.parse_append (front ++ "\"" ++ literal), String.toList_append,
    Tokenizer.feedAll_append, Expression.parse_append, hread]
  generalize ({} : Tokenizer).feedAll (front ++ "\"").toList = t at hopen ⊢
  -- What is left to compare are the two ends of the literal in the state `t`.
  have hclose : ({ t with buffer := literal } : Tokenizer).feedAll "\"".toList =
      { ({ t with buffer := literal } : Tokenizer).finishElement with inQuote := false } :=
    Tokenizer.feed_quote_close hopen
  rw [hclose, Tokenizer.finish_inQuote, Tokenizer.finish_eq_finish_finishElement_iff,
    Tokenizer.HasKeyword, Tokenizer.keywordAllowed_iff]

/-- Behind an `OR` the word is a value either way, and at the beginning of an element, signed or
not, it is one between two quotes only. -/
theorem parse_unclosed_quote_and :
    (Even ("a OR -".toList.count '"') ∧ (∀ c ∈ "AND".toList, c ≠ '"') ∧
      Expression.parse ("a OR -" ++ "\"" ++ "AND") =
        Expression.parse ("a OR -" ++ "\"" ++ "AND" ++ "\"")) ∧
    Even ("\"a\" -".toList.count '"') ∧
      Expression.parse ("\"a\" -" ++ "\"" ++ "AND") ≠
        Expression.parse ("\"a\" -" ++ "\"" ++ "AND" ++ "\"") := by
  have hor : Even ("a OR -".toList.count '"') := by decide +kernel
  have hsign : Even ("\"a\" -".toList.count '"') := by decide +kernel
  have hliteral : ∀ c ∈ "AND".toList, c ≠ '"' := by
    rintro c hc rfl
    exact absurd hc (by decide)
  refine ⟨⟨hor, hliteral, (parse_unclosed_quote _ _ hor hliteral).mpr ?_⟩, hsign, ?_⟩
  · decide +kernel
  · refine fun heq => (parse_unclosed_quote _ _ hsign hliteral).mp heq ?_
    decide +kernel

end TrackSearch
