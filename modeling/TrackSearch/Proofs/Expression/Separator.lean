/-
White space between the parts of a text.

Outside a quote white space ends the token that is being read, and does nothing where none is being
read.  A token that has been ended has no second end: `finish_of_buffer_eq_empty` says so for every
state of the tokenizer.  So rows of white space can be exchanged, and can be left out at the ends of
a text, which is `parse_blanks`.
-/
import TrackSearch.Proofs.Expression.Quote

namespace TrackSearch
namespace Tokenizer

variable {t : Tokenizer}

/-! ## Ended tokens -/

theorem stage_finishToken (t : Tokenizer) : t.finishToken.stage = .start := by
  rw [finishToken]
  split
  · rfl
  · split <;> rfl

theorem finishToken_of_buffer_eq_empty (h : t.buffer = "") : t.finishToken = t.finishElement := by
  simp [finishToken, h]

/-- Without a word the end of the text closes the open group and does nothing else, whatever else is
pending: a sign, a field, a keyword or an operator. -/
theorem finish_of_buffer_eq_empty (h : t.buffer = "") : t.finish = ⟨t.finishGroup.groups⟩ := by
  rw [finish, finishToken_of_buffer_eq_empty h]
  cases hj : t.joining <;> simp [finishElement, finishGroup, hj, h]

/-- What ends the token that is being read leaves nothing of it for the end of the text. -/
theorem finish_finishToken (t : Tokenizer) : t.finishToken.finish = t.finish :=
  finish_of_buffer_eq_empty t.buffer_finishToken

/-! ## White space -/

variable {w : Char} {ws : List Char}

/-- Behind white space no token is being read. -/
theorem stage_feed_blank (hq : t.inQuote = false) (hw : Text.isBlank w = true) :
    (t.feed w).stage = .start := by
  by_cases hs : t.stage = .start
  · rw [feed_blank_start hq hs hw]
    exact hs
  · rw [feed_blank_word hq hs hw]
    exact t.stage_finishToken

theorem feedAll_blank_start (hq : t.inQuote = false) (hs : t.stage = .start)
    (hws : ∀ c ∈ ws, Text.isBlank c = true) : t.feedAll ws = t := by
  induction ws with
  | nil => rfl
  | cons c cs ih =>
    rw [feedAll_cons, feed_blank_start hq hs (hws c List.mem_cons_self)]
    exact ih fun d hd => hws d (List.mem_cons_of_mem c hd)

/-- Any two white space characters do the same. -/
theorem feed_blank_eq {v : Char} (hq : t.inQuote = false) (hv : Text.isBlank v = true)
    (hw : Text.isBlank w = true) : t.feed w = t.feed v := by
  by_cases hs : t.stage = .start
  · rw [feed_blank_start hq hs hw, feed_blank_start hq hs hv]
  · rw [feed_blank_word hq hs hw, feed_blank_word hq hs hv]

/-- A row of white space does what one white space character does. -/
theorem feedAll_blank {v : Char} (hq : t.inQuote = false) (hv : Text.isBlank v = true)
    (hne : ws ≠ []) (hws : ∀ c ∈ ws, Text.isBlank c = true) : t.feedAll ws = t.feed v := by
  obtain ⟨c, cs, rfl⟩ := List.exists_cons_of_ne_nil hne
  have hc := hws c List.mem_cons_self
  have hopen : (t.feed c).inQuote = false := by rw [inQuote_feed (ne_quote_of_isBlank hc), hq]
  have hrest : ∀ d ∈ cs, Text.isBlank d = true := fun d hd => hws d (List.mem_cons_of_mem c hd)
  rw [feedAll_cons, feedAll_blank_start hopen (stage_feed_blank hq hc) hrest]
  exact feed_blank_eq hq hv hc

/-- White space changes nothing for the end of the text, in whatever state it comes. -/
theorem finish_feed_blank (hq : t.inQuote = false) (hw : Text.isBlank w = true) :
    (t.feed w).finish = t.finish := by
  by_cases hs : t.stage = .start
  · rw [feed_blank_start hq hs hw]
  · rw [feed_blank_word hq hs hw, finish_finishToken]

end Tokenizer

theorem Expression.parse_append (front back : String) :
    Expression.parse (front ++ back) =
      ((({} : Tokenizer).feedAll front.toList).feedAll back.toList).finish := by
  rw [parse, String.toList_append, Tokenizer.feedAll_append]

/-- Outside a quote white space is nothing but a separator: how much of it there is, and which, does
not count, and at the beginning and at the end of a text it can be left out. -/
theorem parse_blanks (front blanks back : String) (hfront : Even (front.toList.count '"'))
    (hne : blanks ≠ "") (hblanks : ∀ c ∈ blanks.toList, Text.isBlank c = true) :
    Expression.parse (front ++ blanks ++ back) = Expression.parse (front ++ " " ++ back) ∧
      Expression.parse (blanks ++ back) = Expression.parse back ∧
      Expression.parse (front ++ blanks) = Expression.parse front := by
  have hspace : Text.isBlank ' ' = true := by decide
  have hopen := Tokenizer.inQuote_feedAll_of_even hfront
  have hrow : (({} : Tokenizer).feedAll front.toList).feedAll blanks.toList =
      (({} : Tokenizer).feedAll front.toList).feed ' ' :=
    Tokenizer.feedAll_blank hopen hspace (by simpa using hne) hblanks
  refine ⟨?_, ?_, ?_⟩
  · rw [Expression.parse_append, Expression.parse_append, String.toList_append,
      String.toList_append, Tokenizer.feedAll_append, Tokenizer.feedAll_append, hrow]
    rfl
  · rw [Expression.parse_append, Tokenizer.feedAll_blank_start rfl rfl hblanks]
    rfl
  · rw [Expression.parse_append, hrow, Tokenizer.finish_feed_blank hopen hspace]
    rfl

/-- An open group with a sign and a field behind it, and white space of three kinds. -/
theorem parse_blanks_pendingField :
    Even ("\"a  b\" OR -artist:".toList.count '"') ∧ "\u2003\n\u3000" ≠ "" ∧
      (∀ c ∈ "\u2003\n\u3000".toList, Text.isBlank c = true) ∧
      Expression.parse ("\"a  b\" OR -artist:" ++ "\u2003\n\u3000" ++ "OR x") =
        Expression.parse ("\"a  b\" OR -artist:" ++ " " ++ "OR x") ∧
      Expression.parse ("\u2003\n\u3000" ++ "OR x") = Expression.parse "OR x" ∧
      Expression.parse ("\"a  b\" OR -artist:" ++ "\u2003\n\u3000") =
        Expression.parse "\"a  b\" OR -artist:" := by
  have heven : Even ("\"a  b\" OR -artist:".toList.count '"') := by decide +kernel
  have hne : "\u2003\n\u3000" ≠ "" := by decide
  have hblanks : ∀ c ∈ "\u2003\n\u3000".toList, Text.isBlank c = true :=
    List.all_eq_true.mp (by decide +kernel)
  exact ⟨heven, hne, hblanks, parse_blanks _ _ "OR x" heven hne hblanks⟩

end TrackSearch
