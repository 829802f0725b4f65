/-
Values between quotes.

Whatever stands between two quotes is the text of one element, and all else that is read is the same
for everything that could stand there: `parse_quoted_value`.  So no value can be taken for syntax.
The proof follows the element through the rest of the text as what fills the hole of a `Context`.
-/
import Mathlib.Algebra.Group.Nat.Even
import TrackSearch.Proofs.Expression.Growth

namespace TrackSearch

/-! ## Groups with a hole -/

/-- Groups that have been read with a hole for one element, in the open group or in another. -/
inductive Context
  | inOpen (left right : Group) (groups : List Group)
  | inClosed (front : List Group) (left right : Group) (back : List Group) (group : Group)

namespace Context

def fill : Context → Element → Output
  | inOpen left right groups, e => ⟨left ++ e :: right, groups⟩
  | inClosed front left right back group, e => ⟨group, front ++ (left ++ e :: right) :: back⟩

def extend (k : Context) (a : Addition) : Context :=
  match k, a.closes with
  | inOpen left right groups, false => inOpen left (right ++ a.elements) groups
  | inOpen left right groups, true => inClosed groups left right [] a.elements
  | inClosed front left right back group, false =>
    inClosed front left right back (group ++ a.elements)
  | inClosed front left right back group, true =>
    inClosed front left right (if group.isEmpty then back else back ++ [group]) a.elements

/-- What is added does not depend on what is in the hole, and does not move it. -/
theorem extend_fill (k : Context) (e : Element) (a : Addition) :
    (k.fill e).extend a = (k.extend a).fill e := by
  obtain ⟨closes, elements⟩ := a
  cases k with
  | inOpen left right groups =>
    cases closes <;> simp [fill, extend, Output.extend, Output.closed]
  | inClosed front left right back group =>
    by_cases hg : group.isEmpty = true <;> cases closes <;>
      simp [fill, extend, Output.extend, Output.closed, hg]

theorem exists_extendAll_fill (k : Context) (as : List Addition) :
    ∃ k' : Context, ∀ e, (k.fill e).extendAll as = k'.fill e := by
  induction as generalizing k with
  | nil => exact ⟨k, fun _ => rfl⟩
  | cons a as ih =>
    obtain ⟨k', h⟩ := ih (k.extend a)
    refine ⟨k', fun e => ?_⟩
    rw [← h e, ← extend_fill]
    rfl

theorem exists_closed_fill (k : Context) :
    ∃ front left right back, ∀ e, (k.fill e).closed = front ++ (left ++ e :: right) :: back := by
  cases k with
  | inOpen left right groups =>
    exact ⟨groups, left, right, [], fun e => by simp [fill, Output.closed]⟩
  | inClosed front left right back group =>
    by_cases hg : group.isEmpty = true
    · exact ⟨front, left, right, back, fun e => by simp [fill, Output.closed, hg]⟩
    · exact ⟨front, left, right, back ++ [group], fun e => by simp [fill, Output.closed, hg]⟩

end Context

/-! ## Inside and outside of quotes -/

namespace Tokenizer

variable {t : Tokenizer}

theorem inQuote_finishToken (t : Tokenizer) : t.finishToken.inQuote = t.inQuote :=
  (congrArg Tokenizer.inQuote (finishToken_inQuote t t.inQuote)).trans rfl

theorem buffer_finishToken (t : Tokenizer) : t.finishToken.buffer = "" := by
  rw [finishToken]
  split
  · rfl
  · split <;> rfl

theorem inQuote_feed_quote (t : Tokenizer) : (t.feed '"').inQuote = !t.inQuote := by
  cases hq : t.inQuote with
  | true => rw [feed_quote_close hq]; rfl
  | false =>
    by_cases hb : t.buffer = ""
    · rw [feed_quote_open hq hb]; rfl
    · rw [feed_quote_word hq hb]; rfl

/-- Only a quote opens or closes one. -/
theorem inQuote_feed {c : Char} (hc : c ≠ '"') (t : Tokenizer) :
    (t.feed c).inQuote = t.inQuote := by
  cases hq : t.inQuote with
  | true => rw [feed_literal hq hc]; exact hq
  | false =>
    simp only [feed, hq, hc, Bool.false_and, if_false, Bool.false_eq_true]
    split_ifs
    · exact hq
    · rw [inQuote_finishToken, hq]
    · rfl
    · rfl
    · cases MatchKind.ofSymbol? c with
      | none => exact hq
      | some k => rfl
    · cases MatchKind.ofSymbol? c with
      | none => exact hq
      | some k => exact hq

/-- A quote is open behind an odd number of quotes. -/
theorem inQuote_feedAll (t : Tokenizer) (cs : List Char) :
    (t.feedAll cs).inQuote = true ↔ (t.inQuote = true ↔ Even (cs.count '"')) := by
  induction cs generalizing t with
  | nil => simp [feedAll_nil]
  | cons c cs ih =>
    rw [feedAll_cons, ih]
    by_cases hc : c = '"'
    · rw [hc, inQuote_feed_quote, List.count_cons_self, Nat.even_add_one]
      cases t.inQuote <;> simp
    · rw [inQuote_feed hc, List.count_cons_of_ne hc]

/-- Behind an even number of quotes none is open. -/
theorem inQuote_feedAll_of_even {cs : List Char} (h : Even (cs.count '"')) :
    (({} : Tokenizer).feedAll cs).inQuote = false := by
  simpa [h] using inQuote_feedAll {} cs

theorem buffer_feed_quote (hq : t.inQuote = false) : (t.feed '"').buffer = "" := by
  by_cases hb : t.buffer = ""
  · rw [feed_quote_open hq hb]
    exact hb
  · rw [feed_quote_word hq hb]
    exact buffer_finishToken t

/-- A value between quotes fills a hole in what has been read before it. -/
theorem exists_feedAll_quoted (hq : t.inQuote = false) :
    ∃ (u : Tokenizer) (k : Context) (e : Element), ∀ value : String, value ≠ "" →
      (∀ c ∈ value.toList, c ≠ '"') →
      t.feedAll ('"' :: (value.toList ++ ['"'])) =
        u.withOutput (k.fill { e with text := value }) := by
  have hopen : (t.feed '"').inQuote = true := by rw [inQuote_feed_quote, hq]; rfl
  have hempty := buffer_feed_quote hq
  simp only [feedAll_cons]
  generalize t.feed '"' = v at hopen hempty ⊢
  refine ⟨{ v.finishElement with inQuote := false },
    if v.joining then .inOpen v.group [] v.groups else .inOpen [] [] v.output.closed,
    v.element, fun value hne hvalue => ?_⟩
  have hread : v.feedAll (value.toList ++ ['"']) =
      { { v with buffer := value }.finishElement with inQuote := false } := by
    rw [feedAll_append, feedAll_literal hopen hvalue, hempty, String.ofList_toList,
      String.empty_append]
    exact feed_quote_close (t := { v with buffer := value }) hopen
  rw [hread]
  cases hj : v.joining <;>
    simp [finishElement, finishGroup, withOutput, Context.fill, Output.closed, output, hj, hne]

end Tokenizer

/-- A quote behind an even number of quotes opens a literal, and every value in that literal is the
text of one element.  Which element that is, what else belongs to it and what all other elements are
depends on what stands before and behind the literal alone. -/
theorem parse_quoted_value (before after : String) (hbefore : Even (before.toList.count '"')) :
    ∃ front left, ∃ e : Element, ∃ right back, ∀ value : String,
      value ≠ "" → (∀ c ∈ value.toList, c ≠ '"') →
      Expression.parse (before ++ "\"" ++ value ++ "\"" ++ after) =
        ⟨front ++ (left ++ { e with text := value } :: right) :: back⟩ := by
  have hout : (({} : Tokenizer).feedAll before.toList).inQuote = false := by
    have h := Tokenizer.inQuote_feedAll {} before.toList
    simpa [hbefore] using h
  obtain ⟨u, k, e, hvalue⟩ := Tokenizer.exists_feedAll_quoted hout
  obtain ⟨as, hafter⟩ := Tokenizer.exists_finish_feedAll u after.toList
  obtain ⟨k', hfill⟩ := k.exists_extendAll_fill as
  obtain ⟨front, left, right, back, hclosed⟩ := k'.exists_closed_fill
  refine ⟨front, left, e, right, back, fun value hne hno => ?_⟩
  have htext : (before ++ "\"" ++ value ++ "\"" ++ after).toList =
      before.toList ++ ('"' :: (value.toList ++ ['"'])) ++ after.toList := by
    simp
  rw [Expression.parse, htext, Tokenizer.feedAll_append, Tokenizer.feedAll_append,
    hvalue value hne hno, hafter, hfill, hclosed]

/-- A keyword and a row of operators between the same quotes. -/
theorem parse_quoted_value_artist :
    Even ("\"a b\" x OR -artist:=".toList.count '"') ∧
      ∃ front left, ∃ e : Element, ∃ right back,
        Expression.parse ("\"a b\" x OR -artist:=" ++ "\"" ++ "OR" ++ "\"" ++ "y OR z") =
          ⟨front ++ (left ++ { e with text := "OR" } :: right) :: back⟩ ∧
        Expression.parse ("\"a b\" x OR -artist:=" ++ "\"" ++ " -c:<\n" ++ "\"" ++ "y OR z") =
          ⟨front ++ (left ++ { e with text := " -c:<\n" } :: right) :: back⟩ := by
  have heven : Even ("\"a b\" x OR -artist:=".toList.count '"') := by decide +kernel
  obtain ⟨front, left, e, right, back, h⟩ :=
    parse_quoted_value "\"a b\" x OR -artist:=" "y OR z" heven
  exact ⟨heven, front, left, e, right, back, h "OR" (by decide) (by simp),
    h " -c:<\n" (by decide) (by simp)⟩

end TrackSearch
