/-
What becomes of a minus sign.

A sign belongs to the value that it stands in front of, and to no other.  A keyword is no value, and
the tokenizer keeps the sign of a keyword for the next value: `pending_sign` says so for every text,
and `pending_sign_keyword` shows a value that is negated without a sign of its own.
-/
import Mathlib.Data.List.Induction
import TrackSearch.Proofs.Expression.WellFormed

namespace TrackSearch

namespace Token

/-- Whether the last of some tokens is a keyword.  A keyword behind a keyword is a value. -/
def endInKeyword (ts : List Token) : Bool :=
  ts.foldl (fun behindKeyword t => !behindKeyword && t.keyword?.isSome) false

/-- Whether the last of some tokens is a keyword with a sign in front of it. -/
def endInSignedKeyword (ts : List Token) : Bool :=
  endInKeyword ts && ts.getLast?.any (·.minus)

theorem endInKeyword_concat (ts : List Token) (t : Token) :
    endInKeyword (ts ++ [t]) = (!endInKeyword ts && t.keyword?.isSome) :=
  List.foldl_append

theorem endInSignedKeyword_concat (ts : List Token) (t : Token) :
    endInSignedKeyword (ts ++ [t]) = (!endInKeyword ts && t.keyword?.isSome && t.minus) := by
  rw [endInSignedKeyword, endInKeyword_concat, List.getLast?_concat, Option.any_some]

/-- The element of a token behind some others.  A keyword has none, and neither has a value that is
empty; a value is negated by its own sign or by that of the keyword in front of it. -/
def elementBehind (front : List Token) (t : Token) : List Element :=
  if (!endInKeyword front && t.keyword?.isSome) = true ∨ t.text = "" then []
  else [{ t.element with negate := endInSignedKeyword front || t.minus }]

def elementsBehind (front : List Token) : List Token → List Element
  | [] => []
  | t :: ts => elementBehind front t ++ elementsBehind (front ++ [t]) ts

end Token

open Token

namespace Grouping

def elements (g : Grouping) : List Element :=
  g.groups.flatten ++ g.group

theorem flatten_closed (g : Grouping) : g.closed.flatten = g.elements := by
  rw [closed, elements]
  by_cases hg : g.group = [] <;> simp [hg]

/-- A keyword keeps its sign, and that of no one else, for what comes next. -/
theorem add_of_keyword {g : Grouping} {t : Token} (hg : g.keyword = none)
    (ht : t.keyword?.isSome = true) :
    (g.add t).keyword.isSome = true ∧ (g.add t).minus = (g.minus || t.minus) ∧
      (g.add t).elements = g.elements := by
  obtain ⟨k, hk⟩ := Option.isSome_iff_exists.mp ht
  rw [add, hg, hk]
  cases k with
  | and => exact ⟨rfl, rfl, by simp [elements, flatten_closed]⟩
  | or => exact ⟨rfl, rfl, rfl⟩

/-- A value takes the sign that has been kept, and nothing is kept behind it. -/
theorem add_of_value {g : Grouping} {t : Token}
    (h : (g.keyword.isNone && t.keyword?.isSome) = false) :
    (g.add t).keyword.isSome = false ∧ (g.add t).minus = false ∧
      (g.add t).elements = g.elements ++
        if t.text = "" then [] else [{ t.element with negate := g.minus || t.minus }] := by
  have hadd : g.add t = g.addValue t := by
    rw [add]
    cases hg : g.keyword with
    | some k => rfl
    | none =>
      cases ht : t.keyword? with
      | none => rfl
      | some k => simp [hg, ht] at h
  rw [hadd, addValue]
  by_cases hor : g.keyword = some .or
  · rw [if_pos hor]
    exact ⟨rfl, rfl, by simp [elements, element]⟩
  · rw [if_neg hor]
    exact ⟨rfl, rfl, by simp [elements, flatten_closed, element]⟩

/-! ## Rows of tokens -/

/-- What some tokens leave behind: whether the last one was a keyword, and whether that keyword had
a sign. -/
theorem keyword_and_minus_foldl_add (ts : List Token) :
    (ts.foldl add {}).keyword.isSome = endInKeyword ts ∧
      (ts.foldl add {}).minus = endInSignedKeyword ts := by
  induction ts using List.reverseRecOn with
  | nil => exact ⟨rfl, rfl⟩
  | append_singleton ts t ih =>
    obtain ⟨hkeyword, hminus⟩ := ih
    rw [List.foldl_append, List.foldl_cons, List.foldl_nil, endInKeyword_concat,
      endInSignedKeyword_concat]
    generalize ts.foldl add {} = g at hkeyword hminus ⊢
    cases hvalue : g.keyword.isNone && t.keyword?.isSome with
    | true =>
      obtain ⟨hnone, ht⟩ := Bool.and_eq_true_iff.mp hvalue
      have hg : g.keyword = none := Option.isNone_iff_eq_none.mp hnone
      obtain ⟨hsome, hsign, -⟩ := add_of_keyword hg ht
      have hts : endInKeyword ts = false := by rw [← hkeyword, hg]; rfl
      have hg' : g.minus = false := by rw [hminus, endInSignedKeyword, hts, Bool.false_and]
      rw [hsome, hsign, hts, ht, hg']
      exact ⟨rfl, rfl⟩
    | false =>
      obtain ⟨hnone, hsign, -⟩ := add_of_value hvalue
      have hts : (!endInKeyword ts && t.keyword?.isSome) = false := by
        rw [← hkeyword, Option.not_isSome]
        exact hvalue
      rw [hnone, hsign, hts]
      exact ⟨rfl, rfl⟩

/-- The elements of a row of tokens, in order, when other tokens stand in front of it. -/
theorem elements_foldl_add (front ts : List Token) :
    ((front ++ ts).foldl add {}).elements =
      (front.foldl add {}).elements ++ elementsBehind front ts := by
  induction ts generalizing front with
  | nil => rw [elementsBehind, List.append_nil, List.append_nil]
  | cons t ts ih =>
    obtain ⟨hkeyword, hminus⟩ := keyword_and_minus_foldl_add front
    have hstep : ((front ++ [t]).foldl add {}).elements =
        (front.foldl add {}).elements ++ elementBehind front t := by
      rw [List.foldl_append, List.foldl_cons, List.foldl_nil, elementBehind, ← hkeyword, ← hminus,
        Option.not_isSome]
      cases hvalue : (front.foldl add {}).keyword.isNone && t.keyword?.isSome with
      | true =>
        obtain ⟨hnone, ht⟩ := Bool.and_eq_true_iff.mp hvalue
        rw [(add_of_keyword (Option.isNone_iff_eq_none.mp hnone) ht).2.2, if_pos (Or.inl rfl),
          List.append_nil]
      | false =>
        rw [(add_of_value hvalue).2.2]
        simp only [Bool.false_eq_true, false_or]
    rw [List.append_cons, ih, hstep, elementsBehind, List.append_assoc]

end Grouping

/-- Behind white space outside a quote nothing is known of the next value but a sign, and that only
if the last token is a keyword with a sign in front of it.  So a value is negated if and only if it
has a sign of its own or stands directly behind a keyword that has one. -/
theorem pending_sign (text : String) :
    (∀ w, Text.isBlank w = true → (({} : Tokenizer).feedAll text.toList).inQuote = false →
      ((({} : Tokenizer).feedAll text.toList).feed w).buffer = "" ∧
        ((({} : Tokenizer).feedAll text.toList).feed w).element =
          { negate := endInSignedKeyword (tokens text.toList) }) ∧
      (Expression.parse text).elements = elementsBehind [] (tokens text.toList) := by
  constructor
  · intro w hw hq
    have hstate := Grouping.feed_blank_feedAll_toTokenizer {} text.toList hw hq
    have hminus := (Grouping.keyword_and_minus_foldl_add (tokens text.toList)).2
    have hstart : (({} : Grouping).toTokenizer) = {} := rfl
    rw [hstart] at hstate
    rw [hstate, ← hminus]
    exact ⟨rfl, rfl⟩
  · have hparse : Expression.parse text = ⟨((tokens text.toList).foldl Grouping.add {}).closed⟩ :=
      Grouping.finish_feedAll_toTokenizer {} text.toList
    rw [hparse, Expression.elements, Grouping.flatten_closed]
    exact Grouping.elements_foldl_add [] (tokens text.toList)

/-- The sign of a value is gone behind it. -/
theorem pending_sign_live :
    Text.isBlank ' ' = true ∧ (({} : Tokenizer).feedAll "x OR -live".toList).inQuote = false ∧
      ((({} : Tokenizer).feedAll "x OR -live".toList).feed ' ').element = {} := by
  have hblank : Text.isBlank ' ' = true := by decide
  have hquote : (({} : Tokenizer).feedAll "x OR -live".toList).inQuote = false := by
    decide +kernel
  have hkeyword : endInSignedKeyword (tokens "x OR -live".toList) = false := by decide +kernel
  have hpending := ((pending_sign "x OR -live").1 ' ' hblank hquote).2
  rw [hkeyword] at hpending
  exact ⟨hblank, hquote, hpending⟩

/-- The sign of a keyword is kept, and negates a value that has none. -/
theorem pending_sign_keyword :
    (({} : Tokenizer).feedAll "-AND".toList).inQuote = false ∧
      ((({} : Tokenizer).feedAll "-AND".toList).feed ' ').element ≠ {} ∧
      Expression.parse "-AND x" = ⟨[[{ text := "x", negate := true }]]⟩ := by
  decide +kernel

end TrackSearch
