/-
What the tokenizer does with one character, case by case, and with a row of characters that only
lengthen its buffer.

Each lemma on `feed` names the state and the class of character it is about, so that no proof beyond
this file has to open `feed` itself.  `Step` puts them together: it lists what a character can do.
-/
import TrackSearch.Proofs.Expression.Token

namespace TrackSearch

open Token

theorem isBlank_quote : Text.isBlank '"' = false := by decide

theorem isRunChar_of_ofSymbol? {c : Char} {k : MatchKind} (h : MatchKind.ofSymbol? c = some k) :
    isRunChar c = true ∧ c ≠ '-' ∧ c ≠ ':' := by
  rw [MatchKind.ofSymbol?_eq_some_iff] at h
  cases k <;> simp only [MatchKind.symbol?, Option.some.injEq, reduceCtorEq] at h <;>
    (subst h; decide)

namespace Tokenizer

variable {t : Tokenizer} {c : Char}

theorem feedAll_nil (t : Tokenizer) : t.feedAll [] = t := rfl

theorem feedAll_cons (t : Tokenizer) (c : Char) (cs : List Char) :
    t.feedAll (c :: cs) = (t.feed c).feedAll cs := rfl

theorem feedAll_append (t : Tokenizer) (as bs : List Char) :
    t.feedAll (as ++ bs) = (t.feedAll as).feedAll bs :=
  List.foldl_append

/-! ## An open quote and the ends of tokens

What ends a token does not look at the quote. -/

theorem finishElement_inQuote (t : Tokenizer) (b : Bool) :
    { t with inQuote := b }.finishElement = { t.finishElement with inQuote := b } := by
  by_cases hj : t.joining = true <;> simp [finishElement, finishGroup, hj]

theorem finishToken_inQuote (t : Tokenizer) (b : Bool) :
    { t with inQuote := b }.finishToken = { t.finishToken with inQuote := b } := by
  have hkey : { t with inQuote := b }.keywordAllowed = t.keywordAllowed := rfl
  rw [finishToken, finishToken, hkey, finishElement_inQuote]
  split
  · rfl
  · split <;> rfl

theorem finish_inQuote (t : Tokenizer) (b : Bool) : { t with inQuote := b }.finish = t.finish := by
  rw [finish, finish, finishToken_inQuote]
  rfl

/-! ## One character -/

theorem feed_literal (hq : t.inQuote = true) (hc : c ≠ '"') :
    t.feed c = { t with buffer := t.buffer.push c } := by
  simp [feed, hq, hc]

theorem feed_quote_close (hq : t.inQuote = true) :
    t.feed '"' = { t.finishElement with inQuote := false } := by
  simp [feed, quote, hq]

theorem feed_quote_open (hq : t.inQuote = false) (hb : t.buffer = "") :
    t.feed '"' = { t with stage := .value, inQuote := true } := by
  simp [feed, quote, hq, hb]

/-- A quote that touches a word ends it. -/
theorem feed_quote_word (hq : t.inQuote = false) (hb : t.buffer ≠ "") :
    t.feed '"' = { t.finishToken with stage := .value, inQuote := true } := by
  simp [feed, quote, hq, hb]

theorem ne_quote_of_isBlank (hc : Text.isBlank c = true) : c ≠ '"' := by
  rintro rfl
  rw [isBlank_quote] at hc
  exact absurd hc Bool.false_ne_true

theorem feed_blank_start (hq : t.inQuote = false) (hs : t.stage = .start)
    (hc : Text.isBlank c = true) : t.feed c = t := by
  simp [feed, hq, hs, hc, ne_quote_of_isBlank hc]

theorem feed_blank_word (hq : t.inQuote = false) (hs : t.stage ≠ .start)
    (hc : Text.isBlank c = true) : t.feed c = t.finishToken := by
  simp [feed, hq, hs, hc, ne_quote_of_isBlank hc]

theorem feed_minus (hq : t.inQuote = false) (hs : t.stage = .start) :
    t.feed '-' = { t with element := { t.element with negate := true }, stage := .field } := by
  have hb : Text.isBlank '-' = false := by decide
  simp [feed, hq, hs, hb]

theorem feed_colon (hq : t.inQuote = false) (hs : t.stage.beforeColon = true)
    (hb : t.buffer ≠ "") :
    t.feed ':' =
      { t with element := { t.element with field := t.buffer }, buffer := "", stage := .operator } := by
  have hblank : Text.isBlank ':' = false := by decide
  simp [feed, hq, hs, hb, hblank]

theorem feed_operator {k : MatchKind} (hq : t.inQuote = false) (hs : t.stage = .operator)
    (hk : MatchKind.ofSymbol? c = some k) :
    t.feed c = { t with element := { t.element with matchKind := k }, stage := .value } := by
  obtain ⟨hrun, hminus, hcolon⟩ := isRunChar_of_ofSymbol? hk
  obtain ⟨hblank, hquote⟩ := isRunChar_iff.mp hrun
  simp [feed, hq, hs, hk, hminus, hcolon, hblank, hquote]

/-- The characters that lengthen the word outside a quote: those of a run, less a sign at the start,
a colon behind a possible field name and an operator behind a colon. -/
theorem feed_runChar (hq : t.inQuote = false) (hc : isRunChar c = true)
    (hminus : c = '-' → t.stage ≠ .start)
    (hcolon : c = ':' → t.stage.beforeColon = true → t.buffer = "")
    (hoperator : t.stage = .operator → MatchKind.ofSymbol? c = none) :
    t.feed c = t.pushChar c := by
  obtain ⟨hblank, hquote⟩ := isRunChar_iff.mp hc
  have h₁ : ¬(c = '-' ∧ t.stage = .start) := fun h => hminus h.1 h.2
  have h₂ : ¬(c = ':' ∧ t.stage.beforeColon = true ∧ t.buffer.isEmpty = false) := by
    rintro ⟨hc, hs, hb⟩
    rw [hcolon hc hs] at hb
    exact absurd hb (by decide)
  rw [feed, if_neg (by simp [hq]), if_neg hquote, if_neg (by simp [hblank]), if_neg h₁, if_neg h₂]
  cases hk : MatchKind.ofSymbol? c with
  | none => rfl
  | some k =>
    have hs : t.stage ≠ .operator := fun hs => by simp [hoperator hs] at hk
    exact if_neg hs

theorem feed_value (hq : t.inQuote = false) (hs : t.stage = .value) (hc : isRunChar c = true) :
    t.feed c = { t with buffer := t.buffer.push c } := by
  rw [feed_runChar hq hc (by simp [hs]) (by simp [hs, Stage.beforeColon]) (by simp [hs])]
  simp [pushChar, hs, Stage.beforeColon]

theorem feed_field (hq : t.inQuote = false) (hs : t.stage = .field) (hc : isRunChar c = true)
    (hcolon : c ≠ ':') : t.feed c = { t with buffer := t.buffer.push c } := by
  rw [feed_runChar hq hc (by simp [hs]) (fun h => absurd h hcolon) (by simp [hs])]
  simp [pushChar, hs, Stage.beforeColon]

/-! ## Steps -/

/-- What a character can do to the state, and when it does so. -/
inductive Step (t : Tokenizer) : Char → Tokenizer → Prop
  | literal {c : Char} (hq : t.inQuote = true) (hc : c ≠ '"') :
      Step t c { t with buffer := t.buffer.push c }
  | closeQuote (hq : t.inQuote = true) : Step t '"' { t.finishElement with inQuote := false }
  | openQuote (hq : t.inQuote = false) (hb : t.buffer = "") :
      Step t '"' { t with stage := .value, inQuote := true }
  | openQuoteBehindWord (hq : t.inQuote = false) (hb : t.buffer ≠ "") :
      Step t '"' { t.finishToken with stage := .value, inQuote := true }
  | skipBlank {c : Char} (hq : t.inQuote = false) (hc : Text.isBlank c = true)
      (hs : t.stage = .start) : Step t c t
  | endToken {c : Char} (hq : t.inQuote = false) (hc : Text.isBlank c = true)
      (hs : t.stage ≠ .start) : Step t c t.finishToken
  | minus (hq : t.inQuote = false) (hs : t.stage = .start) :
      Step t '-' { t with element := { t.element with negate := true }, stage := .field }
  | colon (hq : t.inQuote = false) (hs : t.stage.beforeColon = true) (hb : t.buffer ≠ "") :
      Step t ':'
        { t with element := { t.element with field := t.buffer }, buffer := "", stage := .operator }
  | operator {c : Char} {k : MatchKind} (hq : t.inQuote = false) (hs : t.stage = .operator)
      (hk : MatchKind.ofSymbol? c = some k) :
      Step t c { t with element := { t.element with matchKind := k }, stage := .value }
  | push {c : Char} (hq : t.inQuote = false) (hc : isRunChar c = true)
      (hminus : c = '-' → t.stage ≠ .start)
      (hcolon : c = ':' → t.stage.beforeColon = true → t.buffer = "")
      (hoperator : t.stage = .operator → MatchKind.ofSymbol? c = none) :
      Step t c (t.pushChar c)

theorem step_feed_run (hq : t.inQuote = false) (hc : isRunChar c = true) : Step t c (t.feed c) := by
  by_cases hminus : c = '-' ∧ t.stage = .start
  · obtain ⟨rfl, hs⟩ := hminus
    rw [feed_minus hq hs]
    exact .minus hq hs
  by_cases hcolon : c = ':' ∧ t.stage.beforeColon = true ∧ t.buffer ≠ ""
  · obtain ⟨rfl, hs, hb⟩ := hcolon
    rw [feed_colon hq hs hb]
    exact .colon hq hs hb
  by_cases hoperator : t.stage = .operator ∧ ∃ k, MatchKind.ofSymbol? c = some k
  · obtain ⟨hs, k, hk⟩ := hoperator
    rw [feed_operator hq hs hk]
    exact .operator hq hs hk
  have hminus : c = '-' → t.stage ≠ .start := fun hc hs => hminus ⟨hc, hs⟩
  have hcolon : c = ':' → t.stage.beforeColon = true → t.buffer = "" :=
    fun hc hs => not_not.mp fun hb => hcolon ⟨hc, hs, hb⟩
  have hoperator : t.stage = .operator → MatchKind.ofSymbol? c = none :=
    fun hs => Option.eq_none_iff_forall_ne_some.mpr fun k hk => hoperator ⟨hs, k, hk⟩
  rw [feed_runChar hq hc hminus hcolon hoperator]
  exact .push hq hc hminus hcolon hoperator

theorem step_feed (t : Tokenizer) (c : Char) : Step t c (t.feed c) := by
  cases hq : t.inQuote with
  | true =>
    by_cases hc : c = '"'
    · subst hc
      rw [feed_quote_close hq]
      exact .closeQuote hq
    · rw [feed_literal hq hc]
      exact .literal hq hc
  | false =>
    by_cases hc : c = '"'
    · subst hc
      by_cases hb : t.buffer = ""
      · rw [feed_quote_open hq hb]
        exact .openQuote hq hb
      · rw [feed_quote_word hq hb]
        exact .openQuoteBehindWord hq hb
    · cases hblank : Text.isBlank c with
      | true =>
        by_cases hs : t.stage = .start
        · rw [feed_blank_start hq hs hblank]
          exact .skipBlank hq hblank hs
        · rw [feed_blank_word hq hs hblank]
          exact .endToken hq hblank hs
      | false => exact step_feed_run hq (isRunChar_iff.mpr ⟨hblank, hc⟩)

/-! ## Rows of characters that lengthen the buffer -/

/-- A property of characters that makes `feed` push them, whatever is in the buffer, makes
`feedAll` append them. -/
theorem feedAll_of_push {p : Char → Prop} {t : Tokenizer}
    (h : ∀ (b : String) (c : Char), p c →
      { t with buffer := b }.feed c = { t with buffer := b.push c }) :
    ∀ (b : String) (cs : List Char), (∀ c ∈ cs, p c) →
      { t with buffer := b }.feedAll cs = { t with buffer := b ++ String.ofList cs } := by
  intro b cs
  induction cs generalizing b with
  | nil => intro _; simp [feedAll_nil]
  | cons c cs ih =>
    intro hp
    rw [feedAll_cons, h b c (hp c List.mem_cons_self),
      ih (b.push c) (fun d hd => hp d (List.mem_cons_of_mem c hd))]
    congr 1
    apply String.toList_injective
    simp

theorem feedAll_literal (hq : t.inQuote = true) {cs : List Char} (hcs : ∀ c ∈ cs, c ≠ '"') :
    t.feedAll cs = { t with buffer := t.buffer ++ String.ofList cs } :=
  feedAll_of_push (t := t) (fun _ _ hc => feed_literal hq hc) t.buffer cs hcs

theorem feedAll_value (hq : t.inQuote = false) (hs : t.stage = .value) {cs : List Char}
    (hcs : ∀ c ∈ cs, isRunChar c = true) :
    t.feedAll cs = { t with buffer := t.buffer ++ String.ofList cs } :=
  feedAll_of_push (t := t)
    (fun b _ hc => feed_value (t := { t with buffer := b }) hq hs hc) t.buffer cs hcs

theorem feedAll_field (hq : t.inQuote = false) (hs : t.stage = .field) {cs : List Char}
    (hcs : ∀ c ∈ cs, isRunChar c = true ∧ c ≠ ':') :
    t.feedAll cs = { t with buffer := t.buffer ++ String.ofList cs } :=
  feedAll_of_push (t := t)
    (fun b _ hc => feed_field (t := { t with buffer := b }) hq hs hc.1 hc.2) t.buffer cs hcs

end Tokenizer
end TrackSearch
