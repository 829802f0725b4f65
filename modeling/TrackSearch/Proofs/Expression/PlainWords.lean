/-
Texts without the syntax of expressions.

`usesSyntax` looks for marks and for the letters of keywords anywhere in a text, and the tokenizer
looks at one character at a time.  A text in which the former finds nothing is a plain list of words
for the latter, which is `parse_of_usesSyntax_eq_false`.  The converse fails: `android` has the
letters of a keyword and is one plain word.
-/
import Mathlib.Data.List.Infix
import TrackSearch.Expression.PlainText
import TrackSearch.Proofs.Expression.TokenReading

namespace TrackSearch

open Token Tokenizer

/-! ## Texts free of syntax -/

theorem occursIn_iff {part cs : List Char} : occursIn part cs = true ↔ part <:+: cs := by
  induction cs with
  | nil => rw [occursIn, List.isEmpty_iff, List.infix_nil]
  | cons c cs ih =>
    rw [occursIn, Bool.or_eq_true, List.isPrefixOf_iff_prefix, ih, List.infix_cons_iff]

/-- Whether a text has no mark and no keyword in it, not even inside a word. -/
structure FreeOfSyntax (cs : List Char) : Prop where
  marks : ∀ c ∈ cs, c ≠ '"' ∧ c ≠ ':' ∧ c ≠ '-'
  and : ¬"AND".toList <:+: cs
  or : ¬"OR".toList <:+: cs

theorem FreeOfSyntax.of_infix {cs ds : List Char} (h : FreeOfSyntax cs) (hds : ds <:+: cs) :
    FreeOfSyntax ds where
  marks c hc := h.marks c (hds.subset hc)
  and hand := h.and (hand.trans hds)
  or hor := h.or (hor.trans hds)

/-- Upper-casing a text keeps what is in upper case already. -/
theorem infix_upper {part cs : List Char} (hpart : part.flatMap Text.upperChar = part)
    (h : part <:+: cs) : part <:+: cs.flatMap Text.upperChar := by
  obtain ⟨front, back, rfl⟩ := h
  rw [List.flatMap_append, List.flatMap_append, hpart]
  exact List.infix_append _ _ _

theorem freeOfSyntax_of_usesSyntax {text : String} (h : usesSyntax text = false) :
    FreeOfSyntax text.toList := by
  have hupper : (Text.upper text).toList = text.toList.flatMap Text.upperChar :=
    String.toList_ofList
  rw [usesSyntax, hupper, Bool.or_eq_false_iff, Bool.or_eq_false_iff] at h
  obtain ⟨⟨hmarks, hand⟩, hor⟩ := h
  refine ⟨fun c hc => ?_, fun hinfix => ?_, fun hinfix => ?_⟩
  · have hc := List.any_eq_false.mp hmarks c hc
    simpa [and_assoc] using hc
  · rw [occursIn_iff.mpr (infix_upper (by decide +kernel) hinfix)] at hand
    cases hand
  · rw [occursIn_iff.mpr (infix_upper (by decide +kernel) hinfix)] at hor
    cases hor

/-! ## Words -/

/-- The words of a text: what stands between white space. -/
def words (cs : List Char) : List (List Char) :=
  (cs.splitOnP Text.isBlank).filter fun word => !word.isEmpty

theorem words_of_forall {word : List Char} (h : ∀ c ∈ word, Text.isBlank c = false) :
    words word = if word = [] then [] else [word] := by
  rw [words, List.splitOnP_eq_singleton h]
  by_cases hword : word = [] <;> simp [hword]

theorem words_append_blank {word rest : List Char} {c : Char}
    (h : ∀ d ∈ word, Text.isBlank d = false) (hc : Text.isBlank c = true) :
    words (word ++ c :: rest) = words word ++ words rest := by
  rw [words_of_forall h, words, List.splitOnP_append_cons_of_forall_mem h c hc]
  by_cases hword : word = [] <;> simp [words, hword]

/-- The group that a plain word becomes. -/
def wordGroup (word : List Char) : Group :=
  [{ text := String.ofList word }]

namespace Grouping

/-- Whether some plain words, and nothing else, have been read. -/
structure HasWords (g : Grouping) (done : List (List Char)) : Prop where
  minus : g.minus = false
  keyword : g.keyword = none
  closed : g.closed = done.map wordGroup

/-- The tokenizer inside a plain word, or in front of one if nothing of it has been read. -/
def readingWord (g : Grouping) (word : List Char) : Tokenizer :=
  g.reading { text := String.ofList word } (if word = [] then .start else .field)

variable {g : Grouping} {done : List (List Char)} {word : List Char}

theorem readingWord_nil (g : Grouping) : g.readingWord [] = g.toTokenizer := by
  simp [readingWord, reading, toTokenizer]

theorem readingWord_of_ne_nil (g : Grouping) (hword : word ≠ []) :
    g.readingWord word = g.reading { text := String.ofList word } .field := by
  rw [readingWord, if_neg hword]

theorem HasWords.add (hg : g.HasWords done) (hword : word ≠ []) (hplain : FreeOfSyntax word) :
    (g.add { text := String.ofList word }).HasWords (done ++ [word]) := by
  have hkeyword : Token.keyword? { text := String.ofList word } = none := by
    have hand : String.ofList word ≠ "AND" := by
      intro h
      exact hplain.and (by rw [← h, String.toList_ofList])
    have hor : String.ofList word ≠ "OR" := by
      intro h
      exact hplain.or (by rw [← h, String.toList_ofList])
    simp [keyword?, hand, hor]
  have htext : String.ofList word ≠ "" := by simpa using hword
  rw [Grouping.add, hg.keyword, hkeyword, addValue]
  simp only [hg.keyword, hg.minus, htext, reduceCtorEq, if_false]
  refine ⟨rfl, rfl, ?_⟩
  rw [List.map_append, ← hg.closed]
  rfl

/-- A character of a word only lengthens it. -/
theorem feed_readingWord (g : Grouping) (word : List Char) {c : Char}
    (hblank : Text.isBlank c = false) (hmarks : c ≠ '"' ∧ c ≠ ':' ∧ c ≠ '-') :
    (g.readingWord word).feed c = g.readingWord (word ++ [c]) := by
  obtain ⟨hquote, hcolon, hminus⟩ := hmarks
  have hstage : (g.readingWord word).stage = if word = [] then .start else .field := rfl
  rw [feed_runChar rfl (isRunChar_iff.mpr ⟨hblank, hquote⟩) (fun h => absurd h hminus)
    (fun h => absurd h hcolon) (fun h => by rw [hstage] at h; split at h <;> cases h)]
  rw [pushChar, hstage]
  by_cases hword : word = [] <;>
    simp [readingWord, reading, hword, Stage.beforeColon, String.ofList_append]

theorem feed_blank_readingWord (hg : g.HasWords done) (hplain : FreeOfSyntax word)
    (hword : ∀ c ∈ word, Text.isBlank c = false) {c : Char} (hc : Text.isBlank c = true) :
    ∃ g' : Grouping, (g.readingWord word).feed c = g'.readingWord [] ∧
      g'.HasWords (done ++ words word) := by
  rw [words_of_forall hword]
  by_cases hnil : word = []
  · subst hnil
    refine ⟨g, feed_blank_start rfl rfl hc, ?_⟩
    rwa [if_pos rfl, List.append_nil]
  · refine ⟨g.add { text := String.ofList word }, ?_, ?_⟩
    · rw [readingWord_of_ne_nil g hnil, feed_blank_word rfl Stage.noConfusion hc,
        finishToken_reading g .field rfl fun _ => rfl, readingWord_nil]
    · rw [if_neg hnil]
      exact hg.add hnil hplain

/-- Whatever has been read of a plain text is some words and the beginning of another one. -/
theorem exists_feedAll_readingWord (hg : g.HasWords done)
    (hword : ∀ c ∈ word, Text.isBlank c = false) {cs : List Char}
    (hplain : FreeOfSyntax (word ++ cs)) :
    ∃ (g' : Grouping) (done' : List (List Char)) (word' : List Char),
      (g.readingWord word).feedAll cs = g'.readingWord word' ∧ g'.HasWords done' ∧
        (∀ c ∈ word', Text.isBlank c = false) ∧ FreeOfSyntax word' ∧
        done' ++ words word' = done ++ words (word ++ cs) := by
  induction cs generalizing g done word with
  | nil =>
    rw [List.append_nil] at hplain ⊢
    exact ⟨g, done, word, rfl, hg, hword, hplain, rfl⟩
  | cons c cs ih =>
    rw [feedAll_cons]
    cases hc : Text.isBlank c with
    | true =>
      have hfront : FreeOfSyntax word := hplain.of_infix (List.infix_append [] word _)
      have hback : FreeOfSyntax ([] ++ cs) :=
        hplain.of_infix ((List.suffix_cons c cs).trans (List.suffix_append word _)).isInfix
      obtain ⟨g₁, hfeed, hg₁⟩ := feed_blank_readingWord hg hfront hword hc
      obtain ⟨g', done', word', hread, hg', hword', hplain', hwords⟩ :=
        ih hg₁ (fun d hd => absurd hd List.not_mem_nil) hback
      refine ⟨g', done', word', hfeed ▸ hread, hg', hword', hplain', ?_⟩
      rw [hwords, words_append_blank hword hc, List.append_assoc, List.nil_append]
    | false =>
      have hmarks := hplain.marks c (by simp)
      rw [feed_readingWord g word hc hmarks, List.append_cons word c cs]
      rw [List.append_cons] at hplain
      refine ih hg (fun d hd => ?_) hplain
      rcases List.mem_append.mp hd with hd | hd
      · exact hword d hd
      · rw [List.mem_singleton.mp hd, hc]

theorem finish_readingWord (hg : g.HasWords done) (hplain : FreeOfSyntax word)
    (hword : ∀ c ∈ word, Text.isBlank c = false) :
    (g.readingWord word).finish = ⟨(done ++ words word).map wordGroup⟩ := by
  rw [words_of_forall hword]
  by_cases hnil : word = []
  · subst hnil
    rw [readingWord_nil, finish_toTokenizer, hg.closed, if_pos rfl, List.append_nil]
  · have htakes := takes_reading g (t := { text := String.ofList word }) rfl (fun _ => rfl)
      (show Stage.field ≠ .start from Stage.noConfusion) [] (by simp)
    rw [readingWord_of_ne_nil g hnil, if_neg hnil, ← (hg.add hnil hplain).closed]
    exact htakes.finish_eq.trans (finish_toTokenizer _)

end Grouping

/-- Whether nothing that a tokenizer has read and still knows of is syntax: no quote is open, no
sign, field name or operator waits for a value, and the last token was no keyword. -/
structure Tokenizer.HasNothingPending (t : Tokenizer) : Prop where
  inQuote : t.inQuote = false
  element : t.element = {}
  joining : t.joining = false
  afterKeyword : t.afterKeyword = false

theorem Grouping.HasWords.hasNothingPending {g : Grouping} {done : List (List Char)}
    (hg : g.HasWords done) (word : List Char) : (g.readingWord word).HasNothingPending where
  inQuote := rfl
  element := by simp [readingWord, reading, hg.minus]
  joining := by simp [readingWord, reading, toTokenizer, hg.keyword]
  afterKeyword := by simp [readingWord, reading, toTokenizer, hg.keyword]

/-- A text that does not use syntax is read as its words in order, one plain element and one group to
a word, and at no place of it the tokenizer has met a quote, a sign, a field name, an operator or a
keyword. -/
theorem parse_of_usesSyntax_eq_false {text : String} (h : usesSyntax text = false) :
    Expression.parse text = ⟨(words text.toList).map fun word => [{ text := String.ofList word }]⟩ ∧
      ∀ front, front <+: text.toList → (({} : Tokenizer).feedAll front).HasNothingPending := by
  have hplain := freeOfSyntax_of_usesSyntax h
  have hstart : ({} : Grouping).HasWords [] := ⟨rfl, rfl, rfl⟩
  have hread (cs : List Char) (hcs : FreeOfSyntax ([] ++ cs)) :=
    Grouping.exists_feedAll_readingWord hstart (fun c hc => absurd hc List.not_mem_nil) hcs
  constructor
  · obtain ⟨g, done, word, hfeed, hg, hword, hplain', hwords⟩ := hread text.toList hplain
    rw [List.nil_append, List.nil_append] at hwords
    rw [Expression.parse]
    show (Tokenizer.feedAll (({} : Grouping).readingWord []) text.toList).finish = _
    rw [hfeed, Grouping.finish_readingWord hg hplain' hword, hwords]
    rfl
  · intro front hfront
    obtain ⟨g, done, word, hfeed, hg, -⟩ := hread front (hplain.of_infix hfront.isInfix)
    show (Tokenizer.feedAll (({} : Grouping).readingWord []) front).HasNothingPending
    rw [hfeed]
    exact hg.hasNothingPending word

/-- Operators alone are no syntax, and white space of any kind ends a word. -/
theorem parse_of_usesSyntax_eq_false_operators :
    usesSyntax "<cure \t=live\u30002009 " = false ∧
      Expression.parse "<cure \t=live\u30002009 " =
        ⟨[[{ text := "<cure" }], [{ text := "=live" }], [{ text := "2009" }]]⟩ ∧
      (({} : Tokenizer).feedAll "<cure \t=".toList).HasNothingPending := by
  have hbasic : usesSyntax "<cure \t=live\u30002009 " = false := by decide +kernel
  have hwords : words "<cure \t=live\u30002009 ".toList =
      ["<cure".toList, "=live".toList, "2009".toList] := by decide +kernel
  obtain ⟨hparse, hprefixes⟩ := parse_of_usesSyntax_eq_false hbasic
  rw [hwords] at hparse
  exact ⟨hbasic, hparse, hprefixes _ ⟨"live\u30002009 ".toList, by decide +kernel⟩⟩

end TrackSearch
