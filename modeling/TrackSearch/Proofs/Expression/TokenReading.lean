/-
The tokenizer reads the tokens of a text.

Between two tokens the tokenizer is in a state `g.toTokenizer` that holds the groups so far and
nothing else.  `feedAll_run` says what a run does to such a state, `takes_read` what a whole token
does, and `finish_feedAll_toTokenizer` what the whole text does.
-/
import TrackSearch.Proofs.Expression.Feed

namespace TrackSearch

open Token Tokenizer

namespace Grouping

/-- The tokenizer between two tokens. -/
def toTokenizer (g : Grouping) : Tokenizer where
  element := { negate := g.minus }
  joining := g.keyword == some .or
  afterKeyword := g.keyword.isSome
  group := g.group
  groups := g.groups

/-- The tokenizer inside a token, when `t` is what it has read of it. -/
def reading (g : Grouping) (t : Token) (s : Stage) : Tokenizer :=
  { g.toTokenizer with
    stage := s
    buffer := t.text
    element := { field := t.field, negate := g.minus || t.minus, matchKind := t.matchKind } }

/-! ## The end of a token -/

theorem finish_toTokenizer (g : Grouping) : g.toTokenizer.finish = ⟨g.closed⟩ := by
  have hw : g.toTokenizer.finishToken = g.toTokenizer.finishElement := by
    simp [finishToken, toTokenizer]
  rw [finish, hw]
  by_cases hk : g.keyword = some .or <;> by_cases hg : g.group = [] <;>
    simp [finishElement, finishGroup, toTokenizer, closed, hk, hg]

theorem finishElement_reading (g : Grouping) (t : Token) (s : Stage) :
    (g.reading t s).finishElement = (g.addValue t).toTokenizer := by
  by_cases hk : g.keyword = some .or <;> by_cases ht : t.text = "" <;>
    simp [finishElement, finishGroup, reading, toTokenizer, addValue, closed, hk, ht]

theorem keyword?_of_quoted {t : Token} (hq : t.quoted = true) : t.keyword? = none := by
  simp [keyword?, hq]

theorem keywordAllowed_reading (g : Grouping) (t : Token) (s : Stage) :
    (g.reading t s).keywordAllowed = (g.keyword.isNone && t.field.isEmpty) := by
  rcases g with ⟨minus, _ | _ | _, group, groups⟩ <;> rfl

theorem finishToken_reading (g : Grouping) {t : Token} (s : Stage) (hq : t.quoted = false)
    (hk : t.field = "" → t.matchKind = .contains) :
    (g.reading t s).finishToken = (g.add t).toTokenizer := by
  have hbuffer : (g.reading t s).buffer = t.text := rfl
  rw [finishToken, keywordAllowed_reading, hbuffer, finishElement_reading, add]
  cases hkey : g.keyword with
  | some k => simp
  | none =>
    by_cases hf : t.field = ""
    · have hmk := hk hf
      by_cases hand : t.text = "AND"
      · simp [keyword?, hq, hf, hand, finishGroup, reading, toTokenizer, closed, hkey, hmk]
      · by_cases hor : t.text = "OR"
        · simp [keyword?, hq, hf, hor, reading, toTokenizer, hkey, hmk]
        · simp [keyword?, hq, hf, hand, hor]
    · simp [keyword?, hf]

/-- Whether a tokenizer has taken a token and then `rest`, or has been stopped inside the token by
the end of the text. -/
def Takes (g : Grouping) (t : Token) (rest : List Char) (u : Tokenizer) : Prop :=
  u = (g.add t).toTokenizer.feedAll rest ∨
    rest = [] ∧ t.quoted = false ∧ (t.field = "" → t.matchKind = .contains) ∧
      ∃ s b, s ≠ .start ∧ u = { g.reading t s with inQuote := b }

/-- At the end of the text the tokenizer may be taken to be behind the token. -/
theorem Takes.finish_eq {g : Grouping} {t : Token} {rest : List Char} {u : Tokenizer}
    (h : g.Takes t rest u) : u.finish = ((g.add t).toTokenizer.feedAll rest).finish := by
  rcases h with rfl | ⟨rfl, hq, hk, s, b, -, rfl⟩
  · rfl
  · rw [finish_inQuote, finish, finishToken_reading g s hq hk, feedAll_nil, finish_toTokenizer]
    rfl

/-- A token that is not pushed further, because the text ends, white space comes or a quote touches
its word, is read as it is. -/
theorem takes_reading (g : Grouping) {t : Token} {s : Stage} (hq : t.quoted = false)
    (hk : t.field = "" → t.matchKind = .contains) (hs : s ≠ .start) (rest : List Char)
    (hrest : ∀ c ∈ rest.head?, Text.isBlank c = true ∨ (c = '"' ∧ t.text ≠ "")) :
    g.Takes t rest ((g.reading t s).feedAll rest) := by
  cases rest with
  | nil => exact Or.inr ⟨rfl, hq, hk, s, false, hs, rfl⟩
  | cons c rest =>
    have hend := finishToken_reading g s hq hk
    refine Or.inl ?_
    rw [feedAll_cons, feedAll_cons]
    rcases hrest c rfl with hblank | ⟨rfl, htext⟩
    · rw [feed_blank_word rfl hs hblank, feed_blank_start rfl rfl hblank, hend]
    · rw [feed_quote_word rfl htext, feed_quote_open rfl rfl, hend]

/-! ## Literals -/

theorem feedAll_literal_reading (g : Grouping) {t : Token} (s : Stage) (ht : t.text = "")
    {literal : List Char} (hl : ∀ c ∈ literal, c ≠ '"') :
    (g.reading t s).feedAll ('"' :: literal) =
      { g.reading { t with text := String.ofList literal } .value with inQuote := true } := by
  rw [feedAll_cons, feed_quote_open rfl ht, feedAll_literal rfl hl]
  simp [reading, ht]

theorem takes_readLiteral (g : Grouping) {t : Token} (s : Stage) (hq : t.quoted = false)
    (hk : t.field = "" → t.matchKind = .contains) (ht : t.text = "") (cs : List Char) :
    g.Takes (t.readLiteral cs).1 (t.readLiteral cs).2 ((g.reading t s).feedAll ('"' :: cs)) := by
  rcases forall_ne_or_exists_eq '"' cs with hl | ⟨literal, rest, rfl, hl⟩
  · rw [feedAll_literal_reading g s ht hl, readLiteral_of_forall t hl]
    exact Or.inr ⟨rfl, hq, hk, .value, true, Stage.noConfusion, rfl⟩
  · have hend := finishElement_reading g { t with text := String.ofList literal } .value
    have hvalue : g.add { t with text := String.ofList literal, quoted := true } =
        g.addValue { t with text := String.ofList literal } := by
      rw [add, keyword?_of_quoted rfl]
      cases g.keyword <;> rfl
    refine Or.inl ?_
    rw [← List.cons_append, feedAll_append, feedAll_literal_reading g s ht hl, feedAll_cons,
      feed_quote_close rfl, finishElement_inQuote, hend, readLiteral_append_quote t hl, hvalue]
    rfl

/-! ## Runs -/

/-- The stage behind the sign of a token, if it has one. -/
def stageBehind (minus : Bool) : Stage :=
  if minus then .field else .start

theorem feedAll_splitMinus (g : Grouping) (cs : List Char) :
    g.toTokenizer.feedAll cs =
      (g.reading { minus := (splitMinus cs).1 } (stageBehind (splitMinus cs).1)).feedAll
        (splitMinus cs).2 := by
  have hnone : g.toTokenizer = g.reading {} .start := by simp [reading, toTokenizer]
  cases cs with
  | nil => exact hnone
  | cons c cs =>
    by_cases hc : c = '-'
    · subst hc
      rw [splitMinus, if_pos rfl, feedAll_cons, feed_minus rfl rfl]
      simp [reading, toTokenizer, stageBehind]
    · rw [splitMinus, if_neg hc, hnone]
      rfl

/-- The first character of a run is pushed, even a colon. -/
theorem feed_first (g : Grouping) (minus : Bool) {c : Char} (hc : isRunChar c = true)
    (hm : c = '-' → minus = true) :
    (g.reading { minus } (stageBehind minus)).feed c =
      g.reading { minus, text := String.singleton c } .field := by
  rw [feed_runChar rfl hc]
  · cases minus <;> simp [pushChar, reading, stageBehind, Stage.beforeColon]
  · intro h
    rw [hm h]
    exact Stage.noConfusion
  · intro _ _
    rfl
  · intro h
    cases minus <;> exact Stage.noConfusion h

theorem feedAll_operator (g : Grouping) (minus : Bool) (field : String) {cs : List Char}
    (hcs : ∀ c ∈ cs, isRunChar c = true) :
    ∃ s, s ≠ .start ∧ (g.reading { minus, field } .operator).feedAll cs =
      g.reading { minus, field, matchKind := (splitOperator cs).1,
                  text := String.ofList (splitOperator cs).2 } s := by
  cases cs with
  | nil => exact ⟨.operator, Stage.noConfusion, rfl⟩
  | cons c cs =>
    have hc := hcs c List.mem_cons_self
    have hrest : ∀ d ∈ cs, isRunChar d = true := fun d hd => hcs d (List.mem_cons_of_mem c hd)
    refine ⟨.value, Stage.noConfusion, ?_⟩
    rw [feedAll_cons, splitOperator]
    cases hk : MatchKind.ofSymbol? c with
    | some k =>
      rw [feed_operator rfl rfl hk, feedAll_value rfl rfl hrest]
      simp [reading]
    | none =>
      rw [feed_runChar rfl hc (fun _ => Stage.noConfusion) (fun _ h => Bool.noConfusion h)
        (fun _ => hk), feedAll_value rfl rfl hrest]
      simp [reading, pushChar, Stage.beforeColon]

/-- A run is read as its field name, its operator and its word. -/
theorem feedAll_run (g : Grouping) (minus : Bool) {run : List Char}
    (hrun : ∀ c ∈ run, isRunChar c = true) (hm : run.head? = some '-' → minus = true) :
    ∃ s, (s = .start → minus = false ∧ run = []) ∧
      (g.reading { minus } (stageBehind minus)).feedAll run = g.reading (ofRun minus run) s := by
  cases run with
  | nil =>
    refine ⟨stageBehind minus, fun h => ⟨?_, rfl⟩, ?_⟩
    · cases minus
      · rfl
      · exact Stage.noConfusion h
    · rw [ofRun_nil]
      rfl
  | cons c cs =>
    have hc := hrun c List.mem_cons_self
    have hcs : ∀ d ∈ cs, isRunChar d = true := fun d hd => hrun d (List.mem_cons_of_mem c hd)
    have hfirst := feed_first g minus hc (fun h => hm (by rw [h]; rfl))
    rw [feedAll_cons, hfirst]
    rcases forall_ne_or_exists_eq ':' cs with hne | ⟨name, rest, rfl, hne⟩
    · refine ⟨.field, fun h => Stage.noConfusion h, ?_⟩
      rw [feedAll_field rfl rfl (fun d hd => ⟨hcs d hd, hne d hd⟩), ofRun_of_forall minus hne]
      simp [reading, String.ofList_cons]
    · have hname : ∀ d ∈ name, isRunChar d = true ∧ d ≠ ':' :=
        fun d hd => ⟨hcs d (List.mem_append_left _ hd), hne d hd⟩
      have hrest : ∀ d ∈ rest, isRunChar d = true :=
        fun d hd => hcs d (List.mem_append_right _ (List.mem_cons_of_mem _ hd))
      obtain ⟨s, hs, hop⟩ := feedAll_operator g minus (String.ofList (c :: name)) hrest
      refine ⟨s, fun h => absurd h hs, ?_⟩
      have hbuffer : String.singleton c ++ String.ofList name ≠ "" := by simp
      rw [feedAll_append, feedAll_field rfl rfl hname, feedAll_cons, feed_colon rfl rfl hbuffer,
        ofRun_append_colon minus hne, ← hop]
      simp [reading, String.ofList_cons]

/-! ## Whole tokens and whole texts -/

/-- One token: between two tokens the tokenizer takes the next one. -/
theorem takes_read (g : Grouping) {c : Char} {cs : List Char} (hc : Text.isBlank c = false) :
    g.Takes (Token.read (c :: cs)).1 (Token.read (c :: cs)).2 (g.toTokenizer.feedAll (c :: cs)) := by
  have hsign := splitMinus_cons c cs
  rw [feedAll_splitMinus, Token.read]
  generalize splitMinus (c :: cs) = body at hsign ⊢
  obtain ⟨minus, body⟩ := body
  show g.Takes (readBody minus body).1 (readBody minus body).2
    ((g.reading { minus } (stageBehind minus)).feedAll body)
  have hminus : body.head? = some '-' → minus = true := by
    intro h
    rcases hsign with hs | ⟨hs, hne⟩
    · exact hs
    · cases hs
      exact absurd (Option.some.inj h) hne
  rcases forall_or_exists_first isRunChar body with hrun | ⟨run, d, rest, rfl, hrun, hd⟩
  · obtain ⟨s, hs, hfeed⟩ := feedAll_run g minus hrun hminus
    have hstart : s ≠ .start := by
      intro h
      obtain ⟨rfl, rfl⟩ := hs h
      rcases hsign with hs | ⟨hs, -⟩ <;> cases hs
    rw [readBody_of_forall minus hrun, hfeed]
    exact takes_reading g rfl matchKind_ofRun hstart [] (by simp)
  · have hm : run.head? = some '-' → minus = true := by
      intro h
      refine hminus ?_
      rw [List.head?_append, h]
      rfl
    obtain ⟨s, hs, hfeed⟩ := feedAll_run g minus hrun hm
    rw [feedAll_append, hfeed, readBody_append_cons minus hrun hd]
    by_cases hquote : d = '"' ∧ (ofRun minus run).text = ""
    · obtain ⟨rfl, htext⟩ := hquote
      rw [if_pos ⟨rfl, htext⟩]
      exact takes_readLiteral g s rfl matchKind_ofRun htext rest
    · rw [if_neg hquote]
      have hstart : s ≠ .start := by
        intro h
        obtain ⟨rfl, rfl⟩ := hs h
        rcases hsign with hs | ⟨hs, -⟩
        · cases hs
        · -- Without a sign and a run the token begins with `d`, which is then a quote.
          cases hs
          refine hquote ⟨?_, by rw [ofRun_nil]⟩
          by_contra hne
          rw [isRunChar_iff.mpr ⟨hc, hne⟩] at hd
          cases hd
      refine takes_reading g rfl matchKind_ofRun hstart (d :: rest) ?_
      intro e he
      obtain rfl : d = e := Option.some.inj he
      by_cases hblank : Text.isBlank d = true
      · exact Or.inl hblank
      · have hd' : d = '"' := by
          by_contra hne
          rw [isRunChar_iff.mpr ⟨Bool.eq_false_iff.mpr hblank, hne⟩] at hd
          cases hd
        exact Or.inr ⟨hd', fun htext => hquote ⟨hd', htext⟩⟩

theorem feedAll_dropWhile_isBlank (g : Grouping) (cs : List Char) :
    g.toTokenizer.feedAll cs = g.toTokenizer.feedAll (cs.dropWhile Text.isBlank) := by
  induction cs with
  | nil => rfl
  | cons c cs ih =>
    rw [List.dropWhile_cons]
    split
    · next hc => rw [feedAll_cons, feed_blank_start rfl rfl hc, ih]
    · rfl

/-- The whole text: from between two tokens the tokenizer adds the tokens of the text. -/
theorem finish_feedAll_toTokenizer (g : Grouping) (cs : List Char) :
    (g.toTokenizer.feedAll cs).finish = ⟨((tokens cs).foldl add g).closed⟩ := by
  induction cs using tokens.induct generalizing g with
  | case1 cs h =>
    rw [feedAll_dropWhile_isBlank, h, tokens_of_nil h]
    exact finish_toTokenizer g
  | case2 cs c rest h ih =>
    rw [feedAll_dropWhile_isBlank, h, tokens_of_cons h,
      (takes_read g (eq_false_of_dropWhile_eq_cons h)).finish_eq, ih, List.foldl_cons]

/-- White space outside a quote leads to between two tokens. -/
theorem feed_blank_feedAll_toTokenizer (g : Grouping) (cs : List Char) {w : Char}
    (hw : Text.isBlank w = true) (hq : (g.toTokenizer.feedAll cs).inQuote = false) :
    (g.toTokenizer.feedAll cs).feed w = ((tokens cs).foldl add g).toTokenizer := by
  induction cs using tokens.induct generalizing g with
  | case1 cs h =>
    rw [feedAll_dropWhile_isBlank, h, tokens_of_nil h]
    exact feed_blank_start rfl rfl hw
  | case2 cs c rest h ih =>
    rw [feedAll_dropWhile_isBlank, h] at hq ⊢
    rw [tokens_of_cons h, List.foldl_cons]
    rcases takes_read g (eq_false_of_dropWhile_eq_cons h) with
      hread | ⟨hrest, hquoted, hk, s, b, hs, hread⟩
    · rw [hread] at hq ⊢
      exact ih _ hq
    · -- The text ends inside the token, and outside a quote white space ends the token as well.
      rw [hread] at hq ⊢
      obtain rfl : b = false := hq
      rw [feed_blank_word rfl hs hw, hrest, tokens_of_nil rfl]
      exact finishToken_reading g s hquoted hk

end Grouping

/-- The tokenizer, which reads a text one character at a time, and the reading by tokens give the
same expression for every text. -/
theorem parse_eq_ofTokens (text : String) :
    Expression.parse text = Expression.ofTokens (tokens text.toList) :=
  Grouping.finish_feedAll_toTokenizer {} text.toList

end TrackSearch
