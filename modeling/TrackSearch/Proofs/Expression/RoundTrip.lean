/-
Writing an expression and reading it back.

The written form of a well-formed expression reads back to the expression itself: `parse_write` says
so for every expression and for every text that has been read once.  Together with what is known of
all expressions that are read, it makes the well-formed ones just those that some text is read as,
which is `exists_parse_eq_iff`.  The layers are the parts of an element (`ofRun_lead`,
`tokens_write_append`), the row of tokens of a group and of an expression (`tokens_groupWrite`,
`tokens_write`) and the groups that the tokens make (`foldl_add_tokens`).  A layer reads its text with
a rest behind it that is empty or begins with white space.
-/
import TrackSearch.Expression.Printer
import TrackSearch.Proofs.Expression.WellFormed

namespace TrackSearch

open Token

/-! ## The parts of an element -/

/-- Whether a text can stand behind a word. -/
def EndsWord (rest : List Char) : Prop :=
  ∀ c ∈ rest.head?, Text.isBlank c = true

/-- Whether a row of characters means nothing but itself. -/
def StandsForItself (word : List Char) : Prop :=
  ∀ c ∈ word, Text.isBlank c = false ∧ c ∉ operatorChars

theorem isRunChar_of_standsForItself {word : List Char} (h : StandsForItself word) :
    ∀ c ∈ word, isRunChar c = true := by
  intro c hc
  obtain ⟨hblank, hop⟩ := h c hc
  exact isRunChar_iff.mpr ⟨hblank, fun he => hop (by rw [he]; decide)⟩

theorem splitOperator_of_standsForItself {word : List Char} (h : StandsForItself word) :
    splitOperator word = (.contains, word) := by
  cases word with
  | nil => rfl
  | cons c cs =>
    have hnone : MatchKind.ofSymbol? c = none := by
      cases hk : MatchKind.ofSymbol? c with
      | none => rfl
      | some k =>
        have hsymbol := MatchKind.ofSymbol?_eq_some_iff.mp hk
        refine absurd ?_ (h c List.mem_cons_self).2
        cases k <;> simp [MatchKind.symbol?] at hsymbol <;> simp [← hsymbol, operatorChars]
    rw [splitOperator, hnone]

theorem standsForItself_of_needsQuotes_eq_false {text : String} (h : needsQuotes text = false) :
    StandsForItself text.toList ∧ text ≠ "" ∧ text ≠ "AND" ∧ text ≠ "OR" := by
  simp only [needsQuotes, Bool.or_eq_false_iff, List.any_eq_false, beq_eq_false_iff_ne] at h
  obtain ⟨⟨⟨hempty, hand⟩, hor⟩, hchars⟩ := h
  refine ⟨fun c hc => ?_, by simpa using hempty, hand, hor⟩
  simpa using hchars c hc

namespace Element

/-- What is written between the sign of an element and its value. -/
def lead (e : Element) : List Char :=
  (if e.field = "" then [] else e.field.toList ++ [':']) ++ e.matchKind.symbol?.toList

theorem lead_of_field_eq {e : Element} (he : e.WellFormed) (hf : e.field = "") :
    e.lead = [] ∧ e.matchKind = .contains := by
  have hk : e.matchKind = .contains := by
    by_contra hk
    exact he.field_ne hk hf
  rw [lead, if_pos hf, hk]
  exact ⟨rfl, rfl⟩

theorem lead_of_field_ne {e : Element} (hf : e.field ≠ "") :
    ∃ c name, e.field.toList = c :: name ∧
      e.lead = c :: (name ++ ':' :: e.matchKind.symbol?.toList) := by
  obtain ⟨c, name, hname⟩ := List.exists_cons_of_ne_nil (by simpa using hf : e.field.toList ≠ [])
  exact ⟨c, name, hname, by simp [lead, hf, hname]⟩

theorem toList_write (e : Element) :
    e.write.toList =
      (if e.negate then ['-'] else []) ++ (e.lead ++ (writeValue e.text).toList) := by
  have hfield : (if e.field.isEmpty then "" else e.field ++ ":").toList =
      if e.field = "" then [] else e.field.toList ++ [':'] := by
    by_cases hf : e.field = "" <;> simp [hf]
  have hminus : (if e.negate then "-" else "").toList = if e.negate then ['-'] else [] := by
    cases e.negate <;> rfl
  rw [write, lead]
  simp only [String.toList_append, hminus, hfield, List.append_assoc]
  cases e.matchKind <;> simp [MatchKind.symbol?]

theorem isRunChar_lead {e : Element} (he : e.WellFormed) : ∀ c ∈ e.lead, isRunChar c = true := by
  intro c hc
  rcases List.mem_append.mp hc with hc | hc
  · split at hc
    · exact absurd hc (List.not_mem_nil)
    · rcases List.mem_append.mp hc with hc | hc
      · exact isRunChar_iff.mpr (he.field_run c hc)
      · obtain rfl := List.mem_singleton.mp hc
        decide
  · have hsymbol : e.matchKind.symbol? = some c := Option.mem_toList.mp hc
    exact (isRunChar_of_ofSymbol? (MatchKind.ofSymbol?_eq_some_iff.mpr hsymbol)).1

/-- A lead with a plain word behind it is cut where the field name and the operator end. -/
theorem ofRun_lead {e : Element} (he : e.WellFormed) {word : List Char}
    (hw : StandsForItself word) :
    ofRun e.negate (e.lead ++ word) =
      { minus := e.negate, field := e.field, matchKind := e.matchKind,
        text := String.ofList word } := by
  by_cases hf : e.field = ""
  · obtain ⟨hlead, hk⟩ := lead_of_field_eq he hf
    rw [hlead, hk, hf]
    cases word with
    | nil => exact ofRun_nil e.negate
    | cons c cs =>
      refine ofRun_of_forall e.negate fun d hd hcolon => ?_
      exact (hw d (List.mem_cons_of_mem c hd)).2 (by rw [hcolon]; decide)
  · obtain ⟨c, name, hname, hlead⟩ := lead_of_field_ne hf
    have hcolon : ∀ d ∈ name, d ≠ ':' := fun d hd => he.field_colon d (by rw [hname]; exact hd)
    have hfield : String.ofList (c :: name) = e.field := by rw [← hname, String.ofList_toList]
    have hop : splitOperator (e.matchKind.symbol?.toList ++ word) = (e.matchKind, word) := by
      cases e.matchKind with
      | contains => exact splitOperator_of_standsForItself hw
      | equals => rfl
      | lessThan => rfl
      | greaterThan => rfl
    rw [hlead, List.cons_append, List.append_assoc, List.cons_append,
      ofRun_append_colon e.negate hcolon, hop, hfield]

/-- Behind the sign there is no white space, and no dash when there is no sign. -/
theorem exists_cons_lead_append {e : Element} (he : e.WellFormed) :
    ∃ c cs, e.lead ++ (writeValue e.text).toList = c :: cs ∧ Text.isBlank c = false ∧
      (c = '-' → e.negate = true) := by
  by_cases hf : e.field = ""
  · rw [(lead_of_field_eq he hf).1, writeValue]
    cases hq : needsQuotes e.text with
    | true =>
      exact ⟨'"', e.text.toList ++ ['"'], by simp, by decide, fun hd => absurd hd (by decide)⟩
    | false =>
      obtain ⟨hplain, hne, -, -⟩ := standsForItself_of_needsQuotes_eq_false hq
      obtain ⟨c, cs, hc⟩ := List.exists_cons_of_ne_nil (by simpa using hne : e.text.toList ≠ [])
      obtain ⟨hblank, hop⟩ := hplain c (by rw [hc]; exact List.mem_cons_self)
      exact ⟨c, cs, hc, hblank, fun hd => absurd (by rw [hd]; decide) hop⟩
  · obtain ⟨c, name, hname, hlead⟩ := lead_of_field_ne hf
    have hblank := (he.field_run c (by rw [hname]; exact List.mem_cons_self)).1
    refine ⟨c, _, by rw [hlead, List.cons_append], hblank, fun hd => ?_⟩
    exact he.negate_of_dash (by rw [hname, hd]; rfl)

/-! ## One token -/

def token (e : Element) : Token :=
  { minus := e.negate, field := e.field, matchKind := e.matchKind, text := e.text,
    quoted := needsQuotes e.text }

theorem readBody_lead_append {e : Element} (he : e.WellFormed) {rest : List Char}
    (hr : EndsWord rest) :
    readBody e.negate (e.lead ++ (writeValue e.text).toList ++ rest) = (e.token, rest) := by
  have hlead := isRunChar_lead he
  rw [writeValue, token]
  cases hq : needsQuotes e.text with
  | true =>
    -- The run in front of the quote is the lead alone, whose word is empty.
    have hnil : StandsForItself [] := fun c hc => absurd hc (List.not_mem_nil)
    have hrun := ofRun_lead he hnil
    rw [List.append_nil] at hrun
    have hbody : e.lead ++ (if true then "\"" ++ e.text ++ "\"" else e.text).toList ++ rest =
        e.lead ++ '"' :: (e.text.toList ++ '"' :: rest) := by
      simp
    rw [hbody, readBody_append_cons e.negate hlead (by decide), hrun, if_pos ⟨rfl, rfl⟩,
      readLiteral_append_quote _ he.text_no_quote, String.ofList_toList]
  | false =>
    obtain ⟨hplain, hne, -, -⟩ := standsForItself_of_needsQuotes_eq_false hq
    have hrun := ofRun_lead he hplain
    have hrunChar : ∀ c ∈ e.lead ++ e.text.toList, isRunChar c = true := by
      intro c hc
      rcases List.mem_append.mp hc with hc | hc
      · exact hlead c hc
      · exact isRunChar_of_standsForItself hplain c hc
    rw [String.ofList_toList] at hrun
    -- The value goes on the run of the lead, and what is behind it cannot lengthen the run.
    show readBody e.negate (e.lead ++ e.text.toList ++ rest) = _
    cases rest with
    | nil => rw [List.append_nil, readBody_of_forall e.negate hrunChar, hrun]
    | cons c rest =>
      have hblank : Text.isBlank c = true := hr c rfl
      have hc : isRunChar c = false := by simp [isRunChar, hblank]
      rw [readBody_append_cons e.negate hrunChar hc, hrun, if_neg (fun h => hne h.2)]

/-- The written form of an element is one token, whatever comes behind it. -/
theorem tokens_write_append {e : Element} (he : e.WellFormed) {rest : List Char}
    (hr : EndsWord rest) : tokens (e.write.toList ++ rest) = e.token :: tokens rest := by
  have hread := readBody_lead_append he hr
  obtain ⟨c, cs, hbody, hblank, hdash⟩ := exists_cons_lead_append he
  rw [toList_write]
  rw [hbody] at hread ⊢
  cases hn : e.negate with
  | true =>
    have hdrop : ('-' :: ((c :: cs) ++ rest)).dropWhile Text.isBlank = '-' :: ((c :: cs) ++ rest) :=
      List.dropWhile_cons_of_neg (by decide)
    show tokens ('-' :: ((c :: cs) ++ rest)) = _
    rw [hn] at hread
    rw [tokens_of_cons hdrop, Token.read, splitMinus, if_pos rfl]
    show (readBody true _).1 :: tokens (readBody true _).2 = _
    rw [hread]
  | false =>
    have hne : c ≠ '-' := fun hd => by simp [hn] at hdash; exact hdash hd
    have hdrop : (c :: (cs ++ rest)).dropWhile Text.isBlank = c :: (cs ++ rest) :=
      List.dropWhile_cons_of_neg (by simp [hblank])
    show tokens (c :: (cs ++ rest)) = _
    rw [hn] at hread
    rw [tokens_of_cons hdrop, Token.read, splitMinus, if_neg hne]
    show (readBody false _).1 :: tokens (readBody false _).2 = _
    rw [← List.cons_append, hread]

end Element

/-! ## The tokens of a whole expression -/

def orToken : Token :=
  { text := "OR" }

theorem tokens_blank {c : Char} (cs : List Char) (hc : Text.isBlank c = true) :
    tokens (c :: cs) = tokens cs := by
  have hdrop : (c :: cs).dropWhile Text.isBlank = cs.dropWhile Text.isBlank :=
    List.dropWhile_cons_of_pos hc
  cases h : cs.dropWhile Text.isBlank with
  | nil => rw [tokens_of_nil h, tokens_of_nil (hdrop.trans h)]
  | cons d rest => rw [tokens_of_cons h, tokens_of_cons (hdrop.trans h)]

theorem tokens_or_append (rest : List Char) :
    tokens (" OR ".toList ++ rest) = orToken :: tokens rest := by
  have hword : ∀ c ∈ ['O', 'R'], isRunChar c = true := List.all_eq_true.mp (by decide)
  have hcolon : ∀ c ∈ ['R'], c ≠ ':' := List.forall_mem_singleton.mpr (by decide)
  have hread : Token.read ('O' :: 'R' :: ' ' :: rest) = (orToken, ' ' :: rest) := by
    show readBody false (['O', 'R'] ++ ' ' :: rest) = _
    rw [readBody_append_cons false hword (by decide), if_neg (fun h => absurd h.1 (by decide)),
      ofRun_of_forall false hcolon]
    rfl
  have hdrop : ('O' :: 'R' :: ' ' :: rest).dropWhile Text.isBlank = 'O' :: 'R' :: ' ' :: rest :=
    List.dropWhile_cons_of_neg (by decide)
  show tokens (' ' :: 'O' :: 'R' :: ' ' :: rest) = _
  rw [tokens_blank _ (by decide), tokens_of_cons hdrop, hread, tokens_blank _ (by decide)]

theorem toList_join_cons (sep s : String) (ss : List String) :
    (Text.join sep (s :: ss)).toList = s.toList ++ ss.flatMap fun t => sep.toList ++ t.toList := by
  induction ss generalizing s with
  | nil => simp [Text.join]
  | cons t ss ih => simp [Text.join, ih]

/-- Pieces that each have a separator in front can stand behind a word, when the separator begins
with white space. -/
theorem endsWord_flatMap {c : Char} (hc : Text.isBlank c = true) (sep : List Char)
    (ss : List String) {rest : List Char} (hr : EndsWord rest) :
    EndsWord ((ss.flatMap fun s => (c :: sep) ++ s.toList) ++ rest) := by
  cases ss with
  | nil => exact hr
  | cons s ss =>
    intro d hd
    obtain rfl : c = d := Option.some.inj hd
    exact hc

def Group.tokens : Group → List Token
  | [] => []
  | e :: es => e.token :: es.flatMap fun f => [orToken, f.token]

theorem tokens_flatMap_or {es : Group} (hes : ∀ e ∈ es, e.WellFormed) {rest : List Char}
    (hr : EndsWord rest) :
    tokens ((es.map Element.write).flatMap (fun s => " OR ".toList ++ s.toList) ++ rest) =
      (es.flatMap fun e => [orToken, e.token]) ++ tokens rest := by
  induction es with
  | nil => rfl
  | cons e es ih =>
    have he : e.WellFormed := hes e List.mem_cons_self
    have hrest := ih fun f hf => hes f (List.mem_cons_of_mem e hf)
    have hend : EndsWord
        ((es.map Element.write).flatMap (fun s => " OR ".toList ++ s.toList) ++ rest) :=
      endsWord_flatMap (by decide) "OR ".toList (es.map Element.write) hr
    rw [List.map_cons, List.flatMap_cons, List.append_assoc, List.append_assoc, tokens_or_append,
      Element.tokens_write_append he hend, hrest]
    rfl

theorem tokens_groupWrite {g : Group} (hg : g.WellFormed) {rest : List Char} (hr : EndsWord rest) :
    tokens (g.write.toList ++ rest) = g.tokens ++ tokens rest := by
  obtain ⟨hne, hall⟩ := hg
  cases g with
  | nil => exact absurd rfl hne
  | cons e es =>
    have hes : ∀ f ∈ es, f.WellFormed := fun f hf => hall f (List.mem_cons_of_mem e hf)
    have hend : EndsWord
        ((es.map Element.write).flatMap (fun s => " OR ".toList ++ s.toList) ++ rest) :=
      endsWord_flatMap (by decide) "OR ".toList (es.map Element.write) hr
    rw [Group.write, List.map_cons, toList_join_cons, List.append_assoc,
      Element.tokens_write_append (hall e List.mem_cons_self) hend, tokens_flatMap_or hes hr]
    rfl

theorem tokens_flatMap_groupWrite {gs : List Group} (hgs : ∀ g ∈ gs, g.WellFormed) :
    tokens ((gs.map Group.write).flatMap fun s => " ".toList ++ s.toList) =
      gs.flatMap Group.tokens := by
  induction gs with
  | nil => exact tokens_of_nil rfl
  | cons g gs ih =>
    have hrest := ih fun h hh => hgs h (List.mem_cons_of_mem g hh)
    have hend : EndsWord ((gs.map Group.write).flatMap fun s => " ".toList ++ s.toList) := by
      rw [← List.append_nil (List.flatMap _ _)]
      exact endsWord_flatMap (by decide) [] (gs.map Group.write) (fun c hc => nomatch hc)
    rw [List.map_cons, List.flatMap_cons, List.flatMap_cons, ← hrest, List.append_assoc]
    show tokens (' ' :: _) = _
    rw [tokens_blank _ (by decide)]
    exact tokens_groupWrite (hgs g List.mem_cons_self) hend

/-- The tokens of a written expression are those of its groups, one after the other. -/
theorem tokens_write {e : Expression} (he : e.WellFormed) :
    tokens e.write.toList = e.groups.flatMap Group.tokens := by
  rw [← tokens_flatMap_groupWrite he, Expression.write]
  cases e.groups with
  | nil => rfl
  | cons g gs =>
    rw [List.map_cons, toList_join_cons, List.flatMap_cons, List.append_assoc]
    exact (tokens_blank _ (by decide)).symm

/-! ## The groups of the tokens -/

theorem keyword?_token (e : Element) : e.token.keyword? = none := by
  rw [keyword?]
  show (if (needsQuotes e.text || !e.field.isEmpty) = true then none
    else if e.text = "AND" then some Keyword.and
    else if e.text = "OR" then some Keyword.or else none) = none
  cases hq : needsQuotes e.text with
  | true => rfl
  | false =>
    obtain ⟨-, -, hand, hor⟩ := standsForItself_of_needsQuotes_eq_false hq
    rw [if_neg hand, if_neg hor]
    exact ite_self none

namespace Grouping

theorem add_token {g : Grouping} {e : Element} (he : e.text ≠ "") (hm : g.minus = false) :
    g.add e.token =
      if g.keyword = some .or then { group := g.group ++ [e], groups := g.groups }
      else { group := [e], groups := g.closed } := by
  have hadd : g.add e.token = g.addValue e.token := by
    rw [add, keyword?_token]
    cases g.keyword <;> rfl
  have htext : e.token.text ≠ "" := he
  rw [hadd, addValue, if_neg htext, hm]
  rfl

theorem foldl_add_flatMap_or {es : Group} (hes : ∀ e ∈ es, e.text ≠ "") (front : Group)
    (groups : List Group) :
    (es.flatMap fun e => [orToken, e.token]).foldl add { group := front, groups := groups } =
      { group := front ++ es, groups := groups } := by
  induction es generalizing front with
  | nil => rw [List.append_nil]; rfl
  | cons e es ih =>
    have he : e.text ≠ "" := hes e List.mem_cons_self
    have hrest := ih (fun f hf => hes f (List.mem_cons_of_mem e hf)) (front ++ [e])
    rw [List.flatMap_cons, List.foldl_append, List.foldl_cons, List.foldl_cons, List.foldl_nil]
    have hor : (({ group := front, groups := groups } : Grouping).add orToken) =
        { keyword := some .or, group := front, groups := groups } := rfl
    rw [hor, add_token he rfl, if_pos rfl, hrest, List.append_assoc]
    rfl

/-- The tokens of a group close the open group and leave the group itself open. -/
theorem foldl_add_groupTokens {h : Group} (hh : h.WellFormed) (group : Group)
    (groups : List Group) :
    h.tokens.foldl add { group := group, groups := groups } =
      { group := h, groups := ({ group := group, groups := groups } : Grouping).closed } := by
  obtain ⟨hne, hall⟩ := hh
  cases h with
  | nil => exact absurd rfl hne
  | cons e es =>
    have hes : ∀ f ∈ es, f.text ≠ "" := fun f hf => (hall f (List.mem_cons_of_mem e hf)).text_ne
    rw [Group.tokens, List.foldl_cons, add_token (hall e List.mem_cons_self).text_ne rfl,
      if_neg (by simp), foldl_add_flatMap_or hes]
    rfl

theorem foldl_add_tokens {gs : List Group} (hgs : ∀ g ∈ gs, g.WellFormed) (group : Group)
    (groups : List Group) :
    ((gs.flatMap Group.tokens).foldl add { group := group, groups := groups }).closed =
      ({ group := group, groups := groups } : Grouping).closed ++ gs := by
  induction gs generalizing group groups with
  | nil => exact (List.append_nil _).symm
  | cons h gs ih =>
    have hh : h.WellFormed := hgs h List.mem_cons_self
    have hrest := ih (fun g hg => hgs g (List.mem_cons_of_mem h hg)) h
      ({ group := group, groups := groups } : Grouping).closed
    have hclosed : ({ group := h, groups := ({ group := group, groups := groups } : Grouping).closed }
        : Grouping).closed = ({ group := group, groups := groups } : Grouping).closed ++ [h] := by
      rw [closed, if_neg (by simpa using hh.1)]
    rw [List.flatMap_cons, List.foldl_append, foldl_add_groupTokens hh, hrest, hclosed,
      List.append_assoc]
    rfl

end Grouping

/-! ## Writing and reading -/

theorem parse_write_of_wellFormed {e : Expression} (he : e.WellFormed) :
    Expression.parse e.write = e := by
  have hparse : Expression.parse e.write =
      ⟨((tokens e.write.toList).foldl Grouping.add {}).closed⟩ :=
    Grouping.finish_feedAll_toTokenizer {} e.write.toList
  have hgroups := Grouping.foldl_add_tokens he [] []
  rw [hparse, tokens_write he, hgroups]
  rfl

/-- Reading undoes writing: a well-formed expression is read back from its written form, and so what
was read from any text at all is read again from its own written form. -/
theorem parse_write :
    (∀ e : Expression, e.WellFormed → Expression.parse e.write = e) ∧
      ∀ text : String, Expression.parse (Expression.parse text).write = Expression.parse text :=
  ⟨fun _ he => parse_write_of_wellFormed he,
    fun text => parse_write_of_wellFormed (wellFormed_parse text)⟩

/-- An expression with a colon and a dash at the front of its field names and with keywords and
operators among its values. -/
def oddExpression : Expression :=
  ⟨[[{ field := ":", text := "a OR b" }, { text := "AND" }],
    [{ field := "-x", text := "<\n", negate := true, matchKind := .equals }]]⟩

theorem parse_write_oddExpression :
    oddExpression.WellFormed ∧
      oddExpression.write = "::\"a OR b\" OR \"AND\" --x:=\"<\n\"" ∧
      Expression.parse "::\"a OR b\" OR \"AND\" --x:=\"<\n\"" = oddExpression := by
  have hwf : oddExpression.WellFormed := by decide +kernel
  have hwrite : oddExpression.write = "::\"a OR b\" OR \"AND\" --x:=\"<\n\"" := by
    decide +kernel
  have hread := parse_write.1 oddExpression hwf
  exact ⟨hwf, hwrite, hwrite ▸ hread⟩

/-- The well-formed expressions are those that can be typed, and no others. -/
theorem exists_parse_eq_iff (e : Expression) :
    (∃ text, Expression.parse text = e) ↔ e.WellFormed := by
  constructor
  · rintro ⟨text, rfl⟩
    exact wellFormed_parse text
  · intro he
    exact ⟨e.write, parse_write_of_wellFormed he⟩

end TrackSearch
