/-
One text behind another.

White space that is in no quote ends a text, and what comes behind it is read as if it stood alone:
`groups_parse_append`.  Two things could tie the texts together.  A keyword at the end of the first
one is in force for the second, and an `OR` in front of the second one joins it to the open group.
`closed_foldl_add` says for rows of tokens that there is nothing else.
-/
import TrackSearch.Proofs.Expression.Quote
import TrackSearch.Proofs.Expression.Sign

namespace TrackSearch

open Token

/-- Whether a text begins with the word `OR`, up to white space and one minus sign.  The word ends
where white space, a quote or the end of the text comes. -/
def OpensWithOr (cs : List Char) : Prop :=
  (splitMinus (cs.dropWhile Text.isBlank)).2.takeWhile isRunChar = "OR".toList

instance (cs : List Char) : Decidable (OpensWithOr cs) :=
  inferInstanceAs (Decidable (_ = "OR".toList))

/-! ## The first token -/

namespace Token

variable {t : Token}

theorem keyword?_eq_or_iff :
    t.keyword? = some .or ↔ t.quoted = false ∧ t.field = "" ∧ t.text = "OR" := by
  rw [keyword?]
  by_cases hquoted : t.quoted = true
  · simp [hquoted]
  · by_cases hfield : t.field = ""
    · by_cases hand : t.text = "AND" <;> simp [hquoted, hfield, hand]
    · simp [hquoted, hfield]

/-- The run of a token is the keyword `OR` just when the run is the word. -/
theorem eq_or_of_keyword?_ofRun {minus : Bool} {run : List Char}
    (h : (ofRun minus run).keyword? = some .or) : run = "OR".toList := by
  obtain ⟨-, hfield, htext⟩ := keyword?_eq_or_iff.mp h
  rcases ofRun_parts minus run with ⟨-, hrun⟩ | ⟨hne, -⟩
  · rw [← hrun, htext]
  · exact absurd hfield hne

/-- The literal of a keyword has no closing quote, so that nothing is left behind it. -/
theorem snd_readLiteral_of_keyword? {k : Keyword} (cs : List Char)
    (h : (readLiteral t cs).1.keyword? = some k) : (readLiteral t cs).2 = [] := by
  rcases forall_ne_or_exists_eq '"' cs with hl | ⟨literal, rest, rfl, hl⟩
  · rw [readLiteral_of_forall t hl]
  · rw [readLiteral_append_quote t hl] at h
    rw [Grouping.keyword?_of_quoted rfl] at h
    cases h

theorem readBody_of_or {minus : Bool} {body : List Char}
    (h : (readBody minus body).1.keyword? = some .or) :
    body.takeWhile isRunChar = "OR".toList ∨ (readBody minus body).2 = [] := by
  rcases forall_or_exists_first isRunChar body with hrun | ⟨run, d, rest, rfl, hrun, hd⟩
  · rw [readBody_of_forall minus hrun] at h ⊢
    exact Or.inr rfl
  · rw [readBody_append_cons minus hrun hd] at h ⊢
    rw [takeWhile_append_cons hrun hd]
    split at h
    · next hquote =>
      rw [if_pos hquote]
      exact Or.inr (snd_readLiteral_of_keyword? rest h)
    · exact Or.inl (eq_or_of_keyword?_ofRun h)

end Token

/-- A text that does not begin with `OR` has no `OR` as its first token either, unless that token is
a literal that ends with the text. -/
theorem eq_nil_of_tokens_eq_or_cons {cs : List Char} {t : Token} {ts : List Token}
    (hor : ¬OpensWithOr cs) (hts : tokens cs = t :: ts) (ht : t.keyword? = some .or) : ts = [] := by
  cases h : cs.dropWhile Text.isBlank with
  | nil =>
    rw [tokens_of_nil h] at hts
    cases hts
  | cons c rest =>
    rw [tokens_of_cons h] at hts
    obtain ⟨rfl, rfl⟩ := List.cons.inj hts
    rw [OpensWithOr, h] at hor
    have hrest : (Token.read (c :: rest)).2 = [] := (readBody_of_or ht).resolve_left hor
    rw [hrest]
    exact tokens_of_nil rfl

/-! ## Groups that have been read before -/

namespace Grouping

/-- What some tokens leave behind when other groups have been read before them. -/
def behind (front : List Group) (g : Grouping) : Grouping :=
  { g with groups := front ++ g.groups }

theorem closed_behind (front : List Group) (g : Grouping) :
    (g.behind front).closed = front ++ g.closed := by
  by_cases hg : g.group = [] <;> simp [closed, behind, hg]

theorem addValue_behind (front : List Group) (g : Grouping) (t : Token) :
    (g.behind front).addValue t = (g.addValue t).behind front := by
  rw [addValue, addValue, closed_behind]
  by_cases hor : g.keyword = some .or <;> simp [behind, hor]

theorem add_behind (front : List Group) (g : Grouping) (t : Token) :
    (g.behind front).add t = (g.add t).behind front := by
  have hkeyword : (g.behind front).keyword = g.keyword := rfl
  rw [add, add, hkeyword, addValue_behind, closed_behind]
  split <;> rfl

theorem foldl_add_behind (front : List Group) (g : Grouping) (ts : List Token) :
    ts.foldl add (g.behind front) = (ts.foldl add g).behind front := by
  induction ts generalizing g with
  | nil => rfl
  | cons t ts ih =>
    rw [List.foldl_cons, List.foldl_cons, add_behind]
    exact ih (g.add t)

variable {g : Grouping}

/-- A token that is no `OR` closes the open group, and all else that it does it would do at the
beginning of a text as well. -/
theorem add_eq_behind {t : Token} (hminus : g.minus = false) (hkeyword : g.keyword = none)
    (ht : t.keyword? ≠ some .or) : g.add t = (({} : Grouping).add t).behind g.closed := by
  rw [add, add, hkeyword]
  cases hk : t.keyword? with
  | none => simp [addValue, behind, closed, hminus, hkeyword]
  | some k =>
    cases k with
    | and => simp [behind, closed, hminus]
    | or => exact absurd hk ht

/-- Tokens behind others are read as if they stood alone, unless they begin with an `OR`.  An `OR`
that nothing follows does no harm. -/
theorem closed_foldl_add {ts : List Token} (hminus : g.minus = false) (hkeyword : g.keyword = none)
    (hor : ∀ t rest, ts = t :: rest → t.keyword? = some .or → rest = []) :
    (ts.foldl add g).closed = g.closed ++ (ts.foldl add {}).closed := by
  cases ts with
  | nil =>
    show g.closed = g.closed ++ []
    rw [List.append_nil]
  | cons t rest =>
    by_cases ht : t.keyword? = some .or
    · obtain rfl := hor t rest rfl ht
      show (g.add t).closed = g.closed ++ (({} : Grouping).add t).closed
      rw [add, add, hkeyword, ht]
      show g.closed = g.closed ++ []
      rw [List.append_nil]
    · rw [List.foldl_cons, List.foldl_cons, add_eq_behind hminus hkeyword ht, foldl_add_behind,
        closed_behind]

end Grouping

/-- A text behind another one adds its own groups and changes none of the other's, if white space
stands between the two that no quote holds, if the first one does not end in a keyword, and if the
second one does not begin with `OR`. -/
theorem groups_parse_append (front back : String)
    (hquote : ((({} : Tokenizer).feedAll front.toList).feed ' ').inQuote = false)
    (hkeyword : ((({} : Tokenizer).feedAll front.toList).feed ' ').afterKeyword = false)
    (hor : ¬OpensWithOr back.toList) :
    (Expression.parse (front ++ " " ++ back)).groups =
      (Expression.parse front).groups ++ (Expression.parse back).groups := by
  have hblank : Text.isBlank ' ' = true := by decide
  have hopen : (({} : Tokenizer).feedAll front.toList).inQuote = false := by
    rwa [Tokenizer.inQuote_feed (by decide)] at hquote
  -- Behind the white space the tokenizer knows the groups so far and nothing else.
  have hstate : (({} : Tokenizer).feedAll front.toList).feed ' ' =
      ((tokens front.toList).foldl Grouping.add {}).toTokenizer :=
    Grouping.feed_blank_feedAll_toTokenizer {} front.toList hblank hopen
  obtain ⟨hkeep, hsign⟩ := Grouping.keyword_and_minus_foldl_add (tokens front.toList)
  have hfront : Expression.parse front =
      ⟨((tokens front.toList).foldl Grouping.add {}).closed⟩ :=
    Grouping.finish_feedAll_toTokenizer {} front.toList
  have hback : Expression.parse back = ⟨((tokens back.toList).foldl Grouping.add {}).closed⟩ :=
    Grouping.finish_feedAll_toTokenizer {} back.toList
  rw [hstate] at hkeyword
  have hend : endInKeyword (tokens front.toList) = false := hkeep.symm.trans hkeyword
  have hminus : ((tokens front.toList).foldl Grouping.add {}).minus = false := by
    rw [hsign, endInSignedKeyword, hend, Bool.false_and]
  have hnone : ((tokens front.toList).foldl Grouping.add {}).keyword = none :=
    Option.isNone_iff_eq_none.mp (Option.isSome_eq_false_iff.mp hkeyword)
  have htext : (front ++ " " ++ back).toList = front.toList ++ ' ' :: back.toList := by simp
  have hparse : Expression.parse (front ++ " " ++ back) =
      ⟨((tokens back.toList).foldl Grouping.add
        ((tokens front.toList).foldl Grouping.add {})).closed⟩ := by
    rw [Expression.parse, htext, Tokenizer.feedAll_append, Tokenizer.feedAll_cons, hstate]
    exact Grouping.finish_feedAll_toTokenizer _ back.toList
  rw [hparse, hfront, hback]
  exact Grouping.closed_foldl_add hminus hnone fun _ _ => eq_nil_of_tokens_eq_or_cons hor

/-- An open group, and a text behind it that begins with the letters of `OR` and with a sign. -/
theorem groups_parse_append_orchid :
    ((({} : Tokenizer).feedAll "cure OR artist:=\"b AND c\"".toList).feed ' ').inQuote = false ∧
      ((({} : Tokenizer).feedAll "cure OR artist:=\"b AND c\"".toList).feed ' ').afterKeyword =
        false ∧
      ¬OpensWithOr " -ORchid OR \"x".toList ∧
      (Expression.parse ("cure OR artist:=\"b AND c\"" ++ " " ++ " -ORchid OR \"x")).groups =
        [[{ text := "cure" }, { field := "artist", text := "b AND c", matchKind := .equals }],
          [{ text := "ORchid", negate := true }, { text := "x" }]] := by
  have hquote : ((({} : Tokenizer).feedAll "cure OR artist:=\"b AND c\"".toList).feed ' ').inQuote =
      false := by decide +kernel
  have hkeyword :
      ((({} : Tokenizer).feedAll "cure OR artist:=\"b AND c\"".toList).feed ' ').afterKeyword =
        false := by decide +kernel
  have hor : ¬OpensWithOr " -ORchid OR \"x".toList := by decide +kernel
  refine ⟨hquote, hkeyword, hor, (groups_parse_append _ _ hquote hkeyword hor).trans ?_⟩
  decide +kernel

end TrackSearch
