/-
A reading of expressions by tokens.

A token is a value with its sign, field name and operator, cut off the text as a whole:

    [-]run                    a run has neither white space nor quotes in it
    [-][field:[operator]]"value"

`Token.read` takes one token off a text, `tokens` takes all of them, and `Expression.ofTokens` puts
them into groups.  No part of this looks at a text one character at a time with a memory of the ones
before, which is what `Tokenizer` does.
-/
import Mathlib.Data.List.TakeWhile
import TrackSearch.Expression.Tokenizer

namespace TrackSearch

inductive Keyword
  | and | or
  deriving DecidableEq, Repr

/-- A value and what was typed in front of it. -/
structure Token where
  minus : Bool := false
  field : String := ""
  matchKind : MatchKind := .contains
  text : String := ""
  /-- Whether the value stood between two quotes, which keeps it from being a keyword. -/
  quoted : Bool := false
  deriving DecidableEq, Repr

namespace Token

/-! ## The parts of a token -/

def isRunChar (c : Char) : Bool :=
  !Text.isBlank c && c != '"'

def splitMinus : List Char → Bool × List Char
  | [] => (false, [])
  | c :: cs => if c = '-' then (true, cs) else (false, c :: cs)

/-- The field name of a run and what is behind its colon.  The colon is the first one that does not
begin the run; in a run without one the field name is empty. -/
def splitField : List Char → List Char × List Char
  | [] => ([], [])
  | c :: cs =>
    match cs.dropWhile (· != ':') with
    | [] => ([], c :: cs)
    | _ :: rest => (c :: cs.takeWhile (· != ':'), rest)

def splitOperator : List Char → MatchKind × List Char
  | [] => (.contains, [])
  | c :: cs =>
    match MatchKind.ofSymbol? c with
    | some k => (k, cs)
    | none => (.contains, c :: cs)

/-- The field name, the operator and the word of a run.  Only a field name can have an operator
behind it. -/
def splitRun (run : List Char) : List Char × MatchKind × List Char :=
  let (field, rest) := splitField run
  if field.isEmpty then ([], .contains, rest) else (field, splitOperator rest)

/-! ## Tokens -/

/-- A token with the literal behind an opening quote as its value, and the text behind the literal.
A literal that nothing closes goes on to the end and does not count as quoted. -/
def readLiteral (t : Token) (cs : List Char) : Token × List Char :=
  let literal := String.ofList (cs.takeWhile (· != '"'))
  match cs.dropWhile (· != '"') with
  | [] => ({ t with text := literal }, [])
  | _ :: rest => ({ t with text := literal, quoted := true }, rest)

def ofRun (minus : Bool) (run : List Char) : Token :=
  let (field, matchKind, word) := splitRun run
  { minus, field := String.ofList field, matchKind, text := String.ofList word }

/-- The token of a sign and of what is behind the sign, and the text behind the token.  A literal
takes the place of a word that is empty. -/
def readBody (minus : Bool) (body : List Char) : Token × List Char :=
  let t := ofRun minus (body.takeWhile isRunChar)
  match body.dropWhile isRunChar with
  | [] => (t, [])
  | c :: rest => if c = '"' ∧ t.text = "" then readLiteral t rest else (t, c :: rest)

/-- The token at the front of a text that does not begin with white space, and the text behind
it. -/
def read (cs : List Char) : Token × List Char :=
  let (minus, body) := splitMinus cs
  readBody minus body

/-- The keyword that a token would be if the last token was none. -/
def keyword? (t : Token) : Option Keyword :=
  if t.quoted || !t.field.isEmpty then none
  else if t.text = "AND" then some .and
  else if t.text = "OR" then some .or
  else none

/-! ## Cutting a text where a class of characters ends -/

theorem eq_false_of_dropWhile_eq_cons {p : Char → Bool} {cs back : List Char} {c : Char}
    (h : cs.dropWhile p = c :: back) : p c = false := by
  have hne : cs.dropWhile p ≠ [] := by rw [h]; exact List.cons_ne_nil c back
  have hhead := List.head_dropWhile_not p hne
  simpa only [h, List.head_cons] using hhead

/-- A text is all of one class, or there is a first character that is not. -/
theorem forall_or_exists_first (p : Char → Bool) (cs : List Char) :
    (∀ c ∈ cs, p c = true) ∨
      ∃ front c back, cs = front ++ c :: back ∧ (∀ d ∈ front, p d = true) ∧ p c = false := by
  cases h : cs.dropWhile p with
  | nil => exact Or.inl (List.dropWhile_eq_nil_iff.mp h)
  | cons c back =>
    refine Or.inr ⟨cs.takeWhile p, c, back, ?_, fun d hd => List.mem_takeWhile_imp hd,
      eq_false_of_dropWhile_eq_cons h⟩
    rw [← h, List.takeWhile_append_dropWhile]

/-- Likewise for the texts without a given character. -/
theorem forall_ne_or_exists_eq (x : Char) (cs : List Char) :
    (∀ c ∈ cs, c ≠ x) ∨ ∃ front back, cs = front ++ x :: back ∧ ∀ d ∈ front, d ≠ x := by
  rcases forall_or_exists_first (· != x) cs with hall | ⟨front, c, back, hcs, hall, hc⟩
  · exact Or.inl fun c hc => bne_iff_ne.mp (hall c hc)
  · obtain rfl : c = x := by simpa using hc
    exact Or.inr ⟨front, back, hcs, fun d hd => bne_iff_ne.mp (hall d hd)⟩

theorem takeWhile_append_cons {p : Char → Bool} {front back : List Char} {c : Char}
    (hf : ∀ d ∈ front, p d = true) (hc : p c = false) :
    (front ++ c :: back).takeWhile p = front := by
  rw [List.takeWhile_append_of_pos hf, List.takeWhile_cons_of_neg (by simp [hc]), List.append_nil]

theorem dropWhile_append_cons {p : Char → Bool} {front back : List Char} {c : Char}
    (hf : ∀ d ∈ front, p d = true) (hc : p c = false) :
    (front ++ c :: back).dropWhile p = c :: back := by
  rw [List.dropWhile_append_of_pos hf, List.dropWhile_cons_of_neg (by simp [hc])]

/-- Behind the sign of a token there is no second sign, unless the text has two. -/
theorem splitMinus_cons (c : Char) (cs : List Char) :
    ((splitMinus (c :: cs)).1 = true) ∨
      (splitMinus (c :: cs) = (false, c :: cs) ∧ c ≠ '-') := by
  by_cases hc : c = '-'
  · exact Or.inl (by rw [splitMinus, if_pos hc])
  · exact Or.inr ⟨by rw [splitMinus, if_neg hc], hc⟩

theorem splitField_append_colon {c : Char} {name rest : List Char} (h : ∀ d ∈ name, d ≠ ':') :
    splitField (c :: (name ++ ':' :: rest)) = (c :: name, rest) := by
  have hname : ∀ d ∈ name, (d != ':') = true := fun d hd => bne_iff_ne.mpr (h d hd)
  rw [splitField, dropWhile_append_cons hname rfl, takeWhile_append_cons hname rfl]

theorem splitField_of_forall {c : Char} {cs : List Char} (h : ∀ d ∈ cs, d ≠ ':') :
    splitField (c :: cs) = ([], c :: cs) := by
  have hcs : cs.dropWhile (· != ':') = [] :=
    List.dropWhile_eq_nil_iff.mpr fun d hd => bne_iff_ne.mpr (h d hd)
  rw [splitField, hcs]

theorem readLiteral_append_quote (t : Token) {literal rest : List Char}
    (h : ∀ c ∈ literal, c ≠ '"') :
    readLiteral t (literal ++ '"' :: rest) =
      ({ t with text := String.ofList literal, quoted := true }, rest) := by
  have hl : ∀ c ∈ literal, (c != '"') = true := fun c hc => bne_iff_ne.mpr (h c hc)
  rw [readLiteral, dropWhile_append_cons hl rfl, takeWhile_append_cons hl rfl]

theorem readLiteral_of_forall (t : Token) {literal : List Char} (h : ∀ c ∈ literal, c ≠ '"') :
    readLiteral t literal = ({ t with text := String.ofList literal }, []) := by
  have hl : ∀ c ∈ literal, (c != '"') = true := fun c hc => bne_iff_ne.mpr (h c hc)
  rw [readLiteral, List.dropWhile_eq_nil_iff.mpr hl, List.takeWhile_eq_self_iff.mpr hl]

theorem ofRun_nil (minus : Bool) : ofRun minus [] = { minus } := by
  simp [ofRun, splitRun, splitField]

theorem ofRun_of_forall (minus : Bool) {c : Char} {cs : List Char} (h : ∀ d ∈ cs, d ≠ ':') :
    ofRun minus (c :: cs) = { minus, text := String.ofList (c :: cs) } := by
  rw [ofRun, splitRun, splitField_of_forall h]
  rfl

theorem ofRun_append_colon (minus : Bool) {c : Char} {name rest : List Char}
    (h : ∀ d ∈ name, d ≠ ':') :
    ofRun minus (c :: (name ++ ':' :: rest)) =
      { minus, field := String.ofList (c :: name), matchKind := (splitOperator rest).1,
        text := String.ofList (splitOperator rest).2 } := by
  rw [ofRun, splitRun, splitField_append_colon h]
  rfl

theorem matchKind_ofRun {minus : Bool} {run : List Char} (h : (ofRun minus run).field = "") :
    (ofRun minus run).matchKind = .contains := by
  cases run with
  | nil => rfl
  | cons c cs =>
    rcases forall_ne_or_exists_eq ':' cs with hne | ⟨name, rest, rfl, hne⟩
    · rw [ofRun_of_forall minus hne]
    · rw [ofRun_append_colon minus hne] at h
      exact absurd h (by simp)

/-- Nothing of the text behind a colon is lost when its operator is cut off. -/
theorem symbol?_append_splitOperator (cs : List Char) :
    (splitOperator cs).1.symbol?.toList ++ (splitOperator cs).2 = cs := by
  cases cs with
  | nil => rfl
  | cons c cs =>
    rw [splitOperator]
    cases hk : MatchKind.ofSymbol? c with
    | none => rfl
    | some k =>
      show k.symbol?.toList ++ cs = c :: cs
      rw [MatchKind.ofSymbol?_eq_some_iff.mp hk]
      rfl

/-- A run is its word alone, or a field name, a colon, an operator if there is one and its word. -/
theorem ofRun_parts (minus : Bool) (run : List Char) :
    ((ofRun minus run).field = "" ∧ (ofRun minus run).text.toList = run) ∨
      ((ofRun minus run).field ≠ "" ∧
        (ofRun minus run).field.toList ++ ':' ::
          ((ofRun minus run).matchKind.symbol?.toList ++ (ofRun minus run).text.toList) = run) := by
  cases run with
  | nil => exact Or.inl ⟨rfl, rfl⟩
  | cons c cs =>
    rcases forall_ne_or_exists_eq ':' cs with hne | ⟨name, rest, rfl, hne⟩
    · rw [ofRun_of_forall minus hne]
      exact Or.inl ⟨rfl, String.toList_ofList⟩
    · rw [ofRun_append_colon minus hne]
      refine Or.inr ⟨by simp, ?_⟩
      simp only [String.toList_ofList]
      rw [symbol?_append_splitOperator, List.cons_append]

/-- A run that the text ends with is the last token. -/
theorem readBody_of_forall (minus : Bool) {run : List Char} (h : ∀ c ∈ run, isRunChar c = true) :
    readBody minus run = (ofRun minus run, []) := by
  rw [readBody, List.dropWhile_eq_nil_iff.mpr h, List.takeWhile_eq_self_iff.mpr h]

/-- The first character that is not of the run ends it, and opens a literal if it is a quote and the
run has no word. -/
theorem readBody_append_cons (minus : Bool) {run rest : List Char} {c : Char}
    (h : ∀ d ∈ run, isRunChar d = true) (hc : isRunChar c = false) :
    readBody minus (run ++ c :: rest) =
      if c = '"' ∧ (ofRun minus run).text = "" then readLiteral (ofRun minus run) rest
      else (ofRun minus run, c :: rest) := by
  rw [readBody, dropWhile_append_cons h hc, takeWhile_append_cons h hc]

/-! ## Progress -/

theorem isRunChar_iff {c : Char} : isRunChar c = true ↔ Text.isBlank c = false ∧ c ≠ '"' := by
  simp [isRunChar]

theorem length_readLiteral_le (t : Token) (cs : List Char) :
    (readLiteral t cs).2.length ≤ cs.length := by
  have h := (List.dropWhile_sublist (l := cs) (· != '"')).length_le
  unfold readLiteral
  split
  · exact Nat.zero_le _
  · next c rest heq =>
    rw [heq, List.length_cons] at h
    show rest.length ≤ cs.length
    omega

theorem length_readBody_le (minus : Bool) (body : List Char) :
    (readBody minus body).2.length ≤ (body.dropWhile isRunChar).length := by
  unfold readBody
  split
  · exact Nat.zero_le _
  · next c rest heq =>
    rw [heq]
    dsimp only
    split
    · have h := length_readLiteral_le (ofRun minus (body.takeWhile isRunChar)) rest
      rw [List.length_cons]
      omega
    · exact Nat.le_refl _

theorem readBody_quote (minus : Bool) (cs : List Char) :
    readBody minus ('"' :: cs) = readLiteral (ofRun minus []) cs := rfl

/-- A token takes something off every text that does not begin with white space. -/
theorem length_read_lt {c : Char} (cs : List Char) (hc : Text.isBlank c = false) :
    (read (c :: cs)).2.length < (c :: cs).length := by
  have hle := (List.dropWhile_sublist (l := cs) isRunChar).length_le
  rw [List.length_cons]
  by_cases hm : c = '-'
  · have h := length_readBody_le true cs
    rw [Token.read, splitMinus, if_pos hm]
    show (readBody true cs).2.length < _
    omega
  · rw [Token.read, splitMinus, if_neg hm]
    show (readBody false (c :: cs)).2.length < _
    by_cases hq : c = '"'
    · have h := length_readLiteral_le (ofRun false []) cs
      rw [hq, readBody_quote]
      omega
    · have h := length_readBody_le false (c :: cs)
      rw [List.dropWhile_cons, if_pos (isRunChar_iff.mpr ⟨hc, hq⟩)] at h
      omega

end Token

def tokens (cs : List Char) : List Token :=
  match _h : cs.dropWhile Text.isBlank with
  | [] => []
  | c :: rest => (Token.read (c :: rest)).1 :: tokens (Token.read (c :: rest)).2
termination_by cs.length
decreasing_by
  have hlt := Token.length_read_lt rest (Token.eq_false_of_dropWhile_eq_cons _h)
  have hle := (List.dropWhile_sublist (l := cs) Text.isBlank).length_le
  rw [_h] at hle
  omega

theorem tokens_of_nil {cs : List Char} (h : cs.dropWhile Text.isBlank = []) : tokens cs = [] := by
  rw [tokens]
  split
  · rfl
  · next heq => rw [h] at heq; cases heq

theorem tokens_of_cons {cs rest : List Char} {c : Char}
    (h : cs.dropWhile Text.isBlank = c :: rest) :
    tokens cs = (Token.read (c :: rest)).1 :: tokens (Token.read (c :: rest)).2 := by
  rw [tokens]
  split
  · next heq => rw [h] at heq; cases heq
  · next heq => rw [h] at heq; cases heq; rfl

/-! ## Groups -/

/-- What the tokens so far leave behind. -/
structure Grouping where
  /-- Whether a minus sign still waits for a value, as one in front of a keyword does. -/
  minus : Bool := false
  /-- The keyword that the last token was, if it was one. -/
  keyword : Option Keyword := none
  group : Group := []
  groups : List Group := []
  deriving DecidableEq, Repr

namespace Grouping

/-- The groups when the open one is closed.  An empty group is not kept. -/
def closed (g : Grouping) : List Group :=
  if g.group.isEmpty then g.groups else g.groups ++ [g.group]

/-- Adds a value.  It joins the open group behind an `OR` and begins a new one otherwise; an empty
value is dropped, and so is what was waiting for it. -/
def addValue (g : Grouping) (t : Token) : Grouping :=
  let element : Element :=
    { field := t.field, text := t.text, negate := g.minus || t.minus, matchKind := t.matchKind }
  let added : Group := if t.text = "" then [] else [element]
  if g.keyword = some .or then { group := g.group ++ added, groups := g.groups }
  else { group := added, groups := g.closed }

/-- Adds a token.  A keyword behind a keyword is a value. -/
def add (g : Grouping) (t : Token) : Grouping :=
  match g.keyword, t.keyword? with
  | none, some .and =>
    { minus := g.minus || t.minus, keyword := some .and, group := [], groups := g.closed }
  | none, some .or => { g with minus := g.minus || t.minus, keyword := some .or }
  | _, _ => g.addValue t

end Grouping

def Expression.ofTokens (ts : List Token) : Expression :=
  ⟨(ts.foldl Grouping.add {}).closed⟩

end TrackSearch
