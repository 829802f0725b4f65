/-
Reading an expression from text, one character at a time.

    [-][field:][=|<|>]value    one element
    "quoted value"             a value with white space or operators in it
    a OR b                     two elements of one group
    a AND b, a b               two groups

Every text is an expression.  A quote left open ends with the text, an operator out of place is part
of a word, and an element without a value is dropped.
-/
import TrackSearch.Expression.Basic
import TrackSearch.Text.Blank

namespace TrackSearch

inductive Stage
  /-- Nothing has been read, and a minus sign may come. -/
  | start
  /-- A word is being read that a colon would turn into a field name. -/
  | field
  /-- A colon has been read, and an operator may come. -/
  | operator
  | value
  deriving DecidableEq, Repr

/-- Whether a colon at this stage ends a field name. -/
def Stage.beforeColon : Stage → Bool
  | start | field => true
  | operator | value => false

/-- What is known of an expression after some characters of its text. -/
structure Tokenizer where
  stage : Stage := .start
  /-- The word or quoted value being read. -/
  buffer : String := ""
  /-- The parts of the next element that came before its value. -/
  element : Element := {}
  /-- Whether a quote is open. -/
  inQuote : Bool := false
  /-- Whether an `OR` joins the next element to the open group. -/
  joining : Bool := false
  /-- Whether the last token was a keyword. -/
  afterKeyword : Bool := false
  group : Group := []
  groups : List Group := []
  deriving DecidableEq, Repr

namespace Tokenizer

/-- Closes the open group, unless it is empty. -/
def finishGroup (t : Tokenizer) : Tokenizer :=
  { t with
    groups := if t.group.isEmpty then t.groups else t.groups ++ [t.group]
    group := []
    joining := false }

/-- Makes the buffer the value of the pending element and adds it to the open group, or to a new one
when no `OR` came before it. -/
def finishElement (t : Tokenizer) : Tokenizer :=
  let t := if t.joining then t else t.finishGroup
  { t with
    group := if t.buffer.isEmpty then t.group else t.group ++ [{ t.element with text := t.buffer }]
    element := {}
    buffer := ""
    stage := .start
    joining := false
    afterKeyword := false }

/-- Whether the word in the buffer would be a keyword, were it `AND` or `OR`. -/
def keywordAllowed (t : Tokenizer) : Bool :=
  !t.joining && !t.afterKeyword && t.element.field.isEmpty

/-- Ends the word in the buffer, which is a keyword or the value of an element. -/
def finishToken (t : Tokenizer) : Tokenizer :=
  if t.keywordAllowed && t.buffer == "AND" then
    { t.finishGroup with afterKeyword := true, buffer := "", stage := .start }
  else if t.keywordAllowed && t.buffer == "OR" then
    { t with afterKeyword := true, joining := true, buffer := "", stage := .start }
  else t.finishElement

/-- Closes the open quote or opens one.  A word that the opening quote touches ends there. -/
def quote (t : Tokenizer) : Tokenizer :=
  if t.inQuote then { t.finishElement with inQuote := false }
  else { (if t.buffer.isEmpty then t else t.finishToken) with stage := .value, inQuote := true }

def pushChar (t : Tokenizer) (c : Char) : Tokenizer :=
  { t with
    buffer := t.buffer.push c
    stage := if t.stage.beforeColon then .field else .value }

def feed (t : Tokenizer) (c : Char) : Tokenizer :=
  if t.inQuote && c != '"' then { t with buffer := t.buffer.push c }
  else if c = '"' then t.quote
  else if Text.isBlank c then (if t.stage = .start then t else t.finishToken)
  else if c = '-' ∧ t.stage = .start then
    { t with element := { t.element with negate := true }, stage := .field }
  else if c = ':' ∧ t.stage.beforeColon ∧ t.buffer.isEmpty = false then
    { t with element := { t.element with field := t.buffer }, buffer := "", stage := .operator }
  else
    match MatchKind.ofSymbol? c with
    | some k =>
      if t.stage = .operator then
        { t with element := { t.element with matchKind := k }, stage := .value }
      else t.pushChar c
    | none => t.pushChar c

def feedAll (t : Tokenizer) (cs : List Char) : Tokenizer :=
  cs.foldl feed t

def finish (t : Tokenizer) : Expression :=
  ⟨t.finishToken.finishGroup.groups⟩

end Tokenizer

def Expression.parse (text : String) : Expression :=
  (({} : Tokenizer).feedAll text.toList).finish

end TrackSearch
