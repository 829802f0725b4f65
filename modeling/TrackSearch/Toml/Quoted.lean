/-
TOML strings.  A string between double quotes has escapes, one between single quotes has none, and
either can have its quotes three times and go over several lines.
-/
import TrackSearch.Number.Integer

namespace TrackSearch
namespace Toml

/-- Whether a character may stand in a string or a comment.  Of the control characters only the tab
may. -/
def isText (c : Char) : Bool :=
  c == '\t' || (decide (0x20 ≤ c.toNat) && c.toNat != 0x7f)

def hexValue? (c : Char) : Option Nat :=
  if '0' ≤ c ∧ c ≤ '9' then some (c.toNat - '0'.toNat)
  else if 'a' ≤ c ∧ c ≤ 'f' then some (c.toNat - 'a'.toNat + 10)
  else if 'A' ≤ c ∧ c ≤ 'F' then some (c.toNat - 'A'.toNat + 10)
  else none

/-- The character whose code point is written in just `n` digits of base 16. -/
def codePoint? (n : Nat) (cs : List Char) : Option Char := do
  if (cs.take n).length < n then none
  let value ← (cs.take n).foldlM (fun v c => (hexValue? c).map (16 * v + ·)) 0
  if value.isValidChar then some (Char.ofNat value) else none

/-- The character that an escape stands for, given what follows its backslash, and the number of
characters that the escape takes there. -/
def escape? : List Char → Option (Char × Nat)
  | '"' :: _ => some ('"', 1)
  | '\\' :: _ => some ('\\', 1)
  | 'b' :: _ => some ('\x08', 1)
  | 't' :: _ => some ('\t', 1)
  | 'n' :: _ => some ('\n', 1)
  | 'f' :: _ => some ('\x0c', 1)
  | 'r' :: _ => some ('\r', 1)
  | 'e' :: _ => some ('\x1b', 1)
  | 'x' :: cs => (codePoint? 2 cs).map fun c => (c, 3)
  | 'u' :: cs => (codePoint? 4 cs).map fun c => (c, 5)
  | 'U' :: cs => (codePoint? 8 cs).map fun c => (c, 9)
  | _ => none

/-- The text up to the closing quote, and what is behind the quote. -/
def takeBasic? : List Char → Option (List Char × List Char)
  | [] => none
  | c :: cs =>
    if c = '"' then some ([], cs)
    else if c = '\\' then
      match escape? cs with
      | some (e, n) => (takeBasic? (cs.drop n)).map fun (s, rest) => (e :: s, rest)
      | none => none
    else if isText c then (takeBasic? cs).map fun (s, rest) => (c :: s, rest)
    else none
termination_by cs => cs.length
decreasing_by all_goals (simp only [List.length_drop, List.length_cons]; omega)

/-- As `takeBasic?`, for a string without escapes. -/
def takeLiteral? : List Char → Option (List Char × List Char)
  | [] => none
  | c :: cs =>
    if c = '\'' then some ([], cs)
    else if isText c then (takeLiteral? cs).map fun (s, rest) => (c :: s, rest)
    else none

/-- The line end in front, if there is one, as the number of its characters. -/
def lineEnd? : List Char → Option Nat
  | '\n' :: _ => some 1
  | '\r' :: '\n' :: _ => some 2
  | _ => none

/-- The text behind a line end in front. -/
def dropLineEnd (cs : List Char) : List Char :=
  cs.drop ((lineEnd? cs).getD 0)

def isSpace (c : Char) : Bool :=
  c == ' ' || c == '\t'

/-- The quotes in front of three closing ones, as far as they belong to the text: a row of three to
five quotes closes it, and the first two of the five are part of it. -/
def closing? (quote : Char) (cs : List Char) : Option Nat :=
  let row := (cs.take 5).takeWhile (· == quote)
  if 3 ≤ row.length then some (row.length - 3) else none

/-- The text from the first character that is no space and no line end. -/
def dropBlankLines : List Char → List Char
  | ' ' :: cs => dropBlankLines cs
  | '\t' :: cs => dropBlankLines cs
  | '\n' :: cs => dropBlankLines cs
  | '\r' :: '\n' :: cs => dropBlankLines cs
  | cs => cs

/-- What follows a backslash at the end of a line, without the white space in front. -/
def afterContinuation? (cs : List Char) : Option (List Char) :=
  let rest := cs.dropWhile isSpace
  match lineEnd? rest with
  | some _ => some (dropBlankLines rest)
  | none => none

/-- The text up to the closing quotes of a string over several lines, and what is behind them.  A
backslash at the end of a line takes away the white space up to the next text. -/
def takeLines? (escapes : Bool) (quote : Char) (fuel : Nat) (cs : List Char) :
    Option (List Char × List Char) :=
  match fuel with
  | 0 => none
  | fuel + 1 =>
    match closing? quote cs with
    | some n => some (List.replicate n quote, cs.drop (n + 3))
    | none =>
    match cs with
    | [] => none
    | c :: cs =>
      if escapes && c == '\\' then
        match afterContinuation? cs with
        | some rest => takeLines? escapes quote fuel rest
        | none =>
        match escape? cs with
        | some (e, n) =>
          (takeLines? escapes quote fuel (cs.drop n)).map fun (s, rest) => (e :: s, rest)
        | none => none
      else if isText c || c == '\n' || (c == '\r' && cs.head? == some '\n') then
        (takeLines? escapes quote fuel cs).map fun (s, rest) => (c :: s, rest)
      else none

/-- A string over several lines, given what follows its opening quotes.  A line end right behind
them is not part of it. -/
def takeMultiline? (escapes : Bool) (quote : Char) (cs : List Char) :
    Option (List Char × List Char) :=
  takeLines? escapes quote (cs.length + 1) (dropLineEnd cs)

/-- A string in front, and what is behind it. -/
def takeString? : List Char → Option (String × List Char)
  | '"' :: '"' :: '"' :: cs =>
    (takeMultiline? true '"' cs).map fun (s, rest) => (String.ofList s, rest)
  | '\'' :: '\'' :: '\'' :: cs =>
    (takeMultiline? false '\'' cs).map fun (s, rest) => (String.ofList s, rest)
  | '"' :: cs => (takeBasic? cs).map fun (s, rest) => (String.ofList s, rest)
  | '\'' :: cs => (takeLiteral? cs).map fun (s, rest) => (String.ofList s, rest)
  | _ => none

end Toml
end TrackSearch
