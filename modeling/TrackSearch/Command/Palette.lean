/-
Colours for help texts.

Colour is put into a text by sequences of control characters around some of its parts.  Whatever the
text, nothing of it is lost: it is what remains when the sequences are taken out.
-/
import TrackSearch.Number.Integer
import TrackSearch.Text.Blank
import TrackSearch.Text.Split

namespace TrackSearch
namespace Palette

/-! ## Colours -/

abbrev Color := Nat

def headerColor : Color := 74

def literalColor : Color := 250

def contextColor : Color := 245

def start (color : Color) : List Char :=
  "\x1b[38;5;".toList ++ Nat.toDigits 10 color ++ ['m']

def reset : List Char :=
  "\x1b[0m".toList

def paint (color : Color) (cs : List Char) : List Char :=
  start color ++ cs ++ reset

/-! ## Commands -/

/-- The pieces of a command between its quotes, in turn outside and inside of quotes.  A piece
inside gets its quotes back, and the last one may lack its closing quote. -/
def paintPieces (inside : Bool) : List (List Char) → List Char
  | [] => []
  | [piece] =>
    if inside then paint contextColor ('"' :: piece)
    else if piece.isEmpty then [] else paint literalColor piece
  | piece :: rest =>
    (if inside then paint contextColor ('"' :: piece ++ ['"'])
      else if piece.isEmpty then [] else paint literalColor piece) ++ paintPieces (!inside) rest

def paintCommand (cs : List Char) : List Char :=
  paintPieces false (Text.splitAt '"' cs)

/-! ## Examples -/

/-- A text cut at its first two spaces in a row. -/
def splitAtGap? : List Char → Option (List Char × List Char)
  | ' ' :: ' ' :: cs => some ([], ' ' :: ' ' :: cs)
  | c :: cs => (splitAtGap? cs).map fun (before, gap) => (c :: before, gap)
  | [] => none

/-- A command and its description, which are two spaces apart or more. -/
def splitDescription? (cs : List Char) : Option (List Char × List Char) :=
  (splitAtGap? cs).filter fun (_, gap) => !(Text.trimStart gap).isEmpty

/-- The bytes in front of the description. -/
def descriptionOffset? (s : String) : Option Nat :=
  (splitDescription? s.toList).map fun (before, _) => (String.ofList before).utf8ByteSize

/-- Whether a line is a heading: it ends in a colon, and no description is in it. -/
def isHeading (cs : List Char) : Bool :=
  cs.getLast? == some ':' && (splitAtGap? cs).isNone

def paintLine (line : List Char) : List Char :=
  let body := Text.trimStart line
  let indent := line.take (line.length - body.length)
  if isHeading body then indent ++ paint headerColor body
  else
    match splitDescription? body with
    | some (command, description) => indent ++ paintCommand command ++ description
    | none => line

/-- A piece of text in front of a line end, without the carriage return that belongs to the line
end. -/
def dropReturn (cs : List Char) : List Char :=
  if cs.getLast? == some '\r' then cs.dropLast else cs

/-- The lines of a text that was cut at its line ends.  Nothing behind the last line end is no
line. -/
def linesOfPieces : List (List Char) → List (List Char)
  | [] => []
  | [last] => if last.isEmpty then [] else [last]
  | piece :: rest => dropReturn piece :: linesOfPieces rest

def lines (cs : List Char) : List (List Char) :=
  linesOfPieces (Text.splitAt '\n' cs)

/-- Lines with a line end between any two neighbours. -/
def joinLines : List (List Char) → List Char
  | [] => []
  | [line] => line
  | line :: rest => line ++ '\n' :: joinLines rest

def paintExamples (cs : List Char) : List Char :=
  joinLines ((lines cs).map paintLine)

end Palette
end TrackSearch
