/-
TOML values that are written without quotes: truth values, numbers and times.
-/
import TrackSearch.Calendar.Date
import TrackSearch.Number.Integer
import TrackSearch.Text.Split
import TrackSearch.Toml.Quoted
import TrackSearch.Toml.Value

namespace TrackSearch
namespace Toml

open Number

/-! ## Numbers

No setting is a number, so a number is taken apart only as far as it has to be known for one. -/

def dropSign : List Char → List Char
  | '+' :: cs => cs
  | '-' :: cs => cs
  | cs => cs

def isHexDigit (c : Char) : Bool :=
  (hexValue? c).isSome

/-- Whether there are digits on both sides of every underscore, given the pieces that the
underscores leave of a number. -/
def underscoresFit (isDigit : Char → Bool) : List (List Char) → Bool
  | left :: right :: pieces =>
    left.getLast?.any isDigit && right.head?.any isDigit &&
      underscoresFit isDigit (right :: pieces)
  | _ => true

/-- The digits of a base whose numbers have a mark in front, with underscores.  There can be
none. -/
def isMarkedRow (isDigit : Char → Bool) (cs : List Char) : Bool :=
  cs.all (fun c => isDigit c || c == '_') && underscoresFit isDigit (Text.splitAt '_' cs)

def isExponentMark (c : Char) : Bool :=
  c == 'e' || c == 'E'

/-- A number of base 10 without a fraction, 0 or with another digit in front.  What follows its
first underscore can be anything that makes it no float. -/
def isWhole (cs : List Char) : Bool :=
  let body := dropSign cs
  underscoresFit isHexDigit (Text.splitAt '_' cs) &&
    (body == ['0'] ||
      (!body.isEmpty && body.head? != some '0' &&
        match body.dropWhile isAsciiDigit with
        | [] => true
        | c :: cs => c == '_' && !cs.any fun c => c == ' ' || c == '.' || isExponentMark c))

def isInteger : List Char → Bool
  | '0' :: 'x' :: cs => isMarkedRow isHexDigit cs
  | '0' :: 'o' :: cs => isMarkedRow (fun c => decide ('0' ≤ c) && decide (c ≤ '7')) cs
  | '0' :: 'b' :: cs => isMarkedRow (fun c => c == '0' || c == '1') cs
  | cs => isWhole cs

def isRowChar (c : Char) : Bool :=
  isAsciiDigit c || c == '_'

def isDigitRow (row : List Char) : Bool :=
  row.all isRowChar && row.any isAsciiDigit

def isExponent : List Char → Bool
  | c :: cs => isExponentMark c && isDigitRow (dropSign cs)
  | [] => false

/-- A number with a fraction, a power of ten or both, or one of the two special words.  Its first
digit is 0 only if no other one stands in front of the fraction. -/
def isFloat (cs : List Char) : Bool :=
  let body := dropSign cs
  let whole := body.takeWhile isRowChar
  body == "inf".toList || body == "nan".toList ||
    (underscoresFit isAsciiDigit (Text.splitAt '_' cs) && isDigitRow whole &&
      (whole.head? != some '0' || whole.countP isAsciiDigit == 1) &&
      match body.dropWhile isRowChar with
      | '.' :: cs =>
        isDigitRow (cs.takeWhile isRowChar) &&
          (cs.dropWhile isRowChar == [] || isExponent (cs.dropWhile isRowChar))
      | cs => isExponent cs)

/-! ## Times -/

/-- The value of a row of just `n` digits. -/
def fixed? (n : Nat) (cs : List Char) : Option Nat :=
  if cs.length = n then readNat? cs else none

/-- A date, as in `1979-05-27`. -/
def isDay (cs : List Char) : Bool :=
  match Text.splitAt '-' cs with
  | [y, m, d] =>
    match fixed? 4 y, fixed? 2 m, fixed? 2 d with
    | some y, some m, some d => decide (Calendar.IsDate y m d)
    | _, _, _ => false
  | _ => false

/-- A row of two digits that denotes a number up to a limit. -/
def isTwoDigits (limit : Nat) (cs : List Char) : Bool :=
  match fixed? 2 cs with
  | some n => decide (n ≤ limit)
  | none => false

def isSeconds (cs : List Char) : Bool :=
  isTwoDigits 60 (cs.take 2) &&
    match cs.drop 2 with
    | [] => true
    | c :: ds => c == '.' && !ds.isEmpty && ds.all isAsciiDigit

/-- A time of day, as in `07:32:00` or `07:32`. -/
def isClock (cs : List Char) : Bool :=
  match Text.splitAt ':' cs with
  | [h, m] => isTwoDigits 23 h && isTwoDigits 59 m
  | [h, m, s] => isTwoDigits 23 h && isTwoDigits 59 m && isSeconds s
  | _ => false

/-- A time of day, alone or with its distance from universal time. -/
def isZonedClock (cs : List Char) : Bool :=
  let clock := cs.takeWhile fun c => isAsciiDigit c || c == ':' || c == '.'
  isClock clock &&
    match cs.drop clock.length with
    | [] => true
    | ['Z'] | ['z'] => true
    | c :: zone =>
      (c == '+' || c == '-') &&
        match Text.splitAt ':' zone with
        | [h, m] => isTwoDigits 23 h && isTwoDigits 59 m
        | _ => false

def isTime (cs : List Char) : Bool :=
  isDay cs || isClock cs ||
    (isDay (cs.take 10) &&
      match cs.drop 10 with
      | c :: cs => (c == 'T' || c == 't' || c == ' ') && isZonedClock cs
      | [] => false)

/-! ## Values -/

/-- The value of a text without quotes. -/
def scalar? (cs : List Char) : Option Value :=
  let text := String.ofList cs
  if text = "true" then some (.boolean true)
  else if text = "false" then some (.boolean false)
  else if isInteger cs then some (.integer text)
  else if isFloat cs then some (.float text)
  else if isTime cs then some (.time text)
  else none

/-- Whether a character can stand in a word.  A word is ended only by what has a meaning of its own
between values. -/
def isWordChar (c : Char) : Bool :=
  !(isSpace c || c == '\r' || c == '\n' || c == '#' || c == '.' || c == '=' || c == ',' ||
    c == '[' || c == ']' || c == '\x7b' || c == '\x7d')

/-- The text of a value without quotes that stands in front: words with points or spaces between
them. -/
def bareText : List Char → List Char
  | [] => []
  | c :: cs =>
    let isJoined :=
      isWordChar c || c == '.' ||
        (isSpace c &&
          (cs.dropWhile isSpace).head?.any fun d => isWordChar d && d != '"' && d != '\'')
    if isJoined then c :: bareText cs else []

/-- A value without quotes in front, and what is behind it. -/
def takeScalar? (cs : List Char) : Option (Value × List Char) :=
  let text := bareText cs
  (scalar? text).map fun v => (v, cs.drop text.length)

end Toml
end TrackSearch
