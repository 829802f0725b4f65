/-
Reading a date from a text that follows a format.  What the text says of a time of day and of a time
zone has to follow the format too, but it does not count for the date.
-/
import TrackSearch.DateFormat.Entries
import TrackSearch.DateFormat.Part
import TrackSearch.Number.Integer

namespace TrackSearch
namespace DateFormat

open Calendar Number

/-- How a number is written: the digits at most, and the values that it can have.  A
signed one may have a sign in front, and any number of digits behind the sign. -/
structure NumberShape where
  width : Nat
  least : Int
  greatest : Int
  signed : Bool := false

def NumberPart.shape : NumberPart → NumberShape
  | .year | .weekYear => ⟨4, -2147483648, 2147483647, true⟩
  | .century | .yearOfCentury | .weekYearOfCentury => { width := 2, least := 0, greatest := 99 }
  | .quarter => { width := 1, least := 1, greatest := 4 }
  | .month => { width := 2, least := 1, greatest := 12 }
  | .day => { width := 2, least := 1, greatest := 31 }
  | .dayOfYear => { width := 3, least := 1, greatest := 366 }
  | .weekFromSunday | .weekFromMonday => { width := 2, least := 0, greatest := 53 }
  | .week => { width := 2, least := 1, greatest := 53 }
  | .weekdayFromSunday => { width := 1, least := 0, greatest := 6 }
  | .weekdayFromMonday => { width := 1, least := 1, greatest := 7 }
  | .hour => { width := 2, least := 0, greatest := 23 }
  | .hourOfHalf => { width := 2, least := 1, greatest := 12 }
  | .minute => { width := 2, least := 0, greatest := 59 }
  -- Second 60 is a leap second.
  | .second => { width := 2, least := 0, greatest := 60 }
  | .nanosecond => { width := 9, least := 0, greatest := 999999999 }
  -- No text has more digits.
  | .timestamp => { width := 18446744073709551615, least := 0, greatest := 9223372036854775807 }

/-- What a number says. -/
def NumberPart.entries (v : Int) : NumberPart → List (Entry × Int)
  | .year => [(.year, v)]
  | .century => [(.century, v)]
  | .yearOfCentury => [(.yearOfCentury, v)]
  | .weekYear => [(.weekYear, v)]
  | .weekYearOfCentury => [(.weekYearOfCentury, v)]
  | .quarter => [(.quarter, v)]
  | .month => [(.month, v)]
  | .day => [(.day, v)]
  | .dayOfYear => [(.dayOfYear, v)]
  | .weekFromSunday => [(.weekFromSunday, v)]
  | .weekFromMonday => [(.weekFromMonday, v)]
  | .week => [(.week, v)]
  | .weekdayFromSunday => [(.weekday, (v + 6) % 7)]
  | .weekdayFromMonday => [(.weekday, v - 1)]
  | .hour => [(.halfOfDay, v / 12), (.hourOfHalf, v % 12)]
  | .hourOfHalf => [(.hourOfHalf, v % 12)]
  | .minute => [(.minute, v)]
  | .second => [(.second, v)]
  | .nanosecond => [(.nanosecond, v)]
  | .timestamp => [(.timestamp, v)]

/-- The number that a row of digits in front denotes, and the text behind the row. -/
def takeNat? (width : Nat) (cs : List Char) : Option (Nat × List Char) :=
  let ds := (cs.take width).takeWhile isAsciiDigit
  if ds.isEmpty then none else some (digitsValue ds, cs.drop ds.length)

/-- As `takeNat?`, with a sign in front if the shape allows one. -/
def takeInt? (shape : NumberShape) (cs : List Char) : Option (Int × List Char) :=
  match shape.signed, cs with
  | true, '-' :: rest => (takeNat? rest.length rest).map fun (n, r) => (-n, r)
  | true, '+' :: rest => (takeNat? rest.length rest).map fun (n, r) => (n, r)
  | _, cs => (takeNat? shape.width cs).map fun (n, r) => (n, r)

def monthNames : List String :=
  ["january", "february", "march", "april", "may", "june", "july", "august", "september", "october",
    "november", "december"]

def weekdayNames : List String :=
  ["monday", "tuesday", "wednesday", "thursday", "friday", "saturday", "sunday"]

/-- The text behind a word in front, in any letter case. -/
def dropWord? : List Char → List Char → Option (List Char)
  | [], cs => some cs
  | w :: ws, c :: cs => if c.toLower = w then dropWord? ws cs else none
  | _ :: _, [] => none

/-- Reads the first three letters of a name, and the rest of it if wanted and there. -/
def dropName? (full : Bool) (name : String) (cs : List Char) : Option (List Char) :=
  (dropWord? (name.toList.take 3) cs).map fun rest =>
    if full then (dropWord? (name.toList.drop 3) rest).getD rest else rest

/-- The place in a list of the name in front, and the text behind the name. -/
def takeName? (full : Bool) : List String → List Char → Option (Nat × List Char)
  | [], _ => none
  | name :: names, cs =>
    match dropName? full name cs with
    | some rest => some (0, rest)
    | none => (takeName? full names cs).map fun (i, rest) => (i + 1, rest)

def halfNames : List String :=
  ["am", "pm"]

/-! ## Fractions and offsets -/

/-- The nanoseconds that the first digits of a fraction of a second come to. -/
def nanoseconds (ds : List Char) : Nat :=
  digitsValue (ds ++ List.replicate (9 - ds.length) '0')

/-- A fraction of a second in nanoseconds.  The digits behind the ninth do not count. -/
def takeFraction? (cs : List Char) : Option (Nat × List Char) :=
  let ds := cs.takeWhile isAsciiDigit
  if ds.isEmpty then none else some (nanoseconds (ds.take 9), cs.dropWhile isAsciiDigit)

/-- The number of as many digits as there have to be, and the text behind them. -/
def takeDigits? (width : Nat) (cs : List Char) : Option (List Char × List Char) :=
  let ds := cs.take width
  if ds.length = width ∧ ds.all isAsciiDigit = true then some (ds, cs.drop width) else none

/-- Whether a sign in front is a minus. -/
def takeSign? : List Char → Option (Bool × List Char)
  | '+' :: rest => some (false, rest)
  | '-' :: rest | '\u2212' :: rest => some (true, rest)
  | _ => none

/-- Hours and minutes in seconds, with colons and white space between them. -/
def takeHours? (style : OffsetStyle) (cs : List Char) : Option (Nat × List Char) := do
  let (hours, rest) ← takeDigits? 2 cs
  let rest := rest.dropWhile fun c => c == ':' || Text.isBlank c
  if style = .lenient ∧ rest = [] then some (3600 * digitsValue hours, [])
  else do
    let (minutes, rest) ← takeDigits? 2 rest
    if digitsValue minutes < 60 then
      some (3600 * digitsValue hours + 60 * digitsValue minutes, rest)
    else none

/-- The names of the offset 0. -/
def OffsetStyle.zeroNames : OffsetStyle → List String
  | signed => []
  | lenient => ["z"]
  | named => ["utc", "z"]

/-- The seconds that the time zone in front is ahead of UTC, and the text behind it. -/
def takeOffset? (style : OffsetStyle) (cs : List Char) : Option (Int × List Char) :=
  match takeName? true style.zeroNames cs with
  | some (_, rest) => some (0, rest)
  | none => do
    let (behind, rest) ← takeSign? cs
    let (n, rest) ← takeHours? style rest
    some (if behind then -n else n, rest)

/-! ## Parts -/

/-- The value of one entry, from what was taken off the front of a text. -/
def asValue {α : Type} (k : Entry) (taken : Option (α × List Char)) (f : α → Int) :
    Option (List (Entry × Int) × List Char) :=
  taken.map fun (a, rest) => ([(k, f a)], rest)

/-- What a part of a format says at the front of a text, and the text behind it. -/
def takePart? (cs : List Char) : Part → Option (List (Entry × Int) × List Char)
  | .blank => some ([], Text.trimStart cs)
  | .literal c =>
    match cs with
    | d :: rest => if d = c then some ([], rest) else none
    | [] => none
  | .number part => do
    let (v, rest) ← takeInt? part.shape (Text.trimStart cs)
    if part.shape.least ≤ v ∧ v ≤ part.shape.greatest then some (part.entries v, rest) else none
  | .monthName full => asValue .month (takeName? full monthNames cs) fun i => i + 1
  | .weekdayName full => asValue .weekday (takeName? full weekdayNames cs) fun i => i
  | .halfOfDay => asValue .halfOfDay (takeName? true halfNames cs) fun i => i
  | .fraction =>
    match cs with
    | '.' :: rest => asValue .nanosecond (takeFraction? rest) fun n => n
    | cs => some ([], cs)
  | .fractionDigits width =>
    asValue .nanosecond (takeDigits? width cs) fun ds => nanoseconds ds
  | .zoneName => some ([], cs.dropWhile fun c => !Text.isBlank c)
  | .offset style => asValue .offset (takeOffset? style (Text.trimStart cs)) id
  | .timeSeparator =>
    match cs with
    | d :: rest => if d = 't' ∨ d = 'T' ∨ d = ' ' then some ([], rest) else none
    | [] => none

/-- Reads one part of a format off the front of a text. -/
def readPart? (state : Entries × List Char) (part : Part) : Option (Entries × List Char) := do
  let (values, rest) ← takePart? state.2 part
  let entries ← state.1.putAll? values
  some (entries, rest)

/-- The date of a text that follows the parts of a format from its first character to its last. -/
def readParts? (parts : List Part) (cs : List Char) : Option Date := do
  let (entries, rest) ← parts.foldlM readPart? (Entries.none, cs)
  if rest.isEmpty then entries.toDate? else none

def readDate? (f : DateFormat) (cs : List Char) : Option Date :=
  readParts? f.parts cs

end DateFormat
end TrackSearch
