/-
Date formats: texts in which `%` and a letter stand for a part of a date or of a time of day, and
anything else for itself.
-/
import TrackSearch.Error
import TrackSearch.Text.Blank

namespace TrackSearch
namespace DateFormat

inductive NumberPart
  | year | century | yearOfCentury
  /-- The year that a week counted by its Thursday belongs to. -/
  | weekYear | weekYearOfCentury
  | quarter | month | day | dayOfYear
  /-- The week of the year, with weeks from Sunday, from Monday, or counted by their Thursdays. -/
  | weekFromSunday | weekFromMonday | week
  | weekdayFromSunday | weekdayFromMonday
  | hour
  /-- The hour of a half of the day, which starts with the hour 12. -/
  | hourOfHalf
  | minute | second | nanosecond
  /-- The seconds since the epoch. -/
  | timestamp
  deriving DecidableEq, Repr

/-- What may stand for the offset of a time zone beside a sign, hours and minutes. -/
inductive OffsetStyle
  | signed
  /-- `Z`; and nothing for the minutes at the end of a text. -/
  | lenient
  /-- `Z` and `UTC`. -/
  | named
  deriving DecidableEq, Repr

inductive Part
  | blank
  | literal (c : Char)
  | number (part : NumberPart)
  /-- The name of a month: three letters, or `full` with the rest of the name if it follows. -/
  | monthName (full : Bool)
  | weekdayName (full : Bool)
  /-- `am` or `pm`. -/
  | halfOfDay
  /-- A point and the digits of a fraction of a second, if there is a point. -/
  | fraction
  /-- The digits of a fraction of a second, without a point. -/
  | fractionDigits (width : Nat)
  /-- Anything up to white space. -/
  | zoneName
  | offset (style : OffsetStyle)
  /-- What stands between a date and a time of day. -/
  | timeSeparator
  deriving DecidableEq, Repr

/-- A time of day, with the hour as it is counted there. -/
def clock (h : NumberPart) : List Part :=
  [.number h, .literal ':', .number .minute, .literal ':', .number .second]

/-- A date, a time of day and an offset, with white space in most places between them. -/
def dateAndTime : List Part :=
  [.number .year, .blank, .literal '-', .number .month, .blank, .literal '-', .number .day,
    .timeSeparator, .number .hour, .blank, .literal ':', .number .minute, .blank, .literal ':',
    .number .second, .fraction, .blank, .offset .named]

/-- What a letter stands for when it stands for one number, which may be padded. -/
def numberSpecifier? : Char → Option Part
  | 'Y' => some (.number .year)
  | 'C' => some (.number .century)
  | 'y' => some (.number .yearOfCentury)
  | 'G' => some (.number .weekYear)
  | 'g' => some (.number .weekYearOfCentury)
  | 'q' => some (.number .quarter)
  | 'm' => some (.number .month)
  | 'd' | 'e' => some (.number .day)
  | 'j' => some (.number .dayOfYear)
  | 'U' => some (.number .weekFromSunday)
  | 'W' => some (.number .weekFromMonday)
  | 'V' => some (.number .week)
  | 'w' => some (.number .weekdayFromSunday)
  | 'u' => some (.number .weekdayFromMonday)
  | 'H' | 'k' => some (.number .hour)
  | 'I' | 'l' => some (.number .hourOfHalf)
  | 'M' => some (.number .minute)
  | 'S' => some (.number .second)
  | 'f' => some (.number .nanosecond)
  | 's' => some (.number .timestamp)
  | _ => none

/-- What a letter alone stands for. -/
def letterSpecifier? : Char → Option (List Part)
  | 'b' | 'h' => some [.monthName false]
  | 'B' => some [.monthName true]
  | 'a' => some [.weekdayName false]
  | 'A' => some [.weekdayName true]
  | 'D' | 'x' =>
    some [.number .month, .literal '/', .number .day, .literal '/', .number .yearOfCentury]
  | 'F' => some [.number .year, .literal '-', .number .month, .literal '-', .number .day]
  | 'v' => some [.number .day, .literal '-', .monthName false, .literal '-', .number .year]
  | 'n' | 't' => some [.blank]
  | '%' => some [.literal '%']
  | 'p' | 'P' => some [.halfOfDay]
  | 'R' => some [.number .hour, .literal ':', .number .minute]
  | 'T' | 'X' => some (clock .hour)
  | 'r' => some (clock .hourOfHalf ++ [.blank, .halfOfDay])
  | 'c' =>
    some ([.weekdayName false, .blank, .monthName false, .blank, .number .day, .blank] ++
      clock .hour ++ [.blank, .number .year])
  | '+' => some dateAndTime
  | 'z' => some [.offset .signed]
  | 'Z' => some [.zoneName]
  | c => (numberSpecifier? c).map fun part => [part]

/-- What the text behind a `%` stands for, and how many of its characters say so. -/
def specifier? : List Char → Option (List Part × Nat)
  | ':' :: 'z' :: _ => some ([.offset .signed], 2)
  | ':' :: ':' :: 'z' :: _ => some ([.offset .signed], 3)
  | ':' :: ':' :: ':' :: 'z' :: _ => some ([.offset .signed], 4)
  | '#' :: 'z' :: _ => some ([.offset .lenient], 2)
  | '.' :: 'f' :: _ => some ([.fraction], 2)
  | '.' :: '3' :: 'f' :: _ | '.' :: '6' :: 'f' :: _ | '.' :: '9' :: 'f' :: _ =>
    some ([.fraction], 3)
  | '3' :: 'f' :: _ => some ([.fractionDigits 3], 2)
  | '6' :: 'f' :: _ => some ([.fractionDigits 6], 2)
  | '9' :: 'f' :: _ => some ([.fractionDigits 9], 2)
  | '-' :: c :: _ | '0' :: c :: _ | '_' :: c :: _ =>
    (numberSpecifier? c).map fun part => ([part], 2)
  | c :: _ => (letterSpecifier? c).map fun parts => (parts, 1)
  | [] => none

/-- The parts of what is behind some characters of a format, unless a `%` there stands for
nothing. -/
def partsBehind? : Nat → List Char → Option (List Part)
  | _, [] => some []
  | skip + 1, _ :: cs => partsBehind? skip cs
  | 0, c :: cs =>
    if c = '%' then
      match specifier? cs with
      | some (parts, n) => (partsBehind? n cs).map (parts ++ ·)
      | none => none
    else (partsBehind? 0 cs).map ((if Text.isBlank c then .blank else .literal c) :: ·)

def parts? (cs : List Char) : Option (List Part) :=
  partsBehind? 0 cs

end DateFormat

/-- A date format, as it is written and in the parts that this stands for. -/
structure DateFormat where
  text : String
  parts : List DateFormat.Part
  parts?_text : DateFormat.parts? text.toList = some parts
  deriving DecidableEq, Repr

namespace DateFormat

/-- The format that a text stands for. -/
def ofText (text : String) : Except SearchError DateFormat :=
  match h : parts? text.toList with
  | some parts => .ok ⟨text, parts, h⟩
  | none => .error (.invalidDateFormat text)

/-- A format is what its own text stands for. -/
theorem ofText_text (f : DateFormat) : ofText f.text = .ok f := by
  obtain ⟨text, parts, h⟩ := f
  unfold ofText
  split
  · next parts' h' =>
    obtain rfl : parts' = parts := Option.some.inj (h'.symm.trans h)
    rfl
  · next h' =>
    rw [h] at h'
    cases h'

end DateFormat

end TrackSearch
