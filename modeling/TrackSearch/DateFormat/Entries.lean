/-
The parts of a date and of a time of day that were read from a text, and the date that those of a
date make up together.
-/
import TrackSearch.Calendar.Date

namespace TrackSearch
namespace DateFormat

open Calendar

inductive Entry
  | year | century | yearOfCentury | weekYear | weekYearOfCentury | quarter | month | day
  | dayOfYear | weekFromSunday | weekFromMonday | week
  /-- The days since the last Monday. -/
  | weekday
  | halfOfDay | hourOfHalf | minute | second | nanosecond
  /-- The seconds since the epoch. -/
  | timestamp
  /-- The seconds that a time zone is ahead of UTC. -/
  | offset
  deriving DecidableEq, Repr

namespace Entry

/-- The entries that a date has; the others are of a time of day or of a time zone. -/
def ofDates : List Entry :=
  [year, century, yearOfCentury, weekYear, weekYearOfCentury, quarter, month, day, dayOfYear,
    weekFromSunday, weekFromMonday, week, weekday]

/-- The value of an entry for a date.  A year before year 0 has no century. -/
def ofDate? (d : Date) : Entry → Option Int
  | year => some d.year
  | century => if 0 ≤ d.year then some (d.year / 100) else none
  | yearOfCentury => if 0 ≤ d.year then some (d.year % 100) else none
  | weekYear => some d.isoWeek.1
  | weekYearOfCentury => if 0 ≤ d.isoWeek.1 then some (d.isoWeek.1 % 100) else none
  | quarter => some d.quarter
  | month => some d.month
  | day => some d.day
  | dayOfYear => some d.ordinal
  | weekFromSunday => some (d.weekFrom 6)
  | weekFromMonday => some (d.weekFrom 0)
  | week => some d.isoWeek.2
  | weekday => some d.weekday
  | halfOfDay | hourOfHalf | minute | second | nanosecond | timestamp | offset => none

end Entry

def Entries := Entry → Option Int

namespace Entries

def none : Entries := fun _ => Option.none

/-- Adds the value of an entry, unless another value is known of it. -/
def put? (e : Entries) (k : Entry) (v : Int) : Option Entries :=
  match e k with
  | some w => if w = v then some e else Option.none
  | Option.none => some fun j => if j = k then some v else e j

/-- Adds the values of some entries. -/
def putAll? (e : Entries) (values : List (Entry × Int)) : Option Entries :=
  values.foldlM (fun e (k, v) => e.put? k v) e

/-- Whether a date has every value that is known of a date. -/
def agreeWith (e : Entries) (d : Date) : Bool :=
  Entry.ofDates.all fun k => (e k).isNone || e k == k.ofDate? d

/-- The year that a year, a century and a year of a century come to.  The last alone stands for a
year from 1970 to 2069, and a century alone for none.  `none` if they contradict one another or do
not suffice; `some none` if nothing is known of the year. -/
def fullYear? : Option Int → Option Int → Option Int → Option (Option Int)
  | y, Option.none, Option.none => some y
  | some y, c, r =>
    if 0 ≤ y ∧ c.getD (y / 100) = y / 100 ∧ r.getD (y % 100) = y % 100 then some (some y)
    else Option.none
  | Option.none, some c, some r => some (some (c * 100 + r))
  | Option.none, Option.none, some r => some (some (r + if r < 70 then 2000 else 1900))
  | Option.none, some _, Option.none => Option.none

/-- The date of the first complete set of entries, whether or not the others agree with it. -/
def candidate? (e : Entries) (year weekYear : Option Int) : Option Date :=
  match year, e .month, e .day with
  | some y, some m, some d => Date.ofYmd? y m.toNat d.toNat
  | _, _, _ =>
  match year, e .dayOfYear with
  | some y, some o => Date.ofOrdinal? y o.toNat
  | _, _ =>
  match year, e .weekFromSunday, e .weekday with
  | some y, some w, some d => Date.ofWeekFrom? 6 y w.toNat d.toNat
  | _, _, _ =>
  match year, e .weekFromMonday, e .weekday with
  | some y, some w, some d => Date.ofWeekFrom? 0 y w.toNat d.toNat
  | _, _, _ =>
  match weekYear, e .week, e .weekday with
  | some y, some w, some d => Date.ofIsoWeek? y w.toNat d.toNat
  | _, _, _ => Option.none

/-- The one date that the entries make up. -/
def toDate? (e : Entries) : Option Date := do
  let year ← fullYear? (e .year) (e .century) (e .yearOfCentury)
  let weekYear ← fullYear? (e .weekYear) Option.none (e .weekYearOfCentury)
  let d ← candidate? e year weekYear
  if e.agreeWith d then some d else Option.none

end Entries

end DateFormat
end TrackSearch
