/-
Dates of the proleptic Gregorian calendar, counted in days.

The calendar goes from 1 January -262143 to 31 December 262142.  A date is a year, a month and a day
with a proof that the day exists in that span, so the operations below are partial exactly where
they would name a day that does not exist or would leave the calendar.
-/

namespace TrackSearch
namespace Calendar

/-! ## Years and months -/

def isLeap (y : Int) : Bool :=
  y % 4 == 0 && (y % 100 != 0 || y % 400 == 0)

/-- The days of a month, and none of a month that does not exist. -/
def daysInMonth (y : Int) : Nat → Nat
  | 1 | 3 | 5 | 7 | 8 | 10 | 12 => 31
  | 4 | 6 | 9 | 11 => 30
  | 2 => if isLeap y then 29 else 28
  | _ => 0

/-- The days from 1 January of year 1 to 1 January of a year. -/
def daysBeforeYear (y : Int) : Int :=
  365 * (y - 1) + (y - 1) / 4 - (y - 1) / 100 + (y - 1) / 400

/-- The days from 1 January to the first of a month. -/
def daysBeforeMonth (y : Int) (m : Nat) : Nat :=
  (List.range' 1 (m - 1)).foldl (fun days k => days + daysInMonth y k) 0

def firstYear : Int := -262143

def lastYear : Int := 262142

/-- Year, month and day name a date of the calendar. -/
def IsDate (y : Int) (m d : Nat) : Prop :=
  firstYear ≤ y ∧ y ≤ lastYear ∧ 1 ≤ m ∧ m ≤ 12 ∧ 1 ≤ d ∧ d ≤ daysInMonth y m

instance (y : Int) (m d : Nat) : Decidable (IsDate y m d) := by
  unfold IsDate; infer_instance

structure Date where
  year : Int
  month : Nat
  day : Nat
  isDate : IsDate year month day
  deriving DecidableEq, Repr

namespace Date

def ofYmd? (y : Int) (m d : Nat) : Option Date :=
  if h : IsDate y m d then some ⟨y, m, d, h⟩ else none

/-! ## Counting days -/

/-- The place of a date in its year, from 1. -/
def ordinal (d : Date) : Nat :=
  daysBeforeMonth d.year d.month + d.day

/-- The month and the day at a place in the days of the given months. -/
def monthAndDay (y : Int) : List Nat → Nat → Option (Nat × Nat)
  | [], _ => none
  | m :: ms, o =>
    if o ≤ daysInMonth y m then some (m, o) else monthAndDay y ms (o - daysInMonth y m)

def ofOrdinal? (y : Int) (o : Nat) : Option Date :=
  (monthAndDay y (List.range' 1 12) o).bind fun (m, d) => ofYmd? y m d

/-- The days from 1 January 1970 to a date. -/
def dayNumber (d : Date) : Int :=
  daysBeforeYear d.year + d.ordinal - 1 - daysBeforeYear 1970

/-- The year of the day that lies `z` days after 1 January of year 1.  The mean length of a year,
146097 / 400 days, finds it up to one year. -/
def yearOfDay (z : Int) : Int :=
  let y := 400 * z / 146097 + 1
  if z < daysBeforeYear y then y - 1
  else if daysBeforeYear (y + 1) ≤ z then y + 1
  else y

/-- The date that lies `n` days after 1 January 1970. -/
def ofDayNumber? (n : Int) : Option Date :=
  let z := n + daysBeforeYear 1970
  let y := yearOfDay z
  ofOrdinal? y ((z - daysBeforeYear y).toNat + 1)

/-! ## Months -/

/-- The date `k` months earlier.  A day that the earlier month does not have becomes its last
day. -/
def minusMonths? (d : Date) (k : Nat) : Option Date :=
  let months := d.year * 12 + (d.month - 1 : Nat) - k
  let y := months / 12
  let m := (months % 12).toNat + 1
  ofYmd? y m (min d.day (daysInMonth y m))

def quarter (d : Date) : Nat :=
  (d.month - 1) / 3 + 1

/-! ## Weeks -/

/-- The days since the last Monday. -/
def weekday (d : Date) : Nat :=
  ((d.dayNumber + 3) % 7).toNat

/-- The days since the last Monday on 1 January of a year. -/
def weekdayOfNewYear (y : Int) : Nat :=
  (daysBeforeYear y % 7).toNat

/-- The week of the year, when weeks start on the weekday `first` and the days before the first of
them are week 0. -/
def weekFrom (d : Date) (first : Nat) : Nat :=
  (d.ordinal + 6 - (d.weekday + 7 - first) % 7) / 7

/-- The date of a weekday in a week counted as in `weekFrom`. -/
def ofWeekFrom? (first : Nat) (y : Int) (week weekday : Nat) : Option Date :=
  (ofYmd? y 1 1).bind fun _ =>
    let weekOne := 1 + (first + 7 - weekdayOfNewYear y) % 7
    let o := weekOne + week * 7 + (weekday + 7 - first) % 7
    if o ≤ 7 then none else ofOrdinal? y (o - 7)

/-- A year in which weeks are counted by their Thursdays has 53 of them when it has 53 Thursdays. -/
def isoWeeksInYear (y : Int) : Nat :=
  if weekdayOfNewYear y = 3 ∨ (weekdayOfNewYear y = 2 ∧ isLeap y) then 53 else 52

/-- The week that a date belongs to when a week belongs to the year of its Thursday: that year, and
the number of the week. -/
def isoWeek (d : Date) : Int × Nat :=
  let k := (d.ordinal + 9 - d.weekday) / 7
  if k = 0 then (d.year - 1, isoWeeksInYear (d.year - 1))
  else if isoWeeksInYear d.year < k then (d.year + 1, 1)
  else (d.year, k)

/-- The date of a weekday in a week counted as in `isoWeek`. -/
def ofIsoWeek? (y : Int) (week weekday : Nat) : Option Date :=
  if 1 ≤ week ∧ week ≤ isoWeeksInYear y then
    let jan4 := daysBeforeYear y + 3
    let monday := jan4 - jan4 % 7
    ofDayNumber? (monday - daysBeforeYear 1970 + (week - 1 : Nat) * 7 + weekday)
  else none

end Date

end Calendar
end TrackSearch
