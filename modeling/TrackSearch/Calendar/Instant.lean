/-
Points in time to the second, without leap seconds and in universal time.
-/
import TrackSearch.Calendar.Date

namespace TrackSearch
namespace Calendar

structure Instant where
  date : Date
  secondOfDay : Fin 86400
  deriving DecidableEq, Repr

namespace Instant

def midnight (d : Date) : Instant :=
  ⟨d, 0⟩

def seconds (t : Instant) : Int :=
  t.date.dayNumber * 86400 + t.secondOfDay

def ofSeconds? (n : Int) : Option Instant :=
  (Date.ofDayNumber? (n / 86400)).map fun d =>
    ⟨d, ⟨(n % 86400).toNat, by omega⟩⟩

/-- The same time of the day `k` months earlier. -/
def minusMonths? (t : Instant) (k : Nat) : Option Instant :=
  (t.date.minusMonths? k).map fun d => { t with date := d }

def minusSeconds? (t : Instant) (k : Int) : Option Instant :=
  ofSeconds? (t.seconds - k)

/-! ## The written form -/

/-- A number with zeros in front, `width` characters at least. -/
def padded (width n : Nat) : String :=
  let digits := Nat.toDigits 10 n
  String.ofList (List.replicate (width - digits.length) '0' ++ digits)

/-- Years 0 to 9999 have four digits; any other year has its sign and four digits or more. -/
def writeYear (y : Int) : String :=
  if 0 ≤ y ∧ y ≤ 9999 then padded 4 y.toNat
  else (if y < 0 then "-" else "+") ++ padded 4 y.natAbs

def write (t : Instant) : String :=
  let s := t.secondOfDay.val
  writeYear t.date.year ++ "-" ++ padded 2 t.date.month ++ "-" ++ padded 2 t.date.day ++ "T" ++
    padded 2 (s / 3600) ++ ":" ++ padded 2 (s / 60 % 60) ++ ":" ++ padded 2 (s % 60) ++ "Z"

end Instant

end Calendar
end TrackSearch
