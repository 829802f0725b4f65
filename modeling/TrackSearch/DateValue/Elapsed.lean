/-
Times before now given by amounts of units, as in `2w3d`.

Sums are kept in 64-bit words, counts of months in 32-bit ones without a sign, and durations in
milliseconds; an amount that does not fit makes the whole time invalid.
-/
import TrackSearch.Calendar.Instant
import TrackSearch.Number.Integer

namespace TrackSearch

open Calendar Number

/-- The sums that the units add to. -/
inductive UnitSum
  | years | months | days | seconds
  deriving DecidableEq, Repr

/-- The sum that a unit adds to, and how often it counts there. -/
def unitOf? : Char → Option (UnitSum × Int)
  | 'y' => some (.years, 1)
  | 'm' => some (.months, 1)
  | 'w' => some (.days, 7)
  | 'd' => some (.days, 1)
  | 'h' => some (.seconds, 3600)
  | 'M' => some (.seconds, 60)
  | 's' => some (.seconds, 1)
  | _ => none

structure Elapsed where
  years : Int64 := 0
  months : Int64 := 0
  days : Int64 := 0
  seconds : Int64 := 0
  deriving DecidableEq, Repr

namespace Elapsed

/-- Adds `n` of a unit that counts `factor` times. -/
def add? (e : Elapsed) (sum : UnitSum) (n factor : Int) : Option Elapsed := do
  let amount ← word? (n * factor)
  match sum with
  | .years => (word? (e.years.toInt + amount.toInt)).map fun w => { e with years := w }
  | .months => (word? (e.months.toInt + amount.toInt)).map fun w => { e with months := w }
  | .days => (word? (e.days.toInt + amount.toInt)).map fun w => { e with days := w }
  | .seconds => (word? (e.seconds.toInt + amount.toInt)).map fun w => { e with seconds := w }

/-- A count of months that fits 32 bits. -/
def monthCount? (n : Int) : Option Nat :=
  if 0 ≤ n ∧ n ≤ 4294967295 then some n.toNat else none

/-- A duration whose milliseconds fit 64 bits. -/
def duration? (seconds : Int) : Option Int :=
  let longest := Int64.maxValue.toInt / 1000
  if -longest ≤ seconds ∧ seconds ≤ longest then some seconds else none

/-- The point in time that lies the years, then the months, then the days and then the seconds
before now. -/
def before? (now : Instant) (e : Elapsed) : Option Instant := do
  let years ← word? (e.years.toInt * 12)
  let yearMonths ← monthCount? years.toInt
  let t ← now.minusMonths? yearMonths
  let months ← monthCount? e.months.toInt
  let t ← t.minusMonths? months
  let daySeconds ← word? (e.days.toInt * 86400)
  let days ← duration? daySeconds.toInt
  let t ← t.minusSeconds? days
  let seconds ← duration? e.seconds.toInt
  t.minusSeconds? seconds

structure Reader where
  total : Elapsed := {}
  /-- The digits since the last unit. -/
  digits : List Char := []
  sawUnit : Bool := false
  deriving DecidableEq, Repr

/-- Reads one character.  A character that is no digit and no unit is passed over, and the digits
before it still count. -/
def Reader.feed (r : Reader) (c : Char) : Option Reader :=
  if isAsciiDigit c then some { r with digits := r.digits ++ [c] }
  else
    match unitOf? c with
    | none => some r
    | some (sum, factor) => do
      let n ← word? (digitsValue r.digits)
      let total ← r.total.add? sum n.toInt factor
      some { total, digits := [], sawUnit := true }

/-- The amount of time that a text with a unit in it names. -/
def ofText? (cs : List Char) : Option Elapsed := do
  let r ← cs.foldlM Reader.feed {}
  if r.sawUnit then some r.total else none

end Elapsed

end TrackSearch
