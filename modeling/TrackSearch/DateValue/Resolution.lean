/-
What a date value comes to.
-/
import TrackSearch.Calendar.Instant
import TrackSearch.Number.Integer

namespace TrackSearch

open Calendar

structure Resolution where
  /-- Seconds since the start of 1970.  Zero means that there is no date. -/
  value : Int64
  /-- Whether the date was read from a calendar, and not counted back from now.  A comparison with
  a date counted back from now is a comparison of ages, and goes the other way. -/
  isAbsolute : Bool
  deriving DecidableEq, Repr

namespace Resolution

def invalid : Resolution := ⟨0, false⟩

def isValid (r : Resolution) : Bool := r.value != 0

/-- A date of the calendar, which stands for its first second. -/
def absolute (d : Date) : Resolution :=
  ⟨Number.clamp (Instant.midnight d).seconds, true⟩

/-- A point in time counted back from now. -/
def relative (t : Instant) : Resolution :=
  ⟨Number.clamp t.seconds, false⟩

/-- The written form of the point in time, if there is one and the calendar has it. -/
def utc? (r : Resolution) : Option String :=
  if r.isValid then (Instant.ofSeconds? r.value.toInt).map Instant.write else none

/-- A resolution in words, as in `relative 2024-06-14T12:00:00Z (1718366400)`. -/
def describe (r : Resolution) : String :=
  match r.utc? with
  | some utc =>
    (if r.isAbsolute then "absolute " else "relative ") ++ utc ++ " (" ++
      Number.writeInt r.value.toInt ++ ")"
  | none => "invalid date"

end Resolution

end TrackSearch
