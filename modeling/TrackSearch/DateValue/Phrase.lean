/-
Phrases for a time before now.
-/
import TrackSearch.Calendar.Instant
import TrackSearch.Text.LetterCase

namespace TrackSearch

open Calendar

inductive Phrase
  | days (n : Nat)
  | months (n : Nat)
  deriving DecidableEq, Repr

namespace Phrase

/-- The phrases, in lower case.  The point in time of `today` is a day ago. -/
def table : List (String × Phrase) :=
  [("today", days 1), ("last week", days 7), ("last month", months 1),
    ("two months ago", months 2), ("three months ago", months 3)]

def ofText? (text : String) : Option Phrase :=
  table.lookup (Text.lower text)

def before? (now : Instant) : Phrase → Option Instant
  | days n => now.minusSeconds? (n * 86400)
  | months n => now.minusMonths? n

end Phrase

end TrackSearch
