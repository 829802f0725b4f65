/-
Day, month and year in digits, found anywhere in a text.
-/
import TrackSearch.Calendar.Date
import TrackSearch.Number.Integer
import TrackSearch.Text.DecimalDigit

namespace TrackSearch
namespace DayMonth

open Calendar

def isSeparator (c : Char) : Bool :=
  c == '-' || c == '.'

/-- The digits in front, of any script and `n` at most, and the text behind them. -/
def takeDigits (n : Nat) (cs : List Char) : List Char × List Char :=
  let ds := (cs.take n).takeWhile Text.isDecimalDigit
  (ds, cs.drop ds.length)

/-- One or two digits in front, with a separator behind them. -/
def takeSeparated? (cs : List Char) : Option (List Char × List Char) :=
  let (ds, rest) := takeDigits 2 cs
  match rest with
  | c :: rest => if !ds.isEmpty && isSeparator c then some (ds, rest) else none
  | [] => none

/-- The first value that a matcher has at some place in a text. -/
def search? {α : Type} (matcher : List Char → Option α) : List Char → Option α
  | [] => matcher []
  | c :: cs =>
    match matcher (c :: cs) with
    | some a => some a
    | none => search? matcher cs

def dayMonthYear? (cs : List Char) : Option (List Char × List Char × List Char) := do
  let (d, cs) ← takeSeparated? cs
  let (m, cs) ← takeSeparated? cs
  let (y, _) := takeDigits 4 cs
  if y.length = 4 then some (d, m, y) else none

def dayMonth? (cs : List Char) : Option (List Char × List Char) := do
  let (d, cs) ← takeSeparated? cs
  let (m, _) := takeDigits 2 cs
  if m.isEmpty then none else some (d, m)

/-- The date of a year and of digits for the month and the day.  Only ASCII digits have a value. -/
def date? (y : Int) (m d : List Char) : Option Date := do
  let m ← Number.readNat? m
  let d ← Number.readNat? d
  Date.ofYmd? y m d

end DayMonth
end TrackSearch
