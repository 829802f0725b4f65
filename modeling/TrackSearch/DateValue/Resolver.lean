/-
Reading a date value.  The forms are tried in this order:

    today, last week, last month, two months ago, three months ago
    12/25/90, 2024-01-15             the short formats
    25.12.1990, 25-12-1990           day, month and year anywhere in the text
    25.12                            day and month of this year anywhere in the text
    2w3d, 1y6m, 12h30M               a time before now

A text that starts with a letter can only be a phrase.
-/
import TrackSearch.DateFormat.Reader
import TrackSearch.DateValue.DayMonth
import TrackSearch.DateValue.Elapsed
import TrackSearch.DateValue.Phrase
import TrackSearch.DateValue.Resolution
import TrackSearch.Text.Alphabetic

namespace TrackSearch

open Calendar

/-- The short formats when no others are given. -/
def defaultFormats : List DateFormat :=
  [⟨"%m/%d/%y", [.number .month, .literal '/', .number .day, .literal '/', .number .yearOfCentury],
      by decide⟩,
    ⟨"%m/%d/%Y", [.number .month, .literal '/', .number .day, .literal '/', .number .year],
      by decide⟩,
    ⟨"%Y-%m-%d", [.number .year, .literal '-', .number .month, .literal '-', .number .day],
      by decide⟩]

def formatsOf (texts : List String) : Except SearchError (List DateFormat) :=
  texts.mapM DateFormat.ofText

/-- Any formats are accepted as they are written, those that stand in for missing ones too. -/
theorem formatsOf_map_text (formats : List DateFormat) :
    formatsOf (formats.map DateFormat.text) = .ok formats := by
  unfold formatsOf
  induction formats with
  | nil => rfl
  | cons f formats ih =>
    rw [List.map_cons, List.mapM_cons, DateFormat.ofText_text, ih]
    rfl

structure Resolver where
  now : Instant
  formats : List DateFormat := defaultFormats

namespace Resolver

/-- The date of the first short format that the text follows. -/
def shortDate? (r : Resolver) (cs : List Char) : Option Date :=
  r.formats.findSome? fun f => f.readDate? cs

def ofDate (d : Option Date) : Resolution :=
  (d.map Resolution.absolute).getD Resolution.invalid

def ofInstant (t : Option Instant) : Resolution :=
  (t.map Resolution.relative).getD Resolution.invalid

/-- The resolution of a text that is no phrase, with the date that a short format reads in it. -/
def resolveDigitsWith (now : Instant) (short : Option Date) (cs : List Char) : Resolution :=
  match short with
  | some d => Resolution.absolute d
  | none =>
  match DayMonth.search? DayMonth.dayMonthYear? cs with
  | some (d, m, y) => ofDate ((Number.readNat? y).bind fun y => DayMonth.date? y m d)
  | none =>
  match DayMonth.search? DayMonth.dayMonth? cs with
  | some (d, m) => ofDate (DayMonth.date? now.date.year m d)
  | none => ofInstant ((Elapsed.ofText? cs).bind (Elapsed.before? now))

def resolveDigits (r : Resolver) (cs : List Char) : Resolution :=
  resolveDigitsWith r.now (r.shortDate? cs) cs

/-- The resolution of a text, whatever reads the short formats. -/
def resolveWith (now : Instant) (short : List Char → Option Date) (text : String) : Resolution :=
  match text.toList with
  | [] => Resolution.invalid
  | c :: cs =>
    if Text.isAlphabetic c then ofInstant ((Phrase.ofText? text).bind (Phrase.before? now))
    else resolveDigitsWith now (short (c :: cs)) (c :: cs)

def resolve (r : Resolver) (text : String) : Resolution :=
  resolveWith r.now r.shortDate? text

end Resolver

end TrackSearch
