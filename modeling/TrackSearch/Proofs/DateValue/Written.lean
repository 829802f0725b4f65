/-
Dates as they are written, and reading them back.

`resolve_written_date` says that writing a date and reading what is written undo each other, for all
the days of the years that are written with four digits.  The day that starts at the epoch is left
out: its value is the one that stands for no date.
-/
import TrackSearch.Proofs.DateValue.Spelling

namespace TrackSearch

open Calendar Number

/-! ## Written dates -/

open Instant

/-- A year in four digits, a month and a day, with hyphens between them. -/
def yearMonthDay (y m d : Nat) : String :=
  padded 4 y ++ "-" ++ padded 2 m ++ "-" ++ padded 2 d

theorem toList_yearMonthDay (y m d : Nat) :
    (yearMonthDay y m d).toList =
      (padded 4 y).toList ++ '-' :: ((padded 2 m).toList ++ '-' :: (padded 2 d).toList) := by
  simp [yearMonthDay, String.toList_append]

theorem day_lt_of_isDate {y : Int} {m d : Nat} (hdate : IsDate y m d) : d < 100 ∧ m < 100 := by
  obtain ⟨-, -, -, hm, -, hd⟩ := hdate
  have hd' := daysInMonth_le y m
  omega

section

variable {y m d : Nat} (hdate : IsDate y m d) (hy : y ≤ 9999)

include hdate hy

theorem length_yearMonthDay : (yearMonthDay y m d).toList.length = 10 := by
  obtain ⟨hd, hm⟩ := day_lt_of_isDate hdate
  have hyears : (padded 4 y).toList.length = 4 :=
    length_padded_of_lt (by omega) (Nat.lt_succ_of_le hy)
  have hmonths : (padded 2 m).toList.length = 2 := length_padded_of_lt (by omega) hm
  have hdays : (padded 2 d).toList.length = 2 := length_padded_of_lt (by omega) hd
  rw [toList_yearMonthDay]
  simp only [List.length_append, List.length_cons, hyears, hmonths, hdays]

theorem write_midnight :
    (midnight ⟨y, m, d, hdate⟩).write = yearMonthDay y m d ++ "T00:00:00Z" := by
  have hyear : writeYear y = padded 4 y := if_pos (by omega)
  have htime : "T" ++ (padded 2 0 ++ (":" ++ (padded 2 0 ++ (":" ++ (padded 2 0 ++ "Z"))))) =
      "T00:00:00Z" := by decide +kernel
  have hsecond : (midnight ⟨y, m, d, hdate⟩).secondOfDay.val = 0 := rfl
  unfold write
  rw [hsecond]
  dsimp only [midnight]
  rw [hyear, yearMonthDay, ← htime]
  simp only [String.append_assoc]

theorem take_write_midnight :
    String.ofList ((midnight ⟨y, m, d, hdate⟩).write.toList.take 10) = yearMonthDay y m d := by
  rw [write_midnight hdate hy, String.toList_append,
    List.take_left' (length_yearMonthDay hdate hy), String.ofList_toList]

end

/-! ## Reading written dates -/

theorem Resolver.resolve_yearMonthDay (now : Instant) {y m d : Nat} (hdate : IsDate y m d)
    (hy : y ≤ 9999) :
    resolve ⟨now, defaultFormats⟩ (yearMonthDay y m d) =
      Resolution.absolute ⟨y, m, d, hdate⟩ := by
  obtain ⟨hd, hm⟩ := day_lt_of_isDate hdate
  let w : DateDigits := .ofYear (.ofNat d m hd hm) y (by omega)
  have htext : yearMonthDay y m d = w.yearFirst := by
    rw [← String.toList_inj, toList_yearMonthDay, DateDigits.toList_yearFirst]
    rfl
  have hread : w.date? = some ⟨y, m, d, hdate⟩ := by
    rw [DateDigits.date?_ofYear, DayDigits.date?_ofNat, Date.ofYmd?_of_isDate hdate]
  rw [htext, resolve_yearFirst, hread]
  rfl

/-! ## There and back -/

namespace Calendar.Date

theorem year_bounds_of_dayNumber {d : Date} (hlow : -719528 ≤ d.dayNumber)
    (hhigh : d.dayNumber < 2932897) : 0 ≤ d.year ∧ d.year ≤ 9999 := by
  obtain ⟨hstart, hend⟩ := d.dayNumber_bounds
  have hfirst : daysBeforeYear 0 - daysBeforeYear 1970 = -719528 := rfl
  have hlast : daysBeforeYear 10000 - daysBeforeYear 1970 = 2932897 := rfl
  constructor
  · refine Int.not_lt.mp fun hlt => ?_
    have hmono := daysBeforeYear_mono (show d.year + 1 ≤ 0 by omega)
    omega
  · refine Int.not_lt.mp fun hlt => ?_
    have hmono := daysBeforeYear_mono (show 10000 ≤ d.year by omega)
    omega

theorem dayNumber_eq_zero {d : Date} (h : d.dayNumber = 0) :
    d.year = 1970 ∧ d.month = 1 ∧ d.day = 1 := by
  have hepoch : IsDate 1970 1 1 := by decide
  have heq : d = ⟨1970, 1, 1, hepoch⟩ :=
    dayNumber_injective (h.trans (countsDays_dayNumber.epoch _ rfl rfl rfl).symm)
  rw [heq]
  exact ⟨rfl, rfl, rfl⟩

end Calendar.Date

namespace Resolution

variable {y m d : Nat}

/-- A midnight of the years 0 to 9999 is the value of one of their dates. -/
theorem exists_absolute_eq {v : Int64} (hmidnight : v.toInt % 86400 = 0)
    (hlow : -62167219200 ≤ v.toInt) (hhigh : v.toInt < 253402300800) :
    ∃ (y m d : Nat) (hdate : IsDate y m d), y ≤ 9999 ∧ absolute ⟨y, m, d, hdate⟩ = ⟨v, true⟩ := by
  have hfirst : daysBeforeYear firstYear - daysBeforeYear 1970 = -96465292 := rfl
  have hlast : daysBeforeYear (lastYear + 1) - daysBeforeYear 1970 = 95026237 := rfl
  obtain ⟨date, hday, -⟩ := Date.exists_dayNumber_eq (n := v.toInt / 86400) (by omega) (by omega)
  obtain ⟨hyear, hyear'⟩ := Date.year_bounds_of_dayNumber (d := date) (by omega) (by omega)
  have hvalue : absolute date = ⟨v, true⟩ := by
    have hv : (absolute date).value = v := by
      rw [← Int64.toInt_inj, value_absolute]
      omega
    rw [← hv]
    rfl
  obtain ⟨year, m, d, hdate⟩ := date
  obtain ⟨y, rfl⟩ := Int.eq_ofNat_of_zero_le hyear
  exact ⟨y, m, d, hdate, Int.ofNat_le.mp hyear', hvalue⟩

theorem isValid_absolute {d : Date} (h : ¬(d.year = 1970 ∧ d.month = 1 ∧ d.day = 1)) :
    (absolute d).isValid = true := by
  refine bne_iff_ne.mpr fun hzero => h (Date.dayNumber_eq_zero ?_)
  have hvalue := value_absolute d
  have hword : (0 : Int64).toInt = 0 := rfl
  rw [hzero, hword] at hvalue
  omega

theorem describe_absolute (hdate : IsDate y m d) (hy : y ≤ 9999)
    (hvalid : (absolute ⟨y, m, d, hdate⟩).isValid = true) :
    (absolute ⟨y, m, d, hdate⟩).describe = "absolute " ++ yearMonthDay y m d ++ "T00:00:00Z (" ++
      writeInt (Date.dayNumber ⟨y, m, d, hdate⟩ * 86400) ++ ")" := by
  have hvalue := value_absolute ⟨y, m, d, hdate⟩
  have hseconds := (seconds_midnight ⟨y, m, d, hdate⟩).trans hvalue.symm
  have hopen : "T00:00:00Z (" = "T00:00:00Z" ++ " (" := by decide
  rw [describe_of_seconds_eq hvalid hseconds, write_midnight hdate hy, hvalue, hopen]
  simp only [absolute, if_pos, String.append_assoc]

end Resolution

/-- A midnight of the years 0 to 9999 is the value of the date that it is written with, whatever the
time is when the date is read, and a date of these years is written with the midnight that it is
read as.  The value counts the days from the epoch. -/
theorem resolve_written_date (now : Instant) :
    Date.CountsDays Date.dayNumber ∧
      (∀ v : Int64, v ≠ 0 → v.toInt % 86400 = 0 → -62167219200 ≤ v.toInt →
        v.toInt < 253402300800 → ∃ utc,
          (⟨v, true⟩ : Resolution).utc? = some utc ∧
          (⟨v, true⟩ : Resolution).describe =
            "absolute " ++ utc ++ " (" ++ writeInt v.toInt ++ ")" ∧
          Resolver.resolve ⟨now, defaultFormats⟩ (String.ofList (utc.toList.take 10)) =
            ⟨v, true⟩) ∧
      ∀ (y m d : Nat) (hdate : IsDate y m d), y ≤ 9999 → ¬(y = 1970 ∧ m = 1 ∧ d = 1) →
        (Resolver.resolve ⟨now, defaultFormats⟩ (yearMonthDay y m d)).describe =
          "absolute " ++ yearMonthDay y m d ++ "T00:00:00Z (" ++
            writeInt (86400 * Date.dayNumber ⟨y, m, d, hdate⟩) ++ ")" := by
  refine ⟨Date.countsDays_dayNumber, ?_, ?_⟩
  · intro v hne hmidnight hlow hhigh
    obtain ⟨y, m, d, hdate, hy, hvalue⟩ := Resolution.exists_absolute_eq hmidnight hlow hhigh
    have hvalid : (⟨v, true⟩ : Resolution).isValid = true := bne_iff_ne.mpr hne
    have hseconds : (midnight ⟨y, m, d, hdate⟩).seconds = v.toInt := by
      rw [seconds_midnight, ← Resolution.value_absolute, hvalue]
    refine ⟨(midnight ⟨y, m, d, hdate⟩).write, Resolution.utc?_of_seconds_eq hvalid hseconds,
      Resolution.describe_of_seconds_eq hvalid hseconds, ?_⟩
    rw [take_write_midnight hdate hy, Resolver.resolve_yearMonthDay now hdate hy, hvalue]
  · intro y m d hdate hy hepoch
    have hvalid : (Resolution.absolute ⟨y, m, d, hdate⟩).isValid = true := by
      refine Resolution.isValid_absolute ?_
      rintro ⟨hyear, hmonth, hday⟩
      exact hepoch ⟨Int.ofNat_inj.mp hyear, hmonth, hday⟩
    rw [Resolver.resolve_yearMonthDay now hdate hy, Resolution.describe_absolute hdate hy hvalid,
      Int.mul_comm]

/-- The last day before the epoch, and a leap day in year 0. -/
theorem resolve_written_date_before_epoch :
    (∃ utc, (⟨-86400, true⟩ : Resolution).utc? = some utc ∧
      fixedDates.resolve (String.ofList (utc.toList.take 10)) = ⟨-86400, true⟩) ∧
      (fixedDates.resolve (yearMonthDay 0 2 29)).describe =
        "absolute 0000-02-29T00:00:00Z (-62162121600)" := by
  obtain ⟨-, hthere, hback⟩ := resolve_written_date fixedDates.now
  obtain ⟨utc, hutc, -, hresolve⟩ := hthere (-86400) (by decide) (by decide) (by decide) (by decide)
  refine ⟨⟨utc, hutc, hresolve⟩, ?_⟩
  exact (hback 0 2 29 (by decide) (by decide) (by decide)).trans (by decide +kernel)

end TrackSearch
