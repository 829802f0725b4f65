/-
Going back in time, exactly.

An `Instant` lies between the ends of the calendar, so a step back from one can fail.  A `Moment` is
a point in time of the same calendar carried on without ends, and a step back from one always leads
to another.  The two agree: a step fails just where the exact step leads to a second before the
first one of the calendar (`minusMonths?_eq_none_iff`, `minusSeconds?_eq_none_iff`), and leads to
the same second otherwise.
-/
import TrackSearch.Proofs.Calendar.Instant

namespace TrackSearch
namespace Calendar

/-- A point in time by its month, counted from January of year 0, its day and its second. -/
structure Moment where
  month : Int
  day : Nat
  secondOfDay : Fin 86400
  isDay : 1 ≤ day ∧ day ≤ daysInMonth (month / 12) ((month % 12).toNat + 1)

def firstInstant : Instant :=
  Instant.midnight ⟨firstYear, 1, 1, by decide⟩

theorem daysInMonth_pos (y : Int) {m : Nat} (hm : 1 ≤ m) (hm' : m ≤ 12) :
    1 ≤ daysInMonth y m := by
  unfold daysInMonth
  split
  case h_12 => split <;> omega
  case h_13 => grind
  all_goals omega

namespace Moment

def year (t : Moment) : Int :=
  t.month / 12

def monthOfYear (t : Moment) : Nat :=
  (t.month % 12).toNat + 1

/-- The place of the day in its year, from 1. -/
def ordinal (t : Moment) : Nat :=
  daysBeforeMonth t.year t.monthOfYear + t.day

def seconds (t : Moment) : Int :=
  (daysBeforeYear t.year + t.ordinal - 1 - daysBeforeYear 1970) * 86400 + t.secondOfDay

/-- The same time of the day `k` months earlier.  A day that the earlier month does not have becomes
its last day. -/
def minusMonths (t : Moment) (k : Nat) : Moment where
  month := t.month - k
  day := min t.day (daysInMonth ((t.month - k) / 12) (((t.month - k) % 12).toNat + 1))
  secondOfDay := t.secondOfDay
  isDay := ⟨Nat.le_min.mpr ⟨t.isDay.1, daysInMonth_pos _ (by omega) (by omega)⟩,
    Nat.min_le_right _ _⟩

theorem monthOfYear_bounds (t : Moment) : 1 ≤ t.monthOfYear ∧ t.monthOfYear ≤ 12 := by
  unfold monthOfYear
  omega

theorem ordinal_bounds (t : Moment) : 1 ≤ t.ordinal ∧ t.ordinal ≤ daysInYear t.year := by
  obtain ⟨hlow, hhigh⟩ := t.monthOfYear_bounds
  have hday : 1 ≤ t.day ∧ t.day ≤ daysInMonth t.year t.monthOfYear := t.isDay
  have hsucc := daysBeforeMonth_succ t.year hlow
  have hmono : daysBeforeMonth t.year (t.monthOfYear + 1) ≤ daysBeforeMonth t.year 13 :=
    daysBeforeMonth_mono t.year (by omega) (by omega)
  rw [daysBeforeMonth_thirteen] at hmono
  unfold ordinal
  omega

/-- The years before the first one lie before its first second, and the others do not. -/
theorem seconds_lt_first_iff {t : Moment} :
    t.seconds < firstInstant.seconds ↔ t.year < firstYear := by
  have hfirst : firstInstant.seconds = (daysBeforeYear firstYear - daysBeforeYear 1970) * 86400 :=
    rfl
  obtain ⟨hlow, hhigh⟩ := t.ordinal_bounds
  have hsecond := t.secondOfDay.isLt
  have hsucc := daysBeforeYear_succ t.year
  unfold seconds
  rw [hfirst]
  constructor
  · intro hlt
    refine Int.not_le.mp fun hyear => ?_
    have hmono := daysBeforeYear_mono hyear
    omega
  · intro hyear
    have hmono := daysBeforeYear_mono (show t.year + 1 ≤ firstYear by omega)
    omega

/-! ## Moments of the calendar -/

def ofInstant (t : Instant) : Moment where
  month := t.date.monthNumber
  day := t.date.day
  secondOfDay := t.secondOfDay
  isDay := by
    have hm := t.date.month_pos
    have hm' := t.date.month_le
    have hyear : t.date.monthNumber / 12 = t.date.year := by
      unfold Date.monthNumber
      omega
    have hmonth : (t.date.monthNumber % 12).toNat + 1 = t.date.month := by
      unfold Date.monthNumber
      omega
    rw [hyear, hmonth]
    exact ⟨t.date.day_pos, t.date.day_le⟩

/-- The point in time of the calendar, if the moment lies between its ends. -/
def instant? (t : Moment) : Option Instant :=
  (Date.ofYmd? t.year t.monthOfYear t.day).map fun d => ⟨d, t.secondOfDay⟩

theorem year_ofInstant (t : Instant) : (ofInstant t).year = t.date.year := by
  have hm := t.date.month_le
  show t.date.monthNumber / 12 = t.date.year
  unfold Date.monthNumber
  omega

theorem monthOfYear_ofInstant (t : Instant) : (ofInstant t).monthOfYear = t.date.month := by
  have hm := t.date.month_pos
  have hm' := t.date.month_le
  show (t.date.monthNumber % 12).toNat + 1 = t.date.month
  unfold Date.monthNumber
  omega

theorem seconds_ofInstant (t : Instant) : (ofInstant t).seconds = t.seconds := by
  have hday : (ofInstant t).day = t.date.day := rfl
  have hsecond : (ofInstant t).secondOfDay = t.secondOfDay := rfl
  unfold seconds ordinal
  rw [year_ofInstant, monthOfYear_ofInstant, hday, hsecond]
  rfl

theorem ofInstant_of_instant? {t : Moment} {u : Instant} (h : t.instant? = some u) :
    ofInstant u = t := by
  obtain ⟨d, hd, rfl⟩ := Option.map_eq_some_iff.mp h
  obtain ⟨hyear, hmonth, hday⟩ := Date.ofYmd?_eq_some_iff.mp hd
  have hnumber : d.monthNumber = t.month := by
    unfold Date.monthNumber
    rw [hyear, hmonth]
    unfold year monthOfYear
    omega
  obtain ⟨month, day, second, hvalid⟩ := t
  simp only [ofInstant, mk.injEq]
  exact ⟨hnumber, hday, trivial⟩

theorem instant?_eq_none_iff {t : Moment} (h : t.year ≤ lastYear) :
    t.instant? = none ↔ t.year < firstYear := by
  obtain ⟨hlow, hhigh⟩ := t.monthOfYear_bounds
  have hday : 1 ≤ t.day ∧ t.day ≤ daysInMonth t.year t.monthOfYear := t.isDay
  unfold instant? Date.ofYmd?
  rw [Option.map_eq_none_iff]
  split
  · next hdate => simp [hdate.1]
  · next hdate =>
    simp only [true_iff]
    refine Int.not_le.mp fun hyear => ?_
    exact hdate ⟨hyear, h, hlow, hhigh, hday.1, hday.2⟩

end Moment

namespace Instant

open Moment

/-! ## Steps back -/

theorem minusMonths?_eq_instant? (t : Instant) (k : Nat) :
    t.minusMonths? k = ((ofInstant t).minusMonths k).instant? := rfl

theorem ofInstant_of_minusMonths? {t u : Instant} {k : Nat} (h : t.minusMonths? k = some u) :
    ofInstant u = (ofInstant t).minusMonths k :=
  ofInstant_of_instant? h

theorem minusMonths?_eq_none_iff {t : Instant} {k : Nat} :
    t.minusMonths? k = none ↔ t.date.monthNumber - k < firstYear * 12 := by
  have hlast := t.date.isDate.2.1
  have hm := t.date.month_le
  have hyear : ((ofInstant t).minusMonths k).year = (t.date.monthNumber - k) / 12 := rfl
  have hle : ((ofInstant t).minusMonths k).year ≤ lastYear := by
    rw [hyear]
    unfold Date.monthNumber
    omega
  rw [minusMonths?_eq_instant?, instant?_eq_none_iff hle, hyear]
  omega

theorem seconds_minusMonths_lt_iff {t : Instant} {k : Nat} :
    ((ofInstant t).minusMonths k).seconds < firstInstant.seconds ↔ t.minusMonths? k = none := by
  have hyear : ((ofInstant t).minusMonths k).year = (t.date.monthNumber - k) / 12 := rfl
  rw [seconds_lt_first_iff, minusMonths?_eq_none_iff, hyear]
  omega

theorem minusSeconds?_eq_none_iff {t : Instant} {k : Int} (hk : 0 ≤ k) :
    t.minusSeconds? k = none ↔ t.seconds - k < firstInstant.seconds := by
  have hfirst : firstInstant.seconds = (daysBeforeYear firstYear - daysBeforeYear 1970) * 86400 :=
    rfl
  have hlast : t.seconds < (daysBeforeYear (lastYear + 1) - daysBeforeYear 1970) * 86400 :=
    t.seconds_bounds.2
  have hsecond := t.secondOfDay.isLt
  rw [minusSeconds?, ofSeconds?, Option.map_eq_none_iff, hfirst]
  constructor
  · intro hnone
    refine Int.not_le.mp fun hlow => ?_
    obtain ⟨d, hd, -⟩ := Date.exists_dayNumber_eq (n := (t.seconds - k) / 86400) (by omega)
      (by omega)
    rw [← hd, Date.ofDayNumber?_dayNumber] at hnone
    cases hnone
  · intro hlow
    cases hday : Date.ofDayNumber? ((t.seconds - k) / 86400) with
    | none => rfl
    | some d =>
      have hnumber := Date.ofDayNumber?_eq_some_iff.mp hday
      have hstart := d.dayNumber_bounds.1
      have hmono := daysBeforeYear_mono d.isDate.1
      omega

/-! ## Steps that stay in the calendar -/

theorem first_le_seconds (t : Instant) : firstInstant.seconds ≤ t.seconds :=
  t.seconds_bounds.1

theorem monthNumber_minusMonths? {t u : Instant} {k : Nat} (h : t.minusMonths? k = some u) :
    u.date.monthNumber = t.date.monthNumber - k := by
  obtain ⟨d, hd, rfl⟩ := Option.map_eq_some_iff.mp h
  exact Date.monthNumber_minusMonths? hd

theorem first_le_monthNumber (t : Instant) : firstYear * 12 ≤ t.date.monthNumber := by
  have hfirst := t.date.isDate.1
  unfold Date.monthNumber
  omega

theorem exists_minusMonths?_eq {t : Instant} {k : Nat}
    (h : firstYear * 12 ≤ t.date.monthNumber - k) : ∃ u, t.minusMonths? k = some u := by
  refine Option.ne_none_iff_exists'.mp fun hnone => ?_
  have := minusMonths?_eq_none_iff.mp hnone
  omega

theorem exists_minusSeconds?_eq {t : Instant} {k : Int} (hk : 0 ≤ k)
    (h : firstInstant.seconds ≤ t.seconds - k) : ∃ u, t.minusSeconds? k = some u := by
  refine Option.ne_none_iff_exists'.mp fun hnone => ?_
  have := (minusSeconds?_eq_none_iff hk).mp hnone
  omega

end Instant

end Calendar
end TrackSearch
