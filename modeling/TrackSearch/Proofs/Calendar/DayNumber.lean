/-
Dates and their numbers.

The number of a date is computed from formulas for the days before a year and before a month.  Two
things make it the right one.  It counts days: it is 0 on 1 January 1970 and goes up by one from
each date to the next (`countsDays_dayNumber`).  And a date can be had back from it: `ofDayNumber?`
finds the date of each number that is one (`ofDayNumber?_eq_some_iff`).
-/
import TrackSearch.Calendar.Date

namespace TrackSearch
namespace Calendar

/-! ## Years -/

def daysInYear (y : Int) : Nat :=
  if isLeap y then 366 else 365

theorem isLeap_iff {y : Int} : isLeap y = true ↔ y % 4 = 0 ∧ (y % 100 ≠ 0 ∨ y % 400 = 0) := by
  simp [isLeap]

theorem daysBeforeYear_succ (y : Int) :
    daysBeforeYear (y + 1) = daysBeforeYear y + daysInYear y := by
  unfold daysBeforeYear daysInYear
  by_cases hleap : isLeap y = true
  · rw [if_pos hleap]
    rw [isLeap_iff] at hleap
    omega
  · rw [if_neg hleap]
    rw [isLeap_iff] at hleap
    omega

theorem daysBeforeYear_mono {y y' : Int} (h : y ≤ y') : daysBeforeYear y ≤ daysBeforeYear y' := by
  unfold daysBeforeYear
  omega

/-! ## Months -/

theorem daysInMonth_le (y : Int) (m : Nat) : daysInMonth y m ≤ 31 := by
  unfold daysInMonth
  split
  case h_12 => split <;> omega
  all_goals omega

theorem daysBeforeMonth_one (y : Int) : daysBeforeMonth y 1 = 0 := rfl

theorem daysBeforeMonth_succ (y : Int) {m : Nat} (h : 1 ≤ m) :
    daysBeforeMonth y (m + 1) = daysBeforeMonth y m + daysInMonth y m := by
  obtain ⟨k, rfl⟩ := Nat.exists_eq_add_of_le h
  unfold daysBeforeMonth
  rw [show 1 + k + 1 - 1 = k + 1 by omega, show 1 + k - 1 = k by omega, List.range'_1_concat,
    List.foldl_append]
  rfl

theorem daysBeforeMonth_mono (y : Int) {m n : Nat} (hm : 1 ≤ m) (h : m ≤ n) :
    daysBeforeMonth y m ≤ daysBeforeMonth y n := by
  induction h with
  | refl => exact Nat.le_refl _
  | step hn ih =>
    rw [Nat.succ_eq_add_one, daysBeforeMonth_succ y (Nat.le_trans hm hn)]
    omega

theorem daysBeforeMonth_thirteen (y : Int) : daysBeforeMonth y 13 = daysInYear y := by
  show 0 + 31 + (if isLeap y then 29 else 28) + 31 + 30 + 31 + 30 + 31 + 31 + 30 + 31 + 30 + 31 = _
  unfold daysInYear
  split <;> rfl

theorem exists_month_day {y : Int} {o : Nat} (hlow : 1 ≤ o) (hhigh : o ≤ daysInYear y) :
    ∃ m d, 1 ≤ m ∧ m ≤ 12 ∧ 1 ≤ d ∧ d ≤ daysInMonth y m ∧ daysBeforeMonth y m + d = o := by
  have hsearch : ∀ k, o ≤ daysBeforeMonth y (k + 1) →
      ∃ m d, 1 ≤ m ∧ m ≤ k ∧ 1 ≤ d ∧ d ≤ daysInMonth y m ∧ daysBeforeMonth y m + d = o := by
    -- Induction on the months that are searched: the last of them has the day, or those before it.
    intro k
    induction k with
    | zero =>
      intro hk
      rw [daysBeforeMonth_one] at hk
      omega
    | succ k ih =>
      intro hk
      by_cases hbefore : o ≤ daysBeforeMonth y (k + 1)
      · obtain ⟨m, d, hm, hmk, hday⟩ := ih hbefore
        exact ⟨m, d, hm, Nat.le_succ_of_le hmk, hday⟩
      · rw [daysBeforeMonth_succ y (Nat.le_add_left 1 k)] at hk
        exact ⟨k + 1, o - daysBeforeMonth y (k + 1), by omega, by omega, by omega, by omega,
          by omega⟩
  exact hsearch 12 (daysBeforeMonth_thirteen y ▸ hhigh)

namespace Date

/-! ## Places in a year -/

theorem ofYmd?_of_isDate {y : Int} {m d : Nat} (h : IsDate y m d) :
    ofYmd? y m d = some ⟨y, m, d, h⟩ :=
  dif_pos h

theorem ofYmd?_eq_some_iff {y : Int} {m d : Nat} {e : Date} :
    ofYmd? y m d = some e ↔ e.year = y ∧ e.month = m ∧ e.day = d := by
  constructor
  · intro h
    by_cases hdate : IsDate y m d
    · rw [ofYmd?_of_isDate hdate] at h
      cases h
      exact ⟨rfl, rfl, rfl⟩
    · rw [ofYmd?, dif_neg hdate] at h
      cases h
  · rintro ⟨rfl, rfl, rfl⟩
    exact ofYmd?_of_isDate e.isDate

theorem month_pos (d : Date) : 1 ≤ d.month := d.isDate.2.2.1

theorem month_le (d : Date) : d.month ≤ 12 := d.isDate.2.2.2.1

theorem day_pos (d : Date) : 1 ≤ d.day := d.isDate.2.2.2.2.1

theorem day_le (d : Date) : d.day ≤ daysInMonth d.year d.month := d.isDate.2.2.2.2.2

theorem ordinal_pos (d : Date) : 1 ≤ d.ordinal := by
  have := d.day_pos
  unfold ordinal
  omega

theorem ordinal_le_daysBeforeMonth (d : Date) :
    d.ordinal ≤ daysBeforeMonth d.year (d.month + 1) := by
  have := d.day_le
  rw [daysBeforeMonth_succ d.year d.month_pos]
  unfold ordinal
  omega

theorem ordinal_le (d : Date) : d.ordinal ≤ daysInYear d.year := by
  rw [← daysBeforeMonth_thirteen]
  exact Nat.le_trans d.ordinal_le_daysBeforeMonth
    (daysBeforeMonth_mono d.year (Nat.succ_pos d.month) (Nat.succ_le_succ d.month_le))

/-- The search for a month passes over the months that end before a day. -/
theorem monthAndDay_range' {y : Int} {m d : Nat} (hd : 1 ≤ d) (hle : d ≤ daysInMonth y m)
    (n : Nat) : ∀ a, 1 ≤ a → a ≤ m → m < a + n →
      monthAndDay y (List.range' a n) (daysBeforeMonth y m - daysBeforeMonth y a + d) =
        some (m, d) := by
  induction n with
  | zero =>
    intro a _ _ _
    omega
  | succ n ih =>
    intro a ha ham hmn
    rw [List.range'_succ, monthAndDay]
    rcases Nat.eq_or_lt_of_le ham with rfl | hlt
    · rw [Nat.sub_self, Nat.zero_add, if_pos hle]
    · have hstep := daysBeforeMonth_succ y ha
      have hmono := daysBeforeMonth_mono y (Nat.le_add_left 1 a) hlt
      have hrest : daysBeforeMonth y m - daysBeforeMonth y a + d - daysInMonth y a =
          daysBeforeMonth y m - daysBeforeMonth y (a + 1) + d := by omega
      rw [if_neg (by omega), hrest]
      exact ih (a + 1) (by omega) hlt (by omega)

theorem ofOrdinal?_ordinal (d : Date) : ofOrdinal? d.year d.ordinal = some d := by
  have hfind := monthAndDay_range' d.day_pos d.day_le 12 1 (Nat.le_refl 1) d.month_pos
    (Nat.lt_succ_of_le d.month_le)
  rw [daysBeforeMonth_one, Nat.sub_zero] at hfind
  rw [ofOrdinal?, ordinal, hfind]
  exact ofYmd?_of_isDate d.isDate

/-! ## Numbers -/

/-- The mean length of a year finds the year of a day up to one year, so the two comparisons in
`yearOfDay` are enough to correct it. -/
theorem yearOfDay_bounds (z : Int) :
    daysBeforeYear (yearOfDay z) ≤ z ∧ z < daysBeforeYear (yearOfDay z + 1) := by
  unfold yearOfDay
  dsimp only
  split
  · next hbelow =>
    unfold daysBeforeYear at *
    omega
  · next hfrom =>
    split
    · next habove =>
      unfold daysBeforeYear at *
      omega
    · next hbefore => omega

theorem yearOfDay_eq {y z : Int} (hlow : daysBeforeYear y ≤ z)
    (hhigh : z < daysBeforeYear (y + 1)) : yearOfDay z = y := by
  obtain ⟨hlow', hhigh'⟩ := yearOfDay_bounds z
  rcases Int.lt_trichotomy (yearOfDay z) y with hlt | heq | hgt
  · have := daysBeforeYear_mono (show yearOfDay z + 1 ≤ y by omega)
    omega
  · exact heq
  · have := daysBeforeYear_mono (show y + 1 ≤ yearOfDay z by omega)
    omega

theorem dayNumber_bounds (d : Date) :
    daysBeforeYear d.year ≤ d.dayNumber + daysBeforeYear 1970 ∧
      d.dayNumber + daysBeforeYear 1970 < daysBeforeYear (d.year + 1) := by
  have hpos := d.ordinal_pos
  have hle := d.ordinal_le
  rw [daysBeforeYear_succ]
  unfold dayNumber
  omega

theorem ofDayNumber?_dayNumber (d : Date) : ofDayNumber? d.dayNumber = some d := by
  obtain ⟨hlow, hhigh⟩ := d.dayNumber_bounds
  have hpos := d.ordinal_pos
  have hordinal : (d.dayNumber + daysBeforeYear 1970 - daysBeforeYear d.year).toNat + 1 =
      d.ordinal := by
    unfold dayNumber
    omega
  show ofOrdinal? _ _ = _
  rw [yearOfDay_eq hlow hhigh, hordinal, ofOrdinal?_ordinal]

theorem dayNumber_injective : Function.Injective dayNumber := by
  intro d e h
  have hd := d.ofDayNumber?_dayNumber
  rw [h, e.ofDayNumber?_dayNumber] at hd
  exact (Option.some.inj hd).symm

/-- The days of the years of the calendar all have dates. -/
theorem exists_dayNumber_eq {n : Int} (hlow : daysBeforeYear firstYear - daysBeforeYear 1970 ≤ n)
    (hhigh : n < daysBeforeYear (lastYear + 1) - daysBeforeYear 1970) :
    ∃ d : Date, d.dayNumber = n ∧ d.year = yearOfDay (n + daysBeforeYear 1970) := by
  obtain ⟨hyear, hyear'⟩ := yearOfDay_bounds (n + daysBeforeYear 1970)
  generalize yearOfDay (n + daysBeforeYear 1970) = y at hyear hyear' ⊢
  have hfirst : firstYear ≤ y := by
    refine Int.not_lt.mp fun hlt => ?_
    have := daysBeforeYear_mono (Int.add_one_le_of_lt hlt)
    omega
  have hlast : y ≤ lastYear := by
    refine Int.not_lt.mp fun hlt => ?_
    have := daysBeforeYear_mono (Int.add_one_le_of_lt hlt)
    omega
  rw [daysBeforeYear_succ] at hyear'
  obtain ⟨m, d, hm, hm', hd, hd', ho⟩ :=
    exists_month_day (y := y) (o := (n + daysBeforeYear 1970 - daysBeforeYear y).toNat + 1)
      (by omega) (by omega)
  refine ⟨⟨y, m, d, hfirst, hlast, hm, hm', hd, hd'⟩, ?_, rfl⟩
  show daysBeforeYear y + ((daysBeforeMonth y m + d : Nat) : Int) - 1 - daysBeforeYear 1970 = n
  rw [ho]
  omega

/-- A number has at most one date, which is found if it is there. -/
theorem ofDayNumber?_eq_some_iff {n : Int} {d : Date} :
    ofDayNumber? n = some d ↔ d.dayNumber = n := by
  constructor
  · intro h
    -- The year that was found is in the calendar, so the number has a date, and that is the one.
    obtain ⟨hlow, hhigh⟩ := yearOfDay_bounds (n + daysBeforeYear 1970)
    obtain ⟨⟨m, day⟩, -, hymd⟩ := Option.bind_eq_some_iff.mp h
    have hyear : d.year = yearOfDay (n + daysBeforeYear 1970) := (ofYmd?_eq_some_iff.mp hymd).1
    rw [← hyear] at hlow hhigh
    have hfirst := daysBeforeYear_mono d.isDate.1
    have hlast := daysBeforeYear_mono (show d.year + 1 ≤ lastYear + 1 from
      Int.add_le_add_right d.isDate.2.1 1)
    obtain ⟨e, he, -⟩ := exists_dayNumber_eq (n := n) (by omega) (by omega)
    rw [← he, ofDayNumber?_dayNumber] at h
    rw [← Option.some.inj h, he]
  · rintro rfl
    exact d.ofDayNumber?_dayNumber

/-! ## Order -/

/-- The months from year 0 to the month of a date. -/
def monthNumber (d : Date) : Int :=
  d.year * 12 + (d.month - 1 : Nat)

theorem dayNumber_lt_of_monthNumber_lt {d e : Date} (h : d.monthNumber < e.monthNumber) :
    d.dayNumber < e.dayNumber := by
  have hd := d.month_le
  have he := e.month_pos
  have he' := e.month_le
  unfold monthNumber at h
  rcases Int.lt_or_le d.year e.year with hyear | hyear
  · have hmono := daysBeforeYear_mono (Int.add_one_le_of_lt hyear)
    have hd := d.dayNumber_bounds
    have he := e.dayNumber_bounds
    omega
  · have hsame : e.year = d.year := by omega
    have hmonth : d.month + 1 ≤ e.month := by omega
    have hord := d.ordinal_le_daysBeforeMonth
    have hmono := daysBeforeMonth_mono d.year (Nat.le_add_left 1 d.month) hmonth
    have hday := e.day_pos
    unfold dayNumber
    unfold ordinal at *
    rw [hsame]
    omega

theorem monthNumber_minusMonths? {d e : Date} {k : Nat} (h : d.minusMonths? k = some e) :
    e.monthNumber = d.monthNumber - k := by
  obtain ⟨hyear, hmonth, -⟩ := ofYmd?_eq_some_iff.mp h
  unfold monthNumber
  rw [hyear, hmonth]
  omega

theorem minusMonths?_zero (d : Date) : d.minusMonths? 0 = some d := by
  have hm := d.month_pos
  have hm' := d.month_le
  have hyear : (d.year * 12 + (d.month - 1 : Nat) - (0 : Nat)) / 12 = d.year := by omega
  have hmonth : ((d.year * 12 + (d.month - 1 : Nat) - (0 : Nat)) % 12).toNat + 1 = d.month := by
    omega
  show ofYmd? _ _ _ = _
  rw [hyear, hmonth, Nat.min_eq_left d.day_le]
  exact ofYmd?_of_isDate d.isDate

theorem dayNumber_minusMonths?_le {d e : Date} {k : Nat} (h : d.minusMonths? k = some e) :
    e.dayNumber ≤ d.dayNumber := by
  -- The months say nothing of the day, so going back by no month is a case of its own.
  rcases Nat.eq_zero_or_pos k with rfl | hk
  · rw [minusMonths?_zero] at h
    cases h
    exact Int.le_refl _
  · have hmonth := monthNumber_minusMonths? h
    exact Int.le_of_lt (dayNumber_lt_of_monthNumber_lt (by omega))

/-! ## Counting from day to day -/

/-- Whether a date is that of the day after another one. -/
inductive Next (d e : Date) : Prop
  | inMonth (hyear : e.year = d.year) (hmonth : e.month = d.month) (hday : e.day = d.day + 1)
  | inYear (hlast : d.day = daysInMonth d.year d.month) (hyear : e.year = d.year)
      (hmonth : e.month = d.month + 1) (hday : e.day = 1)
  | newYear (hmonth : d.month = 12) (hlast : d.day = 31) (hyear : e.year = d.year + 1)
      (hfirst : e.month = 1) (hday : e.day = 1)

/-- Whether dates are given the days that lie between 1 January 1970 and them. -/
structure CountsDays (count : Date → Int) : Prop where
  epoch (d : Date) (hyear : d.year = 1970) (hmonth : d.month = 1) (hday : d.day = 1) : count d = 0
  next {d e : Date} (h : Next d e) : count e = count d + 1

theorem ordinal_newYear {d : Date} (hmonth : d.month = 1) (hday : d.day = 1) : d.ordinal = 1 := by
  rw [ordinal, hmonth, hday, daysBeforeMonth_one]

theorem countsDays_dayNumber : CountsDays dayNumber where
  epoch d hyear hmonth hday := by
    rw [dayNumber, hyear, ordinal_newYear hmonth hday]
    omega
  next {d e} h := by
    cases h with
    | inMonth hyear hmonth hday =>
      unfold dayNumber ordinal
      rw [hyear, hmonth, hday]
      omega
    | inYear hlast hyear hmonth hday =>
      unfold dayNumber ordinal
      rw [hyear, hmonth, hday, hlast, daysBeforeMonth_succ d.year d.month_pos]
      omega
    | newYear hmonth hlast hyear hfirst hday =>
      have hyearEnd := daysBeforeMonth_succ d.year (m := 12) (by omega)
      rw [daysBeforeMonth_thirteen] at hyearEnd
      have hdays : daysInMonth d.year 12 = 31 := rfl
      rw [dayNumber, hyear, ordinal_newYear hfirst hday, daysBeforeYear_succ]
      unfold dayNumber ordinal
      rw [hmonth, hlast]
      omega

end Date

end Calendar
end TrackSearch
