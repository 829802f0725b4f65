/-
Times counted back from now.

Counting back by the sums of a text is four exact steps: years as twelve months each, months, days
and seconds.  `resolve_elapsed` says that a text comes to the point in time that these steps lead
to, and to no date just when one of them leaves the calendar or the last one ends at the epoch.  No
bound on an amount or a duration refuses anything else, since an amount that does not fit its word
lies before the calendar (`bind_before?_of_isSum`).  `resolve_write_antitone` says that more time
never leads to a later point.
-/
import TrackSearch.Proofs.Calendar.Moment
import TrackSearch.Proofs.DateValue.Amount
import TrackSearch.Proofs.DateValue.Range
import TrackSearch.Proofs.DateValue.Resolver

namespace TrackSearch

open Calendar Number

/-! ## Steps that are too long -/

namespace Calendar.Instant

theorem minusMonths?_of_far (t : Instant) {k : Nat} (hk : 6291432 ≤ k) :
    t.minusMonths? k = none := by
  have hlast := t.date.isDate.2.1
  have hm := t.date.month_le
  rw [minusMonths?_eq_none_iff]
  unfold Date.monthNumber
  unfold lastYear at hlast
  unfold firstYear
  omega

theorem minusSeconds?_of_far (t : Instant) {k : Int} (hk : 16544868105600 ≤ k) :
    t.minusSeconds? k = none := by
  have hfirst : firstInstant.seconds = -8334601228800 := rfl
  have hlast := t.seconds_bounds.2
  rw [minusSeconds?_eq_none_iff (by omega)]
  omega

end Calendar.Instant

namespace Elapsed

open Instant AmountRow

theorem bind_monthCount? (t : Instant) (n : Nat) :
    (monthCount? n).bind t.minusMonths? = t.minusMonths? n := by
  unfold monthCount?
  by_cases hn : n ≤ 4294967295
  · rw [if_pos (by omega)]
    rfl
  · rw [if_neg (by omega), t.minusMonths?_of_far (by omega)]
    rfl

theorem bind_duration? (t : Instant) (n : Nat) :
    (duration? n).bind t.minusSeconds? = t.minusSeconds? n := by
  have hlongest : Int64.maxValue.toInt / 1000 = 9223372036854775 := rfl
  unfold duration?
  dsimp only
  rw [hlongest]
  by_cases hn : n ≤ 9223372036854775
  · rw [if_pos (by omega)]
    rfl
  · rw [if_neg (by omega), t.minusSeconds?_of_far (by omega)]
    rfl

theorem bind_word?_monthCount? (t : Instant) (n : Nat) :
    ((word? n).bind fun w => (monthCount? w.toInt).bind t.minusMonths?) = t.minusMonths? n := by
  by_cases hn : n ≤ 9223372036854775807
  · obtain ⟨w, hw, hw'⟩ := exists_word?_eq hn
    rw [hw, Option.bind_some, hw', bind_monthCount?]
  · rw [word?_eq_none (by omega), t.minusMonths?_of_far (by omega)]
    rfl

theorem bind_word?_duration? (t : Instant) (n : Nat) :
    ((word? n).bind fun w => (duration? w.toInt).bind t.minusSeconds?) = t.minusSeconds? n := by
  by_cases hn : n ≤ 9223372036854775807
  · obtain ⟨w, hw, hw'⟩ := exists_word?_eq hn
    rw [hw, Option.bind_some, hw', bind_duration?]
  · rw [word?_eq_none (by omega), t.minusSeconds?_of_far (by omega)]
    rfl

/-! ## Steps without bounds -/

/-- The point in time that lies sums of units before now. -/
def back? (now : Instant) (total : UnitSum → Nat) : Option Instant :=
  (now.minusMonths? (12 * total .years)).bind fun t =>
    (t.minusMonths? (total .months)).bind fun t =>
      (t.minusSeconds? (86400 * total .days : Nat)).bind fun t =>
        t.minusSeconds? (total .seconds)

variable {now : Instant} {total : UnitSum → Nat}

theorem before?_eq_back? {e : Elapsed} (he : e.Holds total) : e.before? now = back? now total := by
  have hyears : e.years.toInt * 12 = (12 * total .years : Nat) := by
    have := he .years
    simp only [get] at this
    omega
  have hmonths : e.months.toInt = total .months := he .months
  have hdays : e.days.toInt * 86400 = (86400 * total .days : Nat) := by
    have := he .days
    simp only [get] at this
    omega
  have hseconds : e.seconds.toInt = total .seconds := he .seconds
  have hsteps : e.before? now =
      ((word? (e.years.toInt * 12)).bind fun w =>
        (monthCount? w.toInt).bind now.minusMonths?).bind fun t =>
      ((monthCount? e.months.toInt).bind t.minusMonths?).bind fun t =>
      ((word? (e.days.toInt * 86400)).bind fun w =>
        (duration? w.toInt).bind t.minusSeconds?).bind fun t =>
      (duration? e.seconds.toInt).bind t.minusSeconds? := by
    simp [before?, Option.bind_assoc]
  rw [hsteps, hyears, hmonths, hdays, hseconds]
  simp only [bind_word?_monthCount?, bind_monthCount?, bind_word?_duration?, bind_duration?, back?]

theorem back?_of_not_fits (h : ¬Fits total) : back? now total = none := by
  obtain ⟨sum, hsum⟩ := Classical.not_forall.mp h
  unfold back?
  cases sum with
  | years =>
    rw [now.minusMonths?_of_far (by omega)]
    rfl
  | months =>
    refine Option.bind_eq_none_iff.mpr fun t _ => ?_
    rw [t.minusMonths?_of_far (by omega)]
    rfl
  | days =>
    refine Option.bind_eq_none_iff.mpr fun t _ => Option.bind_eq_none_iff.mpr fun t _ => ?_
    rw [t.minusSeconds?_of_far (by omega)]
    rfl
  | seconds =>
    refine Option.bind_eq_none_iff.mpr fun t _ => Option.bind_eq_none_iff.mpr fun t _ =>
      Option.bind_eq_none_iff.mpr fun t _ => ?_
    exact t.minusSeconds?_of_far (by omega)

/-- Sums that do not fit their words lie before the calendar. -/
theorem bind_before?_of_isSum {o : Option Elapsed} (h : IsSum total o) :
    o.bind (before? now) = back? now total := by
  cases o with
  | none => exact (back?_of_not_fits h).symm
  | some e => exact before?_eq_back? h

/-! ## Exact steps -/

section

variable (now total)

def afterYears : Moment :=
  (Moment.ofInstant now).minusMonths (12 * total .years)

def afterMonths : Moment :=
  (afterYears now total).minusMonths (total .months)

def afterDays : Int :=
  (afterMonths now total).seconds - 86400 * total .days

def afterSeconds : Int :=
  afterDays now total - total .seconds

/-- Whether one of the four steps leads to before the calendar. -/
def LeavesCalendar : Prop :=
  (afterYears now total).seconds < firstInstant.seconds ∨
    (afterMonths now total).seconds < firstInstant.seconds ∨
    afterDays now total < firstInstant.seconds ∨
    afterSeconds now total < firstInstant.seconds

end

/-- Counting back leads to the point in time that the exact steps lead to, or leaves the calendar
where they do. -/
theorem back?_outcome (now : Instant) (total : UnitSum → Nat) :
    (∃ t, back? now total = some t ∧ t.seconds = afterSeconds now total ∧
        ¬LeavesCalendar now total) ∨
      back? now total = none ∧ LeavesCalendar now total := by
  unfold back?
  cases hyears : now.minusMonths? (12 * total .years) with
  | none => exact Or.inr ⟨rfl, Or.inl (seconds_minusMonths_lt_iff.mpr hyears)⟩
  | some t₁ =>
    have ht₁ : Moment.ofInstant t₁ = afterYears now total := ofInstant_of_minusMonths? hyears
    have hfirst₁ : firstInstant.seconds ≤ (afterYears now total).seconds := by
      rw [← ht₁, Moment.seconds_ofInstant]
      exact t₁.first_le_seconds
    rw [Option.bind_some]
    cases hmonths : t₁.minusMonths? (total .months) with
    | none =>
      have hleft : (afterMonths now total).seconds < firstInstant.seconds := by
        rw [afterMonths, ← ht₁]
        exact seconds_minusMonths_lt_iff.mpr hmonths
      exact Or.inr ⟨rfl, Or.inr (Or.inl hleft)⟩
    | some t₂ =>
      have ht₂ : (afterMonths now total).seconds = t₂.seconds := by
        rw [afterMonths, ← ht₁, ← ofInstant_of_minusMonths? hmonths, Moment.seconds_ofInstant]
      have hfirst₂ := t₂.first_le_seconds
      have hdays' : afterDays now total = t₂.seconds - (86400 * total .days : Nat) := by
        unfold afterDays
        omega
      rw [Option.bind_some]
      cases hdays : t₂.minusSeconds? (86400 * total .days : Nat) with
      | none =>
        have hleft := (minusSeconds?_eq_none_iff (by omega)).mp hdays
        rw [← hdays'] at hleft
        exact Or.inr ⟨rfl, Or.inr (Or.inr (Or.inl hleft))⟩
      | some t₃ =>
        have ht₃ := seconds_minusSeconds? hdays
        have hfirst₃ := t₃.first_le_seconds
        have hseconds' : afterSeconds now total = t₃.seconds - total .seconds := by
          unfold afterSeconds
          omega
        rw [Option.bind_some]
        cases hseconds : t₃.minusSeconds? (total .seconds) with
        | none =>
          have hleft := (minusSeconds?_eq_none_iff (by omega)).mp hseconds
          rw [← hseconds'] at hleft
          exact Or.inr ⟨rfl, Or.inr (Or.inr (Or.inr hleft))⟩
        | some t₄ =>
          have ht₄ := seconds_minusSeconds? hseconds
          have hfirst₄ := t₄.first_le_seconds
          refine Or.inl ⟨t₄, rfl, by omega, ?_⟩
          unfold LeavesCalendar
          omega

/-! ## More time -/

theorem seconds_le_of_monthNumber_lt {t u : Instant} (h : t.date.monthNumber < u.date.monthNumber) :
    t.seconds ≤ u.seconds := by
  have hday := Date.dayNumber_lt_of_monthNumber_lt h
  have hsecond := t.secondOfDay.isLt
  unfold Instant.seconds
  omega

/-- More time leads to an earlier point, and less time stays in the calendar. -/
theorem exists_back?_le {total' : UnitSum → Nat} {u : Instant} (h : ∀ sum, total sum ≤ total' sum)
    (hu : back? now total' = some u) : ∃ t, back? now total = some t ∧ u.seconds ≤ t.seconds := by
  obtain ⟨u₁, hyears', hu⟩ := Option.bind_eq_some_iff.mp hu
  obtain ⟨u₂, hmonths', hu⟩ := Option.bind_eq_some_iff.mp hu
  obtain ⟨u₃, hdays', hseconds'⟩ := Option.bind_eq_some_iff.mp hu
  have hyearsLe := h .years
  have hmonthsLe := h .months
  have hdaysLe := h .days
  have hsecondsLe := h .seconds
  have hnumber₁' := monthNumber_minusMonths? hyears'
  have hnumber₂' := monthNumber_minusMonths? hmonths'
  have hfirst := u₂.first_le_monthNumber
  obtain ⟨t₁, hyears⟩ := exists_minusMonths?_eq (t := now) (k := 12 * total .years) (by omega)
  have hnumber₁ := monthNumber_minusMonths? hyears
  obtain ⟨t₂, hmonths⟩ := exists_minusMonths?_eq (t := t₁) (k := total .months) (by omega)
  have hnumber₂ := monthNumber_minusMonths? hmonths
  have hle₂ : u₂.seconds ≤ t₂.seconds := by
    by_cases hlt : u₂.date.monthNumber < t₂.date.monthNumber
    · exact seconds_le_of_monthNumber_lt hlt
    · -- The same month is reached by the same years and months, so the days are the same too.
      have hyearsEq : total .years = total' .years := by omega
      have hmonthsEq : total .months = total' .months := by omega
      rw [hyearsEq, hyears'] at hyears
      cases hyears
      rw [hmonthsEq, hmonths'] at hmonths
      cases hmonths
      exact Int.le_refl _
  have hu₃ := seconds_minusSeconds? hdays'
  have hu₄ := seconds_minusSeconds? hseconds'
  have hfirst₄ := u.first_le_seconds
  obtain ⟨t₃, hdays⟩ := exists_minusSeconds?_eq (t := t₂) (k := (86400 * total .days : Nat))
    (by omega) (by omega)
  have ht₃ := seconds_minusSeconds? hdays
  obtain ⟨t₄, hseconds⟩ := exists_minusSeconds?_eq (t := t₃) (k := total .seconds)
    (by omega) (by omega)
  have ht₄ := seconds_minusSeconds? hseconds
  refine ⟨t₄, ?_, by omega⟩
  rw [back?, hyears, Option.bind_some, hmonths, Option.bind_some, hdays, Option.bind_some, hseconds]

end Elapsed

/-! ## Texts of elapsed times -/

/-- Whether a text can be read as an elapsed time only: it is no phrase, and has no slash and no
separator in it. -/
structure IsElapsedText (text : String) : Prop where
  head : ∀ c ∈ text.toList.head?, Text.isAlphabetic c = false
  plain : ∀ c ∈ text.toList, c ≠ '/' ∧ c ≠ '-' ∧ c ≠ '.'

namespace Resolver

open Elapsed AmountRow

/-- An elapsed time is counted back by the sums of its amounts, if it has any. -/
theorem resolve_eq_ofInstant (now : Instant) {text : String} {row : AmountRow}
    (h : IsElapsedText text) (hrow : row.write = text.toList.filter isCounted) :
    resolve ⟨now, defaultFormats⟩ text =
      ofInstant (if row.amounts = [] then none else back? now (Amount.total row.amounts)) := by
  have hback : (Elapsed.ofText? text.toList).bind (before? now) =
      if row.amounts = [] then none else back? now (Amount.total row.amounts) := by
    by_cases hnil : row.amounts = []
    · rw [if_pos hnil, ofText?_eq_none hrow hnil]
      rfl
    · rw [if_neg hnil, bind_before?_of_isSum (isSum_ofText? hrow hnil)]
  rw [← hback]
  have hplain : ∀ c ∈ text.toList, DayMonth.isSeparator c = false := by
    intro c hc
    simpa [DayMonth.isSeparator] using (h.plain c hc).2
  obtain ⟨hlong, hshort⟩ := DayMonth.search?_of_forall hplain
  have hformats := shortDate?_of_plain now fun c hc => ⟨(h.plain c hc).1, (h.plain c hc).2.1⟩
  by_cases hempty : text.toList = []
  · unfold resolve resolveWith
    rw [hempty]
    rfl
  · rw [resolve_eq_resolveDigits hempty h.head, resolveDigits_of_no_date hformats hlong hshort]

end Resolver

theorem Resolution.relative_eq_invalid_iff {t : Instant} :
    relative t = invalid ↔ t.seconds = 0 := by
  have hvalue := value_relative t
  constructor
  · intro h
    rw [h] at hvalue
    exact hvalue.symm
  · intro h
    have hzero : (relative t).value = 0 := Int64.toInt_inj.mp (hvalue.trans h)
    show (⟨(relative t).value, false⟩ : Resolution) = ⟨0, false⟩
    rw [hzero]

section

open Elapsed AmountRow

/-- A text that is no phrase and no date is an elapsed time: what is left of it without the
characters that stand for nothing is one row of amounts.  Without amounts it is no date, and with
some it is the point in time that four exact steps back from now lead to, unless one of them leaves
the calendar or the last one leads to the epoch, whose value stands for no date.  So all texts with
the same sums come to the same. -/
theorem resolve_elapsed (now : Instant) {text : String} (h : IsElapsedText text) :
    ∃ row : AmountRow, row.write = text.toList.filter isCounted ∧
      (∀ row' : AmountRow, row'.write = text.toList.filter isCounted → row' = row) ∧
      (row.amounts = [] → Resolver.resolve ⟨now, defaultFormats⟩ text = .invalid) ∧
      (row.amounts ≠ [] →
        (Resolver.resolve ⟨now, defaultFormats⟩ text = .invalid ↔
          LeavesCalendar now (Amount.total row.amounts) ∨
            afterSeconds now (Amount.total row.amounts) = 0) ∧
        (Resolver.resolve ⟨now, defaultFormats⟩ text ≠ .invalid →
          (Resolver.resolve ⟨now, defaultFormats⟩ text).isAbsolute = false ∧
          (Resolver.resolve ⟨now, defaultFormats⟩ text).value.toInt =
            afterSeconds now (Amount.total row.amounts))) ∧
      ∀ (text' : String) (row' : AmountRow), IsElapsedText text' →
        row'.write = text'.toList.filter isCounted →
        (row'.amounts.Perm row.amounts ∨
          ((row'.amounts = [] ↔ row.amounts = []) ∧
            ∀ sum, Amount.total row'.amounts sum = Amount.total row.amounts sum)) →
        Resolver.resolve ⟨now, defaultFormats⟩ text' =
          Resolver.resolve ⟨now, defaultFormats⟩ text := by
  obtain ⟨row, hrow, hunique⟩ := existsUnique_write_eq text.toList
  have hresolve := Resolver.resolve_eq_ofInstant now h hrow
  refine ⟨row, hrow, hunique, ?_, ?_, ?_⟩
  · intro hnil
    rw [hresolve, if_pos hnil]
    rfl
  · intro hne
    rw [if_neg hne] at hresolve
    rcases back?_outcome now (Amount.total row.amounts) with
      ⟨t, ht, hseconds, hstays⟩ | ⟨hnone, hleaves⟩
    · have hrelative : Resolver.resolve ⟨now, defaultFormats⟩ text = .relative t := by
        rw [hresolve, ht]
        rfl
      rw [hrelative, Resolution.relative_eq_invalid_iff, Resolution.value_relative, hseconds]
      exact ⟨by simp [hstays], fun _ => ⟨rfl, rfl⟩⟩
    · have hinvalid : Resolver.resolve ⟨now, defaultFormats⟩ text = .invalid := by
        rw [hresolve, hnone]
        rfl
      exact ⟨by simp [hinvalid, hleaves], fun hvalid => absurd hinvalid hvalid⟩
  · intro text' row' h' hrow' hsame
    have hnil : row'.amounts = [] ↔ row.amounts = [] := by
      rcases hsame with hperm | ⟨hnil, -⟩
      · constructor
        · intro heq
          exact (heq ▸ hperm).nil_eq.symm
        · intro heq
          exact (heq ▸ hperm).eq_nil
      · exact hnil
    have htotal : Amount.total row'.amounts = Amount.total row.amounts := by
      funext sum
      rcases hsame with hperm | ⟨-, hsums⟩
      · exact Amount.total_perm hperm sum
      · exact hsums sum
    rw [hresolve, Resolver.resolve_eq_ofInstant now h' hrow', htotal]
    simp only [hnil]

/-- From the end of March the way goes over the shorter February of the year before. -/
theorem resolve_elapsed_overFebruary :
    let now := Instant.midnight ⟨2024, 3, 31, by decide⟩
    IsElapsedText "1y 1m, 1d12h7" ∧ ∃ row : AmountRow, row.write = "1y1m1d12h7".toList ∧
      Resolver.resolve ⟨now, defaultFormats⟩ "1y 1m, 1d12h7" = ⟨1677412800, false⟩ ∧
      afterSeconds now (Amount.total row.amounts) = 1677412800 := by
  intro now
  have hhead : ∀ c ∈ "1y 1m, 1d12h7".toList.head?, Text.isAlphabetic c = false :=
    forall_mem_head?_cons (isAlphabetic_of_isAsciiDigit rfl) _
  have htext : IsElapsedText "1y 1m, 1d12h7" := ⟨hhead, by simp⟩
  have hresolve : Resolver.resolve ⟨now, defaultFormats⟩ "1y 1m, 1d12h7" = ⟨1677412800, false⟩ := by
    decide +kernel
  have hvalid : Resolver.resolve ⟨now, defaultFormats⟩ "1y 1m, 1d12h7" ≠ .invalid := by
    decide +kernel
  obtain ⟨row, hrow, -, hnil, hsteps, -⟩ := resolve_elapsed now htext
  have hne : row.amounts ≠ [] := fun h => hvalid (hnil h)
  have hvalue := ((hsteps hne).2 hvalid).2
  rw [hresolve] at hvalue
  exact ⟨htext, row, hrow.trans (by decide +kernel), hresolve, hvalue.symm⟩

end

/-! ## More time -/

namespace Amount

def writeAll (amounts : List Amount) : String :=
  String.ofList (amounts.flatMap write)

def ofNat (n : Nat) (unit : TimeUnit) : Amount where
  digits := Nat.toDigits 10 n
  unit := unit
  isDigits := (isDigitRow_toDigits n).isAsciiDigit

theorem digits_ofNat_ne_nil (n : Nat) (unit : TimeUnit) : (ofNat n unit).digits ≠ [] :=
  (isDigitRow_toDigits n).ne_nil

variable {as : List Amount}

theorem isCounted_of_mem_writeAll {c : Char} (hc : c ∈ (writeAll as).toList) :
    AmountRow.isCounted c = true := by
  rw [writeAll, String.toList_ofList] at hc
  obtain ⟨a, -, hc⟩ := List.mem_flatMap.mp hc
  refine AmountRow.isCounted_iff.mpr ?_
  rcases List.mem_append.mp hc with hc | hc
  · exact Or.inl (a.isDigits c hc)
  · exact Or.inr ⟨a.unit, List.mem_singleton.mp hc⟩

theorem isElapsedText_writeAll (hdigits : ∀ a ∈ as.head?, a.digits ≠ []) :
    IsElapsedText (writeAll as) where
  head c hc := by
    cases as with
    | nil => cases hc
    | cons a as =>
      obtain ⟨d, ds, hd⟩ := List.exists_cons_of_ne_nil (hdigits a rfl)
      have hc' : d = c := by simpa [writeAll, write, hd] using hc
      subst hc'
      exact isAlphabetic_of_isAsciiDigit (a.isDigits d (hd ▸ List.mem_cons_self))
  plain c hc := by
    have hcounted := isCounted_of_mem_writeAll hc
    have hslash : AmountRow.isCounted '/' = false := by decide
    have hhyphen : AmountRow.isCounted '-' = false := by decide
    have hpoint : AmountRow.isCounted '.' = false := by decide
    refine ⟨?_, ?_, ?_⟩
    · rintro rfl
      simp [hslash] at hcounted
    · rintro rfl
      simp [hhyphen] at hcounted
    · rintro rfl
      simp [hpoint] at hcounted

/-- Written amounts are counted back by their sums. -/
theorem resolve_writeAll (now : Instant) (hne : as ≠ [])
    (hdigits : ∀ a ∈ as.head?, a.digits ≠ []) :
    (Elapsed.ofText? (writeAll as).toList).bind (Elapsed.before? now) =
        Elapsed.back? now (total as) ∧
      Resolver.resolve ⟨now, defaultFormats⟩ (writeAll as) =
        Resolver.ofInstant (Elapsed.back? now (total as)) := by
  let row : AmountRow := ⟨as, [], nofun⟩
  have hrow : row.write = (writeAll as).toList.filter AmountRow.isCounted := by
    rw [List.filter_eq_self.mpr fun c hc => isCounted_of_mem_writeAll hc, writeAll,
      String.toList_ofList]
    exact List.append_nil _
  refine ⟨Elapsed.bind_before?_of_isSum (Elapsed.isSum_ofText? hrow hne), ?_⟩
  rw [Resolver.resolve_eq_ofInstant now (isElapsedText_writeAll hdigits) hrow, if_neg hne]

end Amount

/-- If no sum of a text is greater than that of another one, which comes to a date, then the text
comes to a point in time as well, and to no earlier one.  Behind the first amount, which would be
read as a phrase without its digits, an amount may have none. -/
theorem resolve_write_antitone (now : Instant) {as bs : List Amount} (has : as ≠ [])
    (hbs : bs ≠ []) (hasDigits : ∀ a ∈ as.head?, a.digits ≠ [])
    (hbsDigits : ∀ b ∈ bs.head?, b.digits ≠ [])
    (hle : ∀ sum, Amount.total as sum ≤ Amount.total bs sum)
    (hvalid : (Resolver.resolve ⟨now, defaultFormats⟩ (Amount.writeAll bs)).isValid = true) :
    ∃ t, (Elapsed.ofText? (Amount.writeAll as).toList).bind (Elapsed.before? now) = some t ∧
      Resolver.resolve ⟨now, defaultFormats⟩ (Amount.writeAll as) = .relative t ∧
      (Resolver.resolve ⟨now, defaultFormats⟩ (Amount.writeAll bs)).value.toInt ≤
        (Resolver.resolve ⟨now, defaultFormats⟩ (Amount.writeAll as)).value.toInt := by
  obtain ⟨hread, hresolve⟩ := Amount.resolve_writeAll now has hasDigits
  obtain ⟨-, hresolve'⟩ := Amount.resolve_writeAll now hbs hbsDigits
  rw [hresolve'] at hvalid ⊢
  cases hu : Elapsed.back? now (Amount.total bs) with
  | none =>
    rw [hu] at hvalid
    cases hvalid
  | some u =>
    obtain ⟨t, ht, hseconds⟩ := Elapsed.exists_back?_le hle hu
    rw [ht] at hread hresolve
    refine ⟨t, hread, hresolve, ?_⟩
    rw [hresolve]
    show (Resolution.relative u).value.toInt ≤ (Resolution.relative t).value.toInt
    rw [Resolution.value_relative, Resolution.value_relative]
    exact hseconds

/-- A year and a week before the end of March, and a month more than that. -/
theorem resolve_write_antitone_overFebruary :
    let now := Instant.midnight ⟨2024, 3, 31, by decide⟩
    let less := [Amount.ofNat 7 .day, Amount.ofNat 1 .year]
    let more := [Amount.ofNat 1 .year, Amount.ofNat 1 .month, Amount.ofNat 1 .week]
    (∀ sum, Amount.total less sum ≤ Amount.total more sum) ∧
      (Resolver.resolve ⟨now, defaultFormats⟩ (Amount.writeAll more)).isValid = true ∧
      ∃ t, Resolver.resolve ⟨now, defaultFormats⟩ (Amount.writeAll less) = .relative t ∧
        (Resolver.resolve ⟨now, defaultFormats⟩ (Amount.writeAll more)).value.toInt ≤
          (Resolver.resolve ⟨now, defaultFormats⟩ (Amount.writeAll less)).value.toInt := by
  intro now less more
  have hle : ∀ sum, Amount.total less sum ≤ Amount.total more sum := by
    intro sum
    cases sum <;> decide
  have hvalid : (Resolver.resolve ⟨now, defaultFormats⟩ (Amount.writeAll more)).isValid = true := by
    decide +kernel
  have hless : less ≠ [] := List.cons_ne_nil _ _
  have hmore : more ≠ [] := List.cons_ne_nil _ _
  obtain ⟨t, -, ht, hvalue⟩ := resolve_write_antitone now hless hmore
    (by simp [less, Amount.digits_ofNat_ne_nil]) (by simp [more, Amount.digits_ofNat_ne_nil])
    hle hvalid
  exact ⟨hle, hvalid, t, ht, hvalue⟩

end TrackSearch
