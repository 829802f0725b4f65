/-
The spellings of a date.

A date is written with a month in front (`12/25/1990`), with a year in front (`1990-12-25`) or with
a day in front (`25.12.1990`, `25-12-1990`), and a day and a month without a year (`25.12`) are of
this year.  `resolve_spellings` says that the spellings of a date that exists all come to that date,
and `resolve_impossible_date` what they come to if it does not exist.
-/
import TrackSearch.Proofs.DateValue.Amount
import TrackSearch.Proofs.DateValue.Range
import TrackSearch.Proofs.DateValue.Resolver

namespace TrackSearch

open Calendar Number

/-! ## Digits of a date -/

/-- The digits of a day and a month, two at most for each of them. -/
structure DayDigits where
  day : List Char
  month : List Char
  isDigitRow_day : IsDigitRow day
  isDigitRow_month : IsDigitRow month
  length_day : day.length ≤ 2
  length_month : month.length ≤ 2

/-- The digits of a date, four of them for the year. -/
structure DateDigits extends DayDigits where
  year : List Char
  isDigitRow_year : IsDigitRow year
  length_year : year.length = 4

namespace DayDigits

variable (w : DayDigits)

def dayFirst (s : Char) : String :=
  String.ofList (w.day ++ s :: w.month)

theorem toList_dayFirst {w : DayDigits} {s : Char} :
    (w.dayFirst s).toList = w.day ++ s :: w.month :=
  String.toList_ofList

/-- The date of a year that has the day and the month, if there is one. -/
def date? (y : Int) : Option Date :=
  Date.ofYmd? y (digitsValue w.month) (digitsValue w.day)

/-- Two digits for the day and two for the month. -/
def ofNat (d m : Nat) (hd : d < 100) (hm : m < 100) : DayDigits where
  day := (Instant.padded 2 d).toList
  month := (Instant.padded 2 m).toList
  isDigitRow_day := Instant.isDigitRow_padded 2 d
  isDigitRow_month := Instant.isDigitRow_padded 2 m
  length_day := Nat.le_of_eq (Instant.length_padded_of_lt (by omega) hd)
  length_month := Nat.le_of_eq (Instant.length_padded_of_lt (by omega) hm)

theorem date?_ofNat (y : Int) {d m : Nat} (hd : d < 100) (hm : m < 100) :
    (ofNat d m hd hm).date? y = Date.ofYmd? y m d := by
  unfold date? ofNat
  rw [Instant.digitsValue_padded, Instant.digitsValue_padded]

end DayDigits

namespace DateDigits

variable (w : DateDigits)

def monthFirst : String :=
  String.ofList (w.month ++ '/' :: (w.day ++ '/' :: w.year))

def yearFirst : String :=
  String.ofList (w.year ++ '-' :: (w.month ++ '-' :: w.day))

def dayFirst (s s' : Char) : String :=
  String.ofList (w.day ++ s :: (w.month ++ s' :: w.year))

theorem toList_monthFirst :
    w.monthFirst.toList = w.month ++ '/' :: (w.day ++ '/' :: w.year) :=
  String.toList_ofList

theorem toList_yearFirst : w.yearFirst.toList = w.year ++ '-' :: (w.month ++ '-' :: w.day) :=
  String.toList_ofList

theorem toList_dayFirst {w : DateDigits} {s s' : Char} :
    (w.dayFirst s s').toList = w.day ++ s :: (w.month ++ s' :: w.year) :=
  String.toList_ofList

/-- Whether the date exists. -/
def IsReal : Prop :=
  IsDate (digitsValue w.year) (digitsValue w.month) (digitsValue w.day)

instance : Decidable w.IsReal :=
  inferInstanceAs (Decidable (IsDate _ _ _))

def date? : Option Date :=
  w.toDayDigits.date? (digitsValue w.year)

/-- Four digits for the year, with those of a day and a month. -/
def ofYear (w : DayDigits) (y : Nat) (hy : y < 10000) : DateDigits where
  toDayDigits := w
  year := (Instant.padded 4 y).toList
  isDigitRow_year := Instant.isDigitRow_padded 4 y
  length_year := Instant.length_padded_of_lt (by omega) hy

variable {w}

theorem date?_of_isReal (hdate : w.IsReal) :
    w.date? = some ⟨digitsValue w.year, digitsValue w.month, digitsValue w.day, hdate⟩ :=
  Date.ofYmd?_of_isDate hdate

theorem date?_eq_none (hdate : ¬w.IsReal) : w.date? = none :=
  dif_neg hdate

theorem date?_ofYear (w : DayDigits) {y : Nat} (hy : y < 10000) :
    (ofYear w y hy).date? = w.date? y := by
  show w.date? (digitsValue (Instant.padded 4 y).toList) = w.date? y
  rw [Instant.digitsValue_padded]

theorem isReal_ofNat {y m d : Nat} (hd : d < 100) (hm : m < 100) (hy : y < 10000) :
    (ofYear (.ofNat d m hd hm) y hy).IsReal ↔ IsDate y m d := by
  unfold IsReal ofYear DayDigits.ofNat
  simp only [Instant.digitsValue_padded]

end DateDigits

namespace Resolver

open DayMonth

variable {now : Instant}

theorem isAsciiDigit_or_of_mem_three_rows {as bs cs : List Char} {s c : Char}
    (has : IsDigitRow as) (hbs : IsDigitRow bs) (hcs : IsDigitRow cs)
    (hc : c ∈ as ++ s :: (bs ++ s :: cs)) : isAsciiDigit c = true ∨ c = s := by
  simp only [List.mem_append, List.mem_cons] at hc
  rcases hc with hc | hc | hc | hc | hc
  · exact Or.inl (has.isAsciiDigit c hc)
  · exact Or.inr hc
  · exact Or.inl (hbs.isAsciiDigit c hc)
  · exact Or.inr hc
  · exact Or.inl (hcs.isAsciiDigit c hc)

/-! ## A month first -/

/-- The format with two digits for the year does not read four. -/
theorem shortDate?_monthFirst (w : DateDigits) :
    shortDate? ⟨now, defaultFormats⟩ (w.month ++ '/' :: (w.day ++ '/' :: w.year)) = w.date? := by
  have hcentury := DateFormat.readParts?_of_long_row (a := .month) (b := .day) (c := .yearOfCentury)
    (l := '/') [] [] nofun w.isDigitRow_month w.isDigitRow_day w.isDigitRow_year
    w.length_month w.length_day (w.length_year ▸ by decide) (rfl : isAsciiDigit '/' = false)
    (rfl : isAsciiDigit '/' = false)
  rw [List.append_nil, List.nil_append] at hcentury
  have hslashes := DateFormat.readParts?_slashes w.isDigitRow_year w.isDigitRow_month
    w.isDigitRow_day (Nat.le_of_eq w.length_year) w.length_month w.length_day
  have hhyphen : '-' ∉ w.month ++ '/' :: (w.day ++ '/' :: w.year) := by
    intro hc
    rcases isAsciiDigit_or_of_mem_three_rows w.isDigitRow_month w.isDigitRow_day w.isDigitRow_year
      hc with h | h <;> cases h
  have hliteral : DateFormat.Part.literal '-' ∈
      [.number .year, .literal '-', .number .month, .literal '-', .number .day] := by decide
  have hhyphens := DateFormat.readParts?_of_not_mem hliteral hhyphen
  show List.findSome? _ defaultFormats = _
  unfold defaultFormats
  simp only [List.findSome?_cons, DateFormat.readDate?, hcentury, hslashes, hhyphens,
    List.findSome?_nil]
  split
  · next hdate => exact hdate.symm
  · next hdate => exact hdate.symm

theorem resolve_monthFirst (w : DateDigits) :
    resolve ⟨now, defaultFormats⟩ w.monthFirst = ofDate w.date? := by
  have hmem {c : Char} (hc : c ∈ w.month ++ '/' :: (w.day ++ '/' :: w.year)) :
      isAsciiDigit c = true ∨ c = '/' :=
    isAsciiDigit_or_of_mem_three_rows w.isDigitRow_month w.isDigitRow_day w.isDigitRow_year hc
  have hplain : ∀ c ∈ w.month ++ '/' :: (w.day ++ '/' :: w.year), isSeparator c = false := by
    intro c hc
    rcases hmem hc with h | rfl
    · exact isSeparator_of_isDecimalDigit (isDecimalDigit_of_isAsciiDigit h)
    · rfl
  have helapsed : Elapsed.ofText? (w.month ++ '/' :: (w.day ++ '/' :: w.year)) = none := by
    refine Elapsed.ofText?_of_no_unit fun c hc u hu => ?_
    subst hu
    rcases hmem hc with h | h
    · rw [u.isAsciiDigit_letter] at h
      cases h
    · cases u <;> cases h
  rw [resolve_of_isDigitRow w.isDigitRow_month w.toList_monthFirst]
  cases hdate : w.date? with
  | some d => rw [resolveDigits, shortDate?_monthFirst, hdate]; rfl
  | none =>
    obtain ⟨hyear, hday⟩ := search?_of_forall hplain
    rw [resolveDigits_of_no_date ((shortDate?_monthFirst w).trans hdate) hyear hday, helapsed]
    rfl

/-! ## A year first -/

theorem shortDate?_yearFirst (w : DateDigits) :
    shortDate? ⟨now, defaultFormats⟩ (w.year ++ '-' :: (w.month ++ '-' :: w.day)) = w.date? := by
  have hslash : '/' ∉ w.year ++ '-' :: (w.month ++ '-' :: w.day) := by
    intro hc
    rcases isAsciiDigit_or_of_mem_three_rows w.isDigitRow_year w.isDigitRow_month w.isDigitRow_day
      hc with h | h <;> cases h
  rw [shortDate?_eq_hyphens now fun parts =>
    DateFormat.readParts?_of_not_mem (c := '/') (by simp) hslash]
  exact DateFormat.readParts?_hyphens w.isDigitRow_year w.isDigitRow_month
    w.isDigitRow_day (Nat.le_of_eq w.length_year) w.length_month w.length_day

/-- If the date does not exist, then the last two digits of the year are the day of a date of this
year. -/
theorem resolve_yearFirst (w : DateDigits) :
    resolve ⟨now, defaultFormats⟩ w.yearFirst =
      ofDate (w.date?.or (Date.ofYmd? now.date.year (digitsValue w.month)
        (digitsValue (w.year.drop 2)))) := by
  rw [resolve_of_isDigitRow w.isDigitRow_year w.toList_yearFirst]
  cases hdate : w.date? with
  | some d => rw [resolveDigits, shortDate?_yearFirst, hdate]; rfl
  | none =>
    have hyear : search? dayMonthYear? (w.year ++ '-' :: (w.month ++ '-' :: w.day)) = none :=
      search?_dayMonthYear?_three_rows w.isDigitRow_year w.isDigitRow_month w.isDigitRow_day
        (Nat.lt_of_le_of_lt w.length_day (by decide)) rfl rfl
    have hend : ∀ c ∈ ('-' :: w.day).head?, Text.isDecimalDigit c = false :=
      forall_mem_head?_cons (isDecimalDigit_of_isSeparator rfl) w.day
    have hday : search? dayMonth? (w.year ++ '-' :: (w.month ++ '-' :: w.day)) =
        some (w.year.drop 2, w.month) := by
      have hlong := search?_dayMonth?_long_row (s := '-') w.isDigitRow_year
        (w.length_year ▸ by decide) w.isDigitRow_month w.length_month rfl hend
      rwa [w.length_year] at hlong
    have hrow : IsDigitRow (w.year.drop 2) := w.isDigitRow_year.drop (w.length_year ▸ by decide)
    rw [resolveDigits_of_dayMonth? ((shortDate?_yearFirst w).trans hdate) hyear hday,
      date?_of_isDigitRow _ w.isDigitRow_month hrow]
    rfl

/-! ## A day first -/

section

variable {s s' : Char}

theorem isAsciiDigit_of_isSeparator (hs : isSeparator s = true) : isAsciiDigit s = false := by
  rcases isSeparator_iff.mp hs with rfl | rfl <;> rfl

theorem ne_slash_of_isSeparator (hs : isSeparator s = true) : s ≠ '/' := by
  rcases isSeparator_iff.mp hs with rfl | rfl <;> decide

theorem shortDate?_dayFirst (w : DateDigits) {front : List Char} (rest : List Char)
    (hfront : ∀ c ∈ front, isAsciiDigit c = false) (hs : isSeparator s = true)
    (hs' : isSeparator s' = true) :
    shortDate? ⟨now, defaultFormats⟩
      (front ++ (w.day ++ s :: (w.month ++ s' :: (w.year ++ rest)))) = none := by
  have hsd := isAsciiDigit_of_isSeparator hs
  have hsd' := isAsciiDigit_of_isSeparator hs'
  rw [shortDate?_eq_hyphens now fun parts =>
    DateFormat.readParts?_of_literal_ne front hfront w.isDigitRow_day w.length_day hsd
      (ne_slash_of_isSeparator hs)]
  exact DateFormat.readParts?_of_long_row front rest hfront w.isDigitRow_day
    w.isDigitRow_month w.isDigitRow_year (Nat.le_trans w.length_day (by decide)) w.length_month
    (w.length_year ▸ by decide) hsd hsd'

/-- A day, a month and a year are found behind a text without digits, and in front of any text. -/
theorem resolve_append_dayFirst (w : DateDigits) {p : String} (q : String)
    (hp : ∀ c ∈ p.toList, Text.isDecimalDigit c = false)
    (hhead : ∀ c ∈ p.toList.head?, Text.isAlphabetic c = false) (hs : isSeparator s = true)
    (hs' : isSeparator s' = true) :
    resolve ⟨now, defaultFormats⟩ (p ++ w.dayFirst s s' ++ q) = ofDate w.date? := by
  have htext : (p ++ w.dayFirst s s' ++ q).toList =
      p.toList ++ (w.day ++ s :: (w.month ++ s' :: (w.year ++ q.toList))) := by
    simp [DateDigits.toList_dayFirst, String.toList_append]
  have hfront (c : Char) (hc : c ∈ p.toList) : isAsciiDigit c = false := by
    refine Bool.eq_false_iff.mpr fun hdigit => ?_
    have hdecimal := isDecimalDigit_of_isAsciiDigit hdigit
    rw [hp c hc] at hdecimal
    cases hdecimal
  have hresolve : resolve ⟨now, defaultFormats⟩ (p ++ w.dayFirst s s' ++ q) =
      resolveDigits ⟨now, defaultFormats⟩ (p ++ w.dayFirst s s' ++ q).toList := by
    cases hnil : p.toList with
    | nil =>
      rw [hnil, List.nil_append] at htext
      rw [htext]
      exact resolve_of_isDigitRow w.isDigitRow_day htext
    | cons c cs =>
      refine resolve_eq_resolveDigits (by simp [htext, hnil]) ?_
      simpa [htext, hnil] using hhead
  rw [hresolve, htext, resolveDigits_of_dayMonthYear? (shortDate?_dayFirst w _ hfront hs hs')
    (search?_dayMonthYear?_rows hp w.isDigitRow_day w.length_day w.isDigitRow_month w.length_month
      w.isDigitRow_year w.length_year hs hs'),
    readNat?_of_isDigitRow w.isDigitRow_year, Option.bind_some,
    date?_of_isDigitRow _ w.isDigitRow_month w.isDigitRow_day]
  rfl

theorem resolve_dayFirst (w : DateDigits) (hs : isSeparator s = true)
    (hs' : isSeparator s' = true) :
    resolve ⟨now, defaultFormats⟩ (w.dayFirst s s') = ofDate w.date? := by
  have h : resolve ⟨now, defaultFormats⟩ ("" ++ w.dayFirst s s' ++ "") = ofDate w.date? :=
    resolve_append_dayFirst w "" nofun nofun hs hs'
  rwa [String.empty_append, String.append_empty] at h

/-- A day and a month without a year are of this year. -/
theorem resolve_dayMonth (w : DayDigits) (hs : isSeparator s = true) :
    resolve ⟨now, defaultFormats⟩ (w.dayFirst s) = ofDate (w.date? now.date.year) := by
  have hsd := isAsciiDigit_of_isSeparator hs
  have hshort : shortDate? ⟨now, defaultFormats⟩ (w.day ++ s :: w.month) = none := by
    have hslashes (parts : List DateFormat.Part) :
        DateFormat.readParts? (.number .month :: .literal '/' :: parts)
          (w.day ++ s :: w.month) = none :=
      DateFormat.readParts?_of_literal_ne [] nofun w.isDigitRow_day w.length_day hsd
        (ne_slash_of_isSeparator hs)
    rw [shortDate?_eq_hyphens now hslashes]
    exact DateFormat.readParts?_of_two_rows w.isDigitRow_day w.isDigitRow_month
      (Nat.le_trans w.length_day (by decide)) w.length_month hsd
  have hyear := search?_dayMonthYear?_two_rows w.isDigitRow_day w.isDigitRow_month hs
  have hday : dayMonth? (w.day ++ s :: (w.month ++ [])) = some (w.day, w.month) :=
    dayMonth?_rows w.isDigitRow_day w.length_day w.isDigitRow_month w.length_month hs nofun
  rw [List.append_nil] at hday
  rw [resolve_of_isDigitRow w.isDigitRow_day DayDigits.toList_dayFirst,
    resolveDigits_of_dayMonth? hshort hyear (search?_of_eq_some hday),
    date?_of_isDigitRow _ w.isDigitRow_month w.isDigitRow_day]
  rfl

end

end Resolver

/-! ## All spellings -/

theorem isSeparator_of_mem {s : Char} (hs : s ∈ ['-', '.']) : DayMonth.isSeparator s = true :=
  DayMonth.isSeparator_iff.mpr (by simpa using hs)

/-- The spellings of a date that exists come to the same, whatever the time is: the first second of
the date.  A spelling with the day in front may stand behind any text without digits that is no
phrase, and in front of any text.  Without its year, it is as if this year were written. -/
theorem resolve_spellings (now : Instant) :
    Date.CountsDays Date.dayNumber ∧
      (∀ (w : DateDigits) (hdate : w.IsReal), ∃ r : Resolution,
        r.isAbsolute = true ∧
        r.value.toInt = 86400 * Date.dayNumber
          ⟨digitsValue w.year, digitsValue w.month, digitsValue w.day, hdate⟩ ∧
        Resolver.resolve ⟨now, defaultFormats⟩ w.monthFirst = r ∧
        Resolver.resolve ⟨now, defaultFormats⟩ w.yearFirst = r ∧
        ∀ s ∈ ['-', '.'], ∀ s' ∈ ['-', '.'],
          Resolver.resolve ⟨now, defaultFormats⟩ (w.dayFirst s s') = r ∧
          ∀ p q : String, (∀ c ∈ p.toList, Text.isDecimalDigit c = false) →
            (∀ c ∈ p.toList.head?, Text.isAlphabetic c = false) →
            Resolver.resolve ⟨now, defaultFormats⟩ (p ++ w.dayFirst s s' ++ q) = r) ∧
      ∀ (y : Nat) (hy : y < 10000), now.date.year = y → ∀ (w : DayDigits), ∀ s ∈ ['-', '.'],
        Resolver.resolve ⟨now, defaultFormats⟩ (w.dayFirst s) =
          Resolver.resolve ⟨now, defaultFormats⟩ ((DateDigits.ofYear w y hy).dayFirst s '.') ∧
        (¬(DateDigits.ofYear w y hy).IsReal →
          Resolver.resolve ⟨now, defaultFormats⟩ (w.dayFirst s) = .invalid) := by
  refine ⟨Date.countsDays_dayNumber, ?_, ?_⟩
  · intro w hdate
    have hvalue := Resolution.value_absolute
      ⟨digitsValue w.year, digitsValue w.month, digitsValue w.day, hdate⟩
    have hofDate := congrArg Resolver.ofDate (DateDigits.date?_of_isReal hdate)
    refine ⟨.absolute ⟨_, _, _, hdate⟩, rfl, hvalue.trans (Int.mul_comm _ _), ?_, ?_, ?_⟩
    · exact (Resolver.resolve_monthFirst w).trans hofDate
    · rw [Resolver.resolve_yearFirst, DateDigits.date?_of_isReal hdate]
      rfl
    · intro s hs s' hs'
      have hs := isSeparator_of_mem hs
      have hs' := isSeparator_of_mem hs'
      refine ⟨(Resolver.resolve_dayFirst w hs hs').trans hofDate, fun p q hp hhead => ?_⟩
      exact (Resolver.resolve_append_dayFirst w q hp hhead hs hs').trans hofDate
  · intro y hy hyear w s hs
    have hs := isSeparator_of_mem hs
    have hthis : Resolver.resolve ⟨now, defaultFormats⟩ (w.dayFirst s) =
        Resolver.ofDate (DateDigits.ofYear w y hy).date? := by
      rw [Resolver.resolve_dayMonth w hs, DateDigits.date?_ofYear w hy, ← hyear]
    refine ⟨hthis.trans (Resolver.resolve_dayFirst _ hs rfl).symm, fun hdate => ?_⟩
    rw [hthis, DateDigits.date?_eq_none hdate]
    rfl

/-- The spellings of a leap day, one of them within a text, and of a day that no year has. -/
theorem resolve_spellings_leapDay :
    IsDate 2024 2 29 ∧ fixedDates.resolve "02/29/2024" = fixedDates.resolve "2024-02-29" ∧
      fixedDates.resolve "02/29/2024" = fixedDates.resolve "(29.02-2024 1.1.2000" ∧
      (fixedDates.resolve "02/29/2024").value = 1709164800 ∧
      fixedDates.resolve "30-02" = fixedDates.resolve "30-02.2024" ∧
      fixedDates.resolve "30-02" = .invalid := by
  obtain ⟨-, hdates, hthisYear⟩ := resolve_spellings fixedDates.now
  have hnoDay : ¬IsDate 2024 2 30 := by decide
  obtain ⟨r, -, hvalue, hmonth, hyear, hday⟩ := hdates
    (.ofYear (.ofNat 29 2 (by omega) (by omega)) 2024 (by omega))
    ((DateDigits.isReal_ofNat _ _ _).mpr (by decide))
  obtain ⟨-, hwithin⟩ := hday '.' (by simp) '-' (by simp)
  have hfront : ∀ c ∈ "(".toList, Text.isDecimalDigit c = false :=
    List.forall_mem_singleton.mpr (by decide +kernel)
  have hhead : ∀ c ∈ "(".toList.head?, Text.isAlphabetic c = false :=
    forall_mem_head?_cons (by decide +kernel) _
  have hwithin := hwithin "(" " 1.1.2000" hfront hhead
  obtain ⟨hsame, hinvalid⟩ := hthisYear 2024 (by omega) rfl
    (.ofNat 30 2 (by omega) (by omega)) '-' (by simp)
  have hvalue' : r.value = 1709164800 := by
    rw [← Int64.toInt_inj, hvalue]
    decide +kernel
  refine ⟨by decide, hmonth.trans hyear.symm, hmonth.trans hwithin.symm, ?_, hsame,
    hinvalid (by rwa [DateDigits.isReal_ofNat])⟩
  exact (congrArg Resolution.value hmonth).trans hvalue'

/-- A date that does not exist is no date when it is written with the month or the day in front.
With the year in front it is no date either, unless the last two digits of the year are a day that
the month has in this year: then it is that day. -/
theorem resolve_impossible_date (now : Instant) {w : DateDigits} (hdate : ¬w.IsReal) :
    Resolver.resolve ⟨now, defaultFormats⟩ w.monthFirst = .invalid ∧
      (∀ s ∈ ['-', '.'], ∀ s' ∈ ['-', '.'],
        Resolver.resolve ⟨now, defaultFormats⟩ (w.dayFirst s s') = .invalid) ∧
      (¬IsDate now.date.year (digitsValue w.month) (digitsValue (w.year.drop 2)) →
        Resolver.resolve ⟨now, defaultFormats⟩ w.yearFirst = .invalid) ∧
      ∀ hday : IsDate now.date.year (digitsValue w.month) (digitsValue (w.year.drop 2)),
        Resolver.resolve ⟨now, defaultFormats⟩ w.yearFirst = .absolute ⟨_, _, _, hday⟩ := by
  have hnone := DateDigits.date?_eq_none hdate
  have hyear : Resolver.resolve ⟨now, defaultFormats⟩ w.yearFirst = Resolver.ofDate (w.date?.or
      (Date.ofYmd? now.date.year (digitsValue w.month) (digitsValue (w.year.drop 2)))) :=
    Resolver.resolve_yearFirst w
  rw [hnone, Option.none_or] at hyear
  refine ⟨?_, ?_, ?_, ?_⟩
  · rw [Resolver.resolve_monthFirst, hnone]
    rfl
  · intro s hs s' hs'
    rw [Resolver.resolve_dayFirst w (isSeparator_of_mem hs) (isSeparator_of_mem hs'), hnone]
    rfl
  · intro hday
    have hday' : Date.ofYmd? now.date.year (digitsValue w.month) (digitsValue (w.year.drop 2)) =
        none :=
      dif_neg hday
    rw [hyear, hday']
    rfl
  · intro hday
    rw [hyear, Date.ofYmd?_of_isDate hday]
    rfl

/-- The same day written three ways, and one that the last two digits of its year do not save. -/
theorem resolve_impossible_date_february :
    ¬IsDate 2024 2 30 ∧ ¬IsDate 2031 2 30 ∧
      fixedDates.resolve "02/30/2024" = .invalid ∧ fixedDates.resolve "30.02.2024" = .invalid ∧
      fixedDates.resolve "30-02-2024" = .invalid ∧
      fixedDates.resolve "2024-02-30" = .absolute ⟨2024, 2, 24, by decide⟩ ∧
      fixedDates.resolve "2031-02-30" = .invalid := by
  let february (y : Nat) (hy : y < 10000) : DateDigits :=
    .ofYear (.ofNat 30 2 (by omega) (by omega)) y hy
  have hleapYear : ¬IsDate 2024 2 30 := by decide
  have hlaterYear : ¬IsDate 2031 2 30 := by decide
  have hunreal : ¬(february 2024 (by omega)).IsReal := by rwa [DateDigits.isReal_ofNat]
  have hunreal' : ¬(february 2031 (by omega)).IsReal := by rwa [DateDigits.isReal_ofNat]
  obtain ⟨hmonth, hday, -, hyear⟩ := resolve_impossible_date fixedDates.now hunreal
  obtain ⟨-, -, hlater, -⟩ := resolve_impossible_date fixedDates.now hunreal'
  exact ⟨hleapYear, hlaterYear, hmonth, hday '.' (by simp) '.' (by simp),
    hday '-' (by simp) '-' (by simp), hyear (by decide +kernel), hlater (by decide +kernel)⟩

/-- A day that February has in no year, as another day of this February. -/
theorem exists_resolve_yearFirst_ne_invalid :
    ∃ w : DateDigits, w.yearFirst = "2024-02-30" ∧ ¬w.IsReal ∧
      fixedDates.resolve w.yearFirst = .absolute ⟨2024, 2, 24, by decide⟩ ∧
      fixedDates.resolve w.yearFirst ≠ .invalid := by
  let w : DateDigits := .ofYear (.ofNat 30 2 (by omega) (by omega)) 2024 (by omega)
  have hnoDay : ¬IsDate 2024 2 30 := by decide
  have hresolve : fixedDates.resolve w.yearFirst = .absolute ⟨2024, 2, 24, by decide⟩ := by
    decide +kernel
  refine ⟨w, rfl, by rwa [DateDigits.isReal_ofNat], hresolve, ?_⟩
  rw [hresolve]
  decide +kernel

end TrackSearch
