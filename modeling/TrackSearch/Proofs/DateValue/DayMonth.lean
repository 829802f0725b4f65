/-
Days, months and years found in a text.

Digits with a separator behind them are taken if they are two at most (`takeSeparated?_append`), and
nothing is taken where no digit stands or no separator follows.  So a search passes over a front
without digits (`search?_append`), and finds the first row of digits that it can take.
-/
import TrackSearch.DateValue.DayMonth
import TrackSearch.Proofs.Number.Digits

namespace TrackSearch
namespace DayMonth

open Calendar Number

/-! ## Characters -/

theorem isSeparator_iff {c : Char} : isSeparator c = true ↔ c = '-' ∨ c = '.' := by
  simp [isSeparator]

theorem isDecimalDigit_of_isAsciiDigit {c : Char} (h : isAsciiDigit c = true) :
    Text.isDecimalDigit c = true := by
  have hrange := isAsciiDigit_iff.mp h
  exact Text.RangeTable.contains_iff.mpr ⟨(0x30, 0x39), List.mem_cons_self, hrange⟩

theorem isDecimalDigit_of_isSeparator {c : Char} (h : isSeparator c = true) :
    Text.isDecimalDigit c = false := by
  rcases isSeparator_iff.mp h with rfl | rfl <;> decide +kernel

theorem isSeparator_of_isDecimalDigit {c : Char} (h : Text.isDecimalDigit c = true) :
    isSeparator c = false := by
  refine Bool.eq_false_iff.mpr fun hs => ?_
  rw [isDecimalDigit_of_isSeparator hs] at h
  cases h

/-! ## Taking digits -/

section

variable {ds rest : List Char} {s : Char} {n : Nat}

theorem takeDigits_append (hds : ∀ c ∈ ds, Text.isDecimalDigit c = true) (hlength : ds.length ≤ n)
    (hend : ds.length < n → ∀ c ∈ rest.head?, Text.isDecimalDigit c = false) :
    takeDigits n (ds ++ rest) = (ds, rest) := by
  rw [takeDigits, takeWhile_take_append hds hlength hend, List.drop_left]

theorem takeSeparated?_cons_of_not_digit {c : Char} (h : Text.isDecimalDigit c = false)
    (cs : List Char) : takeSeparated? (c :: cs) = none := by
  have htake : takeDigits 2 (c :: cs) = ([], c :: cs) := by simp [takeDigits, h]
  simp [takeSeparated?, htake]

theorem takeSeparated?_of_forall (h : ∀ c ∈ rest, isSeparator c = false) :
    takeSeparated? rest = none := by
  unfold takeSeparated?
  split
  next ds back htake =>
    split
    · next c cs =>
      have hback : rest.drop ds.length = c :: cs := by
        rw [takeDigits] at htake
        simp only [Prod.mk.injEq] at htake
        rw [← htake.1]
        exact htake.2
      have hc : c ∈ rest := List.mem_of_mem_drop (hback ▸ List.mem_cons_self)
      simp [h c hc]
    · rfl

theorem takeSeparated?_append (hds : ∀ c ∈ ds, Text.isDecimalDigit c = true) (hne : ds ≠ [])
    (hs : isSeparator s = true) :
    takeSeparated? (ds ++ s :: rest) = if ds.length ≤ 2 then some (ds, rest) else none := by
  by_cases hlength : ds.length ≤ 2
  · have hend := forall_mem_head?_cons (isDecimalDigit_of_isSeparator hs) rest
    have htake := takeDigits_append hds hlength fun _ => hend
    simp [takeSeparated?, htake, hs, hlength, hne]
  · -- Two digits are taken, and a digit follows them.
    match ds, hds, hlength with
    | a :: b :: c :: cs, hds, hlength =>
      simp only [List.forall_mem_cons] at hds
      have htake : takeDigits 2 (a :: b :: c :: cs ++ s :: rest) =
          ([a, b], c :: cs ++ s :: rest) := by
        simp [takeDigits, hds.1, hds.2.1]
      rw [takeSeparated?, htake, if_neg hlength]
      simp [isSeparator_of_isDecimalDigit hds.2.2.1]
    | [], _, hlength | [_], _, hlength | [_, _], _, hlength => simp at hlength

end

/-! ## Searching -/

theorem search?_append {α : Type} {matcher : List Char → Option α} {front back : List Char}
    (h : ∀ t, t <:+ front → t ≠ [] → matcher (t ++ back) = none) :
    search? matcher (front ++ back) = search? matcher back := by
  induction front with
  | nil => rfl
  | cons c cs ih =>
    have hnone : matcher (c :: cs ++ back) = none :=
      h (c :: cs) (List.suffix_refl _) (List.cons_ne_nil c cs)
    rw [List.cons_append] at hnone ⊢
    rw [search?, hnone]
    exact ih fun t ht => h t (ht.trans (List.suffix_cons c cs))

theorem search?_cons_of_eq_none {α : Type} {matcher : List Char → Option α} {c : Char}
    {cs : List Char} (h : matcher (c :: cs) = none) :
    search? matcher (c :: cs) = search? matcher cs := by
  rw [search?, h]

theorem search?_of_eq_some {α : Type} {matcher : List Char → Option α} {cs : List Char} {a : α}
    (h : matcher cs = some a) : search? matcher cs = some a := by
  cases cs with
  | nil => exact h
  | cons c cs => rw [search?, h]

theorem search?_eq_none {α : Type} {matcher : List Char → Option α} {cs : List Char}
    (h : ∀ t, t <:+ cs → matcher t = none) : search? matcher cs = none := by
  induction cs with
  | nil => exact h [] (List.suffix_refl _)
  | cons c cs ih =>
    rw [search?_cons_of_eq_none (h _ (List.suffix_refl _))]
    exact ih fun t ht => h t (ht.trans (List.suffix_cons c cs))

theorem dayMonth?_of_takeSeparated?_eq_none {cs : List Char} (h : takeSeparated? cs = none) :
    dayMonth? cs = none := by
  rw [dayMonth?, h]
  rfl

theorem dayMonthYear?_of_takeSeparated?_eq_none {cs : List Char} (h : takeSeparated? cs = none) :
    dayMonthYear? cs = none := by
  rw [dayMonthYear?, h]
  rfl

/-- No day is found in a text without separators. -/
theorem search?_of_forall {cs : List Char} (h : ∀ c ∈ cs, isSeparator c = false) :
    search? dayMonthYear? cs = none ∧ search? dayMonth? cs = none := by
  have hnone (t : List Char) (ht : t <:+ cs) : takeSeparated? t = none :=
    takeSeparated?_of_forall fun c hc => h c (ht.subset hc)
  exact ⟨search?_eq_none fun t ht => dayMonthYear?_of_takeSeparated?_eq_none (hnone t ht),
    search?_eq_none fun t ht => dayMonth?_of_takeSeparated?_eq_none (hnone t ht)⟩

/-! ## Rows of digits with separators between them -/

section

variable {ds ms ys rest : List Char} {s s' : Char}

theorem isDecimalDigit_of_suffix (hds : IsDigitRow ds) {t : List Char} (ht : t <:+ ds) :
    ∀ c ∈ t, Text.isDecimalDigit c = true :=
  fun c hc => isDecimalDigit_of_isAsciiDigit (hds.isAsciiDigit c (ht.subset hc))

theorem isSeparator_of_suffix (hds : IsDigitRow ds) {t : List Char} (ht : t <:+ ds) :
    ∀ c ∈ t, isSeparator c = false :=
  fun c hc => isSeparator_of_isDecimalDigit (isDecimalDigit_of_suffix hds ht c hc)

theorem takeSeparated?_row (hds : IsDigitRow ds) (hdlength : ds.length ≤ 2)
    (hs : isSeparator s = true) : takeSeparated? (ds ++ s :: rest) = some (ds, rest) := by
  rw [takeSeparated?_append (isDecimalDigit_of_suffix hds (List.suffix_refl _)) hds.ne_nil hs,
    if_pos hdlength]

theorem dayMonth?_rows (hds : IsDigitRow ds) (hdlength : ds.length ≤ 2) (hms : IsDigitRow ms)
    (hmlength : ms.length ≤ 2) (hs : isSeparator s = true)
    (hend : ∀ c ∈ rest.head?, Text.isDecimalDigit c = false) :
    dayMonth? (ds ++ s :: (ms ++ rest)) = some (ds, ms) := by
  have htake := takeDigits_append (isDecimalDigit_of_suffix hms (List.suffix_refl _)) hmlength
    fun _ => hend
  rw [dayMonth?, takeSeparated?_row hds hdlength hs]
  simp [htake, hms.ne_nil]

theorem dayMonthYear?_rows (hds : IsDigitRow ds) (hdlength : ds.length ≤ 2) (hms : IsDigitRow ms)
    (hmlength : ms.length ≤ 2) (hys : IsDigitRow ys) (hylength : ys.length = 4)
    (hs : isSeparator s = true) (hs' : isSeparator s' = true) :
    dayMonthYear? (ds ++ s :: (ms ++ s' :: (ys ++ rest))) = some (ds, ms, ys) := by
  have htake : takeDigits 4 (ys ++ rest) = (ys, rest) :=
    takeDigits_append (isDecimalDigit_of_suffix hys (List.suffix_refl _)) (Nat.le_of_eq hylength)
      fun h => absurd hylength (Nat.ne_of_lt h)
  rw [dayMonthYear?, takeSeparated?_row hds hdlength hs]
  show ((takeSeparated? (ms ++ s' :: (ys ++ rest))).bind _) = _
  rw [takeSeparated?_row hms hmlength hs']
  simp [htake, hylength]

/-- Nothing is found in a front without digits. -/
theorem search?_dayMonthYear?_rows {front : List Char}
    (hfront : ∀ c ∈ front, Text.isDecimalDigit c = false) (hds : IsDigitRow ds)
    (hdlength : ds.length ≤ 2) (hms : IsDigitRow ms) (hmlength : ms.length ≤ 2)
    (hys : IsDigitRow ys) (hylength : ys.length = 4) (hs : isSeparator s = true)
    (hs' : isSeparator s' = true) :
    search? dayMonthYear? (front ++ (ds ++ s :: (ms ++ s' :: (ys ++ rest)))) =
      some (ds, ms, ys) := by
  have hnone (t : List Char) (ht : t <:+ front) (hne : t ≠ []) :
      dayMonthYear? (t ++ (ds ++ s :: (ms ++ s' :: (ys ++ rest)))) = none := by
    obtain ⟨c, cs, rfl⟩ := List.exists_cons_of_ne_nil hne
    have hc := hfront c (ht.subset List.mem_cons_self)
    exact dayMonthYear?_of_takeSeparated?_eq_none (takeSeparated?_cons_of_not_digit hc _)
  rw [search?_append hnone]
  exact search?_of_eq_some (dayMonthYear?_rows hds hdlength hms hmlength hys hylength hs hs')

/-- With one separator there is no year. -/
theorem search?_dayMonthYear?_two_rows (hds : IsDigitRow ds) (hms : IsDigitRow ms)
    (hs : isSeparator s = true) : search? dayMonthYear? (ds ++ s :: ms) = none := by
  have hfront (t : List Char) (ht : t <:+ ds) (hne : t ≠ []) :
      dayMonthYear? (t ++ s :: ms) = none := by
    rw [dayMonthYear?, takeSeparated?_append (isDecimalDigit_of_suffix hds ht) hne hs]
    split
    · show (takeSeparated? ms).bind _ = none
      rw [takeSeparated?_of_forall (isSeparator_of_suffix hms (List.suffix_refl _))]
      rfl
    · rfl
  have hseparator := takeSeparated?_cons_of_not_digit (isDecimalDigit_of_isSeparator hs) ms
  rw [search?_append hfront,
    search?_cons_of_eq_none (dayMonthYear?_of_takeSeparated?_eq_none hseparator)]
  exact (search?_of_forall (isSeparator_of_suffix hms (List.suffix_refl _))).1

/-- The third row is no year if it is too short for one. -/
theorem search?_dayMonthYear?_three_rows (hys : IsDigitRow ys) (hms : IsDigitRow ms)
    (hds : IsDigitRow ds) (hdlength : ds.length < 4) (hs : isSeparator s = true)
    (hs' : isSeparator s' = true) :
    search? dayMonthYear? (ys ++ s :: (ms ++ s' :: ds)) = none := by
  have htake : (takeDigits 4 ds).1.length ≠ 4 := by
    have hdigits := isDecimalDigit_of_suffix hds (List.suffix_refl _)
    have hrow : takeDigits 4 (ds ++ []) = (ds, []) :=
      takeDigits_append hdigits (by omega) fun _ => nofun
    rw [List.append_nil] at hrow
    rw [hrow]
    exact Nat.ne_of_lt hdlength
  have hfront (t : List Char) (ht : t <:+ ys) (hne : t ≠ []) :
      dayMonthYear? (t ++ s :: (ms ++ s' :: ds)) = none := by
    rw [dayMonthYear?, takeSeparated?_append (isDecimalDigit_of_suffix hys ht) hne hs]
    split
    · show (takeSeparated? (ms ++ s' :: ds)).bind _ = none
      rw [takeSeparated?_append (isDecimalDigit_of_suffix hms (List.suffix_refl _)) hms.ne_nil hs']
      split
      · simp [htake]
      · rfl
    · rfl
  have hseparator :=
    takeSeparated?_cons_of_not_digit (isDecimalDigit_of_isSeparator hs) (ms ++ s' :: ds)
  rw [search?_append hfront,
    search?_cons_of_eq_none (dayMonthYear?_of_takeSeparated?_eq_none hseparator)]
  exact search?_dayMonthYear?_two_rows hms hds hs'

/-- A search for a day and a month takes the last two digits of a longer row for the day. -/
theorem search?_dayMonth?_long_row (hys : IsDigitRow ys) (hylength : 2 ≤ ys.length)
    (hms : IsDigitRow ms) (hmlength : ms.length ≤ 2) (hs : isSeparator s = true)
    (hend : ∀ c ∈ rest.head?, Text.isDecimalDigit c = false) :
    search? dayMonth? (ys ++ s :: (ms ++ rest)) = some (ys.drop (ys.length - 2), ms) := by
  have hlast : (ys.drop (ys.length - 2)).length = 2 := by
    rw [List.length_drop]
    omega
  have hrow : IsDigitRow (ys.drop (ys.length - 2)) := hys.drop (by omega)
  have hfront (t : List Char) (ht : t <:+ ys.take (ys.length - 2)) (hne : t ≠ []) :
      dayMonth? (t ++ (ys.drop (ys.length - 2) ++ s :: (ms ++ rest))) = none := by
    have hlong : ¬(t ++ ys.drop (ys.length - 2)).length ≤ 2 := by
      have := List.length_pos_iff.mpr hne
      rw [List.length_append, hlast]
      omega
    have hdigits : ∀ c ∈ t ++ ys.drop (ys.length - 2), Text.isDecimalDigit c = true := by
      intro c hc
      refine isDecimalDigit_of_suffix hys (List.suffix_refl _) c ?_
      rcases List.mem_append.mp hc with hc | hc
      · exact List.mem_of_mem_take (ht.subset hc)
      · exact List.mem_of_mem_drop hc
    refine dayMonth?_of_takeSeparated?_eq_none ?_
    rw [← List.append_assoc, takeSeparated?_append hdigits (by simp [hne]) hs, if_neg hlong]
  have hsplit : ys ++ s :: (ms ++ rest) =
      ys.take (ys.length - 2) ++ (ys.drop (ys.length - 2) ++ s :: (ms ++ rest)) := by
    rw [← List.append_assoc, List.take_append_drop]
  rw [hsplit, search?_append hfront]
  exact search?_of_eq_some (dayMonth?_rows hrow (Nat.le_of_eq hlast) hms hmlength hs hend)

end

/-! ## The date of a day and a month -/

theorem date?_of_isDigitRow (y : Int) {ms ds : List Char} (hms : IsDigitRow ms)
    (hds : IsDigitRow ds) : date? y ms ds = Date.ofYmd? y (digitsValue ms) (digitsValue ds) := by
  rw [date?, readNat?_of_isDigitRow hms, readNat?_of_isDigitRow hds]
  rfl

end DayMonth
end TrackSearch
