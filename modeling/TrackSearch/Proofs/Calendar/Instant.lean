/-
Points in time and their seconds.

A point in time and its seconds determine each other (`ofSeconds?_eq_some_iff`), and the seconds fit
a 64-bit word with a day to spare on either side (`toInt_clamp_seconds_add`).
-/
import TrackSearch.Calendar.Instant
import TrackSearch.Proofs.Calendar.DayNumber
import TrackSearch.Proofs.Number.Digits
import TrackSearch.Proofs.Number.Word

namespace TrackSearch
namespace Calendar
namespace Instant

theorem seconds_midnight (d : Date) : (midnight d).seconds = d.dayNumber * 86400 := by
  show d.dayNumber * 86400 + 0 = _
  rw [Int.add_zero]

theorem ofSeconds?_seconds (t : Instant) : ofSeconds? t.seconds = some t := by
  have hlt := t.secondOfDay.isLt
  have hday : t.seconds / 86400 = t.date.dayNumber := by
    unfold seconds
    omega
  have hsecond : (t.seconds % 86400).toNat = t.secondOfDay := by
    unfold seconds
    omega
  unfold ofSeconds?
  rw [hday, Date.ofDayNumber?_dayNumber]
  show some (⟨t.date, ⟨(t.seconds % 86400).toNat, _⟩⟩ : Instant) = some t
  congr 2
  exact Fin.ext hsecond

theorem ofSeconds?_eq_some_iff {n : Int} {t : Instant} :
    ofSeconds? n = some t ↔ t.seconds = n := by
  constructor
  · intro h
    obtain ⟨d, hd, rfl⟩ := Option.map_eq_some_iff.mp h
    have hday := Date.ofDayNumber?_eq_some_iff.mp hd
    show d.dayNumber * 86400 + ((n % 86400).toNat : Int) = n
    omega
  · rintro rfl
    exact t.ofSeconds?_seconds

theorem seconds_bounds (t : Instant) : -8334601228800 ≤ t.seconds ∧ t.seconds < 8210266876800 := by
  obtain ⟨hlow, hhigh⟩ := t.date.dayNumber_bounds
  have hfirst := daysBeforeYear_mono t.date.isDate.1
  have hlast := daysBeforeYear_mono (Int.add_le_add_right t.date.isDate.2.1 1)
  have hlt := t.secondOfDay.isLt
  have hstart : daysBeforeYear firstYear = -95746130 := rfl
  have hend : daysBeforeYear (lastYear + 1) = 95745399 := rfl
  have hepoch : daysBeforeYear 1970 = 719162 := rfl
  unfold seconds
  omega

theorem toInt_clamp_seconds_add (t : Instant) {k : Int} (hlow : -86400 ≤ k) (hhigh : k ≤ 86400) :
    (Number.clamp (t.seconds + k)).toInt = t.seconds + k := by
  obtain ⟨hfirst, hlast⟩ := t.seconds_bounds
  exact Number.toInt_clamp_of_fitsWord ⟨by omega, by omega⟩

theorem toInt_clamp_seconds (t : Instant) : (Number.clamp t.seconds).toInt = t.seconds := by
  have h := t.toInt_clamp_seconds_add (k := 0) (by omega) (by omega)
  rwa [Int.add_zero] at h

/-! ## Going back -/

theorem minusSeconds?_zero (t : Instant) : t.minusSeconds? 0 = some t := by
  rw [minusSeconds?, Int.sub_zero, ofSeconds?_seconds]

theorem minusMonths?_zero (t : Instant) : t.minusMonths? 0 = some t := by
  rw [minusMonths?, Date.minusMonths?_zero]
  rfl

theorem seconds_minusSeconds? {t u : Instant} {k : Int} (h : t.minusSeconds? k = some u) :
    u.seconds = t.seconds - k :=
  ofSeconds?_eq_some_iff.mp h

theorem seconds_minusMonths?_le {t u : Instant} {k : Nat} (h : t.minusMonths? k = some u) :
    u.seconds ≤ t.seconds := by
  obtain ⟨d, hd, rfl⟩ := Option.map_eq_some_iff.mp h
  have hday := Date.dayNumber_minusMonths?_le hd
  unfold seconds
  dsimp only
  omega

/-! ## Numbers with zeros in front -/

open Number

theorem toList_padded (width n : Nat) :
    (padded width n).toList =
      List.replicate (width - (Nat.toDigits 10 n).length) '0' ++ Nat.toDigits 10 n :=
  String.toList_ofList

theorem isDigitRow_padded (width n : Nat) : IsDigitRow (padded width n).toList := by
  rw [toList_padded]
  exact (isDigitRow_toDigits n).zeros_append _

theorem digitsValue_padded (width n : Nat) : digitsValue (padded width n).toList = n := by
  rw [toList_padded, digitsValue_zeros_append, digitsValue_toDigits]

theorem length_padded {width n : Nat} (h : (Nat.toDigits 10 n).length ≤ width) :
    (padded width n).toList.length = width := by
  rw [toList_padded, List.length_append, List.length_replicate]
  omega

theorem length_padded_of_lt {width n : Nat} (hwidth : 0 < width) (h : n < Nat.pow 10 width) :
    (padded width n).toList.length = width :=
  length_padded ((Nat.length_toDigits_le_iff (by omega) hwidth).mpr h)

end Instant

end Calendar
end TrackSearch
