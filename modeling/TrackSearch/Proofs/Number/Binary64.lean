/-
Binary floating point numbers as rational numbers.

`wholeScaled_eq_floor` ties the whole part, which is found by shifting the mantissa, to the number
itself, and `toInt_truncScaled` the word that is left when the fraction is cut off.
-/
import Mathlib.Algebra.Order.Field.Power
import Mathlib.Algebra.Order.Floor.Semifield
import Mathlib.Data.Rat.Floor
import TrackSearch.Number.Binary64
import TrackSearch.Proofs.Number.Word

namespace TrackSearch
namespace Number

/-! ## The number itself -/

namespace Binary64

def toRat (x : Binary64) : ℚ :=
  (if x.negative then -1 else 1) * (x.mantissa * 2 ^ x.exponent)

theorem abs_toRat (x : Binary64) : |x.toRat| = x.mantissa * 2 ^ x.exponent := by
  have hnonneg : (0 : ℚ) ≤ x.mantissa * 2 ^ x.exponent := by positivity
  rw [toRat, abs_mul, abs_of_nonneg hnonneg]
  cases x.negative <;> simp

theorem wholeScaled_eq_floor (x : Binary64) (k : Nat) :
    x.wholeScaled k = ⌊|x.toRat| * 2 ^ k⌋₊ := by
  have hscaled : |x.toRat| * 2 ^ k = x.mantissa * 2 ^ (x.exponent + k) := by
    rw [abs_toRat, mul_assoc, zpow_add₀ two_ne_zero, zpow_natCast]
  rw [hscaled, wholeScaled]
  by_cases he : 0 ≤ x.exponent + k
  · obtain ⟨n, hn⟩ := Int.eq_ofNat_of_zero_le he
    have hcast : (x.mantissa : ℚ) * 2 ^ (n : Int) = ((x.mantissa * 2 ^ n : Nat) : ℚ) := by
      push_cast
      rw [zpow_natCast]
    rw [if_pos he, hn, hcast, Nat.floor_natCast, Int.toNat_natCast, Nat.shiftLeft_eq]
  · obtain ⟨n, hn⟩ := Int.eq_ofNat_of_zero_le (a := -(x.exponent + k)) (by omega)
    have hneg : x.exponent + k = -(n : Int) := by omega
    have hcast : (x.mantissa : ℚ) * 2 ^ (-(n : Int)) = x.mantissa / ((2 ^ n : Nat) : ℚ) := by
      push_cast
      rw [zpow_neg, zpow_natCast, div_eq_mul_inv]
    rw [if_neg he, hn, hneg, hcast, Nat.floor_div_eq_div, Int.toNat_natCast,
      Nat.shiftRight_eq_div_pow]

/-- A number without its fraction. -/
def wholePart (q : ℚ) : Int :=
  if q < 0 then ⌈q⌉ else ⌊q⌋

theorem wholePart_of_nonneg {q : ℚ} (h : 0 ≤ q) : wholePart q = ⌊q⌋₊ := by
  rw [wholePart, if_neg (not_lt.mpr h), Int.natCast_floor_eq_floor h]

theorem wholePart_neg {q : ℚ} (h : 0 ≤ q) : wholePart (-q) = -(⌊q⌋₊ : Int) := by
  rcases h.eq_or_lt with rfl | hpos
  · simp [wholePart]
  · rw [wholePart, if_pos (neg_neg_of_pos hpos), Int.ceil_neg, Int.natCast_floor_eq_floor h]

/-- The number is scaled without rounding, and its fraction is cut off toward zero. -/
theorem toInt_truncScaled (x : Binary64) (k : Nat) :
    (x.truncScaled k).toInt =
      max (-9223372036854775808) (min (wholePart (x.toRat * 2 ^ k)) 9223372036854775807) := by
  have hnonneg : (0 : ℚ) ≤ |x.toRat| * 2 ^ k := by positivity
  have hwhole : wholePart (x.toRat * 2 ^ k) =
      if x.negative then -(x.wholeScaled k : Int) else x.wholeScaled k := by
    rw [wholeScaled_eq_floor]
    cases hsign : x.negative with
    | false =>
      have habs : x.toRat = |x.toRat| := by
        rw [abs_toRat, toRat, hsign, if_neg Bool.false_ne_true, one_mul]
      rw [if_neg Bool.false_ne_true, ← wholePart_of_nonneg hnonneg, ← habs]
    | true =>
      have habs : x.toRat * 2 ^ k = -(|x.toRat| * 2 ^ k) := by
        rw [abs_toRat, toRat, hsign, if_pos rfl, neg_one_mul, neg_mul]
      rw [if_pos rfl, habs, wholePart_neg hnonneg]
  rw [hwhole, truncScaled, toInt_clamp]

end Binary64

end Number
end TrackSearch
