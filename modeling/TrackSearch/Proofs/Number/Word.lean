/-
64-bit words: the integers that fit one, and what becomes of the others.
-/
import TrackSearch.Number.Integer

namespace TrackSearch
namespace Number

/-- Whether an integer is in the range of the 64-bit words. -/
def FitsWord (n : Int) : Prop :=
  -9223372036854775808 ≤ n ∧ n ≤ 9223372036854775807

theorem fitsWord_toInt (w : Int64) : FitsWord w.toInt :=
  ⟨w.minValue_le_toInt, w.toInt_le⟩

theorem word?_eq_some_iff {n : Int} {w : Int64} : word? n = some w ↔ w.toInt = n :=
  ⟨toInt_of_word?, fun h => h ▸ word?_toInt w⟩

theorem exists_word?_of_fitsWord {n : Int} (h : FitsWord n) :
    ∃ w, word? n = some w ∧ w.toInt = n := by
  have hword : word? n = some (Int64.ofInt n) := if_pos h
  exact ⟨_, hword, toInt_of_word? hword⟩

theorem word?_eq_none_of_not_fitsWord {n : Int} (h : ¬FitsWord n) : word? n = none :=
  if_neg h

/-- The word nearest to an integer is the integer itself, or the bound that it is beyond. -/
theorem toInt_clamp (n : Int) :
    (clamp n).toInt = max (-9223372036854775808) (min n 9223372036854775807) := by
  have hmin : Int64.minValue.toInt = -9223372036854775808 := rfl
  have hmax : Int64.maxValue.toInt = 9223372036854775807 := rfl
  unfold clamp Int64.ofIntClamp
  split
  · split
    · rw [Int64.toInt_ofIntLE]
      omega
    · omega
  · omega

theorem toInt_clamp_of_fitsWord {n : Int} (h : FitsWord n) : (clamp n).toInt = n := by
  obtain ⟨hlow, hhigh⟩ := h
  rw [toInt_clamp]
  omega

end Number
end TrackSearch
