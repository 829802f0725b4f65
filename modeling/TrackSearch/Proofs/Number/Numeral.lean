/-
Integers as they are typed.

`IsNumeral` is the grammar of integers, apart from how they are read: ASCII digits with at most one
sign in front of them.  A text denotes an integer if it is such a numeral with white space around
it.  `readWord?_trim_eq_some_iff` says that reading a text gives the integer that it denotes, if that
fits a 64-bit word.
-/
import TrackSearch.Proofs.Number.Digits
import TrackSearch.Proofs.Number.Word
import TrackSearch.Proofs.Text.Trim

namespace TrackSearch
namespace Number

/-! ## Numerals -/

inductive IsNumeral : List Char → Int → Prop
  | unsigned {ds : List Char} (h : IsDigitRow ds) : IsNumeral ds (digitsValue ds)
  | plus {ds : List Char} (h : IsDigitRow ds) : IsNumeral ('+' :: ds) (digitsValue ds)
  | minus {ds : List Char} (h : IsDigitRow ds) : IsNumeral ('-' :: ds) (-(digitsValue ds : Int))

theorem readNat?_eq_some_iff {ds : List Char} {n : Nat} :
    readNat? ds = some n ↔ IsDigitRow ds ∧ digitsValue ds = n := by
  constructor
  · intro h
    unfold readNat? at h
    split at h
    · next hds =>
      exact ⟨⟨by simpa using hds.1, by simpa using hds.2⟩, Option.some.inj h⟩
    · cases h
  · rintro ⟨hds, rfl⟩
    exact readNat?_of_isDigitRow hds

/-- The texts that are read as an integer are its numerals. -/
theorem readInt?_eq_some_iff {cs : List Char} {n : Int} :
    readInt? cs = some n ↔ IsNumeral cs n := by
  constructor
  · intro h
    rw [readInt?.eq_def] at h
    split at h
    · next ds =>
      obtain ⟨k, hk, rfl⟩ := Option.map_eq_some_iff.mp h
      obtain ⟨m, hm, hcast⟩ := Option.bind_eq_some_iff.mp hk
      obtain ⟨hds, rfl⟩ := readNat?_eq_some_iff.mp hm
      obtain rfl := Option.some.inj hcast
      exact .minus hds
    · next ds =>
      obtain ⟨m, hm, rfl⟩ := Option.map_eq_some_iff.mp h
      obtain ⟨hds, rfl⟩ := readNat?_eq_some_iff.mp hm
      exact .plus hds
    · obtain ⟨m, hm, rfl⟩ := Option.map_eq_some_iff.mp h
      obtain ⟨hds, rfl⟩ := readNat?_eq_some_iff.mp hm
      exact .unsigned hds
  · intro h
    cases h with
    | unsigned hds => exact hds.readInt?_eq
    | plus hds =>
      rw [readInt?, readNat?_of_isDigitRow hds]
      rfl
    | minus hds =>
      rw [readInt?, readNat?_of_isDigitRow hds]
      rfl

theorem isNumeral_writeInt (n : Int) : IsNumeral (writeInt n).toList n :=
  readInt?_eq_some_iff.mp (readInt?_writeInt n)

namespace IsNumeral

variable {cs : List Char} {n : Int}

theorem ne_nil (h : IsNumeral cs n) : cs ≠ [] := by
  cases h with
  | unsigned hds => exact hds.ne_nil
  | plus hds => exact List.cons_ne_nil _ _
  | minus hds => exact List.cons_ne_nil _ _

theorem isBlank_eq_false (h : IsNumeral cs n) : ∀ c ∈ cs, Text.isBlank c = false := by
  have hdigits {ds : List Char} (hds : IsDigitRow ds) : ∀ c ∈ ds, Text.isBlank c = false :=
    fun c hc => isBlank_of_isAsciiDigit (hds.isAsciiDigit c hc)
  cases h with
  | unsigned hds => exact hdigits hds
  | plus hds => exact List.forall_mem_cons.mpr ⟨by decide, hdigits hds⟩
  | minus hds => exact List.forall_mem_cons.mpr ⟨by decide, hdigits hds⟩

end IsNumeral

/-! ## Texts with white space around a numeral -/

def Denotes (text : String) (n : Int) : Prop :=
  ∃ front numeral back, text.toList = front ++ numeral ++ back ∧
    (∀ c ∈ front, Text.isBlank c = true) ∧ (∀ c ∈ back, Text.isBlank c = true) ∧
    IsNumeral numeral n

theorem readInt?_trim_eq_some_iff {text : String} {n : Int} :
    readInt? (Text.trim text.toList) = some n ↔ Denotes text n := by
  rw [readInt?_eq_some_iff]
  constructor
  · intro h
    obtain ⟨front, back, htext, hfront, hback⟩ := Text.exists_eq_append_trim text.toList
    exact ⟨front, _, back, htext, hfront, hback, h⟩
  · rintro ⟨front, numeral, back, htext, hfront, hback, h⟩
    rwa [htext, Text.trim_append hfront hback h.ne_nil h.isBlank_eq_false]

/-- A text denotes one integer at most. -/
theorem Denotes.unique {text : String} {m n : Int} (hm : Denotes text m) (hn : Denotes text n) :
    m = n :=
  Option.some.inj ((readInt?_trim_eq_some_iff.mpr hm).symm.trans (readInt?_trim_eq_some_iff.mpr hn))

/-- What is read from a text is the word that it denotes. -/
theorem readWord?_trim_eq_some_iff {text : String} {w : Int64} :
    readWord? (Text.trim text.toList) = some w ↔ Denotes text w.toInt := by
  rw [readWord?, Option.bind_eq_some_iff]
  simp only [word?_eq_some_iff, readInt?_trim_eq_some_iff]
  exact ⟨fun ⟨n, hn, hw⟩ => hw ▸ hn, fun h => ⟨_, h, rfl⟩⟩

end Number
end TrackSearch
