/-
Letters in lower case.  Beyond ASCII only two characters have an ASCII character in their lower
case, the I with a dot and the Kelvin sign, and both are letters.
-/
import TrackSearch.Text.Alphabetic
import TrackSearch.Text.LetterCase

namespace TrackSearch
namespace Text

theorem CaseRun.image?_eq_some_iff {r : CaseRun} {n m : Nat} :
    r.image? n = some m ↔
      (r.first ≤ n ∧ n ≤ r.last ∧ (n - r.first) % r.step = 0) ∧ (n + r.shift).toNat = m := by
  rw [image?, Option.ite_none_right_eq_some, Option.some.injEq]

/-- The small letters of capitals beyond ASCII are beyond ASCII, except for the Kelvin sign. -/
theorem le_imageUnder_lowerRuns {n : Nat} (hn : 0x80 ≤ n) (hkelvin : n ≠ 0x212A) :
    0x80 ≤ imageUnder lowerRuns n := by
  have hruns : ∀ r ∈ lowerRuns,
      0x80 ≤ (r.first : Int) + r.shift ∨ r.first = 0x212A ∧ r.last = 0x212A := by
    decide +kernel
  unfold imageUnder
  cases h : lowerRuns.findSome? (·.image? n) with
  | none => exact hn
  | some m =>
    obtain ⟨r, hr, himage⟩ := List.exists_of_findSome?_eq_some h
    obtain ⟨⟨hfirst, hlast, -⟩, rfl⟩ := CaseRun.image?_eq_some_iff.mp himage
    show 0x80 ≤ (n + r.shift).toNat
    rcases hruns r hr with hbeyond | ⟨hstart, hend⟩
    · omega
    · omega

theorem toNat_ofNat (n : Nat) : (Char.ofNat n).toNat = n ∨ (Char.ofNat n).toNat = 0 := by
  by_cases h : n.isValidChar
  · left
    rw [Char.ofNat, dif_pos h]
    rfl
  · right
    rw [Char.ofNat, dif_neg h]
    rfl

/-- A character with a small ASCII letter in its lower case is a letter. -/
theorem isAlphabetic_of_mem_lowerChar {c d : Char} (hd : d ∈ lowerChar c) (hlow : 0x61 ≤ d.toNat)
    (hhigh : d.toNat ≤ 0x7A) : isAlphabetic c = true := by
  by_cases hascii : c.toNat < 0x80
  · have hletters : ∀ n < 0x80, 0x61 ≤ (Char.ofNat n).toLower.toNat →
        (Char.ofNat n).toLower.toNat ≤ 0x7A → isAlphabetic (Char.ofNat n) = true := by
      decide +kernel
    have hc := hletters c.toNat hascii
    rw [Char.ofNat_toNat] at hc
    rw [lowerChar, if_pos hascii, List.mem_singleton] at hd
    rw [hd] at hlow hhigh
    exact hc hlow hhigh
  · by_cases hdotted : c.toNat = 0x130
    · rw [← Char.ofNat_toNat c, hdotted]
      decide +kernel
    · by_cases hkelvin : c.toNat = 0x212A
      · rw [← Char.ofNat_toNat c, hkelvin]
        decide +kernel
      · rw [lowerChar, if_neg hascii, if_neg hdotted, List.mem_singleton] at hd
        have himage := le_imageUnder_lowerRuns (by omega) hkelvin
        rw [hd] at hlow hhigh
        rcases toNat_ofNat (imageUnder lowerRuns c.toNat) with hcode | hcode <;> omega

/-- A text whose lower case starts with a small ASCII letter starts with a letter. -/
theorem exists_alphabetic_of_lower {text : String} {d : Char} {ds : List Char}
    (h : (lower text).toList = d :: ds) (hlow : 0x61 ≤ d.toNat) (hhigh : d.toNat ≤ 0x7A) :
    ∃ c cs, text.toList = c :: cs ∧ isAlphabetic c = true := by
  rw [lower, String.toList_ofList] at h
  cases htext : text.toList with
  | nil =>
    rw [htext] at h
    cases h
  | cons c cs =>
    rw [htext, List.flatMap_cons] at h
    have hne : lowerChar c ≠ [] := by
      unfold lowerChar
      split
      · exact List.cons_ne_nil _ _
      · split <;> exact List.cons_ne_nil _ _
    obtain ⟨e, es, he⟩ := List.exists_cons_of_ne_nil hne
    rw [he, List.cons_append] at h
    obtain ⟨rfl, -⟩ := List.cons.inj h
    exact ⟨c, cs, rfl, isAlphabetic_of_mem_lowerChar (he ▸ List.mem_cons_self) hlow hhigh⟩

end Text
end TrackSearch
