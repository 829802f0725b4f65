/-
Rows of decimal digits.  The digits of a number denote it, also with zeros in front of them.
-/
import TrackSearch.Number.Integer
import TrackSearch.Text.Blank

namespace TrackSearch
namespace Number

theorem isAsciiDigit_iff {c : Char} :
    isAsciiDigit c = true ↔ 48 ≤ c.toNat ∧ c.toNat ≤ 57 := by
  unfold isAsciiDigit
  rw [Bool.and_eq_true, decide_eq_true_eq, decide_eq_true_eq]
  rfl

theorem isBlank_of_isAsciiDigit {c : Char} (h : isAsciiDigit c = true) :
    Text.isBlank c = false := by
  have hrange := isAsciiDigit_iff.mp h
  refine Bool.eq_false_iff.mpr fun hblank => ?_
  have := Text.isBlank_iff.mp hblank
  omega

/-- A row of ASCII digits, one at least. -/
structure IsDigitRow (ds : List Char) : Prop where
  ne_nil : ds ≠ []
  isAsciiDigit : ∀ c ∈ ds, isAsciiDigit c = true

namespace IsDigitRow

variable {ds : List Char} {n : Nat}

theorem take (h : IsDigitRow ds) (hn : 0 < n) : IsDigitRow (ds.take n) where
  ne_nil := by
    have hlength := List.length_pos_iff.mpr h.ne_nil
    refine List.ne_nil_of_length_pos ?_
    rw [List.length_take]
    omega
  isAsciiDigit c hc := h.isAsciiDigit c (List.mem_of_mem_take hc)

theorem drop (h : IsDigitRow ds) (hn : n < ds.length) : IsDigitRow (ds.drop n) where
  ne_nil := by
    refine List.ne_nil_of_length_pos ?_
    rw [List.length_drop]
    omega
  isAsciiDigit c hc := h.isAsciiDigit c (List.mem_of_mem_drop hc)

end IsDigitRow

theorem isDigitRow_toDigits (n : Nat) : IsDigitRow (Nat.toDigits 10 n) where
  ne_nil := List.ne_nil_of_length_pos Nat.length_toDigits_pos
  isAsciiDigit c hc := by
    have hdigit := Nat.isDigit_of_mem_toDigits (by omega) (by omega) hc
    simp only [Char.isDigit, Bool.and_eq_true, decide_eq_true_eq] at hdigit
    exact isAsciiDigit_iff.mpr hdigit

theorem digitsValue_toDigits (n : Nat) : digitsValue (Nat.toDigits 10 n) = n :=
  Nat.ofDigitChars_toDigits (by omega) (by omega)

theorem readNat?_of_isDigitRow {ds : List Char} (h : IsDigitRow ds) :
    readNat? ds = some (digitsValue ds) :=
  if_pos ⟨by simpa using h.ne_nil, by simpa using h.isAsciiDigit⟩

/-- Digits alone are a natural number: the first of them is no sign. -/
theorem IsDigitRow.readInt?_eq {ds : List Char} (h : IsDigitRow ds) :
    readInt? ds = some (digitsValue ds : Int) := by
  rw [readInt?.eq_def]
  split
  · exact absurd (h.isAsciiDigit '-' List.mem_cons_self) (by decide)
  · exact absurd (h.isAsciiDigit '+' List.mem_cons_self) (by decide)
  · rw [readNat?_of_isDigitRow h]
    rfl

/-- An integer reads back from its written form. -/
theorem readInt?_writeInt (n : Int) : readInt? (writeInt n).toList = some n := by
  have hdigits := isDigitRow_toDigits n.natAbs
  rw [writeInt, String.toList_ofList]
  by_cases hn : n < 0
  · rw [if_pos hn, List.singleton_append, readInt?, readNat?_of_isDigitRow hdigits,
      digitsValue_toDigits]
    show some (-(n.natAbs : Int)) = some n
    congr 1
    omega
  · rw [if_neg hn, List.nil_append, hdigits.readInt?_eq, digitsValue_toDigits]
    congr 1
    omega

theorem writeInt_injective {m n : Int} (h : writeInt m = writeInt n) : m = n := by
  have hread := congrArg (fun s => readInt? s.toList) h
  simp only [readInt?_writeInt] at hread
  exact Option.some.inj hread

theorem mem_toList_writeInt {n : Int} {c : Char} (hc : c ∈ (writeInt n).toList) :
    c = '-' ∨ isAsciiDigit c = true := by
  rw [writeInt, String.toList_ofList] at hc
  rcases List.mem_append.mp hc with hc | hc
  · split at hc
    · exact Or.inl (List.mem_singleton.mp hc)
    · exact absurd hc List.not_mem_nil
  · exact Or.inr ((isDigitRow_toDigits n.natAbs).isAsciiDigit c hc)

theorem forall_mem_head?_cons {p : Char → Bool} {s : Char} (hs : p s = false) (rest : List Char) :
    ∀ c ∈ (s :: rest).head?, p c = false := by
  intro c hc
  obtain rfl : s = c := Option.some.inj hc
  exact hs

/-- A front that is shorter than it could be ends where its characters do. -/
theorem takeWhile_take_append {p : Char → Bool} {front rest : List Char} {n : Nat}
    (hfront : ∀ c ∈ front, p c = true) (hlength : front.length ≤ n)
    (hend : front.length < n → ∀ c ∈ rest.head?, p c = false) :
    ((front ++ rest).take n).takeWhile p = front := by
  have hrest : (rest.take (n - front.length)).takeWhile p = [] := by
    cases hk : n - front.length with
    | zero => rfl
    | succ k =>
      cases rest with
      | nil => rfl
      | cons c cs =>
        rw [List.take_succ_cons, List.takeWhile_cons, hend (by omega) c rfl]
        rfl
  rw [List.take_append, List.take_of_length_le hlength, List.takeWhile_append_of_pos hfront, hrest,
    List.append_nil]

/-! ## Zeros in front -/

theorem IsDigitRow.zeros_append {ds : List Char} (h : IsDigitRow ds) (k : Nat) :
    IsDigitRow (List.replicate k '0' ++ ds) where
  ne_nil := List.append_ne_nil_of_right_ne_nil _ h.ne_nil
  isAsciiDigit c hc := by
    rcases List.mem_append.mp hc with hc | hc
    · rw [List.eq_of_mem_replicate hc]
      rfl
    · exact h.isAsciiDigit c hc

theorem digitsValue_zeros_append (k : Nat) (ds : List Char) :
    digitsValue (List.replicate k '0' ++ ds) = digitsValue ds := by
  show Nat.ofDigitChars 10 (List.replicate k '0' ++ ds) 0 = Nat.ofDigitChars 10 ds 0
  rw [Nat.ofDigitChars_append, Nat.ofDigitChars_replicate_zero, Nat.mul_zero]

end Number
end TrackSearch
