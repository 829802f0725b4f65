/-
Decimals as they are typed.

`IsDecimal` is the grammar of decimals, apart from how they are read: a sign at most, digits with at
most one point among them, and a power of ten at most behind them.  A text is read as a decimal if
it is one (`Decimal.read?_eq_some_iff`), and the number is that of its digits, those behind the
point as a fraction, times the power of ten (`exists_read?_point`).
-/
import Mathlib.Algebra.Order.Field.Power
import Mathlib.Algebra.Order.Ring.Rat
import Mathlib.Tactic.FieldSimp
import Mathlib.Tactic.Positivity
import Mathlib.Tactic.Ring
import TrackSearch.Number.Decimal
import TrackSearch.Proofs.Number.Numeral

namespace TrackSearch
namespace Number

/-! ## Digits in front of something else -/

section

variable {ds rest : List Char} (hds : ∀ c ∈ ds, isAsciiDigit c = true)
  (hrest : ∀ c ∈ rest.head?, isAsciiDigit c = false)

include hds hrest

theorem takeWhile_isAsciiDigit_append : (ds ++ rest).takeWhile isAsciiDigit = ds := by
  rw [List.takeWhile_append_of_pos hds]
  cases rest with
  | nil => rw [List.takeWhile_nil, List.append_nil]
  | cons c cs => rw [List.takeWhile_cons, hrest c rfl, if_neg Bool.false_ne_true, List.append_nil]

theorem dropWhile_isAsciiDigit_append : (ds ++ rest).dropWhile isAsciiDigit = rest := by
  rw [List.dropWhile_append_of_pos hds]
  cases rest with
  | nil => rfl
  | cons c cs => rw [List.dropWhile_cons, hrest c rfl, if_neg Bool.false_ne_true]

end

theorem forall_isAsciiDigit_takeWhile (cs : List Char) :
    ∀ c ∈ cs.takeWhile isAsciiDigit, isAsciiDigit c = true :=
  List.all_eq_true.mp List.all_takeWhile

theorem not_isAsciiDigit_head?_dropWhile (cs : List Char) :
    ∀ c ∈ (cs.dropWhile isAsciiDigit).head?, isAsciiDigit c = false := by
  intro c hc
  have hhead := List.head?_dropWhile_not isAsciiDigit cs
  rw [Option.mem_def.mp hc] at hhead
  simpa using hhead

/-! ## The grammar -/

/-- Nothing, or the letter of a power of ten with an integer behind it. -/
inductive IsExponent : List Char → Int → Prop
  | none : IsExponent [] 0
  | letter {c : Char} {cs : List Char} {e : Int} (hc : c = 'e' ∨ c = 'E') (h : IsNumeral cs e) :
      IsExponent (c :: cs) e

/-- Digits, or digits around a point with one of them at least, and a power of ten. -/
inductive IsMagnitude : List Char → Nat → Int → Prop
  | whole {ds es : List Char} {e : Int} (hds : IsDigitRow ds) (he : IsExponent es e) :
      IsMagnitude (ds ++ es) (digitsValue ds) e
  | point {ds fs es : List Char} {e : Int} (h : IsDigitRow (ds ++ fs)) (he : IsExponent es e) :
      IsMagnitude (ds ++ '.' :: (fs ++ es)) (digitsValue (ds ++ fs)) (e - fs.length)

inductive IsDecimal : List Char → Decimal → Prop
  | unsigned {cs : List Char} {n : Nat} {e : Int} (h : IsMagnitude cs n e) :
      IsDecimal cs ⟨false, n, e⟩
  | plus {cs : List Char} {n : Nat} {e : Int} (h : IsMagnitude cs n e) :
      IsDecimal ('+' :: cs) ⟨false, n, e⟩
  | minus {cs : List Char} {n : Nat} {e : Int} (h : IsMagnitude cs n e) :
      IsDecimal ('-' :: cs) ⟨true, n, e⟩

namespace Decimal

/-! ## Reading -/

theorem readExponent?_eq_some_iff {cs : List Char} {e : Int} :
    readExponent? cs = some e ↔ IsExponent cs e := by
  constructor
  · intro h
    unfold readExponent? at h
    split at h
    · cases h
      exact .none
    · split at h
      · next hc => exact .letter hc (readInt?_eq_some_iff.mp h)
      · cases h
  · intro h
    cases h with
    | none => rfl
    | letter hc h =>
      rw [readExponent?, if_pos hc]
      exact readInt?_eq_some_iff.mpr h

theorem splitFraction_of_ne_point {cs : List Char} (h : ∀ rest, cs ≠ '.' :: rest) :
    splitFraction cs = ([], cs) := by
  rw [splitFraction.eq_def]
  split
  · next rest => exact absurd rfl (h rest)
  · rfl

theorem splitFraction_point {fs es : List Char} (hfs : ∀ c ∈ fs, isAsciiDigit c = true)
    (hes : ∀ c ∈ es.head?, isAsciiDigit c = false) :
    splitFraction ('.' :: (fs ++ es)) = (fs, es) := by
  rw [splitFraction, takeWhile_isAsciiDigit_append hfs hes, dropWhile_isAsciiDigit_append hfs hes]

/-- The digits in front are those before the point. -/
theorem readMagnitude?_append (negative : Bool) {ds rest fs es : List Char}
    (hds : ∀ c ∈ ds, isAsciiDigit c = true) (hrest : ∀ c ∈ rest.head?, isAsciiDigit c = false)
    (hsplit : splitFraction rest = (fs, es)) :
    readMagnitude? negative (ds ++ rest) =
      if ds ++ fs = [] then none
      else (readExponent? es).map fun e => ⟨negative, digitsValue (ds ++ fs), e - fs.length⟩ := by
  unfold readMagnitude?
  rw [takeWhile_isAsciiDigit_append hds hrest, dropWhile_isAsciiDigit_append hds hrest, hsplit]
  simp only [List.append_eq_nil_iff, Bool.and_eq_true, List.isEmpty_iff]

theorem not_isAsciiDigit_of_isExponent {cs : List Char} {e : Int} (h : IsExponent cs e) :
    ∀ c ∈ cs.head?, isAsciiDigit c = false := by
  cases h with
  | none => exact nofun
  | letter hc h =>
    refine forall_mem_head?_cons ?_ _
    rcases hc with rfl | rfl <;> rfl

theorem ne_point_of_isExponent {cs : List Char} {e : Int} (h : IsExponent cs e) :
    ∀ rest, cs ≠ '.' :: rest := by
  rintro rest rfl
  cases h with
  | letter hc h => rcases hc with hc | hc <;> cases hc

theorem isMagnitude_of_readMagnitude? {negative : Bool} {cs : List Char} {x : Decimal}
    (h : readMagnitude? negative cs = some x) :
    x.negative = negative ∧ IsMagnitude cs x.coefficient x.exponent := by
  obtain ⟨ds, rest, hds, hrest, rfl⟩ : ∃ ds rest, (∀ c ∈ ds, isAsciiDigit c = true) ∧
      (∀ c ∈ rest.head?, isAsciiDigit c = false) ∧ cs = ds ++ rest :=
    ⟨_, _, forall_isAsciiDigit_takeWhile cs, not_isAsciiDigit_head?_dropWhile cs,
      List.takeWhile_append_dropWhile.symm⟩
  by_cases hpoint : ∃ back, rest = '.' :: back
  · obtain ⟨back, rfl⟩ := hpoint
    rw [readMagnitude?_append negative hds hrest rfl] at h
    split at h
    · cases h
    · next hne =>
      obtain ⟨e, he, rfl⟩ := Option.map_eq_some_iff.mp h
      have hfs := forall_isAsciiDigit_takeWhile back
      have hrow : IsDigitRow (ds ++ back.takeWhile isAsciiDigit) :=
        ⟨hne, List.forall_mem_append.mpr ⟨hds, hfs⟩⟩
      have hmagnitude := IsMagnitude.point hrow (readExponent?_eq_some_iff.mp he)
      rw [List.takeWhile_append_dropWhile] at hmagnitude
      exact ⟨rfl, hmagnitude⟩
  · have hsplit := splitFraction_of_ne_point fun back hback => hpoint ⟨back, hback⟩
    rw [readMagnitude?_append negative hds hrest hsplit, List.append_nil] at h
    split at h
    · cases h
    · next hne =>
      obtain ⟨e, he, rfl⟩ := Option.map_eq_some_iff.mp h
      refine ⟨rfl, ?_⟩
      dsimp only
      rw [List.length_nil, Int.natCast_zero, Int.sub_zero]
      exact .whole ⟨hne, hds⟩ (readExponent?_eq_some_iff.mp he)

theorem readMagnitude?_of_isMagnitude (negative : Bool) {cs : List Char} {n : Nat} {e : Int}
    (h : IsMagnitude cs n e) : readMagnitude? negative cs = some ⟨negative, n, e⟩ := by
  cases h with
  | whole hds he =>
    rw [readMagnitude?_append negative hds.isAsciiDigit (not_isAsciiDigit_of_isExponent he)
      (splitFraction_of_ne_point (ne_point_of_isExponent he)), List.append_nil, if_neg hds.ne_nil,
      readExponent?_eq_some_iff.mpr he]
    simp
  | point hrow he =>
    obtain ⟨hds, hfs⟩ := List.forall_mem_append.mp hrow.isAsciiDigit
    have hsplit := splitFraction_point hfs (not_isAsciiDigit_of_isExponent he)
    rw [readMagnitude?_append negative hds (forall_mem_head?_cons rfl _) hsplit,
      if_neg hrow.ne_nil, readExponent?_eq_some_iff.mpr he]
    rfl

theorem ne_sign_of_isAsciiDigit {c : Char} (h : isAsciiDigit c = true) : c ≠ '-' ∧ c ≠ '+' := by
  constructor <;> rintro rfl <;> cases h

theorem ne_sign_of_isMagnitude {cs : List Char} {n : Nat} {e : Int} (h : IsMagnitude cs n e) :
    ∀ c ∈ cs.head?, c ≠ '-' ∧ c ≠ '+' := by
  cases h with
  | @whole ds es e hds he =>
    obtain ⟨d, ds, rfl⟩ := List.exists_cons_of_ne_nil hds.ne_nil
    rintro c ⟨rfl⟩
    exact ne_sign_of_isAsciiDigit (hds.isAsciiDigit d List.mem_cons_self)
  | @point ds fs es e hrow he =>
    cases ds with
    | nil =>
      rintro c ⟨rfl⟩
      decide
    | cons d ds =>
      rintro c ⟨rfl⟩
      exact ne_sign_of_isAsciiDigit (hrow.isAsciiDigit d List.mem_cons_self)

theorem read?_of_no_sign {cs : List Char} (h : ∀ c ∈ cs.head?, c ≠ '-' ∧ c ≠ '+') :
    read? cs = readMagnitude? false cs := by
  have hsign : splitSign cs = (false, cs) := by
    rw [splitSign.eq_def]
    split
    · exact absurd rfl (h '-' rfl).1
    · exact absurd rfl (h '+' rfl).2
    · rfl
  rw [read?, hsign]

/-- The texts that are read as a decimal are those of the grammar. -/
theorem read?_eq_some_iff {cs : List Char} {x : Decimal} : read? cs = some x ↔ IsDecimal cs x := by
  constructor
  · intro h
    obtain ⟨negative, n, e⟩ := x
    cases cs with
    | nil => cases h
    | cons c cs =>
      by_cases hminus : c = '-'
      · subst hminus
        obtain ⟨rfl, hmagnitude⟩ := isMagnitude_of_readMagnitude? h
        exact .minus hmagnitude
      by_cases hplus : c = '+'
      · subst hplus
        obtain ⟨rfl, hmagnitude⟩ := isMagnitude_of_readMagnitude? h
        exact .plus hmagnitude
      rw [read?_of_no_sign (by simp [hminus, hplus])] at h
      obtain ⟨rfl, hmagnitude⟩ := isMagnitude_of_readMagnitude? h
      exact .unsigned hmagnitude
  · intro h
    cases h with
    | unsigned h =>
      rw [read?_of_no_sign (ne_sign_of_isMagnitude h)]
      exact readMagnitude?_of_isMagnitude false h
    | plus h => exact readMagnitude?_of_isMagnitude false h
    | minus h => exact readMagnitude?_of_isMagnitude true h

example : read? "-12.5E-1".toList = some ⟨true, 125, -2⟩ := by
  decide +kernel

/-- Digits alone are a decimal without sign, point and power of ten. -/
theorem read?_of_isDigitRow {ds : List Char} (h : IsDigitRow ds) :
    read? ds = some { negative := false, coefficient := digitsValue ds, exponent := 0 } := by
  have hmagnitude := IsMagnitude.whole h .none
  rw [List.append_nil] at hmagnitude
  exact read?_eq_some_iff.mpr (.unsigned hmagnitude)

/-! ## The number itself -/

def toRat (x : Decimal) : ℚ :=
  (if x.negative then -1 else 1) * (x.coefficient * 10 ^ x.exponent)

theorem abs_toRat (x : Decimal) : |x.toRat| = x.coefficient * 10 ^ x.exponent := by
  have hnonneg : (0 : ℚ) ≤ x.coefficient * 10 ^ x.exponent := by positivity
  rw [toRat, abs_mul, abs_of_nonneg hnonneg]
  cases x.negative <;> simp

theorem digitsValue_append (ds fs : List Char) :
    digitsValue (ds ++ fs) = 10 ^ fs.length * digitsValue ds + digitsValue fs := by
  show Nat.ofDigitChars 10 (ds ++ fs) 0 = _ * Nat.ofDigitChars 10 ds 0 + Nat.ofDigitChars 10 fs 0
  rw [Nat.ofDigitChars_append, Nat.ofDigitChars_eq_ofDigitChars_zero]

/-- The digits behind the point are a fraction, and all the digits are scaled by the power of
ten. -/
theorem exists_read?_point {ds fs es : List Char} {e : Int} (h : IsDigitRow (ds ++ fs))
    (he : IsExponent es e) :
    ∃ x, read? (ds ++ '.' :: (fs ++ es)) = some x ∧
      x.toRat = (digitsValue ds + digitsValue fs / 10 ^ fs.length) * 10 ^ e := by
  refine ⟨_, read?_eq_some_iff.mpr (.unsigned (.point h he)), ?_⟩
  have hne : (10 : ℚ) ^ fs.length ≠ 0 := pow_ne_zero _ (by norm_num)
  rw [toRat, if_neg Bool.false_ne_true, one_mul, digitsValue_append, zpow_sub₀ (by norm_num),
    zpow_natCast]
  push_cast
  field_simp

end Decimal
end Number
end TrackSearch
