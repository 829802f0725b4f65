/-
Decimals rounded to binary floating point.

A decimal is read as the number of 53 bits that is nearest to it, the even one of two, and is
refused if that is 2 ^ 1024 or more: `exists_read?_of_isDecimal` and `read?_eq_none_iff`.  The
exponent is chosen first (`isExponentOf_exponentFor`).  It makes the numbers of 53 bits a grid of
equal steps wherever they can be nearest (`exists_eq_mul_zpow_or_lt`), so what is left is to round
one quotient to a natural number.
-/
import Mathlib.Tactic.GCongr
import Mathlib.Tactic.Linarith
import TrackSearch.Proofs.Number.Binary64
import TrackSearch.Proofs.Number.Decimal

namespace TrackSearch
namespace Number
namespace Binary64

/-! ## The nearest natural number -/

/-- A natural number nearest to a number, and the even one of two. -/
structure RoundsTo (t : ℚ) (m : Nat) : Prop where
  le_half : |t - m| ≤ 1 / 2
  even : |t - m| = 1 / 2 → m % 2 = 0

theorem roundsTo_roundQuotient (n : Nat) {d : Nat} (hd : d ≠ 0) :
    RoundsTo (n / d) (roundQuotient n d) := by
  have hpos : (0 : ℚ) < d := by exact_mod_cast Nat.pos_of_ne_zero hd
  obtain ⟨rest, hrest⟩ : ∃ rest : ℚ, rest = (n % d : Nat) / d := ⟨_, rfl⟩
  have hsplit : (n : ℚ) / d = (n / d : Nat) + rest := by
    have hn : (n : ℚ) = (n / d : Nat) * d + (n % d : Nat) := by
      exact_mod_cast (Nat.div_add_mod' n d).symm
    rw [hrest, div_eq_iff hpos.ne', add_mul, div_mul_cancel₀ _ hpos.ne', ← hn]
  have hlt : rest < 1 := by
    rw [hrest, div_lt_one hpos]
    exact_mod_cast Nat.mod_lt n (Nat.pos_of_ne_zero hd)
  have hnonneg : 0 ≤ rest := by
    rw [hrest]
    positivity
  have hhalf : rest = 1 / 2 ↔ d = 2 * (n % d) := by
    rw [hrest, div_eq_div_iff hpos.ne' two_ne_zero]
    constructor <;> intro h
    · have hcast : (n % d : Nat) * 2 = 1 * d := by exact_mod_cast h
      omega
    · have hcast : (n % d : Nat) * 2 = 1 * d := by omega
      exact_mod_cast hcast
  have habove : 1 / 2 < rest ↔ d < 2 * (n % d) := by
    rw [hrest, div_lt_div_iff₀ two_pos hpos, one_mul, mul_comm]
    norm_cast
  unfold roundQuotient
  dsimp only
  split
  · next hup =>
    have hge : 1 / 2 ≤ rest := by
      rcases hup with hup | ⟨hup, -⟩
      · exact (habove.mpr hup).le
      · exact (hhalf.mpr hup).ge
    have hdist : |(n : ℚ) / d - (n / d + 1 : Nat)| = 1 - rest := by
      rw [hsplit, abs_sub_comm, abs_of_nonneg] <;> push_cast <;> linarith
    refine ⟨by linarith, fun heq => ?_⟩
    have hmiddle := hhalf.mp (by linarith)
    omega
  · next hdown =>
    have hdist : |(n : ℚ) / d - (n / d : Nat)| = rest := by
      rw [hsplit, add_sub_cancel_left, abs_of_nonneg hnonneg]
    refine ⟨?_, fun heq => ?_⟩
    · rw [hdist]
      exact not_lt.mp fun h => hdown (.inl (habove.mp h))
    · have hmiddle := hhalf.mp (hdist.symm.trans heq)
      omega

namespace RoundsTo

variable {t : ℚ} {m : Nat} {k : Int}

theorem one_le_abs_sub_add_abs_sub (t : ℚ) (hne : k ≠ m) : 1 ≤ |t - m| + |t - k| := by
  have hdist : (1 : ℚ) ≤ |(k : ℚ) - m| := by
    exact_mod_cast Int.one_le_abs (sub_ne_zero.mpr hne)
  have htriangle := abs_sub_le (k : ℚ) t m
  rw [abs_sub_comm (k : ℚ) t] at htriangle
  linarith

theorem le_abs_sub (h : RoundsTo t m) (k : Int) : |t - m| ≤ |t - k| := by
  by_cases hk : k = m
  · rw [hk, Int.cast_natCast]
  · have hsum := one_le_abs_sub_add_abs_sub t hk
    have hhalf := h.le_half
    linarith

theorem even_of_abs_sub_eq (h : RoundsTo t m) (hne : k ≠ m) (heq : |t - k| = |t - m|) :
    m % 2 = 0 := by
  have hsum := one_le_abs_sub_add_abs_sub t hne
  have hhalf := h.le_half
  exact h.even (by linarith)

/-- The middle below an even number goes to the even number. -/
theorem le_iff_of_even (h : RoundsTo t m) {n : Nat} (hn : n % 2 = 0) : n ≤ m ↔ n - 1 / 2 ≤ t := by
  obtain ⟨hbelow, habove⟩ := abs_le.mp h.le_half
  constructor
  · intro hle
    have hcast : (n : ℚ) ≤ m := by exact_mod_cast hle
    linarith
  · intro hle
    by_contra hlt
    have hcast : (m : ℚ) + 1 ≤ n := by exact_mod_cast Nat.lt_of_not_le hlt
    have hhalf : t - m = 1 / 2 := by linarith
    have heven := h.even (by rw [hhalf, abs_of_pos one_half_pos])
    have hnext : n = m + 1 := by
      have hle : (n : ℚ) ≤ m + 1 := by linarith
      exact_mod_cast le_antisymm hle hcast
    omega

end RoundsTo

/-! ## The exponent -/

/-- The exponent that leaves 53 bits before the point, or fewer at the least exponent. -/
structure IsExponentOf (q : ℚ) (e : Int) : Prop where
  minExponent_le : minExponent ≤ e
  lt : q < 2 ^ (e + 53)
  le : e ≠ minExponent → 2 ^ (e + 52) ≤ q

theorem zpow_le_zpow {e f : Int} (h : e ≤ f) : (2 : ℚ) ^ e ≤ 2 ^ f :=
  zpow_le_zpow_right₀ one_le_two h

theorem isExponentOf_max {q : ℚ} {e : Int} (hlt : q < 2 ^ (e + 53)) (hle : 2 ^ (e + 52) ≤ q) :
    IsExponentOf q (max minExponent e) := by
  refine ⟨le_max_left _ _, hlt.trans_le (zpow_le_zpow (by omega)), fun hne => ?_⟩
  rwa [show max minExponent e = e by omega]

theorem scaledRatio_snd_ne_zero (n : Nat) {d : Nat} (hd : d ≠ 0) (e : Int) :
    (scaledRatio n d e).2 ≠ 0 := by
  unfold scaledRatio
  split
  · rw [Nat.shiftLeft_eq]
    exact Nat.mul_ne_zero hd (Nat.two_pow_pos _).ne'
  · exact hd

theorem scaledRatio_fst_div_snd (n d : Nat) (e : Int) :
    ((scaledRatio n d e).1 : ℚ) / (scaledRatio n d e).2 = n / d / 2 ^ e := by
  unfold scaledRatio
  split
  · next h =>
    obtain ⟨k, rfl⟩ := Int.eq_ofNat_of_zero_le h
    rw [Int.toNat_natCast, Nat.shiftLeft_eq, zpow_natCast, div_div]
    push_cast
    rfl
  · next h =>
    obtain ⟨k, hk⟩ := Int.eq_ofNat_of_zero_le (a := -e) (by omega)
    obtain rfl : e = -(k : Int) := by omega
    rw [hk, Int.toNat_natCast, Nat.shiftLeft_eq, zpow_neg, zpow_natCast, div_inv_eq_mul]
    push_cast
    rw [mul_div_right_comm]

section

variable {n d : Nat}

theorem zpow_log2_lt_div (hn : n ≠ 0) (hd : d ≠ 0) :
    (2 : ℚ) ^ ((n.log2 : Int) - d.log2 - 1) < n / d := by
  have hpos : (0 : ℚ) < d := by exact_mod_cast Nat.pos_of_ne_zero hd
  have hnum : (2 : ℚ) ^ n.log2 ≤ n := by exact_mod_cast Nat.log2_self_le hn
  have hden : (d : ℚ) < 2 ^ (d.log2 + 1) := by exact_mod_cast Nat.lt_log2_self
  have hexponent : (n.log2 : Int) - d.log2 - 1 = (n.log2 : Int) - (d.log2 + 1 : Nat) := by omega
  rw [hexponent, zpow_sub₀ two_ne_zero, zpow_natCast, zpow_natCast]
  exact div_lt_div₀' hnum hden ((pow_pos two_pos _).trans_le hnum) hpos

theorem div_lt_zpow_log2 (hd : d ≠ 0) : (n : ℚ) / d < 2 ^ ((n.log2 : Int) - d.log2 + 1) := by
  have hden : (2 : ℚ) ^ d.log2 ≤ d := by exact_mod_cast Nat.log2_self_le hd
  have hnum : (n : ℚ) < 2 ^ (n.log2 + 1) := by exact_mod_cast Nat.lt_log2_self
  have hexponent : (n.log2 : Int) - d.log2 + 1 = (n.log2 + 1 : Nat) - (d.log2 : Int) := by omega
  rw [hexponent, zpow_sub₀ two_ne_zero, zpow_natCast, zpow_natCast]
  exact div_lt_div₀ hnum hden (pow_pos two_pos _).le (pow_pos two_pos _)

/-- The lengths of both numbers leave two exponents to choose from. -/
theorem isExponentOf_exponentFor (hn : n ≠ 0) (hd : d ≠ 0) :
    IsExponentOf (n / d) (exponentFor n d) := by
  obtain ⟨e, he⟩ : ∃ e : Int, e = n.log2 - d.log2 - 53 := ⟨_, rfl⟩
  have hlow := zpow_log2_lt_div hn hd
  have hhigh := div_lt_zpow_log2 (n := n) hd
  rw [show (n.log2 : Int) - d.log2 - 1 = e + 52 by omega] at hlow
  rw [show (n.log2 : Int) - d.log2 + 1 = e + 1 + 53 by omega] at hhigh
  have hratio : (scaledRatio n d e).1 < (scaledRatio n d e).2 <<< 53 ↔
      (n / d : ℚ) < 2 ^ (e + 53) := by
    have hpos : (0 : ℚ) < (scaledRatio n d e).2 := by
      exact_mod_cast Nat.pos_of_ne_zero (scaledRatio_snd_ne_zero n hd e)
    rw [zpow_add₀ two_ne_zero, mul_comm, ← div_lt_iff₀ (by positivity),
      ← scaledRatio_fst_div_snd, div_lt_iff₀ hpos, Nat.shiftLeft_eq, mul_comm]
    norm_cast
  have hchoice : exponentFor n d =
      max minExponent (if (n / d : ℚ) < 2 ^ (e + 53) then e else e + 1) := by
    unfold exponentFor
    simp only [← he, hratio]
  rw [hchoice]
  split
  · next hlt => exact isExponentOf_max hlt hlow.le
  · next hge =>
    refine isExponentOf_max hhigh ?_
    rw [show e + 1 + 52 = e + 53 by omega]
    exact not_lt.mp hge

end

/-! ## The nearest number of 53 bits -/

/-- The numbers with a mantissa of 53 bits. -/
def IsValue (q : ℚ) : Prop :=
  ∃ (k : Int) (e : Int), |k| < 2 ^ 53 ∧ minExponent ≤ e ∧ q = k * 2 ^ e

theorem IsValue.neg {q : ℚ} (h : IsValue q) : IsValue (-q) := by
  obtain ⟨k, e, hk, he, rfl⟩ := h
  exact ⟨-k, e, by rwa [abs_neg], he, by push_cast; ring⟩

/-- A finite number nearest to a number, with the even mantissa if another one is as near. -/
structure IsNearest (x : Binary64) (q : ℚ) : Prop where
  isExponentOf : IsExponentOf |q| x.exponent
  isValue : IsValue x.toRat
  abs_lt : |x.toRat| < 2 ^ 1024
  abs_sub_le : ∀ y, IsValue y → |q - x.toRat| ≤ |q - y|
  even : ∀ y, IsValue y → y ≠ x.toRat → |q - y| = |q - x.toRat| → x.mantissa % 2 = 0

section

variable {q : ℚ} {e : Int} {m : Nat} (he : IsExponentOf q e) (hm : RoundsTo (q / 2 ^ e) m)

theorem abs_sub_mul_zpow (q k : ℚ) (e : Int) : |q - k * 2 ^ e| = |q / 2 ^ e - k| * 2 ^ e := by
  have hpos : (0 : ℚ) < 2 ^ e := by positivity
  have hsub : q - k * 2 ^ e = (q / 2 ^ e - k) * 2 ^ e := by
    rw [sub_mul, div_mul_cancel₀ _ hpos.ne']
  rw [hsub, abs_mul, abs_of_pos hpos]

include he hm

theorem mantissa_le : m ≤ 2 ^ 53 := by
  have hlt : q / 2 ^ e < 2 ^ 53 := by
    rw [div_lt_iff₀ (by positivity), ← zpow_natCast, ← zpow_add₀ two_ne_zero, add_comm]
    exact he.lt
  have hhalf := (abs_le.mp hm.le_half).1
  by_contra hgt
  have hcast : ((2 : ℚ) ^ 53 + 1) ≤ m := by exact_mod_cast Nat.lt_of_not_le hgt
  linarith

theorem mul_zpow_le : m * (2 : ℚ) ^ e ≤ 2 ^ (e + 53) := by
  rw [add_comm, zpow_add₀ two_ne_zero]
  gcongr
  exact_mod_cast mantissa_le he hm

/-- Above the least exponent the mantissa has all its bits. -/
theorem zpow_le_mul_zpow (hne : e ≠ minExponent) : (2 : ℚ) ^ (e + 52) ≤ m * 2 ^ e := by
  have hle := he.le hne
  rw [add_comm, zpow_add₀ two_ne_zero, ← le_div_iff₀ (by positivity)] at hle
  rw [add_comm, zpow_add₀ two_ne_zero]
  gcongr
  have hmantissa : 2 ^ 52 ≤ m := by
    rw [hm.le_iff_of_even (by norm_num)]
    refine le_trans ?_ hle
    norm_num
  exact_mod_cast hmantissa

theorem isValue_mul_zpow : IsValue (m * 2 ^ e) := by
  rcases (mantissa_le he hm).lt_or_eq with hlt | heq
  · refine ⟨m, e, ?_, he.minExponent_le, by rw [Int.cast_natCast]⟩
    rw [Nat.abs_cast]
    exact_mod_cast hlt
  -- The mantissa has 54 bits, and all but the first are zero.
  · refine ⟨2 ^ 52, e + 1, by norm_num, by linarith [he.minExponent_le], ?_⟩
    rw [heq, zpow_add_one₀ two_ne_zero]
    push_cast
    ring

/-- A number of 53 bits is on the grid of the exponent, or some number on the grid is nearer. -/
theorem exists_eq_mul_zpow_or_lt {y : ℚ} (hy : IsValue y) :
    (∃ k : Int, y = k * 2 ^ e) ∨ |q - m * 2 ^ e| < |q - y| := by
  obtain ⟨k, f, hk, hf, rfl⟩ := hy
  rcases le_or_gt e f with hle | hgt
  · left
    obtain ⟨n, hn⟩ := Int.eq_ofNat_of_zero_le (sub_nonneg.mpr hle)
    refine ⟨k * 2 ^ n, ?_⟩
    rw [show f = n + e by omega, zpow_add₀ two_ne_zero, zpow_natCast]
    push_cast
    ring
  -- Here the exponent is not the least one, so 2 ^ (e + 52) is on the grid, between y and q.
  · right
    have hq : 2 ^ (e + 52) ≤ q := he.le (by omega)
    have hgrid : (2 : ℚ) ^ (e + 52) = ((2 ^ 52 : Int) : ℚ) * 2 ^ e := by
      rw [add_comm, zpow_add₀ two_ne_zero]
      norm_cast
    have hbelow : k * (2 : ℚ) ^ f < 2 ^ (e + 52) := by
      have hk : (k : ℚ) < 2 ^ 53 := by exact_mod_cast (le_abs_self k).trans_lt hk
      calc k * (2 : ℚ) ^ f < 2 ^ 53 * 2 ^ f := by gcongr
        _ = 2 ^ (f + 53) := by rw [add_comm, zpow_add₀ two_ne_zero]; norm_cast
        _ ≤ 2 ^ (e + 52) := zpow_le_zpow (by omega)
    calc |q - m * 2 ^ e| = |q / 2 ^ e - m| * 2 ^ e := abs_sub_mul_zpow q m e
      _ ≤ |q / 2 ^ e - (2 ^ 52 : Int)| * 2 ^ e :=
        mul_le_mul_of_nonneg_right (hm.le_abs_sub _) (by positivity)
      _ = q - 2 ^ (e + 52) := by
        rw [← abs_sub_mul_zpow, ← hgrid, abs_of_nonneg (sub_nonneg.mpr hq)]
      _ < q - k * 2 ^ f := sub_lt_sub_left hbelow q
      _ ≤ |q - k * 2 ^ f| := le_abs_self _

theorem isNearest_of_roundsTo (hq : 0 ≤ q) (hfinite : m * (2 : ℚ) ^ e < 2 ^ 1024) :
    IsNearest ⟨false, m, e⟩ q := by
  have htoRat : toRat ⟨false, m, e⟩ = m * 2 ^ e := by
    rw [toRat, if_neg Bool.false_ne_true, one_mul]
  have hpos : (0 : ℚ) < 2 ^ e := by positivity
  have hnonneg : (0 : ℚ) ≤ m * 2 ^ e := mul_nonneg (Nat.cast_nonneg m) hpos.le
  refine ⟨?_, ?_, ?_, fun y hy => ?_, fun y hy hne heq => ?_⟩
  · rwa [abs_of_nonneg hq]
  · rw [htoRat]
    exact isValue_mul_zpow he hm
  · rw [htoRat, abs_of_nonneg hnonneg]
    exact hfinite
  · rw [htoRat]
    rcases exists_eq_mul_zpow_or_lt he hm hy with ⟨k, rfl⟩ | hlt
    · rw [abs_sub_mul_zpow, abs_sub_mul_zpow]
      exact mul_le_mul_of_nonneg_right (hm.le_abs_sub k) hpos.le
    · exact hlt.le
  · rw [htoRat] at hne heq
    rcases exists_eq_mul_zpow_or_lt he hm hy with ⟨k, rfl⟩ | hlt
    · have hk : k ≠ m := by
        rintro rfl
        exact hne (by rw [Int.cast_natCast])
      rw [abs_sub_mul_zpow, abs_sub_mul_zpow] at heq
      exact hm.even_of_abs_sub_eq hk (mul_right_cancel₀ hpos.ne' heq)
    · exact absurd heq hlt.ne'

/-- The bound is the middle between a power of two and the number of 53 bits below it, whose
mantissa is odd. -/
theorem le_mul_zpow_iff {top : Int} (htop : minExponent ≤ top) :
    (2 : ℚ) ^ (top + 53) ≤ m * 2 ^ e ↔ 2 ^ (top + 53) - 2 ^ (top - 1) ≤ q := by
  rcases lt_trichotomy e top with hlt | rfl | hgt
  · have hle := mul_zpow_le he hm
    have hq := he.lt
    have hbelow : (2 : ℚ) ^ (e + 53) ≤ 2 ^ (top + 52) := zpow_le_zpow (by omega)
    have hstep : (2 : ℚ) ^ (top - 1) ≤ 2 ^ (top + 52) := zpow_le_zpow (by omega)
    have hpos : (0 : ℚ) < 2 ^ (top + 52) := by positivity
    have hdouble : (2 : ℚ) ^ (top + 53) = 2 ^ (top + 52) * 2 := by
      rw [← zpow_add_one₀ two_ne_zero]
      congr 1
      omega
    rw [hdouble]
    constructor <;> intro h <;> linarith
  · have hpos : (0 : ℚ) < 2 ^ e := by positivity
    have hbound : (2 : ℚ) ^ (e + 53) = 2 ^ 53 * 2 ^ e := by
      rw [add_comm, zpow_add₀ two_ne_zero]
      norm_cast
    have hmiddle : 2 ^ 53 * 2 ^ e - (2 : ℚ) ^ (e - 1) = ((2 ^ 53 : Nat) - 1 / 2) * 2 ^ e := by
      rw [zpow_sub_one₀ two_ne_zero]
      push_cast
      ring
    rw [hbound, hmiddle, mul_le_mul_iff_left₀ hpos, ← le_div_iff₀ hpos,
      ← hm.le_iff_of_even (by norm_num)]
    norm_cast
  · have hlarge : (2 : ℚ) ^ (top + 53) ≤ 2 ^ (e + 52) := zpow_le_zpow (by omega)
    have hne : e ≠ minExponent := by omega
    have hstep : (0 : ℚ) < 2 ^ (top - 1) := by positivity
    exact iff_of_true (hlarge.trans (zpow_le_mul_zpow he hm hne)) (by linarith [he.le hne])

end

theorem IsNearest.neg {m : Nat} {e : Int} {q : ℚ} (h : IsNearest ⟨false, m, e⟩ q) :
    IsNearest ⟨true, m, e⟩ (-q) := by
  have htoRat : toRat ⟨true, m, e⟩ = -toRat ⟨false, m, e⟩ := by
    simp [toRat]
  have hdist (y : ℚ) : |-q - y| = |q - -y| := by
    rw [← abs_neg]
    congr 1
    ring
  refine ⟨by rw [abs_neg]; exact h.isExponentOf, ?_, ?_, fun y hy => ?_, fun y hy hne heq => ?_⟩
  · rw [htoRat]
    exact h.isValue.neg
  · rw [htoRat, abs_neg]
    exact h.abs_lt
  · rw [htoRat, hdist, hdist, neg_neg]
    exact h.abs_sub_le _ hy.neg
  · rw [htoRat] at hne heq
    rw [hdist, hdist, neg_neg] at heq
    exact h.even _ hy.neg (fun heq => hne (by rw [← heq, neg_neg])) heq

theorem IsNearest.signed {m : Nat} {e : Int} {q : ℚ} (h : IsNearest ⟨false, m, e⟩ q)
    (negative : Bool) : IsNearest ⟨negative, m, e⟩ ((if negative then -1 else 1) * q) := by
  cases negative with
  | false =>
    rw [if_neg Bool.false_ne_true, one_mul]
    exact h
  | true =>
    rw [if_pos rfl, neg_one_mul]
    exact h.neg

/-! ## Ratios and decimals -/

/-- What a number is rounded to: the nearest finite number, or none past the middle between the
largest one and 2 ^ 1024. -/
structure IsRounded (rounded : Option Binary64) (q : ℚ) : Prop where
  eq_none_iff : rounded = none ↔ 2 ^ 1024 - 2 ^ 970 ≤ |q|
  isNearest : ∀ x, rounded = some x → x.IsNearest q

theorem abs_signed (negative : Bool) (q : ℚ) : |(if negative then -1 else 1) * q| = |q| := by
  cases negative <;> simp

theorem isRounded_of_roundsTo {q : ℚ} {e : Int} {m : Nat} (negative : Bool) (hq : 0 ≤ q)
    (he : IsExponentOf q e) (hm : RoundsTo (q / 2 ^ e) m) :
    IsRounded (if (2 : ℚ) ^ 1024 ≤ m * 2 ^ e then none else some ⟨negative, m, e⟩)
      ((if negative then -1 else 1) * q) := by
  have htop : minExponent ≤ 971 := by decide
  have hbound : (2 : ℚ) ^ 1024 ≤ m * 2 ^ e ↔ 2 ^ 1024 - 2 ^ 970 ≤ q := le_mul_zpow_iff he hm htop
  refine ⟨?_, fun x hx => ?_⟩
  · rw [abs_signed, abs_of_nonneg hq, ← hbound, ite_eq_left_iff]
    simp
  · split at hx
    · cases hx
    · next hfinite =>
      cases hx
      exact (isNearest_of_roundsTo he hm hq (not_le.mp hfinite)).signed negative

/-- A mantissa of 53 bits is not longer than that without a shift to the left. -/
theorem le_shiftLeft_iff {m bits : Nat} (hm : m ≤ 2 ^ 53) (hbits : 53 < bits) (e : Int) :
    0 ≤ e ∧ 1 <<< bits ≤ m <<< e.toNat ↔ (2 : ℚ) ^ bits ≤ m * 2 ^ e := by
  by_cases h : 0 ≤ e
  · obtain ⟨k, rfl⟩ := Int.eq_ofNat_of_zero_le h
    rw [Int.toNat_natCast, Nat.one_shiftLeft, Nat.shiftLeft_eq, zpow_natCast, and_iff_right h]
    norm_cast
  · refine iff_of_false (fun hlarge => h hlarge.1) (not_le.mpr ?_)
    calc (m : ℚ) * 2 ^ e ≤ 2 ^ 53 * 2 ^ (0 : Int) := by
          gcongr
          · exact_mod_cast hm
          · exact one_le_two
          · omega
      _ < 2 ^ bits := by
          rw [zpow_zero, mul_one]
          exact pow_lt_pow_right₀ one_lt_two hbits

theorem isRounded_ofRatio? (negative : Bool) {n d : Nat} (hn : n ≠ 0) (hd : d ≠ 0) :
    IsRounded (ofRatio? negative n d) ((if negative then -1 else 1) * (n / d)) := by
  have he := isExponentOf_exponentFor hn hd
  have hm := roundsTo_roundQuotient (scaledRatio n d (exponentFor n d)).1
    (scaledRatio_snd_ne_zero n hd (exponentFor n d))
  rw [scaledRatio_fst_div_snd] at hm
  unfold ofRatio?
  simp only [le_shiftLeft_iff (mantissa_le he hm) (show 53 < 1024 by omega)]
  exact isRounded_of_roundsTo negative (by positivity) he hm

theorem isRounded_zero {q : ℚ} (negative : Bool) (hq : 0 ≤ q) (hsmall : q ≤ 2 ^ (minExponent - 1)) :
    IsRounded (some ⟨negative, 0, minExponent⟩) ((if negative then -1 else 1) * q) := by
  have he : IsExponentOf q minExponent :=
    ⟨le_rfl, hsmall.trans_lt (zpow_lt_zpow_right₀ one_lt_two (by omega)), fun hne => absurd rfl hne⟩
  have hm : RoundsTo (q / 2 ^ minExponent) 0 := by
    refine ⟨?_, fun _ => rfl⟩
    rw [Nat.cast_zero, sub_zero, abs_of_nonneg (by positivity), div_le_iff₀ (by positivity)]
    rwa [zpow_sub_one₀ two_ne_zero, mul_comm, ← one_div] at hsmall
  have hrounded := isRounded_of_roundsTo negative hq he hm
  rwa [if_neg] at hrounded
  rw [Nat.cast_zero, zero_mul, not_le]
  exact pow_pos two_pos _

theorem two_pow_le_ten_pow {a b : Nat} (h : 2 ^ a ≤ 10 ^ b) : (2 : ℚ) ^ a ≤ 10 ^ b := by
  exact_mod_cast h

section

variable (x : Decimal)

/-- A decimal is below the power of ten at the place of its first digit. -/
theorem abs_toRat_lt : |x.toRat| < 10 ^ (x.exponent + (Nat.toDigits 10 x.coefficient).length) := by
  have hlt := (Nat.length_toDigits_le_iff (n := x.coefficient) (by omega)
    Nat.length_toDigits_pos).mp (Nat.le_refl (Nat.toDigits 10 x.coefficient).length)
  have hcast : (x.coefficient : ℚ) < 10 ^ (Nat.toDigits 10 x.coefficient).length := by
    exact_mod_cast hlt
  rw [Decimal.abs_toRat, add_comm, zpow_add₀ (by norm_num), zpow_natCast]
  gcongr

theorem le_abs_toRat (hx : x.coefficient ≠ 0) :
    10 ^ (x.exponent + (Nat.toDigits 10 x.coefficient).length - 1) ≤ |x.toRat| := by
  obtain ⟨k, hk⟩ := Nat.exists_eq_add_of_lt (Nat.length_toDigits_pos (b := 10) (n := x.coefficient))
  rw [Nat.zero_add] at hk
  have hle : 10 ^ k ≤ x.coefficient := by
    rcases Nat.eq_zero_or_pos k with rfl | hpos
    · exact Nat.one_le_iff_ne_zero.mpr hx
    · have hiff := Nat.length_toDigits_le_iff (n := x.coefficient) (show 1 < 10 by omega) hpos
      omega
  have hcast : (10 : ℚ) ^ k ≤ x.coefficient := by exact_mod_cast hle
  rw [Decimal.abs_toRat, hk, show x.exponent + (k + 1 : Nat) - 1 = k + x.exponent by omega,
    zpow_add₀ (by norm_num), zpow_natCast]
  gcongr

theorem abs_toRat_le_of_places
    (h : x.exponent + (Nat.toDigits 10 x.coefficient).length < -330) :
    |x.toRat| ≤ 2 ^ (minExponent - 1) := by
  have hpow : (2 : ℚ) ^ 1075 ≤ 10 ^ 331 := two_pow_le_ten_pow (by decide +kernel)
  calc |x.toRat| ≤ 10 ^ (x.exponent + (Nat.toDigits 10 x.coefficient).length) :=
        (abs_toRat_lt x).le
    _ ≤ 10 ^ (-(331 : Nat) : Int) := zpow_le_zpow_right₀ (by norm_num) (by omega)
    _ ≤ 2 ^ (-(1075 : Nat) : Int) := by
      rw [zpow_neg, zpow_neg, zpow_natCast, zpow_natCast]
      exact inv_anti₀ (pow_pos two_pos _) hpow

theorem le_abs_toRat_of_places (hx : x.coefficient ≠ 0)
    (h : 310 < x.exponent + (Nat.toDigits 10 x.coefficient).length) : 2 ^ 1024 ≤ |x.toRat| := by
  calc (2 : ℚ) ^ 1024 ≤ 10 ^ 310 := two_pow_le_ten_pow (by decide +kernel)
    _ = 10 ^ ((310 : Nat) : Int) := (zpow_natCast _ _).symm
    _ ≤ 10 ^ (x.exponent + (Nat.toDigits 10 x.coefficient).length - 1) :=
      zpow_le_zpow_right₀ (by norm_num) (by omega)
    _ ≤ |x.toRat| := le_abs_toRat x hx

theorem isRounded_ofDecimal? : IsRounded (ofDecimal? x) x.toRat := by
  have hvalue : x.toRat = (if x.negative then -1 else 1) * (x.coefficient * 10 ^ x.exponent) := rfl
  unfold ofDecimal?
  dsimp only
  split
  · next hsmall =>
    rw [hvalue]
    refine isRounded_zero x.negative (by positivity) ?_
    rcases hsmall with hzero | hplaces
    · rw [hzero, Nat.cast_zero, zero_mul]
      positivity
    · rw [← Decimal.abs_toRat]
      exact abs_toRat_le_of_places x hplaces
  · next hplaces =>
    obtain ⟨hx, -⟩ := not_or.mp hplaces
    split
    · next hlarge =>
      refine ⟨iff_of_true rfl ?_, nofun⟩
      exact (sub_le_self _ (pow_pos two_pos _).le).trans (le_abs_toRat_of_places x hx hlarge)
    split
    · next hexponent =>
      obtain ⟨k, hk⟩ := Int.eq_ofNat_of_zero_le hexponent
      have hne : x.coefficient * Nat.pow 10 k ≠ 0 :=
        Nat.mul_ne_zero hx (Nat.pow_pos (by omega)).ne'
      have hratio : (x.coefficient : ℚ) * 10 ^ x.exponent =
          (x.coefficient * Nat.pow 10 k : Nat) / (1 : Nat) := by
        rw [hk, zpow_natCast, Nat.cast_one, div_one, Nat.pow_eq]
        push_cast
        rfl
      rw [hvalue, hratio, hk, Int.toNat_natCast]
      exact isRounded_ofRatio? x.negative hne one_ne_zero
    · next hexponent =>
      obtain ⟨k, hk⟩ := Int.eq_ofNat_of_zero_le (a := -x.exponent) (by omega)
      have hratio : (x.coefficient : ℚ) * 10 ^ x.exponent =
          x.coefficient / (Nat.pow 10 k : Nat) := by
        rw [show x.exponent = -(k : Int) by omega, zpow_neg, zpow_natCast, ← div_eq_mul_inv,
          Nat.pow_eq]
        push_cast
        rfl
      rw [hvalue, hratio, hk, Int.toNat_natCast]
      exact isRounded_ofRatio? x.negative hx (Nat.pow_pos (by omega)).ne'

end

/-! ## Reading -/

/-- The text of a decimal is read as the finite number nearest to it. -/
theorem exists_isNearest_of_read? {cs : List Char} {x : Binary64} (h : read? cs = some x) :
    ∃ d, IsDecimal cs d ∧ x.IsNearest d.toRat := by
  obtain ⟨d, hd, hx⟩ := Option.bind_eq_some_iff.mp h
  exact ⟨d, Decimal.read?_eq_some_iff.mp hd, (isRounded_ofDecimal? d).isNearest x hx⟩

/-- A text is refused if it is no decimal, or one too large to be finite. -/
theorem read?_eq_none_iff {cs : List Char} :
    read? cs = none ↔ ∀ d, IsDecimal cs d → 2 ^ 1024 - 2 ^ 970 ≤ |d.toRat| := by
  rw [read?, Option.bind_eq_none_iff]
  refine forall_congr' fun d => ?_
  rw [Decimal.read?_eq_some_iff, (isRounded_ofDecimal? d).eq_none_iff]

theorem exists_read?_of_isDecimal {cs : List Char} {d : Decimal} (hd : IsDecimal cs d)
    (hlt : |d.toRat| < 2 ^ 1024 - 2 ^ 970) : ∃ x, read? cs = some x ∧ x.IsNearest d.toRat := by
  have hread := Decimal.read?_eq_some_iff.mpr hd
  cases hx : ofDecimal? d with
  | none => exact absurd ((isRounded_ofDecimal? d).eq_none_iff.mp hx) (not_le.mpr hlt)
  | some x =>
    refine ⟨x, ?_, (isRounded_ofDecimal? d).isNearest x hx⟩
    rw [read?, hread, Option.bind_some, hx]

/-- Between two numbers of 53 bits, the one with the even mantissa. -/
example : read? "9007199254740993".toList = some ⟨false, 4503599627370496, 1⟩ := by
  decide +kernel

/-- A number of 53 bits is not rounded. -/
theorem IsNearest.toRat_eq {x : Binary64} {q : ℚ} (h : x.IsNearest q) (hq : IsValue q) :
    x.toRat = q := by
  have hle := h.abs_sub_le q hq
  rw [sub_self, abs_zero] at hle
  exact (sub_eq_zero.mp (abs_nonpos_iff.mp hle)).symm

theorem two_pow_le_overflow : (2 : ℚ) ^ 53 ≤ 2 ^ 1024 - 2 ^ 970 := by
  have hsmall : (2 : ℚ) ^ 53 ≤ 2 ^ 1023 := pow_le_pow_right₀ one_le_two (by omega)
  have hstep : (2 : ℚ) ^ 970 ≤ 2 ^ 1023 := pow_le_pow_right₀ one_le_two (by omega)
  have hdouble : (2 : ℚ) ^ 1024 = 2 ^ 1023 * 2 := pow_succ 2 1023
  rw [hdouble, mul_two]
  exact le_sub_iff_add_le.mpr (add_le_add hsmall hstep)

/-- A natural number of 53 bits is read as itself. -/
theorem exists_read?_writeInt {n : Nat} (h : n < 9007199254740992) :
    ∃ x, read? (writeInt n).toList = some x ∧ x.toRat = n := by
  have hdigits : (writeInt n).toList = Nat.toDigits 10 n := by
    rw [writeInt, String.toList_ofList, if_neg (by omega), Int.natAbs_natCast, List.nil_append]
  have hdecimal : IsDecimal (Nat.toDigits 10 n) ⟨false, n, 0⟩ := by
    rw [← Decimal.read?_eq_some_iff, Decimal.read?_of_isDigitRow (isDigitRow_toDigits n),
      digitsValue_toDigits]
  have hvalue : Decimal.toRat ⟨false, n, 0⟩ = n := by
    simp [Decimal.toRat]
  have hsmall : |Decimal.toRat ⟨false, n, 0⟩| < 2 ^ 53 := by
    rw [hvalue, Nat.abs_cast]
    exact_mod_cast h
  obtain ⟨x, hx, hnearest⟩ :=
    exists_read?_of_isDecimal hdecimal (hsmall.trans_le two_pow_le_overflow)
  rw [hvalue] at hnearest
  refine ⟨x, by rw [hdigits, hx], hnearest.toRat_eq ⟨n, 0, ?_, by decide, by simp⟩⟩
  rw [Nat.abs_cast]
  exact_mod_cast h

end Binary64
end Number
end TrackSearch
