/-
Finite numbers of 64-bit binary floating point.  A decimal is rounded to the nearest of them in
exact arithmetic, and of two equally near ones to the one with the even mantissa.
-/
import TrackSearch.Number.Decimal

namespace TrackSearch
namespace Number

/-- The number `± mantissa * 2 ^ exponent`. -/
structure Binary64 where
  negative : Bool
  mantissa : Nat
  exponent : Int
  deriving DecidableEq, Repr

namespace Binary64

/-- The natural number nearest to `n / d`; a half goes to the even neighbour. -/
def roundQuotient (n d : Nat) : Nat :=
  let q := n / d
  let r := n % d
  if d < 2 * r ∨ (d = 2 * r ∧ q % 2 = 1) then q + 1 else q

/-- The least exponent a mantissa can have. -/
def minExponent : Int := -1074

/-- The quotient `n / d` divided by `2 ^ e`, as a numerator and a denominator. -/
def scaledRatio (n d : Nat) (e : Int) : Nat × Nat :=
  if 0 ≤ e then (n, d <<< e.toNat) else (n <<< (-e).toNat, d)

/-- The exponent that leaves 53 bits, or fewer at the least exponent, for the mantissa of
`n / d`. -/
def exponentFor (n d : Nat) : Int :=
  let e : Int := n.log2 - d.log2 - 53
  let (n', d') := scaledRatio n d e
  max minExponent (if n' < d' <<< 53 then e else e + 1)

/-- The number nearest to `n / d`, or none past the largest finite one. -/
def ofRatio? (negative : Bool) (n d : Nat) : Option Binary64 :=
  let e := exponentFor n d
  let (n', d') := scaledRatio n d e
  let m := roundQuotient n' d'
  if 0 ≤ e ∧ 1 <<< 1024 ≤ m <<< e.toNat then none else some ⟨negative, m, e⟩

/-- The number nearest to a decimal, or none past the largest finite one.  A decimal with its first
digit past place 310 is larger than that, and one with its first digit below place -330 is nearer
to zero than to any other number; neither needs its power of ten computed. -/
def ofDecimal? (x : Decimal) : Option Binary64 :=
  let places := x.exponent + (Nat.toDigits 10 x.coefficient).length
  if x.coefficient = 0 ∨ places < -330 then some ⟨x.negative, 0, minExponent⟩
  else if 310 < places then none
  else if 0 ≤ x.exponent then ofRatio? x.negative (x.coefficient * Nat.pow 10 x.exponent.toNat) 1
  else ofRatio? x.negative x.coefficient (Nat.pow 10 (-x.exponent).toNat)

/-- The whole part of the absolute value of `x * 2 ^ k`. -/
def wholeScaled (x : Binary64) (k : Nat) : Nat :=
  let e := x.exponent + k
  if 0 ≤ e then x.mantissa <<< e.toNat else x.mantissa >>> (-e).toNat

/-- `x * 2 ^ k` without its fraction, as the nearest 64-bit word. -/
def truncScaled (x : Binary64) (k : Nat) : Int64 :=
  let n : Int := x.wholeScaled k
  clamp (if x.negative then -n else n)

/-- The finite number that a text denotes.  The words for infinity and for no number are refused
like any other text that is no decimal, and so is a decimal too large to be finite. -/
def read? (cs : List Char) : Option Binary64 :=
  (Decimal.read? cs).bind ofDecimal?

end Binary64

end Number
end TrackSearch
