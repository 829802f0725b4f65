/-
Decimal fractions as they are typed: digits with at most one point among them, an optional sign in
front and an optional power of ten behind.
-/
import TrackSearch.Number.Integer

namespace TrackSearch
namespace Number

/-- The number `± coefficient * 10 ^ exponent`. -/
structure Decimal where
  negative : Bool
  coefficient : Nat
  exponent : Int
  deriving DecidableEq, Repr

namespace Decimal

/-- The sign in front, if there is one, and the text after it. -/
def splitSign : List Char → Bool × List Char
  | '-' :: cs => (true, cs)
  | '+' :: cs => (false, cs)
  | cs => (false, cs)

/-- The power of ten: `e` or `E`, at most one sign, one digit or more, and nothing behind them.
Without the letter nothing may stand here. -/
def readExponent? : List Char → Option Int
  | [] => some 0
  | c :: cs => if c = 'e' ∨ c = 'E' then readInt? cs else none

/-- The digits after the point, if there is a point, and the text behind them. -/
def splitFraction : List Char → List Char × List Char
  | '.' :: cs => (cs.takeWhile isAsciiDigit, cs.dropWhile isAsciiDigit)
  | cs => ([], cs)

/-- An unsigned decimal has a digit on one side of the point at least. -/
def readMagnitude? (negative : Bool) (cs : List Char) : Option Decimal :=
  let whole := cs.takeWhile isAsciiDigit
  let (fraction, rest) := splitFraction (cs.dropWhile isAsciiDigit)
  if whole.isEmpty && fraction.isEmpty then none
  else
    (readExponent? rest).map fun e =>
      { negative, coefficient := digitsValue (whole ++ fraction), exponent := e - fraction.length }

/-- A decimal that fills the whole text. -/
def read? (cs : List Char) : Option Decimal :=
  let (negative, rest) := splitSign cs
  readMagnitude? negative rest

end Decimal

end Number
end TrackSearch
