/-
The quoted form of a text: one line, between double quotes, from which the text can be read back.
-/
import TrackSearch.Text.Extending
import TrackSearch.Text.Unprintable

namespace TrackSearch
namespace Text

/-- The digits of a code point in base 16, small letters, without leading zeros. -/
def hexDigits (n : Nat) : List Char :=
  Nat.toDigits 16 n

/-- How a character is written between the quotes.  Whatever has no form of its own, or would join
the character before it, is written by its code point. -/
def escapeChar (c : Char) : List Char :=
  if c = '"' ∨ c = '\\' then ['\\', c]
  else if c = '\t' then ['\\', 't']
  else if c = '\r' then ['\\', 'r']
  else if c = '\n' then ['\\', 'n']
  else if c = '\x00' then ['\\', '0']
  else if isUnprintable c || isExtending c then
    ['\\', 'u', '\x7b'] ++ hexDigits c.toNat ++ ['\x7d']
  else [c]

/-- A text between double quotes, each character escaped where needed. -/
def quoted (s : String) : String :=
  String.ofList ('"' :: s.toList.flatMap escapeChar ++ ['"'])

end Text
end TrackSearch
