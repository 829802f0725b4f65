/-
Whole numbers as they are typed: ASCII digits with at most one sign in front.
-/

namespace TrackSearch
namespace Number

def isAsciiDigit (c : Char) : Bool :=
  decide ('0' ≤ c) && decide (c ≤ '9')

def digitValue (c : Char) : Nat :=
  c.toNat - '0'.toNat

def digitsValue (ds : List Char) : Nat :=
  ds.foldl (fun n c => 10 * n + digitValue c) 0

/-- A natural number: one ASCII digit or more, and nothing else. -/
def readNat? (ds : List Char) : Option Nat :=
  if ds.isEmpty = false ∧ ds.all isAsciiDigit = true then some (digitsValue ds) else none

/-- An integer: a natural number after at most one sign. -/
def readInt? : List Char → Option Int
  | '-' :: ds => (readNat? ds).map fun n => -(n : Int)
  | '+' :: ds => (readNat? ds).map Int.ofNat
  | ds => (readNat? ds).map Int.ofNat

/-- The integer as a 64-bit word, if it fits one. -/
def word? (n : Int) : Option Int64 :=
  if Int64.minValue.toInt ≤ n ∧ n ≤ Int64.maxValue.toInt then some (Int64.ofInt n) else none

/-- The 64-bit word nearest to an integer. -/
def clamp (n : Int) : Int64 :=
  Int64.ofIntClamp n

/-- An integer that fits a 64-bit word. -/
def readWord? (cs : List Char) : Option Int64 :=
  (readInt? cs).bind word?

/-- An integer in base 10, with a minus sign in front of a negative one. -/
def writeInt (n : Int) : String :=
  String.ofList ((if n < 0 then ['-'] else []) ++ Nat.toDigits 10 n.natAbs)

theorem toInt_of_word? {n : Int} {w : Int64} (h : word? n = some w) : w.toInt = n := by
  unfold word? at h
  split at h
  · next hr =>
    have hlt : n < 2 ^ 63 := Int.lt_of_le_sub_one (Int64.toInt_maxValue ▸ hr.2)
    cases h
    exact Int64.toInt_ofInt_of_le (Int64.toInt_minValue ▸ hr.1) hlt
  · simp at h

theorem word?_toInt (w : Int64) : word? w.toInt = some w := by
  rw [word?, if_pos ⟨w.minValue_le_toInt, w.toInt_le⟩, Int64.ofInt_toInt]

end Number
end TrackSearch
