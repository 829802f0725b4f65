/-
Sets of fields, one bit to a field.  A set of 25 bits has no room for a bit that is no field, so
every operation on the bits is an operation on sets of fields.
-/
import TrackSearch.Error

namespace TrackSearch

/-- A set of fields: bit `f.index` says whether `f` is in it. -/
structure FieldSet where
  bits : BitVec 25
  deriving DecidableEq, Repr

namespace FieldSet

def empty : FieldSet := ⟨0⟩

def full : FieldSet := ⟨BitVec.allOnes 25⟩

def single (f : Field) : FieldSet := ⟨BitVec.twoPow 25 f.index⟩

/-- The set of a word, whose bits past the last field are dropped. -/
def ofWord (w : UInt32) : FieldSet := ⟨BitVec.setWidth 25 w.toBitVec⟩

/-- The word whose bits are those of the set. -/
def toNat (s : FieldSet) : Nat := s.bits.toNat

def union (s t : FieldSet) : FieldSet := ⟨s.bits ||| t.bits⟩

def inter (s t : FieldSet) : FieldSet := ⟨s.bits &&& t.bits⟩

def diff (s t : FieldSet) : FieldSet := ⟨s.bits &&& ~~~ t.bits⟩

def symmDiff (s t : FieldSet) : FieldSet := ⟨s.bits ^^^ t.bits⟩

def compl (s : FieldSet) : FieldSet := ⟨~~~ s.bits⟩

def contains (s t : FieldSet) : Bool := s.bits &&& t.bits == t.bits

def intersects (s t : FieldSet) : Bool := s.bits &&& t.bits != 0

def supports (s : FieldSet) (f : Field) : Bool := s.contains (single f)

def toList (s : FieldSet) : List Field := Field.all.filter s.supports

/-- The set of the fields that go by the given names. -/
def ofNames (names : List String) : Except SearchError FieldSet :=
  names.foldlM (fun s name =>
    match Field.ofName? name with
    | some f => .ok (s.union (single f))
    | none => .error (.unknownField name)) empty

end FieldSet

end TrackSearch
