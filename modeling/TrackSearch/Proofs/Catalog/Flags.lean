/-
Sets of fields as words.

A word of 32 bits holds a set in its flags, one bit to a field, and its other bits are unused.  The
ways to combine two sets are those to combine the bits of their words.  The complement of a word has
the unused bits set, so it is cut to the flags, as a word that comes from outside is.  Then a set
and its word have the same bits at all places, which is `getLsbD_toWord`, and all else in this file
follows from that.
-/
import TrackSearch.Proofs.Catalog.FieldSet

namespace TrackSearch
namespace FieldSet

/-! ## Flags -/

/-- The flags, one to a field in the order of all fields. -/
def flags : List UInt32 :=
  (List.range 25).map fun i => 1 <<< UInt32.ofNat i

/-- The word in which the flags are set and nothing else is. -/
def allFlags : UInt32 :=
  flags.foldl (fun w flag => w ||| flag) 0

/-- The word without its unused bits. -/
def cutToFlags (w : UInt32) : UInt32 :=
  w &&& allFlags

end FieldSet

/-- The bit whose number is the place of the field. -/
def Field.flag (f : Field) : UInt32 :=
  FieldSet.cutToFlags (1 <<< UInt32.ofNat f.index)

-- The flags of the fields are all flags there are, and no two of them are the same.
example : Field.all.map Field.flag = FieldSet.flags ∧ FieldSet.flags.Nodup := by decide +kernel

namespace FieldSet

theorem getLsbD_allFlags (i : Nat) : allFlags.toBitVec.getLsbD i = decide (i < 25) := by
  have hall : allFlags.toBitVec = (BitVec.allOnes 25).setWidth 32 := by decide +kernel
  rw [hall, BitVec.getLsbD_setWidth, BitVec.getLsbD_allOnes, ← Bool.decide_and, decide_eq_decide]
  omega

theorem getLsbD_cutToFlags (w : UInt32) (i : Nat) :
    (cutToFlags w).toBitVec.getLsbD i = (decide (i < 25) && w.toBitVec.getLsbD i) := by
  rw [cutToFlags, UInt32.toBitVec_and, BitVec.getLsbD_and, getLsbD_allFlags, Bool.and_comm]

/-! ## The word of a set -/

def toWord (s : FieldSet) : UInt32 :=
  UInt32.ofNat s.toNat

variable {s t : FieldSet}

theorem getLsbD_toWord (s : FieldSet) (i : Nat) :
    s.toWord.toBitVec.getLsbD i = s.bits.getLsbD i := by
  have hbits : s.toWord.toBitVec = s.bits.setWidth 32 := BitVec.ofNat_toNat 32 s.bits
  rw [hbits, BitVec.getLsbD_setWidth]
  by_cases hi : i < 32
  · simp [hi]
  · simp [hi, BitVec.getLsbD_of_ge s.bits i (by omega)]

theorem toWord_eq_of_getLsbD {w : UInt32}
    (h : ∀ i < 32, s.bits.getLsbD i = w.toBitVec.getLsbD i) : s.toWord = w := by
  refine UInt32.eq_of_toBitVec_eq (BitVec.eq_of_getLsbD_eq fun i hi => ?_)
  rw [getLsbD_toWord, h i hi]

theorem toWord_injective (h : s.toWord = t.toWord) : s = t := by
  refine eq_of_supports_iff fun f => ?_
  rw [supports_iff, supports_iff, ← getLsbD_toWord, h, getLsbD_toWord]

theorem toNat_toWord (s : FieldSet) : s.toWord.toNat = s.toNat := by
  have hlt : s.toNat < 33554432 := s.bits.isLt
  exact UInt32.toNat_ofNat_of_lt' (Nat.lt_trans hlt (by decide))

theorem toWord_ofWord (w : UInt32) : (ofWord w).toWord = cutToFlags w := by
  refine toWord_eq_of_getLsbD fun i _ => ?_
  rw [getLsbD_cutToFlags]
  exact BitVec.getLsbD_setWidth 25 w.toBitVec i

theorem toWord_single (f : Field) : (single f).toWord = f.flag := by
  cases f <;> decide +kernel

theorem toWord_compl (s : FieldSet) : s.compl.toWord = cutToFlags (~~~s.toWord) := by
  refine toWord_eq_of_getLsbD fun i hi => ?_
  rw [getLsbD_cutToFlags, UInt32.toBitVec_not, BitVec.getLsbD_not, getLsbD_toWord, compl,
    BitVec.getLsbD_not]
  simp [hi]

theorem toWord_and_not_allFlags (s : FieldSet) : s.toWord &&& ~~~allFlags = 0 := by
  refine UInt32.eq_of_toBitVec_eq (BitVec.eq_of_getLsbD_eq fun i hi => ?_)
  rw [UInt32.toBitVec_and, UInt32.toBitVec_not, BitVec.getLsbD_and, BitVec.getLsbD_not,
    getLsbD_toWord, getLsbD_allFlags]
  by_cases hflag : i < 25
  · simp [hflag]
  · simp [BitVec.getLsbD_of_ge s.bits i (by omega)]

/-! ## Combinations -/

/-- A way to make one set out of two. -/
inductive Combination
  | union | inter | diff | symmDiff
  deriving DecidableEq, Repr

namespace Combination

def ofSets (s t : FieldSet) : Combination → FieldSet
  | union => s.union t
  | inter => s.inter t
  | diff => s.diff t
  | symmDiff => s.symmDiff t

/-- The same for words, bit by bit. -/
def ofWords (v w : UInt32) : Combination → UInt32
  | union => v ||| w
  | inter => v &&& w
  | diff => v &&& ~~~w
  | symmDiff => v ^^^ w

/-- Whether something is in the new set, given whether it is in the one and in the other. -/
def ofMembers (a b : Bool) : Combination → Bool
  | union => a || b
  | inter => a && b
  | diff => a && !b
  | symmDiff => a ^^ b

theorem getLsbD_and_not {n : Nat} (x y : BitVec n) (i : Nat) :
    (x &&& ~~~y).getLsbD i = (x.getLsbD i && !y.getLsbD i) := by
  rw [BitVec.getLsbD_and, BitVec.getLsbD_not]
  by_cases hi : i < n
  · simp [hi]
  · simp [BitVec.getLsbD_of_ge x i (by omega)]

theorem getLsbD_ofSets (how : Combination) (s t : FieldSet) (i : Nat) :
    (how.ofSets s t).bits.getLsbD i = how.ofMembers (s.bits.getLsbD i) (t.bits.getLsbD i) := by
  cases how with
  | union => exact BitVec.getLsbD_or
  | inter => exact BitVec.getLsbD_and
  | diff => exact getLsbD_and_not s.bits t.bits i
  | symmDiff => exact BitVec.getLsbD_xor

theorem getLsbD_ofWords (how : Combination) (v w : UInt32) (i : Nat) :
    (how.ofWords v w).toBitVec.getLsbD i =
      how.ofMembers (v.toBitVec.getLsbD i) (w.toBitVec.getLsbD i) := by
  cases how with
  | union => exact BitVec.getLsbD_or
  | inter => exact BitVec.getLsbD_and
  | diff => exact getLsbD_and_not v.toBitVec w.toBitVec i
  | symmDiff => exact BitVec.getLsbD_xor

theorem supports_ofSets (how : Combination) (s t : FieldSet) (f : Field) :
    (how.ofSets s t).supports f = how.ofMembers (s.supports f) (t.supports f) := by
  simp only [supports_eq_getLsbD, getLsbD_ofSets]

theorem toWord_ofSets (how : Combination) (s t : FieldSet) :
    (how.ofSets s t).toWord = how.ofWords s.toWord t.toWord := by
  refine toWord_eq_of_getLsbD fun i _ => ?_
  rw [getLsbD_ofWords, getLsbD_ofSets, getLsbD_toWord, getLsbD_toWord]

end Combination

/-! ## Questions -/

/-- Whether a word is that of a set and answers as the set does all that can be asked of it. -/
structure HasWord (s : FieldSet) (w : UInt32) : Prop where
  toNat_eq : w.toNat = s.toNat
  unused : w &&& ~~~allFlags = 0
  supports : ∀ f : Field, s.supports f = (w &&& f.flag == f.flag)
  eq_iff : ∀ t : FieldSet, s = t ↔ w = t.toWord
  contains : ∀ t : FieldSet, s.contains t = (w &&& t.toWord == t.toWord)
  intersects : ∀ t : FieldSet, s.intersects t = (w &&& t.toWord != 0)

theorem toWord_inj : s.toWord = t.toWord ↔ s = t :=
  ⟨toWord_injective, congrArg toWord⟩

theorem toWord_inter (s t : FieldSet) : (s.inter t).toWord = s.toWord &&& t.toWord :=
  Combination.toWord_ofSets .inter s t

theorem contains_eq (s t : FieldSet) :
    s.contains t = (s.toWord &&& t.toWord == t.toWord) := by
  have hbits : s.inter t = t ↔ s.bits &&& t.bits = t.bits :=
    ⟨congrArg bits, congrArg FieldSet.mk⟩
  rw [contains, ← toWord_inter, Bool.eq_iff_iff, beq_iff_eq, beq_iff_eq, toWord_inj, hbits]

theorem intersects_eq (s t : FieldSet) : s.intersects t = (s.toWord &&& t.toWord != 0) := by
  have hbits : s.inter t = empty ↔ s.bits &&& t.bits = 0 :=
    ⟨congrArg bits, congrArg FieldSet.mk⟩
  have hempty : (0 : UInt32) = empty.toWord := rfl
  rw [intersects, ← toWord_inter, hempty, Bool.eq_iff_iff, bne_iff_ne, bne_iff_ne, ne_eq, ne_eq,
    toWord_inj, hbits]

theorem hasWord_toWord (s : FieldSet) : s.HasWord s.toWord where
  toNat_eq := s.toNat_toWord
  unused := s.toWord_and_not_allFlags
  supports f := by rw [supports, contains_eq, toWord_single]
  eq_iff _ := toWord_inj.symm
  contains := s.contains_eq
  intersects := s.intersects_eq

end FieldSet
end TrackSearch
