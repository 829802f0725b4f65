/-
Sets of fields under any history of changes.

A history begins with a word that can have any bits, and goes on with sets that are given by names:
each of them is combined with the set that is there, or the complement of that set is taken.  There
are three accounts of it.  `after` follows the set, `wordAfter` the bits of a word, and `isMember`
follows one field at a time and knows of no sets.  One change keeps the three in agreement, which is
`exists_change_eq`, and `after_supports_isMember` says what this comes to for all of a history.
-/
import TrackSearch.Proofs.Catalog.Flags
import TrackSearch.Proofs.Catalog.NamedSet

namespace TrackSearch
namespace FieldSet

inductive Change
  | combine (how : Combination) (names : List String)
  | complement
  deriving DecidableEq, Repr

namespace Change

def names : Change → List String
  | combine _ names => names
  | complement => []

/-- Whether all names of a change are names of fields. -/
def IsNamed (change : Change) : Prop :=
  ∀ name ∈ change.names, ∃ f : Field, f.GoesBy name

theorem isNamed_iff {change : Change} :
    change.IsNamed ↔ ∀ name ∈ change.names, (Field.ofName? name).isSome = true := by
  simp only [IsNamed, Option.isSome_iff_exists, Field.ofName?_eq_some_iff]

instance (change : Change) : Decidable change.IsNamed :=
  decidable_of_iff _ isNamed_iff.symm

end Change

/-! ## Three accounts -/

def change (s : FieldSet) : Change → Except SearchError FieldSet
  | .combine how names => (ofNames names).map fun t => how.ofSets s t
  | .complement => .ok s.compl

/-- The set behind some changes of the set of a word. -/
def after (start : UInt32) (changes : List Change) : Except SearchError FieldSet :=
  changes.foldlM change (ofWord start)

def addFlag (w : UInt32) (name : String) : Except SearchError UInt32 :=
  match Field.ofName? name with
  | some f => .ok (w ||| f.flag)
  | none => .error (.unknownField name)

def changeWord (w : UInt32) : Change → Except SearchError UInt32
  | .combine how names => (names.foldlM addFlag 0).map fun v => how.ofWords w v
  | .complement => .ok (cutToFlags (~~~w))

/-- The word behind some changes. -/
def wordAfter (start : UInt32) (changes : List Change) : Except SearchError UInt32 :=
  changes.foldlM changeWord (cutToFlags start)

/-- Whether a field is in the set behind a change, given whether it was in it before. -/
def Change.leaves (f : Field) (before : Bool) : Change → Bool
  | .combine how names => how.ofMembers before (names.any fun name => f.GoesBy name)
  | .complement => !before

def isMember (start : UInt32) (changes : List Change) (f : Field) : Bool :=
  changes.foldl (fun before change => change.leaves f before) (start.toNat.testBit f.index)

/-! ## One change -/

theorem foldlM_addFlag (s : FieldSet) (names : List String) :
    names.foldlM addFlag s.toWord = (names.foldlM addName s).map toWord := by
  induction names generalizing s with
  | nil => rfl
  | cons name names ih =>
    rw [List.foldlM_cons, List.foldlM_cons, addFlag, addName]
    cases Field.ofName? name with
    | none => rfl
    | some f =>
      have hunion : (s.union (single f)).toWord = s.toWord ||| f.flag := by
        rw [← toWord_single]
        exact Combination.toWord_ofSets .union s (single f)
      show names.foldlM addFlag (s.toWord ||| f.flag) = _
      rw [← hunion]
      exact ih (s.union (single f))

theorem supports_eq_any {t : FieldSet} {names : List String} (h : ofNames names = .ok t)
    (f : Field) : t.supports f = names.any fun name => f.GoesBy name := by
  rw [Bool.eq_iff_iff, isNamedBy_of_ofNames h f, List.any_eq_true]
  simp only [decide_eq_true_eq]

/-- A change goes the same way in all three accounts. -/
theorem exists_change_eq (s : FieldSet) {c : Change} (hnames : c.IsNamed) :
    ∃ t, s.change c = .ok t ∧ changeWord s.toWord c = .ok t.toWord ∧
      ∀ f, t.supports f = c.leaves f (s.supports f) := by
  cases c with
  | combine how names =>
    obtain ⟨t, ht⟩ : ∃ t, ofNames names = .ok t := exists_ofNames_eq hnames
    have hword : names.foldlM addFlag 0 = .ok t.toWord := by
      have hfold := foldlM_addFlag empty names
      rw [← ofNames_eq_foldlM, ht] at hfold
      exact hfold
    refine ⟨how.ofSets s t, by rw [change, ht]; rfl, ?_, fun f => ?_⟩
    · rw [changeWord, hword, Combination.toWord_ofSets]
      rfl
    · rw [Combination.supports_ofSets, supports_eq_any ht]
      rfl
  | complement =>
    refine ⟨s.compl, rfl, ?_, fun f => ?_⟩
    · rw [changeWord, toWord_compl]
    · rw [supports_compl]
      rfl

/-! ## All changes -/

theorem exists_foldlM_change_eq (s : FieldSet) {changes : List Change}
    (hnames : ∀ c ∈ changes, c.IsNamed) :
    ∃ t, changes.foldlM change s = .ok t ∧ changes.foldlM changeWord s.toWord = .ok t.toWord ∧
      ∀ f, t.supports f = changes.foldl (fun before c => c.leaves f before) (s.supports f) := by
  induction changes generalizing s with
  | nil => exact ⟨s, rfl, rfl, fun f => rfl⟩
  | cons c changes ih =>
    obtain ⟨hc, hchanges⟩ := List.forall_mem_cons.mp hnames
    obtain ⟨u, hu, huword, huleaves⟩ := s.exists_change_eq hc
    obtain ⟨t, ht, htword, htleaves⟩ := ih u hchanges
    refine ⟨t, ?_, ?_, fun f => ?_⟩
    · rw [List.foldlM_cons, hu]
      exact ht
    · rw [List.foldlM_cons, huword]
      exact htword
    · rw [List.foldl_cons, ← huleaves f]
      exact htleaves f

theorem supports_ofWord (w : UInt32) (f : Field) :
    (ofWord w).supports f = w.toNat.testBit f.index := by
  rw [supports_eq_getLsbD, ofWord, BitVec.getLsbD_setWidth]
  simp [f.index_lt, BitVec.getLsbD]

/-- Behind every history there is a set, and the same history of words leads to its word, in which
no bit is set but flags and which answers every question as the set does.  The set has the fields
that the memberships come to, and lists them in the order of all fields.  It is equal to another set
if the two have the same fields, it contains one if it has all of its fields, and it intersects one
if it has some of them.  As every beginning of a history is a history, this holds after each
change. -/
theorem after_supports_isMember (start : UInt32) {changes : List Change}
    (hnames : ∀ c ∈ changes, c.IsNamed) :
    ∃ s w, after start changes = .ok s ∧ wordAfter start changes = .ok w ∧ s.HasWord w ∧
      (∀ f, s.supports f = isMember start changes f) ∧
      s.toList = Field.all.filter (isMember start changes) ∧
      ∀ t : FieldSet, (s = t ↔ ∀ f, s.supports f = t.supports f) ∧
        (s.contains t = true ↔ ∀ f, t.supports f = true → s.supports f = true) ∧
        (s.intersects t = true ↔ ∃ f, s.supports f = true ∧ t.supports f = true) := by
  obtain ⟨s, hs, hword, hmembers⟩ := exists_foldlM_change_eq (ofWord start) hnames
  have hmember (f : Field) : s.supports f = isMember start changes f := by
    rw [hmembers, supports_ofWord]
    rfl
  rw [toWord_ofWord] at hword
  refine ⟨s, s.toWord, hs, hword, s.hasWord_toWord, hmember, ?_, fun t => ⟨?_, ?_, ?_⟩⟩
  · rw [toList]
    exact List.filter_congr fun f _ => hmember f
  · constructor
    · rintro rfl f
      rfl
    · intro h
      exact eq_of_supports_iff fun f => by rw [h f]
  · exact contains_iff
  · exact intersects_iff

/-- A word of ones, of which the flags count and no other bit, and a field under two names. -/
theorem after_supports_isMember_allBits :
    (∀ c ∈ [Change.combine .diff ["size", "Played"], .complement,
        .combine .symmDiff ["title", "FileSize"]], c.IsNamed) ∧
      ∃ s, after 0xFFFFFFFF [.combine .diff ["size", "Played"], .complement,
          .combine .symmDiff ["title", "FileSize"]] = .ok s ∧
        s.HasWord 0x400002 ∧ s.toList = [.title, .lastPlayed] := by
  have hnames : ∀ c ∈ [Change.combine .diff ["size", "Played"], .complement,
      .combine .symmDiff ["title", "FileSize"]], c.IsNamed := by decide +kernel
  have hword : wordAfter 0xFFFFFFFF [.combine .diff ["size", "Played"], .complement,
      .combine .symmDiff ["title", "FileSize"]] = .ok 0x400002 := by decide +kernel
  obtain ⟨s, w, hs, hw, hanswers, -, hlist, -⟩ := after_supports_isMember 0xFFFFFFFF hnames
  cases hword.symm.trans hw
  refine ⟨hnames, s, hs, hanswers, hlist.trans ?_⟩
  decide +kernel

end FieldSet
end TrackSearch
