/-
The names of file types and the codes that they are stored by.

A typed name stands for the known type that has it in lower case, and any other name for the unknown
type.  So the code of a typed name is the one beside it in the table of codes, or 0
(`code_ofName`).
-/
import TrackSearch.Catalog.FileType
import TrackSearch.Proofs.Number.Word

namespace TrackSearch
namespace FileType

/-- The names of the known types with their codes. -/
def codeTable : List (String × Nat) :=
  [("mp3", 1), ("ogg", 2), ("flac", 3), ("mp4", 4), ("wma", 5), ("aiff", 6), ("mpc", 7),
    ("tta", 8), ("wav", 9), ("wv", 10), ("m4a", 11), ("m4v", 12), ("mod", 13), ("s3m", 14),
    ("it", 15), ("xm", 16), ("spx", 17), ("opus", 18)]

theorem map_known : known.map (fun t => (t.name, t.code)) = codeTable := by
  decide

theorem mem_known_iff {t : FileType} : t ∈ known ↔ t ≠ unknown := by
  cases t <;> decide

theorem code_injective {t u : FileType} (h : t.code = u.code) : t = u := by
  have hcodes : ∀ t ∈ unknown :: known, ∀ u ∈ unknown :: known, t.code = u.code → t = u := by
    decide
  have hmem (t : FileType) : t ∈ unknown :: known := by
    rw [List.mem_cons, mem_known_iff]
    exact Classical.em _
  exact hcodes t (hmem t) u (hmem u) h

theorem fitsWord_code (t : FileType) : Number.FitsWord t.code := by
  unfold Number.FitsWord
  cases t <;> decide

theorem eq_of_name_eq {t u : FileType} (ht : t ∈ known) (hu : u ∈ known) (h : t.name = u.name) :
    t = u := by
  have hnames : ∀ t ∈ known, ∀ u ∈ known, t.name = u.name → t = u := by
    decide
  exact hnames t ht u hu h

variable {typed : String} {t : FileType}

theorem ofName_eq_iff (ht : t ∈ known) : ofName typed = t ↔ Text.lower typed = t.name := by
  unfold ofName
  cases hfound : known.find? (fun t => t.name == Text.lower typed) with
  | none =>
    have hnone := List.find?_eq_none.mp hfound t ht
    rw [Option.getD_none]
    constructor
    · intro h
      exact absurd h.symm (mem_known_iff.mp ht)
    · intro h
      exact absurd (beq_iff_eq.mpr h.symm) hnone
  | some u =>
    have hu : u.name = Text.lower typed := by simpa using List.find?_some hfound
    have hmem := List.mem_of_find?_eq_some hfound
    rw [Option.getD_some, ← hu]
    exact ⟨fun h => by rw [h], fun h => eq_of_name_eq hmem ht h⟩

theorem ofName_eq_unknown_iff :
    ofName typed = unknown ↔ ∀ t ∈ known, Text.lower typed ≠ t.name := by
  constructor
  · intro h t ht hname
    rw [(ofName_eq_iff ht).mpr hname] at h
    exact mem_known_iff.mp ht h
  · intro h
    refine Decidable.byContradiction fun hne => ?_
    have hmem := mem_known_iff.mpr hne
    exact h _ hmem ((ofName_eq_iff hmem).mp rfl)

theorem ofName_name (t : FileType) : ofName t.name = t := by
  cases t <;> decide +kernel

theorem lookup_map_code (types : List FileType) (n : String) :
    (types.map fun t => (t.name, t.code)).lookup n =
      (types.find? fun t => t.name == n).map code := by
  induction types with
  | nil => rfl
  | cons t types ih =>
    rw [List.map_cons, List.lookup_cons, List.find?_cons, ih, BEq.comm]
    cases t.name == n <;> rfl

/-- A typed name stands for the code beside it in the table, in any letter case, and for 0 if the
table does not have it. -/
theorem code_ofName (typed : String) :
    (ofName typed).code = (codeTable.lookup (Text.lower typed)).getD 0 := by
  rw [← map_known, lookup_map_code, ofName]
  cases known.find? fun t => t.name == Text.lower typed <;> rfl

end FileType
end TrackSearch
