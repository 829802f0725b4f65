/-
The names of fields.  No name is one of two fields, so a typed name stands for one field at most,
whatever its letter case is, and looking it up finds that field.
-/
import TrackSearch.Catalog.Field

namespace TrackSearch
namespace Field

/-- Whether a typed name stands for a field: in lower case it is one of the names of the field. -/
def GoesBy (f : Field) (typed : String) : Prop :=
  Text.lower typed ∈ f.names

instance (f : Field) (typed : String) : Decidable (f.GoesBy typed) :=
  inferInstanceAs (Decidable (_ ∈ _))

theorem goesBy_name (f : Field) : f.GoesBy f.name := by
  cases f <;> decide +kernel

theorem eq_of_mem_names {f g : Field} {n : String} (hf : n ∈ f.names) (hg : n ∈ g.names) :
    f = g := by
  have hnames : ∀ f ∈ all, ∀ n ∈ f.names, ∀ g ∈ all, n ∈ g.names → f = g := by
    decide +kernel
  exact hnames f f.mem_all n hf g g.mem_all hg

theorem goesBy_of_ofName? {typed : String} {f : Field} (h : ofName? typed = some f) :
    f.GoesBy typed := by
  rw [ofName?, List.find?_eq_some_iff_append] at h
  exact List.contains_iff_mem.mp h.1

theorem ofName?_eq_some_iff {typed : String} {f : Field} :
    ofName? typed = some f ↔ f.GoesBy typed := by
  constructor
  · exact goesBy_of_ofName?
  · intro h
    have hfound : (ofName? typed).isSome :=
      List.find?_isSome.mpr ⟨f, f.mem_all, List.contains_iff_mem.mpr h⟩
    obtain ⟨g, hg⟩ := Option.isSome_iff_exists.mp hfound
    rw [hg, eq_of_mem_names (goesBy_of_ofName? hg) h]

theorem ofName?_eq_none_iff {typed : String} :
    ofName? typed = none ↔ ∀ f : Field, ¬f.GoesBy typed := by
  simp only [Option.eq_none_iff_forall_ne_some, ne_eq, ofName?_eq_some_iff]

end Field
end TrackSearch
