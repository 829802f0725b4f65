/-
Sets of fields that are given by names.

The names are taken one by one, and the first that no field goes by ends this with a fault:
`ofNames_outcome` says which of the two happens and what comes of it.  The rest follows from it, as
sets with the same fields are the same.
-/
import TrackSearch.Proofs.Catalog.FieldName
import TrackSearch.Proofs.Catalog.FieldSet

namespace TrackSearch
namespace FieldSet

variable {names : List String} {name : String} {f : Field}

/-! ## One name after the other -/

theorem union_assoc (s t u : FieldSet) : (s.union t).union u = s.union (t.union u) := by
  refine eq_of_supports_iff fun f => ?_
  simp only [supports_union, or_assoc]

theorem empty_union (s : FieldSet) : empty.union s = s := by
  refine eq_of_supports_iff fun f => ?_
  simp [supports_union, supports_empty]

theorem union_empty (s : FieldSet) : s.union empty = s := by
  refine eq_of_supports_iff fun f => ?_
  simp [supports_union, supports_empty]

/-- The set with the field of a name put into it. -/
def addName (s : FieldSet) (name : String) : Except SearchError FieldSet :=
  match Field.ofName? name with
  | some f => .ok (s.union (single f))
  | none => .error (.unknownField name)

theorem ofNames_eq_foldlM (names : List String) : ofNames names = names.foldlM addName empty := rfl

theorem addName_of_goesBy (s : FieldSet) (h : f.GoesBy name) :
    s.addName name = .ok (s.union (single f)) := by
  rw [addName, Field.ofName?_eq_some_iff.mpr h]

theorem addName_of_unknown (s : FieldSet) (h : ∀ f : Field, ¬f.GoesBy name) :
    s.addName name = .error (.unknownField name) := by
  rw [addName, Field.ofName?_eq_none_iff.mpr h]

theorem foldlM_addName (s : FieldSet) (names : List String) :
    names.foldlM addName s = (ofNames names).map s.union := by
  induction names generalizing s with
  | nil => exact congrArg Except.ok s.union_empty.symm
  | cons name names ih =>
    rw [ofNames_eq_foldlM, List.foldlM_cons, List.foldlM_cons]
    by_cases hname : ∃ f : Field, f.GoesBy name
    · obtain ⟨f, hf⟩ := hname
      rw [addName_of_goesBy s hf, addName_of_goesBy empty hf]
      show names.foldlM addName _ = (names.foldlM addName _).map _
      rw [ih, ih (empty.union _), empty_union]
      cases ofNames names with
      | error e => rfl
      | ok t => exact congrArg Except.ok (union_assoc s (single f) t)
    · have hunknown := not_exists.mp hname
      rw [addName_of_unknown s hunknown, addName_of_unknown empty hunknown]
      rfl

theorem ofNames_cons_of_goesBy (h : f.GoesBy name) (names : List String) :
    ofNames (name :: names) = (ofNames names).map (single f).union := by
  rw [ofNames_eq_foldlM, List.foldlM_cons, addName_of_goesBy empty h, empty_union]
  exact foldlM_addName (single f) names

theorem ofNames_cons_of_unknown (h : ∀ f : Field, ¬f.GoesBy name) (names : List String) :
    ofNames (name :: names) = .error (.unknownField name) := by
  rw [ofNames_eq_foldlM, List.foldlM_cons, addName_of_unknown empty h]
  rfl

/-! ## All names -/

/-- Whether a set has the fields of some names and no others. -/
def IsNamedBy (s : FieldSet) (names : List String) : Prop :=
  ∀ f : Field, s.supports f = true ↔ ∃ name ∈ names, f.GoesBy name

/-- Whether a fault is that of the first name that no field goes by. -/
def IsFirstFault (names : List String) (error : SearchError) : Prop :=
  ∃ front name back, names = front ++ name :: back ∧ (∀ n ∈ front, ∃ f : Field, f.GoesBy n) ∧
    (∀ f : Field, ¬f.GoesBy name) ∧ error = .unknownField name

theorem ofNames_outcome (names : List String) :
    (∃ s, ofNames names = .ok s ∧ s.IsNamedBy names ∧ ∀ name ∈ names, ∃ f : Field, f.GoesBy name) ∨
      ∃ error, ofNames names = .error error ∧ IsFirstFault names error := by
  induction names with
  | nil => exact Or.inl ⟨empty, rfl, fun f => by simp [supports_empty], nofun⟩
  | cons name names ih =>
    by_cases hname : ∃ f : Field, f.GoesBy name
    · obtain ⟨f, hf⟩ := hname
      have hcons := ofNames_cons_of_goesBy hf names
      rcases ih with ⟨s, hs, hnamed, hall⟩ | ⟨error, herror, front, bad, back, rfl, hfront, hbad⟩
      · rw [hs] at hcons
        refine Or.inl ⟨_, hcons, fun g => ?_, List.forall_mem_cons.mpr ⟨⟨f, hf⟩, hall⟩⟩
        have hgoes : g = f ↔ g.GoesBy name :=
          ⟨fun h => h ▸ hf, fun h => Field.eq_of_mem_names h hf⟩
        rw [supports_union, supports_single, hnamed g, hgoes]
        simp
      · rw [herror] at hcons
        exact Or.inr ⟨error, hcons, name :: front, bad, back, rfl,
          List.forall_mem_cons.mpr ⟨⟨f, hf⟩, hfront⟩, hbad⟩
    · have hunknown := not_exists.mp hname
      exact Or.inr ⟨_, ofNames_cons_of_unknown hunknown names, [], name, names, rfl, nofun,
        hunknown, rfl⟩

theorem isNamedBy_of_ofNames {s : FieldSet} (h : ofNames names = .ok s) : s.IsNamedBy names := by
  rcases ofNames_outcome names with ⟨t, ht, hnamed, -⟩ | ⟨error, herror, -⟩
  · cases ht.symm.trans h
    exact hnamed
  · cases h.symm.trans herror

theorem isFirstFault_of_ofNames {error : SearchError} (h : ofNames names = .error error) :
    IsFirstFault names error := by
  rcases ofNames_outcome names with ⟨s, hs, -, -⟩ | ⟨error', herror, hfirst⟩
  · cases hs.symm.trans h
  · cases herror.symm.trans h
    exact hfirst

theorem exists_ofNames_eq (h : ∀ name ∈ names, ∃ f : Field, f.GoesBy name) :
    ∃ s, ofNames names = .ok s := by
  rcases ofNames_outcome names with ⟨s, hs, -, -⟩ | ⟨_, -, front, bad, back, rfl, -, hbad, -⟩
  · exact ⟨s, hs⟩
  · obtain ⟨f, hf⟩ := h bad (by simp)
    exact absurd hf (hbad f)

theorem eq_of_isNamedBy {s t : FieldSet} {names names' : List String} (hs : s.IsNamedBy names)
    (ht : t.IsNamedBy names')
    (h : ∀ f : Field, (∃ n ∈ names, f.GoesBy n) ↔ ∃ n ∈ names', f.GoesBy n) : s = t :=
  eq_of_supports_iff fun f => (hs f).trans ((h f).trans (ht f).symm)

theorem ofNames_append (names names' : List String) :
    ofNames (names ++ names') = (do
      let s ← ofNames names
      let t ← ofNames names'
      return s.union t) := by
  rw [ofNames_eq_foldlM, List.foldlM_append, ← ofNames_eq_foldlM]
  show (ofNames names).bind (names'.foldlM addName) = (ofNames names).bind _
  congr 1
  funext s
  rw [foldlM_addName]
  cases ofNames names' with
  | error e => rfl
  | ok t => rfl

/-- The names of the fields of a set give the set. -/
theorem ofNames_toList (s : FieldSet) : ofNames (s.toList.map Field.name) = .ok s := by
  have hgoes (f : Field) : (∃ n ∈ s.toList.map Field.name, f.GoesBy n) ↔ s.supports f = true := by
    rw [← mem_toList]
    constructor
    · rintro ⟨n, hn, hf⟩
      obtain ⟨g, hg, rfl⟩ := List.mem_map.mp hn
      rwa [Field.eq_of_mem_names hf g.goesBy_name]
    · intro hf
      exact ⟨f.name, List.mem_map_of_mem hf, f.goesBy_name⟩
  have hnames : ∀ name ∈ s.toList.map Field.name, ∃ f : Field, f.GoesBy name :=
    List.forall_mem_map.mpr fun f _ => ⟨f, f.goesBy_name⟩
  obtain ⟨t, ht⟩ := exists_ofNames_eq hnames
  rw [ht, eq_of_supports_iff fun f => (isNamedBy_of_ofNames ht f).trans (hgoes f)]

/-- A set that is given by names has the fields that go by them.  There is none just when no field
goes by one of the names, and the first such name is the fault.  So other names for the same fields
give the same set, names behind others give the union, and the set is given by the names of its
fields, which are listed once each in the order of all fields. -/
theorem ofNames_isNamedBy (names : List String) :
    ((∃ error, ofNames names = .error error) ↔ ∃ name ∈ names, ∀ f : Field, ¬f.GoesBy name) ∧
      (∀ error, ofNames names = .error error → IsFirstFault names error) ∧
      (∀ s, ofNames names = .ok s → s.IsNamedBy names ∧
        (∀ names', (∀ name ∈ names', ∃ f : Field, f.GoesBy name) →
          (∀ f : Field, (∃ n ∈ names, f.GoesBy n) ↔ ∃ n ∈ names', f.GoesBy n) →
          ofNames names' = .ok s) ∧
        s.toList.Sublist Field.all ∧ s.toList.Nodup ∧
        (∀ f, f ∈ s.toList ↔ ∃ n ∈ names, f.GoesBy n) ∧
        ofNames (s.toList.map Field.name) = .ok s) ∧
      (∀ names', ofNames (names ++ names') = do
        let s ← ofNames names
        let t ← ofNames names'
        return s.union t) ∧
      ∀ (s t : FieldSet) (f : Field),
        (s.union t).supports f = true ↔ s.supports f = true ∨ t.supports f = true := by
  refine ⟨?_, fun _ => isFirstFault_of_ofNames, fun s hs => ?_, ofNames_append names,
    fun s t f => supports_union⟩
  · rcases ofNames_outcome names with
      ⟨s, hs, -, hall⟩ | ⟨error, herror, front, bad, back, hnames, -, hbad, -⟩
    · constructor
      · rintro ⟨error, herror⟩
        cases hs.symm.trans herror
      · rintro ⟨name, hname, hunknown⟩
        obtain ⟨f, hf⟩ := hall name hname
        exact absurd hf (hunknown f)
    · exact ⟨fun _ => ⟨bad, by simp [hnames], hbad⟩, fun _ => ⟨error, herror⟩⟩
  · have hnamed := isNamedBy_of_ofNames hs
    refine ⟨hnamed, fun names' hall hsame => ?_, List.filter_sublist, nodup_toList s, fun f => ?_,
      ofNames_toList s⟩
    · obtain ⟨t, ht⟩ := exists_ofNames_eq hall
      rw [ht, eq_of_isNamedBy hnamed (isNamedBy_of_ofNames ht) hsame]
    · rw [mem_toList, hnamed f]

/-- Two fields under several of their names, and a name that is none behind one that is. -/
theorem ofNames_isNamedBy_aliases :
    ofNames ["Played", "SIZE"] = .ok ((single .lastPlayed).union (single .fileSize)) ∧
      ofNames ["filesize", "lastPlayed", "size"] = ofNames ["Played", "SIZE"] ∧
      ∃ error, ofNames ["size", "Sizes", "?"] = .error error ∧
        IsFirstFault ["size", "Sizes", "?"] error := by
  have hok : ofNames ["Played", "SIZE"] = .ok ((single .lastPlayed).union (single .fileSize)) := by
    decide +kernel
  have hbad : ∃ name ∈ ["size", "Sizes", "?"], ∀ f : Field, ¬f.GoesBy name := by
    refine ⟨"Sizes", by simp, fun f => ?_⟩
    cases f <;> decide +kernel
  obtain ⟨-, -, hset, -⟩ := ofNames_isNamedBy ["Played", "SIZE"]
  obtain ⟨hfault, hfirst, -⟩ := ofNames_isNamedBy ["size", "Sizes", "?"]
  obtain ⟨-, hsame, -⟩ := hset _ hok
  obtain ⟨error, herror⟩ := hfault.mpr hbad
  have hnames : ∀ name ∈ ["filesize", "lastPlayed", "size"], ∃ f : Field, f.GoesBy name := by
    intro name hname
    simp only [List.mem_cons, List.not_mem_nil, or_false] at hname
    rcases hname with rfl | rfl | rfl
    · exact ⟨.fileSize, by decide +kernel⟩
    · exact ⟨.lastPlayed, by decide +kernel⟩
    · exact ⟨.fileSize, by decide +kernel⟩
  refine ⟨hok, (hsame _ hnames fun f => ?_).trans hok.symm, error, herror, hfirst error herror⟩
  cases f <;> decide +kernel

end FieldSet
end TrackSearch
