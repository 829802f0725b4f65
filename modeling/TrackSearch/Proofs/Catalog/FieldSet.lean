/-
Sets of fields as sets: a field is in a set when its bit is set, one set is contained in another
when all of its fields are, and sets with the same fields are the same.
-/
import Mathlib.Data.List.Nodup
import TrackSearch.Catalog.FieldSet

namespace TrackSearch

theorem Field.exists_index_eq {i : Nat} (h : i < 25) : ∃ f : Field, f.index = i := by
  have hmem : i ∈ all.map index := by
    rw [all_map_index]
    exact List.mem_range.mpr h
  obtain ⟨f, -, hf⟩ := List.mem_map.mp hmem
  exact ⟨f, hf⟩

theorem Field.index_injective {f g : Field} (h : f.index = g.index) : f = g := by
  have hnodup : (all.map index).Nodup := by
    rw [all_map_index]
    exact List.nodup_range
  exact List.inj_on_of_nodup_map hnodup f.mem_all g.mem_all h

theorem Field.nodup_all : all.Nodup := by
  decide

namespace FieldSet

theorem supports_iff {s : FieldSet} {f : Field} :
    s.supports f = true ↔ s.bits.getLsbD f.index = true := by
  have hindex := f.index_lt
  show (s.bits &&& BitVec.twoPow 25 f.index == BitVec.twoPow 25 f.index) = true ↔ _
  rw [beq_iff_eq, BitVec.and_twoPow]
  cases hbit : s.bits.getLsbD f.index with
  | true => simp
  | false =>
    have hne : BitVec.twoPow 25 f.index ≠ 0#25 := by
      intro h
      have hbits := congrArg (fun b => b.getLsbD f.index) h
      simp [hindex] at hbits
    simpa using hne.symm

theorem supports_eq_getLsbD (s : FieldSet) (f : Field) :
    s.supports f = s.bits.getLsbD f.index :=
  Bool.eq_iff_iff.mpr supports_iff

theorem contains_iff {s t : FieldSet} :
    s.contains t = true ↔ ∀ f, t.supports f = true → s.supports f = true := by
  simp only [contains, beq_iff_eq, supports_iff]
  constructor
  · intro h f hf
    rw [← h, BitVec.getLsbD_and, Bool.and_eq_true] at hf
    exact hf.1
  · intro h
    refine BitVec.eq_of_getLsbD_eq fun i hi => ?_
    obtain ⟨f, rfl⟩ := Field.exists_index_eq hi
    rw [BitVec.getLsbD_and]
    cases hf : t.bits.getLsbD f.index with
    | true => rw [h f hf]; rfl
    | false => exact Bool.and_false _

theorem intersects_iff {s t : FieldSet} :
    s.intersects t = true ↔ ∃ f, s.supports f = true ∧ t.supports f = true := by
  simp only [intersects, bne_iff_ne, supports_iff]
  constructor
  · intro h
    by_contra hnone
    refine h (BitVec.eq_of_getLsbD_eq fun i hi => ?_)
    obtain ⟨f, rfl⟩ := Field.exists_index_eq hi
    have hf : (s.bits.getLsbD f.index && t.bits.getLsbD f.index) = false :=
      Bool.eq_false_iff.mpr fun hf => hnone ⟨f, Bool.and_eq_true_iff.mp hf⟩
    rw [BitVec.getLsbD_and, hf]
    exact BitVec.getLsbD_zero.symm
  · rintro ⟨f, hs, ht⟩ h
    have hbit := congrArg (fun b => b.getLsbD f.index) h
    simp [hs, ht] at hbit

theorem eq_of_supports_iff {s t : FieldSet}
    (h : ∀ f, s.supports f = true ↔ t.supports f = true) : s = t := by
  obtain ⟨a⟩ := s
  obtain ⟨b⟩ := t
  congr 1
  refine BitVec.eq_of_getLsbD_eq fun i hi => ?_
  obtain ⟨f, rfl⟩ := Field.exists_index_eq hi
  have hf := h f
  rw [supports_iff, supports_iff] at hf
  exact Bool.eq_iff_iff.mpr hf

theorem supports_empty (f : Field) : empty.supports f = false := by
  cases f <;> decide

theorem supports_single {f g : Field} : (single f).supports g = true ↔ g = f := by
  have hindex := g.index_lt
  have hbit : (BitVec.twoPow 25 f.index).getLsbD g.index = true ↔ g.index = f.index := by
    simp [hindex]
  rw [supports_iff]
  exact hbit.trans ⟨Field.index_injective, congrArg Field.index⟩

theorem supports_union {s t : FieldSet} {f : Field} :
    (s.union t).supports f = true ↔ s.supports f = true ∨ t.supports f = true := by
  rw [supports_iff, supports_iff, supports_iff, ← Bool.or_eq_true, ← BitVec.getLsbD_or]
  rfl

theorem supports_compl (s : FieldSet) (f : Field) : s.compl.supports f = !s.supports f := by
  rw [supports_eq_getLsbD, supports_eq_getLsbD, compl, BitVec.getLsbD_not]
  simp [f.index_lt]

theorem mem_toList {s : FieldSet} {f : Field} : f ∈ s.toList ↔ s.supports f = true := by
  rw [toList, List.mem_filter, and_iff_right f.mem_all]

theorem nodup_toList (s : FieldSet) : s.toList.Nodup :=
  Field.nodup_all.filter _

end FieldSet

end TrackSearch
