/-
Texts cut at a separator.  Nothing but the separators is lost: the pieces with a separator between
any two neighbours are the text again, `intercalate_splitAt`.
-/
import Mathlib.Data.List.Basic
import TrackSearch.Text.Split

namespace TrackSearch
namespace Text

variable {sep : Char} {cs : List Char}

theorem splitAt_eq_splitOn (sep : Char) (cs : List Char) : splitAt sep cs = cs.splitOn sep := by
  induction cs with
  | nil => rfl
  | cons c cs ih =>
    rw [splitAt, List.splitOn_cons_eq_if_modifyHead, ih]
    by_cases hc : c = sep
    · simp [hc]
    · obtain ⟨piece, rest, hpieces⟩ := List.exists_cons_of_ne_nil (List.splitOn_ne_nil sep cs)
      simp [hc, hpieces]

theorem splitAt_ne_nil (sep : Char) (cs : List Char) : splitAt sep cs ≠ [] := by
  rw [splitAt_eq_splitOn]
  exact List.splitOn_ne_nil sep cs

theorem intercalate_splitAt (sep : Char) (cs : List Char) :
    [sep].intercalate (splitAt sep cs) = cs := by
  rw [splitAt_eq_splitOn]
  exact List.intercalate_splitOn sep

theorem splitAt_of_not_mem (h : sep ∉ cs) : splitAt sep cs = [cs] := by
  rw [splitAt_eq_splitOn]
  exact List.splitOn_eq_singleton h

theorem splitAt_append_cons {piece rest : List Char} (h : sep ∉ piece) :
    splitAt sep (piece ++ sep :: rest) = piece :: splitAt sep rest := by
  rw [splitAt_eq_splitOn, splitAt_eq_splitOn]
  exact List.splitOn_append_cons_self_of_not_mem h rest

theorem mem_intercalate_of_mem {pieces : List (List Char)} {piece : List Char} {c : Char}
    (hpiece : piece ∈ pieces) (hc : c ∈ piece) : c ∈ [sep].intercalate pieces := by
  induction pieces with
  | nil => cases hpiece
  | cons p pieces ih =>
    cases pieces with
    | nil =>
      rw [List.mem_singleton.mp hpiece] at hc
      rwa [List.intercalate_singleton]
    | cons q pieces =>
      rw [List.intercalate_cons_cons]
      rcases List.mem_cons.mp hpiece with rfl | hpiece
      · simp [hc]
      · exact List.mem_append_right _ (ih hpiece)

/-- The pieces have no characters that the text does not have. -/
theorem mem_of_mem_splitAt {piece : List Char} {c : Char} (hpiece : piece ∈ splitAt sep cs)
    (hc : c ∈ piece) : c ∈ cs := by
  rw [← intercalate_splitAt sep cs]
  exact mem_intercalate_of_mem hpiece hc

end Text
end TrackSearch
