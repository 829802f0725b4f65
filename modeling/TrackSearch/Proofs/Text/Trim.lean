/-
White space at the ends of a text.
-/
import Mathlib.Data.List.TakeWhile
import TrackSearch.Text.Blank

namespace TrackSearch
namespace Text

variable {front body back : List Char}

theorem trimStart_of_forall (h : ∀ c ∈ front, isBlank c = true) :
    trimStart (front ++ body) = trimStart body :=
  List.dropWhile_append_of_pos h

theorem trimStart_append_of_not_blank {c : Char} (hc : isBlank c = false) (rest : List Char) :
    trimStart (c :: rest) = c :: rest :=
  List.dropWhile_cons_of_neg (by simp [hc])

/-- Taking white space off the end is taking it off the beginning, read backwards. -/
theorem trimEnd_reverse (cs : List Char) : trimEnd cs.reverse = (trimStart cs).reverse := by
  rw [trimEnd, List.reverse_reverse, trimStart]

/-- White space around a text that neither begins nor ends with any is what is taken off. -/
theorem trim_append (hfront : ∀ c ∈ front, isBlank c = true) (hback : ∀ c ∈ back, isBlank c = true)
    (hne : body ≠ []) (hbody : ∀ c ∈ body, isBlank c = false) :
    trim (front ++ body ++ back) = body := by
  obtain ⟨c, cs, hcons⟩ := List.exists_cons_of_ne_nil hne
  obtain ⟨d, ds, hconcat⟩ := List.exists_cons_of_ne_nil (List.reverse_ne_nil_iff.mpr hne)
  have hfirst : isBlank c = false := hbody c (by rw [hcons]; exact List.mem_cons_self)
  have hlast : isBlank d = false :=
    hbody d (List.mem_reverse.mp (by rw [hconcat]; exact List.mem_cons_self))
  have hbehind : ∀ e ∈ back.reverse, isBlank e = true :=
    fun e he => hback e (List.mem_reverse.mp he)
  have hstart : trimStart (front ++ body ++ back) = body ++ back := by
    rw [List.append_assoc, trimStart_of_forall hfront, hcons, List.cons_append,
      trimStart_append_of_not_blank hfirst]
  have hend : trimEnd (body ++ back) = body := by
    rw [← List.reverse_reverse (body ++ back), trimEnd_reverse, List.reverse_append,
      trimStart_of_forall hbehind, hconcat, trimStart_append_of_not_blank hlast, ← hconcat,
      List.reverse_reverse]
  rw [trim, hstart, hend]

/-- Nothing but white space is taken off. -/
theorem exists_eq_append_trim (cs : List Char) :
    ∃ front back, cs = front ++ trim cs ++ back ∧ (∀ c ∈ front, isBlank c = true) ∧
      ∀ c ∈ back, isBlank c = true := by
  refine ⟨cs.takeWhile isBlank, ((trimStart cs).reverse.takeWhile isBlank).reverse, ?_,
    fun c hc => List.mem_takeWhile_imp hc,
    fun c hc => List.mem_takeWhile_imp (List.mem_reverse.mp hc)⟩
  have hend : trim cs ++ ((trimStart cs).reverse.takeWhile isBlank).reverse = trimStart cs := by
    rw [trim, trimEnd, ← List.reverse_append, List.takeWhile_append_dropWhile,
      List.reverse_reverse]
  rw [List.append_assoc, hend, trimStart, List.takeWhile_append_dropWhile]

end Text
end TrackSearch
