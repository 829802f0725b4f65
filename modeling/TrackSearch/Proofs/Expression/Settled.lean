/-
What is settled while a text is being typed.

The end of a text closes what is open: the word or the value that is being read, and its group.
Typing on can change that much and no more.  What has been read before stays as it is, which
`elements_and_groups_settled` says for every text and every way to go on with it: all elements but
the last one are settled, and all groups but the last two.
-/
import TrackSearch.Proofs.Expression.Growth

namespace TrackSearch

namespace Output

def elements (o : Output) : List Element :=
  o.groups.flatten ++ o.group

theorem flatten_closed (o : Output) : o.closed.flatten = o.elements := by
  rw [closed, elements]
  by_cases hg : o.group = [] <;> simp [hg]

theorem groups_prefix_closed (o : Output) : o.groups <+: o.closed := by
  rw [closed]
  split
  · exact List.prefix_rfl
  · exact List.prefix_append _ _

theorem length_closed_le (o : Output) : o.closed.length ≤ o.groups.length + 1 := by
  rw [closed]
  split
  · omega
  · simp

/-! ## Additions -/

theorem elements_extend (o : Output) (a : Addition) :
    (o.extend a).elements = o.elements ++ a.elements := by
  rw [extend]
  cases a.closes with
  | true =>
    show o.closed.flatten ++ a.elements = o.elements ++ a.elements
    rw [flatten_closed]
  | false =>
    show o.groups.flatten ++ (o.group ++ a.elements) = o.groups.flatten ++ o.group ++ a.elements
    rw [List.append_assoc]

theorem groups_prefix_extend (o : Output) (a : Addition) : o.groups <+: (o.extend a).groups := by
  rw [extend]
  cases a.closes with
  | true => exact o.groups_prefix_closed
  | false => exact List.prefix_rfl

/-- An addition closes two groups at most, the open one and its own. -/
theorem length_closed_extend_le (o : Output) (a : Addition) :
    (o.extend a).closed.length ≤ o.groups.length + 2 := by
  have hlength := length_closed_le (o.extend a)
  have hgroups : (o.extend a).groups.length ≤ o.groups.length + 1 := by
    rw [extend]
    cases a.closes with
    | true => exact o.length_closed_le
    | false => exact Nat.le_succ _
  omega

theorem elements_prefix_extendAll (o : Output) (as : List Addition) :
    o.elements <+: (o.extendAll as).elements := by
  induction as generalizing o with
  | nil => exact List.prefix_rfl
  | cons a as ih =>
    have hstep : o.elements <+: (o.extend a).elements := by
      rw [elements_extend]
      exact List.prefix_append _ _
    exact hstep.trans (ih (o.extend a))

theorem groups_prefix_extendAll (o : Output) (as : List Addition) :
    o.groups <+: (o.extendAll as).groups := by
  induction as generalizing o with
  | nil => exact List.prefix_rfl
  | cons a as ih => exact (o.groups_prefix_extend a).trans (ih (o.extend a))

end Output

namespace Tokenizer

/-- The end of the text adds what one token adds. -/
theorem exists_finish_eq (t : Tokenizer) :
    ∃ a : Addition, a.elements.length ≤ 1 ∧ t.finish = ⟨(t.output.extend a).closed⟩ := by
  by_cases hand : (t.keywordAllowed && t.buffer == "AND") = true
  · refine ⟨⟨true, []⟩, Nat.zero_le 1, ?_⟩
    rw [finish, finishToken, if_pos hand]
    rfl
  · by_cases hor : (t.keywordAllowed && t.buffer == "OR") = true
    · refine ⟨⟨false, []⟩, Nat.zero_le 1, ?_⟩
      rw [finish, finishToken, if_neg hand, if_pos hor, Output.extend, List.append_nil]
      rfl
    · refine ⟨t.addition, ?_, ?_⟩
      · rw [addition]
        split <;> simp
      · have helement : t.finishElement = t.finishElement.withOutput (t.output.extend t.addition) :=
          finishElement_withOutput t t.output
        rw [finish, finishToken, if_neg hand, if_neg hor, helement, finishGroup_withOutput]
        rfl

/-- What the end of a text adds to the elements is one element at most. -/
theorem dropLast_elements_finish_prefix (t : Tokenizer) :
    t.finish.elements.dropLast <+: t.output.elements := by
  obtain ⟨a, hone, hend⟩ := t.exists_finish_eq
  rw [hend]
  show (t.output.extend a).closed.flatten.dropLast <+: t.output.elements
  rw [Output.flatten_closed, Output.elements_extend]
  refine List.prefix_of_prefix_length_le (List.dropLast_prefix _) (List.prefix_append _ _) ?_
  rw [List.length_dropLast, List.length_append]
  omega

/-- What it adds to the closed groups is two groups at most. -/
theorem dropLast_groups_finish_prefix (t : Tokenizer) :
    t.finish.groups.dropLast.dropLast <+: t.output.groups := by
  obtain ⟨a, -, hend⟩ := t.exists_finish_eq
  have hclosed : t.output.groups <+: (t.output.extend a).closed :=
    (t.output.groups_prefix_extend a).trans (Output.groups_prefix_closed _)
  have hlength := t.output.length_closed_extend_le a
  rw [hend]
  show (t.output.extend a).closed.dropLast.dropLast <+: t.output.groups
  refine List.prefix_of_prefix_length_le
    ((List.dropLast_prefix _).trans (List.dropLast_prefix _)) hclosed ?_
  rw [List.length_dropLast, List.length_dropLast]
  omega

/-- The rest of a text takes nothing away. -/
theorem output_prefix_finish_feedAll (t : Tokenizer) (cs : List Char) :
    t.output.elements <+: (t.feedAll cs).finish.elements ∧
      t.output.groups <+: (t.feedAll cs).finish.groups := by
  obtain ⟨as, hgrow⟩ := t.exists_finish_feedAll cs
  have hend : (t.feedAll cs).finish = ⟨(t.output.extendAll as).closed⟩ := hgrow t.output
  rw [hend]
  constructor
  · show t.output.elements <+: (t.output.extendAll as).closed.flatten
    rw [Output.flatten_closed]
    exact t.output.elements_prefix_extendAll as
  · exact (t.output.groups_prefix_extendAll as).trans (Output.groups_prefix_closed _)

end Tokenizer

/-- Whatever comes behind a text, the elements of the text but the last one are the first elements of
the whole, and its groups but the last two are the first groups of the whole. -/
theorem elements_and_groups_settled (front back : String) :
    (Expression.parse front).elements.dropLast <+: (Expression.parse (front ++ back)).elements ∧
      (Expression.parse front).groups.dropLast.dropLast <+:
        (Expression.parse (front ++ back)).groups := by
  have hwhole : Expression.parse (front ++ back) =
      ((({} : Tokenizer).feedAll front.toList).feedAll back.toList).finish := by
    rw [Expression.parse, String.toList_append, Tokenizer.feedAll_append]
  rw [hwhole, Expression.parse]
  generalize ({} : Tokenizer).feedAll front.toList = t
  obtain ⟨helements, hgroups⟩ := t.output_prefix_finish_feedAll back.toList
  exact ⟨t.dropLast_elements_finish_prefix.trans helements,
    t.dropLast_groups_finish_prefix.trans hgroups⟩

-- Less is settled than one could think: an `O` at the end is a group, and an `OR` is none.
example :
    (Expression.parse "cure O").groups = [[{ text := "cure" }], [{ text := "O" }]] ∧
      (Expression.parse ("cure O" ++ "R live")).groups = [[{ text := "cure" }, { text := "live" }]] := by
  decide +kernel

end TrackSearch
