/-
What reading on adds to the groups that have been read.

The tokenizer puts elements into groups and never looks at them again, except to see whether the
open group is empty when it closes it.  So a text that is read on from some state adds the same to
whatever has been read before: `grows_feedAll` says so for a row of characters, and
`exists_finish_feedAll` for the rest of a text.
-/
import TrackSearch.Proofs.Expression.Feed

namespace TrackSearch

/-- The groups that have been read, the last of which is open. -/
structure Output where
  group : Group
  groups : List Group
  deriving DecidableEq, Repr

/-- Elements for the open group, or for the next one if the open one is closed first. -/
structure Addition where
  closes : Bool
  elements : List Element
  deriving DecidableEq, Repr

namespace Output

def closed (o : Output) : List Group :=
  if o.group.isEmpty then o.groups else o.groups ++ [o.group]

def extend (o : Output) (a : Addition) : Output :=
  if a.closes then { group := a.elements, groups := o.closed }
  else { group := o.group ++ a.elements, groups := o.groups }

def extendAll (o : Output) (as : List Addition) : Output :=
  as.foldl extend o

theorem extendAll_append (o : Output) (as bs : List Addition) :
    o.extendAll (as ++ bs) = (o.extendAll as).extendAll bs :=
  List.foldl_append

end Output

namespace Tokenizer

def output (t : Tokenizer) : Output :=
  ⟨t.group, t.groups⟩

/-- The tokenizer at the same place of a text behind which other groups have been read. -/
def withOutput (t : Tokenizer) (o : Output) : Tokenizer :=
  { t with group := o.group, groups := o.groups }

/-- Whether an operation adds the same to every output, and does all else as it would have done. -/
def Grows (f : Tokenizer → Tokenizer) (t : Tokenizer) : Prop :=
  ∃ as, ∀ o, f (t.withOutput o) = (f t).withOutput (o.extendAll as)

namespace Grows

variable {f g : Tokenizer → Tokenizer} {t : Tokenizer}

theorem of_unchanged (h : ∀ o, f (t.withOutput o) = (f t).withOutput o) : Grows f t :=
  ⟨[], h⟩

theorem comp (hg : Grows g t) (hf : Grows f (g t)) : Grows (fun t => f (g t)) t := by
  obtain ⟨as, hg⟩ := hg
  obtain ⟨bs, hf⟩ := hf
  refine ⟨as ++ bs, fun o => ?_⟩
  show f (g (t.withOutput o)) = (f (g t)).withOutput (o.extendAll (as ++ bs))
  rw [hg, hf, Output.extendAll_append]

theorem congr (hg : Grows g t) (h : ∀ o, f (t.withOutput o) = g (t.withOutput o)) : Grows f t := by
  obtain ⟨as, hg⟩ := hg
  have ht : f t = g t := h t.output
  exact ⟨as, fun o => by rw [h, hg, ht]⟩

end Grows

/-! ## The ends of tokens -/

theorem finishGroup_withOutput (t : Tokenizer) (o : Output) :
    (t.withOutput o).finishGroup = t.finishGroup.withOutput ⟨[], o.closed⟩ := rfl

def addition (t : Tokenizer) : Addition where
  closes := !t.joining
  elements := if t.buffer.isEmpty then [] else [{ t.element with text := t.buffer }]

theorem finishElement_withOutput (t : Tokenizer) (o : Output) :
    (t.withOutput o).finishElement = t.finishElement.withOutput (o.extend t.addition) := by
  cases hj : t.joining <;> cases hb : t.buffer.isEmpty <;>
    simp [finishElement, finishGroup, withOutput, Output.extend, Output.closed, addition, hj, hb]

theorem grows_finishElement (t : Tokenizer) : Grows finishElement t :=
  ⟨[t.addition], finishElement_withOutput t⟩

theorem grows_finishToken (t : Tokenizer) : Grows finishToken t := by
  have hkey (o : Output) : (t.withOutput o).keywordAllowed = t.keywordAllowed := rfl
  have hbuffer (o : Output) : (t.withOutput o).buffer = t.buffer := rfl
  by_cases hand : (t.keywordAllowed && t.buffer == "AND") = true
  · refine ⟨[⟨true, []⟩], fun o => ?_⟩
    rw [finishToken, hkey, hbuffer, if_pos hand, finishToken, if_pos hand]
    rfl
  · by_cases hor : (t.keywordAllowed && t.buffer == "OR") = true
    · refine .of_unchanged fun o => ?_
      rw [finishToken, hkey, hbuffer, if_neg hand, if_pos hor, finishToken, if_neg hand, if_pos hor]
      rfl
    · refine (grows_finishElement t).congr fun o => ?_
      rw [finishToken, hkey, hbuffer, if_neg hand, if_neg hor]

/-! ## Characters -/

theorem grows_quote (t : Tokenizer) : Grows quote t := by
  have hin (o : Output) : (t.withOutput o).inQuote = t.inQuote := rfl
  have hbuffer (o : Output) : (t.withOutput o).buffer = t.buffer := rfl
  have hopen {u : Tokenizer} :
      Grows (fun u => { u with stage := .value, inQuote := true }) u :=
    .of_unchanged fun _ => rfl
  by_cases hq : t.inQuote = true
  · have hclose : Grows (fun u => { u with inQuote := false }) t.finishElement :=
      .of_unchanged fun _ => rfl
    refine ((grows_finishElement t).comp hclose).congr fun o => ?_
    rw [quote, hin, if_pos hq]
  · by_cases hb : t.buffer.isEmpty = true
    · refine hopen.congr fun o => ?_
      rw [quote, hin, if_neg hq, hbuffer, if_pos hb]
      rfl
    · refine ((grows_finishToken t).comp hopen).congr fun o => ?_
      rw [quote, hin, if_neg hq, hbuffer, if_neg hb]

theorem feed_withOutput {c : Char} (hquote : c ≠ '"') (hblank : Text.isBlank c = false)
    (t : Tokenizer) (o : Output) : (t.withOutput o).feed c = (t.feed c).withOutput o := by
  simp only [feed, hquote, hblank, if_false, Bool.false_eq_true]
  have hin : (t.withOutput o).inQuote = t.inQuote := rfl
  have hstage : (t.withOutput o).stage = t.stage := rfl
  have hbuffer : (t.withOutput o).buffer = t.buffer := rfl
  rw [hin, hstage, hbuffer]
  split_ifs
  · rfl
  · rfl
  · rfl
  · cases MatchKind.ofSymbol? c with
    | none => rfl
    | some k => rfl
  · cases MatchKind.ofSymbol? c with
    | none => rfl
    | some k => rfl

-- Only the end of a token adds something, and whether a character ends one does not depend on what
-- has been read before.
theorem grows_feed (t : Tokenizer) (c : Char) : Grows (fun t => t.feed c) t := by
  by_cases hquote : c = '"'
  · refine (grows_quote t).congr fun o => ?_
    simp [feed, hquote]
  cases hblank : Text.isBlank c with
  | false => exact .of_unchanged (feed_withOutput hquote hblank t)
  | true =>
    by_cases hq : t.inQuote = true
    · exact .of_unchanged fun o => by
        rw [feed_literal hq hquote, feed_literal (t := t.withOutput o) hq hquote]
        rfl
    · have hq : t.inQuote = false := Bool.eq_false_iff.mpr hq
      by_cases hs : t.stage = .start
      · exact .of_unchanged fun o => by
          rw [feed_blank_start hq hs hblank, feed_blank_start (t := t.withOutput o) hq hs hblank]
      · refine (grows_finishToken t).congr fun o => ?_
        exact feed_blank_word (t := t.withOutput o) hq hs hblank

theorem grows_feedAll (t : Tokenizer) (cs : List Char) : Grows (fun t => t.feedAll cs) t := by
  induction cs generalizing t with
  | nil => exact .of_unchanged fun _ => rfl
  | cons c cs ih => exact (grows_feed t c).comp (ih (t.feed c))

/-- The rest of a text adds the same groups and elements to whatever has been read before it. -/
theorem exists_finish_feedAll (t : Tokenizer) (cs : List Char) :
    ∃ as, ∀ o, ((t.withOutput o).feedAll cs).finish = ⟨(o.extendAll as).closed⟩ := by
  obtain ⟨as, h⟩ := (grows_feedAll t cs).comp (grows_finishToken (t.feedAll cs))
  refine ⟨as, fun o => ?_⟩
  have hend : ((t.withOutput o).feedAll cs).finishToken =
      (t.feedAll cs).finishToken.withOutput (o.extendAll as) := h o
  rw [finish, hend, finishGroup_withOutput]
  rfl

end Tokenizer
end TrackSearch
