/-
Where the elements of an expression stand in its text.

The tokenizer collects the field name, the operator and the value of an element at different times.
They come from one slice of the text nevertheless, and the slices of different elements do not
overlap and come in the order of the elements, which is `occurInOrder_elements_parse`.  So nothing in
an expression is made up, mixed or moved.  The proof goes by tokens: `isSpelledBefore_read` finds
the slice of one token, and the elements of a text are those of some of its tokens.
-/
import TrackSearch.Proofs.Expression.Sign

namespace TrackSearch

open Token

/-- Whether a slice of a text is an element as it is typed: its text alone, or its field name, a
colon, its operator if it has one and its text, which a quote can stand in front of. -/
def Element.IsSpelledBy (e : Element) (slice : List Char) : Prop :=
  if e.field = "" then slice = e.text.toList
  else ∃ quote : List Char, (quote = [] ∨ quote = ['"']) ∧
    slice = e.field.toList ++ ':' :: (e.matchKind.symbol?.toList ++ (quote ++ e.text.toList))

/-- Whether some elements stand in a text one behind another, each in a slice of its own. -/
inductive OccurInOrder : List Element → List Char → Prop
  | nil (cs : List Char) : OccurInOrder [] cs
  | cons {e : Element} {es : List Element} {slice cs : List Char} (gap : List Char)
      (hslice : e.IsSpelledBy slice) (hrest : OccurInOrder es cs) :
      OccurInOrder (e :: es) (gap ++ (slice ++ cs))

theorem OccurInOrder.append_left {es : List Element} {cs : List Char} (h : OccurInOrder es cs)
    (front : List Char) : OccurInOrder es (front ++ cs) := by
  cases h with
  | nil => exact .nil _
  | cons gap hslice hrest =>
    rw [← List.append_assoc]
    exact .cons (front ++ gap) hslice hrest

namespace Token

variable {t : Token}

theorem isSpelledBy_of_field_eq (h : t.field = "") : t.element.IsSpelledBy t.text.toList := by
  have hfield : t.element.field = "" := h
  rw [Element.IsSpelledBy, if_pos hfield]
  rfl

theorem isSpelledBy_of_field_ne {quote : List Char} (h : t.field ≠ "")
    (hquote : quote = [] ∨ quote = ['"']) :
    t.element.IsSpelledBy
      (t.field.toList ++ ':' :: (t.matchKind.symbol?.toList ++ (quote ++ t.text.toList))) := by
  have hfield : t.element.field ≠ "" := h
  rw [Element.IsSpelledBy, if_neg hfield]
  exact ⟨quote, hquote, rfl⟩

/-- Whether a text is a slice that spells the element of a token, with something around it, and the
given rest. -/
def IsSpelledBefore (t : Token) (cs rest : List Char) : Prop :=
  ∃ front slice back, cs = front ++ (slice ++ (back ++ rest)) ∧ t.element.IsSpelledBy slice

theorem IsSpelledBefore.append_left {cs rest : List Char} (h : t.IsSpelledBefore cs rest)
    (before : List Char) : t.IsSpelledBefore (before ++ cs) rest := by
  obtain ⟨front, slice, back, rfl, hslice⟩ := h
  exact ⟨before ++ front, slice, back, (List.append_assoc _ _ _).symm, hslice⟩

/-! ## Runs and literals -/

theorem isSpelledBy_ofRun (minus : Bool) (run : List Char) :
    (ofRun minus run).element.IsSpelledBy run := by
  rcases ofRun_parts minus run with ⟨hfield, hrun⟩ | ⟨hfield, hrun⟩
  · have h := isSpelledBy_of_field_eq hfield
    rwa [hrun] at h
  · have h := isSpelledBy_of_field_ne hfield (Or.inl rfl)
    rwa [List.nil_append, hrun] at h

/-- A literal behind a run without a word takes the place of the word.  If the run is a field name
with its colon, they all are one slice; if not, there is no run at all. -/
theorem isSpelledBefore_literal {minus : Bool} {run : List Char} (htext : (ofRun minus run).text = "")
    (literal rest : List Char) (quoted : Bool) :
    ({ ofRun minus run with text := String.ofList literal, quoted } : Token).IsSpelledBefore
      (run ++ '"' :: (literal ++ rest)) rest := by
  rcases ofRun_parts minus run with ⟨hfield, hrun⟩ | ⟨hfield, hrun⟩
  · refine ⟨run ++ ['"'], literal, [], by simp, ?_⟩
    have h := isSpelledBy_of_field_eq
      (t := { ofRun minus run with text := String.ofList literal, quoted }) hfield
    rwa [String.toList_ofList] at h
  · have hslice : run ++ '"' :: literal =
        (ofRun minus run).field.toList ++ ':' ::
          ((ofRun minus run).matchKind.symbol?.toList ++ (['"'] ++ literal)) := by
      conv_lhs => rw [← hrun, htext]
      simp
    refine ⟨[], run ++ '"' :: literal, [], by simp, ?_⟩
    have h := isSpelledBy_of_field_ne
      (t := { ofRun minus run with text := String.ofList literal, quoted }) hfield (Or.inr rfl)
    rwa [String.toList_ofList, ← hslice] at h

theorem isSpelledBefore_readLiteral {minus : Bool} {run : List Char}
    (htext : (ofRun minus run).text = "") (cs : List Char) :
    (readLiteral (ofRun minus run) cs).1.IsSpelledBefore (run ++ '"' :: cs)
      (readLiteral (ofRun minus run) cs).2 := by
  rcases forall_ne_or_exists_eq '"' cs with hl | ⟨literal, rest, rfl, hl⟩
  · rw [readLiteral_of_forall _ hl]
    have h := isSpelledBefore_literal htext cs [] (ofRun minus run).quoted
    rwa [List.append_nil] at h
  · rw [readLiteral_append_quote _ hl]
    obtain ⟨front, slice, back, hcs, hslice⟩ :=
      isSpelledBefore_literal htext literal ('"' :: rest) true
    exact ⟨front, slice, back ++ ['"'], by simp [hcs], hslice⟩

/-! ## Tokens -/

theorem isSpelledBefore_readBody (minus : Bool) (body : List Char) :
    (readBody minus body).1.IsSpelledBefore body (readBody minus body).2 := by
  rcases forall_or_exists_first isRunChar body with hrun | ⟨run, c, rest, rfl, hrun, hc⟩
  · rw [readBody_of_forall minus hrun]
    exact ⟨[], body, [], by simp, isSpelledBy_ofRun minus body⟩
  · rw [readBody_append_cons minus hrun hc]
    split
    · next hquote =>
      obtain ⟨rfl, htext⟩ := hquote
      exact isSpelledBefore_readLiteral htext rest
    · exact ⟨[], run, [], rfl, isSpelledBy_ofRun minus run⟩

theorem splitMinus_suffix (cs : List Char) : (splitMinus cs).2 <:+ cs := by
  cases cs with
  | nil => exact List.suffix_rfl
  | cons c cs =>
    rw [splitMinus]
    split
    · exact List.suffix_cons c cs
    · exact List.suffix_rfl

theorem isSpelledBefore_read (cs : List Char) :
    (Token.read cs).1.IsSpelledBefore cs (Token.read cs).2 := by
  obtain ⟨sign, hsign⟩ := splitMinus_suffix cs
  have h := isSpelledBefore_readBody (splitMinus cs).1 (splitMinus cs).2
  have hcs := h.append_left sign
  rwa [hsign] at hcs

end Token

/-! ## Rows of tokens -/

namespace OccurInOrder

/-- One token: its element, if it has one, stands in front of the rest.  A sign that the element has
from a keyword does not change where it stands. -/
theorem elementBehind_append {front : List Token} {t : Token} {es : List Element}
    {cs rest : List Char} (ht : t.IsSpelledBefore cs rest) (hrest : OccurInOrder es rest) :
    OccurInOrder (elementBehind front t ++ es) cs := by
  obtain ⟨before, slice, back, rfl, hslice⟩ := ht
  have hback := hrest.append_left back
  rw [elementBehind]
  split
  · exact (hback.append_left slice).append_left before
  · exact .cons before hslice hback

end OccurInOrder

theorem occurInOrder_elementsBehind (front : List Token) (cs : List Char) :
    OccurInOrder (elementsBehind front (tokens cs)) cs := by
  induction cs using tokens.induct generalizing front with
  | case1 cs h =>
    rw [tokens_of_nil h]
    exact .nil cs
  | case2 cs c rest h ih =>
    have hcs : cs.takeWhile Text.isBlank ++ c :: rest = cs := by
      rw [← h]
      exact List.takeWhile_append_dropWhile
    have hread := (isSpelledBefore_read (c :: rest)).append_left (cs.takeWhile Text.isBlank)
    rw [hcs] at hread
    rw [tokens_of_cons h, elementsBehind]
    exact .elementBehind_append hread (ih _)

/-- The elements of a text stand in it in their order, each spelled by a slice of its own. -/
theorem occurInOrder_elements_parse (text : String) :
    OccurInOrder (Expression.parse text).elements text.toList := by
  have hparse : Expression.parse text = ⟨((tokens text.toList).foldl Grouping.add {}).closed⟩ :=
    Grouping.finish_feedAll_toTokenizer {} text.toList
  have helements : (Expression.parse text).elements = elementsBehind [] (tokens text.toList) := by
    rw [hparse, Expression.elements, Grouping.flatten_closed]
    exact Grouping.elements_foldl_add [] (tokens text.toList)
  rw [helements]
  exact occurInOrder_elementsBehind [] text.toList

end TrackSearch
