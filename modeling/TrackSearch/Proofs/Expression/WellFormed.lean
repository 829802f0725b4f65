/-
Well-formed expressions.

An expression is well formed when nothing is lost in its written form: no group of it is empty, and
each of its elements can be told from its text.  Whatever text the parser reads, the expression it
gives is well formed, which is `wellFormed_parse`.  The proof goes by tokens: `wellFormed_read` is
about one token, `wellFormed_add` about what one token adds to the groups.
-/
import TrackSearch.Proofs.Expression.TokenReading

namespace TrackSearch

open Token

/-- An element that can be told from its written form. -/
structure Element.WellFormed (e : Element) : Prop where
  text_ne : e.text ≠ ""
  text_no_quote : ∀ c ∈ e.text.toList, c ≠ '"'
  field_run : ∀ c ∈ e.field.toList, Text.isBlank c = false ∧ c ≠ '"'
  /-- A colon can begin a field name, and the next colon ends it. -/
  field_colon : ∀ c ∈ e.field.toList.tail, c ≠ ':'
  /-- A dash in front of a field name is taken for the sign, unless there is a sign already. -/
  negate_of_dash : e.field.toList.head? = some '-' → e.negate = true
  field_ne : e.matchKind ≠ .contains → e.field ≠ ""

theorem Element.wellFormed_iff {e : Element} :
    e.WellFormed ↔
      e.text ≠ "" ∧ e.text.toList.all (· != '"') = true ∧ e.field.toList.all isRunChar = true ∧
        e.field.toList.tail.all (· != ':') = true ∧
        (e.field.toList.head? = some '-' → e.negate = true) ∧
        (e.matchKind ≠ .contains → e.field ≠ "") := by
  simp only [List.all_eq_true, bne_iff_ne, isRunChar_iff]
  constructor
  · intro h
    exact ⟨h.text_ne, h.text_no_quote, h.field_run, h.field_colon, h.negate_of_dash, h.field_ne⟩
  · rintro ⟨htext, hquote, hrun, hcolon, hdash, hfield⟩
    exact ⟨htext, hquote, hrun, hcolon, hdash, hfield⟩

instance (e : Element) : Decidable e.WellFormed :=
  decidable_of_iff _ Element.wellFormed_iff.symm

def Group.WellFormed (g : Group) : Prop :=
  g ≠ [] ∧ ∀ e ∈ g, e.WellFormed

instance (g : Group) : Decidable g.WellFormed :=
  inferInstanceAs (Decidable (g ≠ [] ∧ ∀ e ∈ g, e.WellFormed))

def Expression.WellFormed (e : Expression) : Prop :=
  ∀ g ∈ e.groups, g.WellFormed

instance (e : Expression) : Decidable e.WellFormed :=
  inferInstanceAs (Decidable (∀ g ∈ e.groups, g.WellFormed))

theorem Element.WellFormed.negate_or {e : Element} (h : e.WellFormed) (minus : Bool) :
    ({ e with negate := minus || e.negate } : Element).WellFormed where
  text_ne := h.text_ne
  text_no_quote := h.text_no_quote
  field_run := h.field_run
  field_colon := h.field_colon
  negate_of_dash := fun hd => by
    show (minus || e.negate) = true
    rw [h.negate_of_dash hd, Bool.or_true]
  field_ne := h.field_ne

/-! ## One token -/

namespace Token

def element (t : Token) : Element :=
  { field := t.field, text := t.text, negate := t.minus, matchKind := t.matchKind }

/-- What stands in front of the value of a run is in order, whatever value is put there. -/
theorem wellFormed_ofRun_of_text {minus : Bool} {run : List Char} {text : String}
    (hrun : ∀ c ∈ run, isRunChar c = true) (hm : run.head? = some '-' → minus = true)
    (htext : text ≠ "") (hquote : ∀ c ∈ text.toList, c ≠ '"') :
    ({ (ofRun minus run).element with text := text } : Element).WellFormed := by
  have hnone : ({ text, negate := minus } : Element).WellFormed :=
    { text_ne := htext
      text_no_quote := hquote
      field_run := by simp
      field_colon := by simp
      negate_of_dash := by simp
      field_ne := fun h => absurd rfl h }
  cases run with
  | nil =>
    rw [ofRun_nil]
    exact hnone
  | cons c cs =>
    rcases forall_ne_or_exists_eq ':' cs with hcs | ⟨name, rest, rfl, hname⟩
    · rw [ofRun_of_forall minus hcs]
      exact hnone
    · rw [ofRun_append_colon minus hname]
      refine ⟨htext, hquote, ?_, ?_, ?_, ?_⟩
      · intro d hd
        have hd : d ∈ c :: name := by simpa [element] using hd
        have hmem : d ∈ (c :: name) ++ ':' :: rest := List.mem_append_left _ hd
        exact isRunChar_iff.mp (hrun d hmem)
      · intro d hd
        exact hname d (by simpa [element] using hd)
      · intro hd
        exact hm (by simpa [element] using hd)
      · intro _ he
        exact absurd he (by simp [element])

theorem text_ofRun_no_quote {minus : Bool} {run : List Char}
    (hrun : ∀ c ∈ run, isRunChar c = true) : ∀ c ∈ (ofRun minus run).text.toList, c ≠ '"' := by
  intro c hc
  refine (isRunChar_iff.mp (hrun c ?_)).2
  rcases ofRun_parts minus run with ⟨-, hparts⟩ | ⟨-, hparts⟩
  · rwa [hparts] at hc
  · rw [← hparts]
    exact List.mem_append_right _ (List.mem_cons_of_mem _ (List.mem_append_right _ hc))

theorem readLiteral_fst (t : Token) (cs : List Char) :
    ∃ q, (readLiteral t cs).1 =
      { t with text := String.ofList (cs.takeWhile (· != '"')), quoted := q } := by
  unfold readLiteral
  split
  · exact ⟨t.quoted, rfl⟩
  · exact ⟨true, rfl⟩

/-- Every token that has a value has a well-formed element. -/
theorem wellFormed_read {cs : List Char} (h : (Token.read cs).1.text ≠ "") :
    (Token.read cs).1.element.WellFormed := by
  have hsign : (splitMinus cs).1 = true ∨ (splitMinus cs).2.head? ≠ some '-' := by
    cases cs with
    | nil => exact Or.inr (by simp [splitMinus])
    | cons c cs =>
      rcases splitMinus_cons c cs with hs | ⟨hs, hne⟩
      · exact Or.inl hs
      · exact Or.inr (by rw [hs]; simpa using hne)
  rw [Token.read] at h ⊢
  generalize splitMinus cs = body at hsign h ⊢
  obtain ⟨minus, body⟩ := body
  change (readBody minus body).1.text ≠ "" at h
  show (readBody minus body).1.element.WellFormed
  have hrun : ∀ c ∈ body.takeWhile isRunChar, isRunChar c = true :=
    fun c hc => List.mem_takeWhile_imp hc
  have hm : (body.takeWhile isRunChar).head? = some '-' → minus = true := by
    intro hd
    refine hsign.resolve_right (fun hne => hne ?_)
    cases body with
    | nil => exact hd
    | cons c cs =>
      rw [List.takeWhile_cons] at hd
      split at hd
      · exact hd
      · cases hd
  have hword (htext : (ofRun minus (body.takeWhile isRunChar)).text ≠ "") :
      (ofRun minus (body.takeWhile isRunChar)).element.WellFormed :=
    wellFormed_ofRun_of_text hrun hm htext (text_ofRun_no_quote hrun)
  rw [readBody] at h ⊢
  split at h
  · exact hword h
  · next c rest heq =>
    split at h
    · next hq =>
      rw [if_pos hq]
      obtain ⟨q, hliteral⟩ :=
        readLiteral_fst (ofRun minus (body.takeWhile isRunChar)) rest
      rw [hliteral] at h ⊢
      refine wellFormed_ofRun_of_text hrun hm h ?_
      intro c hc
      rw [String.toList_ofList] at hc
      have hne : (c != '"') = true := List.mem_takeWhile_imp (p := (· != '"')) hc
      exact bne_iff_ne.mp hne
    · next hq =>
      rw [if_neg hq]
      exact hword h

end Token

theorem wellFormed_of_mem_tokens {cs : List Char} :
    ∀ t ∈ tokens cs, t.text ≠ "" → t.element.WellFormed := by
  induction cs using tokens.induct with
  | case1 cs h =>
    rw [tokens_of_nil h]
    exact fun t ht => absurd ht (List.not_mem_nil)
  | case2 cs c rest h ih =>
    rw [tokens_of_cons h]
    intro t ht htext
    rcases List.mem_cons.mp ht with rfl | ht
    · exact wellFormed_read htext
    · exact ih t ht htext

/-! ## Groups -/

namespace Grouping

/-- The open group may be empty, and the closed ones are not. -/
structure WellFormed (g : Grouping) : Prop where
  group : ∀ e ∈ g.group, e.WellFormed
  groups : ∀ h ∈ g.groups, h.WellFormed

theorem WellFormed.closed {g : Grouping} (hg : g.WellFormed) : ∀ h ∈ g.closed, h.WellFormed := by
  intro h hh
  rw [Grouping.closed] at hh
  by_cases hempty : g.group = []
  · rw [hempty] at hh
    exact hg.groups h hh
  · rw [if_neg (by simpa using hempty)] at hh
    rcases List.mem_append.mp hh with hh | hh
    · exact hg.groups h hh
    · obtain rfl := List.mem_singleton.mp hh
      exact ⟨hempty, hg.group⟩

theorem wellFormed_addValue {g : Grouping} {t : Token} (hg : g.WellFormed)
    (ht : t.text ≠ "" → t.element.WellFormed) : (g.addValue t).WellFormed := by
  have hadded : ∀ e ∈ (if t.text = "" then [] else
      [{ t.element with negate := g.minus || t.minus }] : Group), e.WellFormed := by
    intro e he
    split at he
    · exact absurd he (List.not_mem_nil)
    · next htext =>
      obtain rfl := List.mem_singleton.mp he
      exact (ht htext).negate_or g.minus
  rw [addValue]
  split
  · refine ⟨fun e he => ?_, hg.groups⟩
    rcases List.mem_append.mp he with he | he
    · exact hg.group e he
    · exact hadded e he
  · exact ⟨hadded, hg.closed⟩

theorem wellFormed_add {g : Grouping} {t : Token} (hg : g.WellFormed)
    (ht : t.text ≠ "" → t.element.WellFormed) : (g.add t).WellFormed := by
  rw [add]
  split
  · exact ⟨fun e he => absurd he (List.not_mem_nil), hg.closed⟩
  · exact ⟨hg.group, hg.groups⟩
  · exact wellFormed_addValue hg ht

theorem wellFormed_foldl_add {ts : List Token} {g : Grouping} (hg : g.WellFormed)
    (hts : ∀ t ∈ ts, t.text ≠ "" → t.element.WellFormed) : (ts.foldl add g).WellFormed := by
  induction ts generalizing g with
  | nil => exact hg
  | cons t ts ih =>
    rw [List.foldl_cons]
    exact ih (wellFormed_add hg (hts t List.mem_cons_self))
      fun s hs => hts s (List.mem_cons_of_mem t hs)

end Grouping

/-- What the parser gives is well formed, whatever the text. -/
theorem wellFormed_parse (text : String) : (Expression.parse text).WellFormed := by
  have hparse : Expression.parse text = ⟨((tokens text.toList).foldl Grouping.add {}).closed⟩ :=
    Grouping.finish_feedAll_toTokenizer {} text.toList
  have hstart : ({} : Grouping).WellFormed :=
    ⟨fun e he => absurd he (List.not_mem_nil), fun g hg => absurd hg (List.not_mem_nil)⟩
  rw [hparse]
  exact (Grouping.wellFormed_foldl_add hstart wellFormed_of_mem_tokens).closed

end TrackSearch
