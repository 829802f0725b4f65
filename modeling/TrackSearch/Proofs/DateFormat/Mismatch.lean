/-
Texts that a format does not read.

Each part of a format takes characters off the front of the text, so a text that a format reads has
all the characters that stand for themselves in it (`mem_of_readParts?`).  Rows of digits are taken
one by one: they are not read if something else than the format's literal stands behind one of them,
if there are too few of them, or if the last one is too long.
-/
import TrackSearch.Proofs.DateFormat.Reader

namespace TrackSearch
namespace DateFormat

open Calendar Number

/-! ## What is left of a text -/

theorem suffix_of_takeNat? {width n : Nat} {cs rest : List Char}
    (h : takeNat? width cs = some (n, rest)) : rest <:+ cs := by
  unfold takeNat? at h
  dsimp only at h
  split at h
  · cases h
  · cases h
    exact List.drop_suffix _ _

theorem suffix_of_takeInt? {shape : NumberShape} {n : Int} {cs rest : List Char}
    (h : takeInt? shape cs = some (n, rest)) : rest <:+ cs := by
  unfold takeInt? at h
  split at h <;>
  · obtain ⟨⟨k, r⟩, hk, hr⟩ := Option.map_eq_some_iff.mp h
    cases hr
    first
    | exact (suffix_of_takeNat? hk).trans (List.suffix_cons _ _)
    | exact suffix_of_takeNat? hk

theorem suffix_of_dropWord? {word cs rest : List Char} (h : dropWord? word cs = some rest) :
    rest <:+ cs := by
  induction word generalizing cs with
  | nil =>
    cases h
    exact List.suffix_refl _
  | cons w word ih =>
    cases cs with
    | nil => cases h
    | cons c cs =>
      rw [dropWord?] at h
      split at h
      · exact (ih h).trans (List.suffix_cons c cs)
      · cases h

theorem suffix_of_dropName? {full : Bool} {name : String} {cs rest : List Char}
    (h : dropName? full name cs = some rest) : rest <:+ cs := by
  obtain ⟨front, hfront, hrest⟩ := Option.map_eq_some_iff.mp h
  have hsuffix := suffix_of_dropWord? hfront
  cases full with
  | false =>
    cases hrest
    exact hsuffix
  | true =>
    cases hback : dropWord? (name.toList.drop 3) front with
    | none =>
      simp only [hback, if_pos, Option.getD_none] at hrest
      exact hrest ▸ hsuffix
    | some back =>
      simp only [hback, if_pos, Option.getD_some] at hrest
      exact hrest ▸ (suffix_of_dropWord? hback).trans hsuffix

theorem suffix_of_takeName? {full : Bool} {names : List String} {i : Nat} {cs rest : List Char}
    (h : takeName? full names cs = some (i, rest)) : rest <:+ cs := by
  induction names generalizing i with
  | nil => cases h
  | cons name names ih =>
    rw [takeName?] at h
    split at h
    · next hname =>
      cases h
      exact suffix_of_dropName? hname
    · obtain ⟨⟨j, r⟩, hj, hr⟩ := Option.map_eq_some_iff.mp h
      cases hr
      exact ih hj

theorem suffix_of_takeFraction? {n : Nat} {cs rest : List Char}
    (h : takeFraction? cs = some (n, rest)) : rest <:+ cs := by
  unfold takeFraction? at h
  dsimp only at h
  split at h
  · cases h
  · cases h
    exact List.dropWhile_suffix _

theorem suffix_of_takeDigits? {width : Nat} {ds cs rest : List Char}
    (h : takeDigits? width cs = some (ds, rest)) : rest <:+ cs := by
  unfold takeDigits? at h
  dsimp only at h
  split at h
  · cases h
    exact List.drop_suffix _ _
  · cases h

theorem suffix_of_takeSign? {behind : Bool} {cs rest : List Char}
    (h : takeSign? cs = some (behind, rest)) : rest <:+ cs := by
  unfold takeSign? at h
  split at h <;> cases h <;> exact List.suffix_cons _ _

theorem suffix_of_takeHours? {style : OffsetStyle} {n : Nat} {cs rest : List Char}
    (h : takeHours? style cs = some (n, rest)) : rest <:+ cs := by
  obtain ⟨⟨hours, behind⟩, hhours, h⟩ := Option.bind_eq_some_iff.mp h
  have hbehind := suffix_of_takeDigits? hhours
  dsimp only at h
  split at h
  · cases h
    exact List.nil_suffix
  · obtain ⟨⟨minutes, left⟩, hminutes, h⟩ := Option.bind_eq_some_iff.mp h
    dsimp only at h
    split at h
    · cases h
      exact ((suffix_of_takeDigits? hminutes).trans (List.dropWhile_suffix _)).trans hbehind
    · cases h

theorem suffix_of_takeOffset? {style : OffsetStyle} {n : Int} {cs rest : List Char}
    (h : takeOffset? style cs = some (n, rest)) : rest <:+ cs := by
  unfold takeOffset? at h
  split at h
  · next hname =>
    cases h
    exact suffix_of_takeName? hname
  · obtain ⟨⟨behind, signed⟩, hsign, h⟩ := Option.bind_eq_some_iff.mp h
    obtain ⟨⟨k, left⟩, hhours, h⟩ := Option.bind_eq_some_iff.mp h
    cases h
    exact (suffix_of_takeHours? hhours).trans (suffix_of_takeSign? hsign)

theorem exists_of_asValue {α : Type} {k : Entry} {taken : Option (α × List Char)} {f : α → Int}
    {values : List (Entry × Int)} {rest : List Char}
    (h : asValue k taken f = some (values, rest)) :
    ∃ a, taken = some (a, rest) ∧ values = [(k, f a)] := by
  obtain ⟨⟨a, left⟩, htaken, h⟩ := Option.map_eq_some_iff.mp h
  cases h
  exact ⟨a, htaken, rfl⟩

theorem suffix_of_takePart? {part : Part} {values : List (Entry × Int)} {cs rest : List Char}
    (h : takePart? cs part = some (values, rest)) : rest <:+ cs := by
  unfold takePart? at h
  cases part with
  | blank =>
    cases h
    exact List.dropWhile_suffix _
  | literal c =>
    dsimp only at h
    split at h
    · split at h
      · cases h
        exact List.suffix_cons _ _
      · cases h
    · cases h
  | number part =>
    obtain ⟨⟨v, left⟩, hv, h⟩ := Option.bind_eq_some_iff.mp h
    dsimp only at h
    split at h
    · cases h
      exact (suffix_of_takeInt? hv).trans (List.dropWhile_suffix _)
    · cases h
  | monthName full =>
    dsimp only at h
    obtain ⟨i, hi, -⟩ := exists_of_asValue h
    exact suffix_of_takeName? hi
  | weekdayName full =>
    obtain ⟨i, hi, -⟩ := exists_of_asValue h
    exact suffix_of_takeName? hi
  | halfOfDay =>
    obtain ⟨i, hi, -⟩ := exists_of_asValue h
    exact suffix_of_takeName? hi
  | fraction =>
    dsimp only at h
    split at h
    · obtain ⟨n, hn, -⟩ := exists_of_asValue h
      exact (suffix_of_takeFraction? hn).trans (List.suffix_cons _ _)
    · cases h
      exact List.suffix_refl _
  | fractionDigits width =>
    dsimp only at h
    obtain ⟨ds, hds, -⟩ := exists_of_asValue h
    exact suffix_of_takeDigits? hds
  | zoneName =>
    cases h
    exact List.dropWhile_suffix _
  | offset style =>
    obtain ⟨n, hn, -⟩ := exists_of_asValue h
    exact (suffix_of_takeOffset? hn).trans (List.dropWhile_suffix _)
  | timeSeparator =>
    dsimp only at h
    split at h
    · split at h
      · cases h
        exact List.suffix_cons _ _
      · cases h
    · cases h

theorem suffix_of_readPart? {state next : Entries × List Char} {part : Part}
    (h : readPart? state part = some next) : next.2 <:+ state.2 := by
  obtain ⟨values, htake, -⟩ := exists_of_readPart? h
  exact suffix_of_takePart? htake

/-! ## Characters that stand for themselves -/

theorem mem_of_readPart?_literal {state next : Entries × List Char} {c : Char}
    (h : readPart? state (.literal c) = some next) : c ∈ state.2 := by
  obtain ⟨values, htake, -⟩ := exists_of_readPart? h
  unfold takePart? at htake
  dsimp only at htake
  split at htake
  · next d rest heq =>
    split at htake
    · next hd => simp [heq, hd]
    · cases htake
  · cases htake

theorem mem_of_foldlM_readPart? {c : Char} {parts : List Part} (hc : .literal c ∈ parts)
    {state next : Entries × List Char} (h : parts.foldlM readPart? state = some next) :
    c ∈ state.2 := by
  induction parts generalizing state with
  | nil => cases hc
  | cons part parts ih =>
    rw [List.foldlM_cons] at h
    obtain ⟨middle, hmiddle, hrest⟩ := Option.bind_eq_some_iff.mp h
    rcases List.mem_cons.mp hc with rfl | hc
    · exact mem_of_readPart?_literal hmiddle
    · exact (suffix_of_readPart? hmiddle).subset (ih hc hrest)

theorem mem_of_readParts? {parts : List Part} {c : Char} (hc : .literal c ∈ parts)
    {cs : List Char} {d : Date} (h : readParts? parts cs = some d) : c ∈ cs := by
  obtain ⟨state, hstate, -⟩ := Option.bind_eq_some_iff.mp h
  exact mem_of_foldlM_readPart? hc hstate

theorem readParts?_of_not_mem {parts : List Part} {c : Char} (hc : .literal c ∈ parts)
    {cs : List Char} (h : c ∉ cs) : readParts? parts cs = none :=
  Option.eq_none_iff_forall_ne_some.mpr fun _ hd => h (mem_of_readParts? hc hd)

/-! ## Numbers behind other characters -/

theorem takeNat?_of_not_digit (width : Nat) {c : Char} (hc : isAsciiDigit c = false)
    (cs : List Char) : takeNat? width (c :: cs) = none := by
  cases width with
  | zero => rfl
  | succ width => simp [takeNat?, hc]

section

variable {part : NumberPart} {entries : Entries} {front ds rest : List Char}

/-- A number is read behind a sign at most. -/
theorem eq_of_takeInt?_cons (shape : NumberShape) {b : Char} (hb : isAsciiDigit b = false)
    (hfront : ∀ c ∈ front, isAsciiDigit c = false) (hds : IsDigitRow ds)
    (hend : ∀ c ∈ rest.head?, isAsciiDigit c = false) {v : Int} {left : List Char}
    (h : takeInt? shape (b :: (front ++ (ds ++ rest))) = some (v, left)) : left = rest := by
  have hsigned {n : Nat} (hn : takeNat? (front ++ (ds ++ rest)).length (front ++ (ds ++ rest)) =
      some (n, left)) : left = rest := by
    cases front with
    | nil =>
      rw [List.nil_append, takeNat?_append hds (by simp) fun _ => hend] at hn
      cases hn
      rfl
    | cons c cs =>
      rw [List.cons_append, takeNat?_of_not_digit _ (hfront c List.mem_cons_self)] at hn
      cases hn
  unfold takeInt? at h
  split at h
  · next heq =>
    cases heq
    obtain ⟨⟨n, r⟩, hn, hr⟩ := Option.map_eq_some_iff.mp h
    cases hr
    exact hsigned hn
  · next heq =>
    cases heq
    obtain ⟨⟨n, r⟩, hn, hr⟩ := Option.map_eq_some_iff.mp h
    cases hr
    exact hsigned hn
  · rw [takeNat?_of_not_digit _ hb] at h
    cases h

theorem snd_of_readPart?_number_behind {state : Entries × List Char}
    (hfront : ∀ c ∈ front, isAsciiDigit c = false) (hds : IsDigitRow ds)
    (hwidth : ds.length ≤ part.shape.width) (hend : ∀ c ∈ rest.head?, isAsciiDigit c = false)
    (h : readPart? (entries, front ++ (ds ++ rest)) (.number part) = some state) :
    state.2 = rest := by
  induction front with
  | nil => exact snd_of_readPart?_number hds hwidth (fun _ => hend) h
  | cons b front ih =>
    obtain ⟨hb, hfront'⟩ := List.forall_mem_cons.mp hfront
    cases hblank : Text.isBlank b with
    | true =>
      refine ih hfront' ?_
      rw [← h]
      simp only [readPart?, takePart?, Text.trimStart, List.cons_append, List.dropWhile_cons,
        hblank, if_pos]
    | false =>
      have htrim : Text.trimStart (b :: front ++ (ds ++ rest)) = b :: (front ++ (ds ++ rest)) := by
        simp [Text.trimStart, hblank]
      obtain ⟨values, htake, -⟩ := exists_of_readPart? h
      obtain ⟨⟨v, left⟩, hv, htake⟩ := Option.bind_eq_some_iff.mp htake
      dsimp only at hv htake
      rw [htrim] at hv
      split at htake
      · rw [← (Prod.mk.inj (Option.some.inj htake)).2]
        exact eq_of_takeInt?_cons _ hb hfront' hds hend hv
      · cases htake

/-! ## The parts of a format one by one -/

variable {parts : List Part} {state : Entries × List Char}

theorem foldlM_of_literal {c d : Char}
    (h : (Part.literal c :: parts).foldlM readPart? (entries, d :: rest) = some state) :
    d = c ∧ parts.foldlM readPart? (entries, rest) = some state := by
  by_cases hd : d = c
  · subst hd
    exact ⟨rfl, by rwa [foldlM_readPart?_cons (readPart?_literal entries d rest)] at h⟩
  · rw [List.foldlM_cons, readPart?_literal_of_ne entries hd] at h
    cases h

theorem exists_foldlM_cons {start : Entries × List Char} {part : Part}
    (hleft : ∀ next, readPart? start part = some next → next.2 = rest)
    (h : (part :: parts).foldlM readPart? start = some state) :
    ∃ entries', parts.foldlM readPart? (entries', rest) = some state := by
  rw [List.foldlM_cons] at h
  obtain ⟨⟨entries', left⟩, hread, hrest⟩ := Option.bind_eq_some_iff.mp h
  obtain rfl : left = rest := hleft _ hread
  exact ⟨entries', hrest⟩

end

theorem readParts?_eq_none {parts : List Part} {cs : List Char}
    (h : ∀ state, parts.foldlM readPart? (Entries.none, cs) = some state → state.2 ≠ []) :
    readParts? parts cs = none := by
  unfold readParts?
  refine Option.bind_eq_none_iff.mpr fun state hstate => if_neg ?_
  simpa using h state hstate

/-! ## Rows of digits that a format does not read -/

theorem NumberPart.shape_width_pos (part : NumberPart) : 0 < part.shape.width := by
  cases part <;> decide

section

variable {a b c : NumberPart} {l s s' : Char} {front as bs cs rest : List Char} {parts : List Part}

theorem exists_foldlM_number_literal (front : List Char) {entries : Entries}
    {state : Entries × List Char} (hfront : ∀ c ∈ front, isAsciiDigit c = false)
    (has : IsDigitRow as) (haw : as.length ≤ a.shape.width) (hs : isAsciiDigit s = false)
    (h : (.number a :: .literal l :: parts).foldlM readPart?
      (entries, front ++ (as ++ s :: rest)) = some state) :
    s = l ∧ ∃ entries', parts.foldlM readPart? (entries', rest) = some state := by
  have hend := forall_mem_head?_cons hs rest
  have hleft (next : Entries × List Char)
      (hnext : readPart? (entries, front ++ (as ++ s :: rest)) (.number a) = some next) :
      next.2 = s :: rest :=
    snd_of_readPart?_number_behind hfront has haw hend hnext
  obtain ⟨entries', h⟩ := exists_foldlM_cons hleft h
  obtain ⟨hsl, h⟩ := foldlM_of_literal h
  exact ⟨hsl, entries', h⟩

theorem readParts?_of_literal_ne (front : List Char)
    (hfront : ∀ c ∈ front, isAsciiDigit c = false) (has : IsDigitRow as)
    (haw : as.length ≤ a.shape.width) (hs : isAsciiDigit s = false) (hne : s ≠ l) :
    readParts? (.number a :: .literal l :: parts) (front ++ (as ++ s :: rest)) = none :=
  readParts?_eq_none fun _ h =>
    absurd (exists_foldlM_number_literal front hfront has haw hs h).1 hne

theorem readParts?_of_two_rows (has : IsDigitRow as) (hbs : IsDigitRow bs)
    (haw : as.length ≤ a.shape.width) (hbw : bs.length ≤ b.shape.width)
    (hs : isAsciiDigit s = false) :
    readParts? (.number a :: .literal l :: .number b :: .literal l :: parts) (as ++ s :: bs) =
      none := by
  refine readParts?_eq_none fun state h => ?_
  obtain ⟨-, entries, h⟩ := exists_foldlM_number_literal [] nofun has haw hs h
  have hleft (next : Entries × List Char)
      (hnext : readPart? (entries, bs) (.number b) = some next) : next.2 = [] := by
    rw [← List.append_nil bs] at hnext
    exact snd_of_readPart?_number hbs hbw (fun _ => nofun) hnext
  obtain ⟨entries', h⟩ := exists_foldlM_cons hleft h
  -- No text is left for the second literal.
  cases h

/-- The last number does not take all the digits of a longer row. -/
theorem readParts?_of_long_row (front rest : List Char)
    (hfront : ∀ c ∈ front, isAsciiDigit c = false) (has : IsDigitRow as) (hbs : IsDigitRow bs)
    (hcs : IsDigitRow cs) (haw : as.length ≤ a.shape.width) (hbw : bs.length ≤ b.shape.width)
    (hcw : c.shape.width < cs.length) (hs : isAsciiDigit s = false)
    (hs' : isAsciiDigit s' = false) :
    readParts? [.number a, .literal l, .number b, .literal l, .number c]
      (front ++ (as ++ s :: (bs ++ s' :: (cs ++ rest)))) = none := by
  have hfilled : (cs.take c.shape.width).length = c.shape.width := by
    rw [List.length_take]
    omega
  have hrow := hcs.take c.shape_width_pos
  have hsplit : cs ++ rest = cs.take c.shape.width ++ (cs.drop c.shape.width ++ rest) := by
    rw [← List.append_assoc, List.take_append_drop]
  refine readParts?_eq_none fun state h => ?_
  obtain ⟨-, entries, h⟩ := exists_foldlM_number_literal front hfront has haw hs h
  obtain ⟨-, entries', h⟩ := exists_foldlM_number_literal [] nofun hbs hbw hs' h
  have hleft (next : Entries × List Char)
      (hnext : readPart? (entries', cs ++ rest) (.number c) = some next) :
      next.2 = cs.drop c.shape.width ++ rest := by
    rw [hsplit] at hnext
    exact snd_of_readPart?_number hrow (Nat.le_of_eq hfilled)
      (fun hlt => absurd hfilled (Nat.ne_of_lt hlt)) hnext
  obtain ⟨entries'', h⟩ := exists_foldlM_cons hleft h
  cases h
  refine List.append_ne_nil_of_left_ne_nil (List.ne_nil_of_length_pos ?_) rest
  rw [List.length_drop]
  omega

end

end DateFormat
end TrackSearch
