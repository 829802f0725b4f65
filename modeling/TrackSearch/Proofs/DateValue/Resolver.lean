/-
The form that a text is read in.

A text that does not start with a letter is read in the first form that it has, so there is a lemma
for each form: the forms in front of it do not read the text, and this one does.
-/
import TrackSearch.DateValue.Resolver
import TrackSearch.Proofs.DateFormat.Mismatch
import TrackSearch.Proofs.DateValue.DayMonth

namespace TrackSearch

open Calendar Number

/-! ## Texts that are no phrases -/

theorem isAlphabetic_of_isAsciiDigit {c : Char} (h : isAsciiDigit c = true) :
    Text.isAlphabetic c = false := by
  have hranges : ∀ r ∈ Text.alphabeticTable.ranges, 57 < r.1 := by decide +kernel
  refine Bool.eq_false_iff.mpr fun halphabetic => ?_
  obtain ⟨r, hr, hlow, -⟩ := Text.RangeTable.contains_iff.mp halphabetic
  have hstart := hranges r hr
  have hdigit := (isAsciiDigit_iff.mp h).2
  omega

namespace Resolver

variable {r : Resolver} {text : String} {cs : List Char}

theorem resolve_eq_resolveDigits (hne : text.toList ≠ [])
    (hhead : ∀ c ∈ text.toList.head?, Text.isAlphabetic c = false) :
    r.resolve text = r.resolveDigits text.toList := by
  obtain ⟨c, cs, htext⟩ := List.exists_cons_of_ne_nil hne
  rw [htext] at hhead
  unfold resolve resolveWith
  rw [htext]
  dsimp only
  rw [hhead c rfl, if_neg Bool.false_ne_true]
  rfl

theorem resolve_of_isDigitRow {ds rest : List Char} (hds : IsDigitRow ds)
    (htext : text.toList = ds ++ rest) : r.resolve text = r.resolveDigits (ds ++ rest) := by
  obtain ⟨c, cs, rfl⟩ := List.exists_cons_of_ne_nil hds.ne_nil
  have hc := isAlphabetic_of_isAsciiDigit (hds.isAsciiDigit c List.mem_cons_self)
  rw [resolve_eq_resolveDigits (by simp [htext]) (by simpa [htext] using hc), htext]

/-! ## The forms in their order -/

section

variable {d m y : List Char} (hshort : r.shortDate? cs = none)

include hshort

theorem resolveDigits_of_dayMonthYear?
    (h : DayMonth.search? DayMonth.dayMonthYear? cs = some (d, m, y)) :
    r.resolveDigits cs = ofDate ((readNat? y).bind fun y => DayMonth.date? y m d) := by
  rw [resolveDigits, hshort, resolveDigitsWith, h]

variable (hyear : DayMonth.search? DayMonth.dayMonthYear? cs = none)

include hyear

theorem resolveDigits_of_dayMonth? (h : DayMonth.search? DayMonth.dayMonth? cs = some (d, m)) :
    r.resolveDigits cs = ofDate (DayMonth.date? r.now.date.year m d) := by
  rw [resolveDigits, hshort, resolveDigitsWith, hyear]
  dsimp only
  rw [h]

theorem resolveDigits_of_no_date (h : DayMonth.search? DayMonth.dayMonth? cs = none) :
    r.resolveDigits cs = ofInstant ((Elapsed.ofText? cs).bind (Elapsed.before? r.now)) := by
  rw [resolveDigits, hshort, resolveDigitsWith, hyear]
  dsimp only
  rw [h]

end

theorem shortDate?_eq_hyphens (now : Instant)
    (h : ∀ parts, DateFormat.readParts? (.number .month :: .literal '/' :: parts) cs = none) :
    shortDate? ⟨now, defaultFormats⟩ cs = DateFormat.readParts?
      [.number .year, .literal '-', .number .month, .literal '-', .number .day] cs := by
  show List.findSome? _ defaultFormats = _
  unfold defaultFormats
  simp only [List.findSome?_cons, DateFormat.readDate?, h, List.findSome?_nil]
  split
  · next hdate => exact hdate.symm
  · next hdate => exact hdate.symm

/-- The formats read no text without slashes and hyphens. -/
theorem shortDate?_of_plain (now : Instant) {cs : List Char} (h : ∀ c ∈ cs, c ≠ '/' ∧ c ≠ '-') :
    shortDate? ⟨now, defaultFormats⟩ cs = none := by
  have hliteral : ∀ f ∈ defaultFormats, .literal '/' ∈ f.parts ∨ .literal '-' ∈ f.parts := by
    decide
  refine List.findSome?_eq_none_iff.mpr fun f hf => ?_
  rcases hliteral f hf with hslash | hhyphen
  · exact DateFormat.readParts?_of_not_mem hslash fun hc => (h '/' hc).1 rfl
  · exact DateFormat.readParts?_of_not_mem hhyphen fun hc => (h '-' hc).2 rfl

end Resolver

end TrackSearch
