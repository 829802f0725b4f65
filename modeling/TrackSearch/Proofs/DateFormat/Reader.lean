/-
Reading dates that are written with a year, a month and a day in digits.

A number is read as the row of digits that the text begins with, up to its width.  So a format reads
what its parts write (`readParts?_hyphens`, `readParts?_slashes`).
-/
import TrackSearch.DateFormat.Reader
import TrackSearch.Proofs.Calendar.DayNumber
import TrackSearch.Proofs.Number.Digits

namespace TrackSearch
namespace DateFormat

open Calendar Number

/-! ## Numbers -/

/-- A row that is shorter than it could be ends where the digits do. -/
theorem takeNat?_append {width : Nat} {ds rest : List Char} (hds : IsDigitRow ds)
    (hwidth : ds.length ≤ width)
    (hend : ds.length < width → ∀ c ∈ rest.head?, isAsciiDigit c = false) :
    takeNat? width (ds ++ rest) = some (digitsValue ds, rest) := by
  have hne : ds.isEmpty = false :=
    Bool.eq_false_iff.mpr fun he => hds.ne_nil (List.isEmpty_iff.mp he)
  unfold takeNat?
  dsimp only
  rw [takeWhile_take_append hds.isAsciiDigit hwidth hend, hne, if_neg Bool.false_ne_true,
    List.drop_left]

/-- A text that begins with a digit has no sign in front. -/
theorem takeInt?_of_isAsciiDigit (shape : NumberShape) {c : Char} (hc : isAsciiDigit c = true)
    (cs : List Char) :
    takeInt? shape (c :: cs) =
      (takeNat? shape.width (c :: cs)).map fun (n, rest) => ((n : Int), rest) := by
  unfold takeInt?
  split
  · next heq =>
    cases heq
    cases hc
  · next heq =>
    cases heq
    cases hc
  · next heq => rfl

theorem takeInt?_append (shape : NumberShape) {ds rest : List Char} (hds : IsDigitRow ds)
    (hwidth : ds.length ≤ shape.width)
    (hend : ds.length < shape.width → ∀ c ∈ rest.head?, isAsciiDigit c = false) :
    takeInt? shape (ds ++ rest) = some ((digitsValue ds : Int), rest) := by
  have htake := takeNat?_append hds hwidth hend
  obtain ⟨c, cs, rfl⟩ := List.exists_cons_of_ne_nil hds.ne_nil
  rw [List.cons_append] at htake ⊢
  rw [takeInt?_of_isAsciiDigit shape (hds.isAsciiDigit c List.mem_cons_self), htake]
  rfl

theorem trimStart_append {ds : List Char} (hds : IsDigitRow ds) (rest : List Char) :
    Text.trimStart (ds ++ rest) = ds ++ rest := by
  obtain ⟨c, cs, rfl⟩ := List.exists_cons_of_ne_nil hds.ne_nil
  have hc := isBlank_of_isAsciiDigit (hds.isAsciiDigit c List.mem_cons_self)
  rw [List.cons_append, Text.trimStart, List.dropWhile_cons, hc]
  rfl

/-! ## Parts -/

section

variable {part : Part} {entries entries' : Entries} {values : List (Entry × Int)}
  {cs rest : List Char}

theorem readPart?_of_takePart? (htake : takePart? cs part = some (values, rest))
    (hput : entries.putAll? values = some entries') :
    readPart? (entries, cs) part = some (entries', rest) := by
  unfold readPart?
  dsimp only
  rw [htake]
  show (entries.putAll? values).bind _ = _
  rw [hput]
  rfl

theorem readPart?_of_takePart?_eq_none (entries : Entries) (htake : takePart? cs part = none) :
    readPart? (entries, cs) part = none := by
  unfold readPart?
  dsimp only
  rw [htake]
  rfl

theorem exists_of_readPart? {state next : Entries × List Char}
    (h : readPart? state part = some next) :
    ∃ values, takePart? state.2 part = some (values, next.2) ∧
      state.1.putAll? values = some next.1 := by
  obtain ⟨⟨values, rest⟩, htake, h⟩ := Option.bind_eq_some_iff.mp h
  obtain ⟨entries, hput, h⟩ := Option.bind_eq_some_iff.mp h
  cases h
  exact ⟨values, htake, hput⟩

end

section

variable {part : NumberPart} {entries : Entries} {ds rest : List Char}

theorem takePart?_number (hds : IsDigitRow ds) (hwidth : ds.length ≤ part.shape.width)
    (hend : ds.length < part.shape.width → ∀ c ∈ rest.head?, isAsciiDigit c = false) :
    takePart? (ds ++ rest) (.number part) =
      if part.shape.least ≤ digitsValue ds ∧ (digitsValue ds : Int) ≤ part.shape.greatest then
        some (part.entries (digitsValue ds), rest)
      else none := by
  unfold takePart?
  dsimp only
  rw [trimStart_append hds, takeInt?_append part.shape hds hwidth hend]
  rfl

/-- Whatever the value of a number, the text behind its digits is left. -/
theorem snd_of_readPart?_number {state : Entries × List Char} (hds : IsDigitRow ds)
    (hwidth : ds.length ≤ part.shape.width)
    (hend : ds.length < part.shape.width → ∀ c ∈ rest.head?, isAsciiDigit c = false)
    (h : readPart? (entries, ds ++ rest) (.number part) = some state) : state.2 = rest := by
  obtain ⟨values, htake, -⟩ := exists_of_readPart? h
  dsimp only at htake
  rw [takePart?_number hds hwidth hend] at htake
  split at htake
  · exact (Prod.mk.inj (Option.some.inj htake)).2.symm
  · cases htake

end

theorem readPart?_literal (entries : Entries) (c : Char) (rest : List Char) :
    readPart? (entries, c :: rest) (.literal c) = some (entries, rest) :=
  readPart?_of_takePart? (if_pos rfl) rfl

theorem readPart?_literal_of_ne (entries : Entries) {c d : Char} (h : d ≠ c) (rest : List Char) :
    readPart? (entries, d :: rest) (.literal c) = none :=
  readPart?_of_takePart?_eq_none entries (if_neg h)

/-! ## Dates -/

namespace Entries

/-- What is known of a date when its year, month and day are. -/
def ofYmd (y : Int) (m d : Nat) : Entries
  | .year => some y
  | .month => some m
  | .day => some d
  | _ => Option.none

theorem agreeWith_ofYmd (d : Date) : (ofYmd d.year d.month d.day).agreeWith d = true := by
  simp [agreeWith, Entry.ofDates, ofYmd, Entry.ofDate?]

theorem toDate?_ofYmd (y : Int) (m d : Nat) : (ofYmd y m d).toDate? = Date.ofYmd? y m d := by
  have hcandidate : candidate? (ofYmd y m d) (some y) Option.none = Date.ofYmd? y m d := rfl
  show (candidate? (ofYmd y m d) (some y) Option.none).bind _ = _
  rw [hcandidate]
  cases hdate : Date.ofYmd? y m d with
  | none => rfl
  | some e =>
    obtain ⟨rfl, rfl, rfl⟩ := Date.ofYmd?_eq_some_iff.mp hdate
    exact if_pos (agreeWith_ofYmd e)

end Entries

theorem foldlM_readPart?_cons {state next : Entries × List Char} {part : Part}
    (h : readPart? state part = some next) (parts : List Part) :
    (part :: parts).foldlM readPart? state = parts.foldlM readPart? next := by
  rw [List.foldlM_cons, h]
  rfl

theorem foldlM_readPart?_number {part : NumberPart} {entries entries' : Entries}
    {ds rest : List Char} (hds : IsDigitRow ds) (hwidth : ds.length ≤ part.shape.width)
    (hend : ds.length < part.shape.width → ∀ c ∈ rest.head?, isAsciiDigit c = false)
    (hput : entries.putAll? (part.entries (digitsValue ds)) = some entries') (parts : List Part) :
    (.number part :: parts).foldlM readPart? (entries, ds ++ rest) =
      if part.shape.least ≤ digitsValue ds ∧ (digitsValue ds : Int) ≤ part.shape.greatest then
        parts.foldlM readPart? (entries', rest)
      else none := by
  have htake := takePart?_number hds hwidth hend
  split at htake
  · next hrange =>
    rw [if_pos hrange]
    exact foldlM_readPart?_cons (readPart?_of_takePart? htake hput) parts
  · next hrange =>
    rw [if_neg hrange, List.foldlM_cons, readPart?_of_takePart?_eq_none entries htake]
    rfl

section

variable {a b c : NumberPart} {as bs cs ys ms ds : List Char} {e₁ e₂ : Entries}
  {y : Int} {m d : Nat}

/-- Three numbers with a character between them that is no digit.  When they say the year, the month
and the day, they are read as that date, and not at all if it does not exist. -/
theorem readParts?_three_numbers {s : Char} (hs : isAsciiDigit s = false)
    (has : IsDigitRow as) (hbs : IsDigitRow bs) (hcs : IsDigitRow cs)
    (haw : as.length ≤ a.shape.width) (hbw : bs.length ≤ b.shape.width)
    (hcw : cs.length ≤ c.shape.width)
    (hput₁ : Entries.none.putAll? (a.entries (digitsValue as)) = some e₁)
    (hput₂ : e₁.putAll? (b.entries (digitsValue bs)) = some e₂)
    (hput₃ : e₂.putAll? (c.entries (digitsValue cs)) = some (Entries.ofYmd y m d))
    (hrange : IsDate y m d →
      (a.shape.least ≤ digitsValue as ∧ (digitsValue as : Int) ≤ a.shape.greatest) ∧
      (b.shape.least ≤ digitsValue bs ∧ (digitsValue bs : Int) ≤ b.shape.greatest) ∧
      (c.shape.least ≤ digitsValue cs ∧ (digitsValue cs : Int) ≤ c.shape.greatest)) :
    readParts? [.number a, .literal s, .number b, .literal s, .number c]
      (as ++ s :: (bs ++ s :: cs)) = Date.ofYmd? y m d := by
  have hnil : cs.length < c.shape.width → ∀ c ∈ ([] : List Char).head?, isAsciiDigit c = false :=
    fun _ => nofun
  have hthird := foldlM_readPart?_number hcs hcw hnil hput₃ []
  have hend := forall_mem_head?_cons hs cs
  have hsecond := foldlM_readPart?_number hbs hbw (fun _ => hend) hput₂ [.literal s, .number c]
  have hend' := forall_mem_head?_cons hs (bs ++ s :: cs)
  have hfirst := foldlM_readPart?_number has haw (fun _ => hend') hput₁
    [.literal s, .number b, .literal s, .number c]
  rw [List.append_nil] at hthird
  rw [foldlM_readPart?_cons (readPart?_literal e₂ s cs), hthird] at hsecond
  rw [foldlM_readPart?_cons (readPart?_literal e₁ s _), hsecond] at hfirst
  rw [readParts?, hfirst]
  by_cases hdate : IsDate y m d
  · obtain ⟨ha, hb, hc⟩ := hrange hdate
    rw [if_pos ha, if_pos hb, if_pos hc]
    exact Entries.toDate?_ofYmd y m d
  · have hnone : Date.ofYmd? y m d = none := dif_neg hdate
    rw [hnone]
    split
    · split
      · split
        · exact (Entries.toDate?_ofYmd y m d).trans hnone
        · rfl
      · rfl
    · rfl

/-- A year, a month and a day with hyphens between them are read as their date. -/
theorem readParts?_hyphens (hys : IsDigitRow ys) (hms : IsDigitRow ms)
    (hds : IsDigitRow ds) (hylength : ys.length ≤ 4) (hmlength : ms.length ≤ 2)
    (hdlength : ds.length ≤ 2) :
    readParts? [.number .year, .literal '-', .number .month, .literal '-', .number .day]
        (ys ++ '-' :: (ms ++ '-' :: ds)) =
      Date.ofYmd? (digitsValue ys) (digitsValue ms) (digitsValue ds) := by
  refine readParts?_three_numbers rfl hys hms hds hylength hmlength hdlength rfl rfl ?_ ?_
  · refine congrArg some (funext fun j => ?_)
    cases j <;> rfl
  · rintro ⟨-, hlast, hmpos, hmle, hdpos, hdle⟩
    have hdle' := Nat.le_trans hdle (daysInMonth_le _ _)
    unfold lastYear at hlast
    simp only [NumberPart.shape]
    omega

/-- A month, a day and a year with slashes between them are read as their date. -/
theorem readParts?_slashes (hys : IsDigitRow ys) (hms : IsDigitRow ms)
    (hds : IsDigitRow ds) (hylength : ys.length ≤ 4) (hmlength : ms.length ≤ 2)
    (hdlength : ds.length ≤ 2) :
    readParts? [.number .month, .literal '/', .number .day, .literal '/', .number .year]
        (ms ++ '/' :: (ds ++ '/' :: ys)) =
      Date.ofYmd? (digitsValue ys) (digitsValue ms) (digitsValue ds) := by
  refine readParts?_three_numbers rfl hms hds hys hmlength hdlength hylength rfl rfl ?_ ?_
  · refine congrArg some (funext fun j => ?_)
    cases j <;> rfl
  · rintro ⟨-, hlast, hmpos, hmle, hdpos, hdle⟩
    have hdle' := Nat.le_trans hdle (daysInMonth_le _ _)
    unfold lastYear at hlast
    simp only [NumberPart.shape]
    omega

end

end DateFormat
end TrackSearch
