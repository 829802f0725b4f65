/-
Quoted texts read back.

`unescapeChar?` takes the character off the front of a quoted text that `escapeChar` put there,
whatever comes behind it.  So a quoted text has one original, `quoted_injective`, and since every
control character is escaped it is one line, `isLine_quoted`.
-/
import Mathlib.Logic.Function.Basic
import TrackSearch.Text.Quoted

namespace TrackSearch
namespace Text

/-- The code points of category Cc. -/
def isControl (c : Char) : Bool :=
  decide (c.toNat < 0x20) || decide (0x7F ≤ c.toNat) && decide (c.toNat < 0xA0)

/-- Whether a text has no control characters, and so no line ends. -/
def IsLine (cs : List Char) : Prop :=
  ∀ c ∈ cs, isControl c = false

instance (cs : List Char) : Decidable (IsLine cs) :=
  decidable_of_iff (cs.all (!isControl ·) = true) (by simp [IsLine])

theorem isLine_append {cs ds : List Char} : IsLine (cs ++ ds) ↔ IsLine cs ∧ IsLine ds :=
  List.forall_mem_append

/-! ## Code points in base 16 -/

def hexDigitValue (c : Char) : Nat :=
  if c.toNat < 'a'.toNat then c.toNat - '0'.toNat else c.toNat - 'a'.toNat + 10

def hexValue (ds : List Char) : Nat :=
  ds.foldl (fun n c => 16 * n + hexDigitValue c) 0

theorem hexValue_concat (ds : List Char) (c : Char) :
    hexValue (ds ++ [c]) = 16 * hexValue ds + hexDigitValue c :=
  List.foldl_append

theorem hexDigit_of_lt {k : Nat} (hk : k < 16) :
    hexDigitValue k.digitChar = k ∧ k.digitChar ≠ '\x7d' ∧ isControl k.digitChar = false := by
  revert k
  decide

/-- A number is the number before its last digit, and that digit. -/
theorem hexDigits_eq (n : Nat) :
    hexDigits n = (if n < 16 then [] else hexDigits (n / 16)) ++ [(n % 16).digitChar] := by
  rw [hexDigits]
  split
  · next hn => rw [Nat.toDigits_of_lt_base hn, Nat.mod_eq_of_lt hn, List.nil_append]
  · next hn => rw [Nat.toDigits_of_base_le (by omega) (by omega), hexDigits]

theorem hexValue_hexDigits (n : Nat) : hexValue (hexDigits n) = n := by
  induction n using Nat.strongRecOn with
  | ind n ih =>
    have hdigit : hexDigitValue (n % 16).digitChar = n % 16 := (hexDigit_of_lt (by omega)).1
    rw [hexDigits_eq, hexValue_concat, hdigit]
    split
    · next hn =>
      show 16 * 0 + n % 16 = n
      omega
    · next hn =>
      rw [ih (n / 16) (by omega)]
      omega

theorem exists_digitChar_of_mem_hexDigits {n : Nat} {c : Char} (hc : c ∈ hexDigits n) :
    ∃ k < 16, c = k.digitChar := by
  induction n using Nat.strongRecOn with
  | ind n ih =>
    rw [hexDigits_eq] at hc
    rcases List.mem_append.mp hc with hc | hc
    · split at hc
      · exact absurd hc List.not_mem_nil
      · next hn => exact ih (n / 16) (by omega) hc
    · exact ⟨n % 16, by omega, List.mem_singleton.mp hc⟩

/-! ## Characters -/

/-- The character that a letter behind a backslash stands for. -/
def unescapeLetter (c : Char) : Char :=
  if c = 't' then '\t'
  else if c = 'r' then '\r'
  else if c = 'n' then '\n'
  else if c = '0' then '\x00'
  else c

/-- The character at the front of a quoted text, and the text behind it. -/
def unescapeChar? : List Char → Option (Char × List Char)
  | '\\' :: 'u' :: '\x7b' :: cs =>
    match cs.dropWhile (· != '\x7d') with
    | [] => none
    | _ :: rest => some (Char.ofNat (hexValue (cs.takeWhile (· != '\x7d'))), rest)
  | '\\' :: c :: cs => some (unescapeLetter c, cs)
  | '"' :: _ => none
  | c :: cs => some (c, cs)
  | [] => none

theorem unescapeChar?_codePoint (c : Char) (rest : List Char) :
    unescapeChar? (['\\', 'u', '\x7b'] ++ hexDigits c.toNat ++ ['\x7d'] ++ rest) =
      some (c, rest) := by
  have hdigits : ∀ d ∈ hexDigits c.toNat, (d != '\x7d') = true := by
    intro d hd
    obtain ⟨k, hk, rfl⟩ := exists_digitChar_of_mem_hexDigits hd
    exact bne_iff_ne.mpr (hexDigit_of_lt hk).2.1
  have htext : ['\\', 'u', '\x7b'] ++ hexDigits c.toNat ++ ['\x7d'] ++ rest =
      '\\' :: 'u' :: '\x7b' :: (hexDigits c.toNat ++ '\x7d' :: rest) := by
    simp
  rw [htext, unescapeChar?, List.dropWhile_append_of_pos hdigits,
    List.takeWhile_append_of_pos hdigits]
  have hvalue : Char.ofNat (hexValue (hexDigits c.toNat)) = c := by
    rw [hexValue_hexDigits, Char.ofNat_toNat]
  simp [hvalue]

/-- What is written for a character is told from what comes behind it. -/
theorem unescapeChar?_append (c : Char) (rest : List Char) :
    unescapeChar? (escapeChar c ++ rest) = some (c, rest) := by
  rw [escapeChar]
  split
  · next hc =>
    rcases hc with rfl | rfl <;> rfl
  · next hc =>
    obtain ⟨hquote, hslash⟩ := not_or.mp hc
    split
    · next ht => rw [ht]; rfl
    split
    · next hr => rw [hr]; rfl
    split
    · next hn => rw [hn]; rfl
    split
    · next h0 => rw [h0]; rfl
    split
    · exact unescapeChar?_codePoint c rest
    · show unescapeChar? (c :: rest) = some (c, rest)
      rw [unescapeChar?.eq_def]
      split <;> simp_all

/-! ## Texts -/

theorem flatMap_escapeChar_injective {cs ds : List Char}
    (h : cs.flatMap escapeChar ++ ['"'] = ds.flatMap escapeChar ++ ['"']) : cs = ds := by
  induction cs generalizing ds with
  | nil =>
    cases ds with
    | nil => rfl
    | cons d ds =>
      rw [List.flatMap_cons, List.append_assoc] at h
      have hread := congrArg unescapeChar? h
      rw [unescapeChar?_append] at hread
      cases hread
  | cons c cs ih =>
    rw [List.flatMap_cons, List.append_assoc] at h
    have hread := congrArg unescapeChar? h
    rw [unescapeChar?_append] at hread
    cases ds with
    | nil => cases hread
    | cons d ds =>
      rw [List.flatMap_cons, List.append_assoc, unescapeChar?_append] at hread
      obtain ⟨hc, hcs⟩ := Prod.mk.inj (Option.some.inj hread)
      rw [hc, ih hcs]

theorem quoted_injective : Function.Injective quoted := by
  intro s t h
  have hlists := congrArg String.toList h
  rw [quoted, quoted, String.toList_ofList, String.toList_ofList] at hlists
  exact String.toList_injective (flatMap_escapeChar_injective (List.cons.inj hlists).2)

/-! ## Control characters -/

theorem isControl_of_isUnprintable {c : Char} (h : isUnprintable c = false) :
    isControl c = false := by
  have hrange (r : Nat × Nat) (hr : r ∈ unprintableTable.ranges) :
      ¬(r.1 ≤ c.toNat ∧ c.toNat ≤ r.2) := by
    intro hc
    have hin : isUnprintable c = true := RangeTable.contains_iff.mpr ⟨r, hr, hc⟩
    rw [h] at hin
    cases hin
  have hlow := hrange (0x0, 0x1F) (by rw [unprintableTable]; exact List.mem_cons_self)
  have hhigh := hrange (0x7F, 0xA0)
    (by rw [unprintableTable]; exact List.mem_cons_of_mem _ List.mem_cons_self)
  simp only [isControl, Bool.or_eq_false_iff, Bool.and_eq_false_iff, decide_eq_false_iff_not]
  omega

/-- Whatever a character is, nothing that is written for it is a control character. -/
theorem isLine_escapeChar (c : Char) : IsLine (escapeChar c) := by
  rw [escapeChar]
  split
  · next hc => rcases hc with rfl | rfl <;> decide
  split
  · decide
  split
  · decide
  split
  · decide
  split
  · decide
  split
  · have hdigits : IsLine (hexDigits c.toNat) := by
      intro d hd
      obtain ⟨k, hk, rfl⟩ := exists_digitChar_of_mem_hexDigits hd
      exact (hexDigit_of_lt hk).2.2
    exact isLine_append.mpr ⟨isLine_append.mpr ⟨by decide, hdigits⟩, by decide⟩
  · next hplain =>
    intro d hd
    obtain rfl := List.mem_singleton.mp hd
    have hprint : (isUnprintable d || isExtending d) = false := Bool.eq_false_iff.mpr hplain
    exact isControl_of_isUnprintable (Bool.or_eq_false_iff.mp hprint).1

theorem isLine_quoted (s : String) : IsLine (quoted s).toList := by
  have hchars : IsLine (s.toList.flatMap escapeChar) := by
    intro c hc
    obtain ⟨d, -, hd⟩ := List.mem_flatMap.mp hc
    exact isLine_escapeChar d c hd
  rw [quoted, String.toList_ofList]
  show IsLine (['"'] ++ s.toList.flatMap escapeChar ++ ['"'])
  exact isLine_append.mpr ⟨isLine_append.mpr ⟨by decide, hchars⟩, by decide⟩

end Text
end TrackSearch
