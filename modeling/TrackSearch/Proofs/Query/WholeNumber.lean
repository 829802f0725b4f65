/-
Whole numbers in queries.

A field that holds a whole number is compared with the integer that a text denotes, exactly, and
with zero if the text denotes none that fits a 64-bit word.  `compile_wholeNumber` says so for every
text, and for the fields that hold a length in milliseconds, where the scaled integer is the nearest
word.
-/
import TrackSearch.Proofs.Number.Numeral
import TrackSearch.Proofs.Query.Meaning

namespace TrackSearch

open Number

/-! ## The value of a text -/

theorem wholeValue_of_denotes {text : String} {n : Int} (h : Denotes text n) (hn : FitsWord n) :
    (wholeValue text).toInt = n := by
  obtain ⟨w, -, rfl⟩ := exists_word?_of_fitsWord hn
  rw [wholeValue, readWord?_trim_eq_some_iff.mpr h]
  rfl

theorem wholeValue_eq_zero {text : String} (h : ∀ n, Denotes text n → ¬FitsWord n) :
    wholeValue text = 0 := by
  have hnone : readWord? (Text.trim text.toList) = none :=
    Option.eq_none_iff_forall_ne_some.mpr fun w hw =>
      h w.toInt (readWord?_trim_eq_some_iff.mp hw) (fitsWord_toInt w)
  rw [wholeValue, hnone]
  rfl

/-! ## The value of a field -/

/-- What stands for a whole number in a field.  A length is typed in seconds and stored in
milliseconds, as far as they fit a word. -/
def Field.stored (field : Field) (n : Int) : Int :=
  if field.kind = .length then max (-9223372036854775808) (min (n * 1000) 9223372036854775807)
  else n

theorem Field.stored_zero (field : Field) : field.stored 0 = 0 := by
  unfold stored
  split <;> rfl

theorem Field.stored_mono (field : Field) {m n : Int} (h : m ≤ n) :
    field.stored m ≤ field.stored n := by
  unfold stored
  split <;> omega

namespace Element

/-- Whether the query of an element is one filter in the scope of the element, with a number that
is compared as the element says. -/
def AsksFor (dates : Resolver) (supported : FieldSet) (field : Field) (e : Element)
    (value : Int64) : Prop :=
  e.compile dates supported = Emission.ofCalls
    [if e.negate then .beginAnd else .beginOr,
      .numberFilter e.negate field value e.matchKind.comparison, .endScope]

variable {dates : Resolver} {supported : FieldSet} {field : Field} {e : Element}

theorem AsksFor.unique {v w : Int64} (hv : e.AsksFor dates supported field v)
    (hw : e.AsksFor dates supported field w) : v = w := by
  have hcalls := congrArg Emission.calls (hv.symm.trans hw)
  simpa [Emission.ofCalls] using hcalls

section

variable (hkind : field.kind = .number ∨ field.kind = .length)
  (hsupported : supported.supports field = true) (hfield : Field.ofName? e.field = some field)

include hkind hsupported hfield

theorem exists_asksFor_wholeValue (dates : Resolver) :
    ∃ value, e.AsksFor dates supported field value ∧
      value.toInt = field.stored (wholeValue e.text).toInt := by
  have hc := condition?_of_supports dates hfield hsupported
  rcases hkind with hnumber | hlength
  · rw [fieldCondition?, hnumber] at hc
    exact ⟨wholeValue e.text, compile_of_number hc, by rw [Field.stored, hnumber]; rfl⟩
  · rw [fieldCondition?, hlength] at hc
    refine ⟨clamp ((wholeValue e.text).toInt * 1000), compile_of_number hc, ?_⟩
    rw [Field.stored, if_pos hlength, toInt_clamp]

/-- The value of the filter is the integer that the text denotes, and no other. -/
theorem toInt_of_asksFor {value : Int64} {n : Int} (hvalue : e.AsksFor dates supported field value)
    (hn : Denotes e.text n) (hfits : FitsWord n) : value.toInt = field.stored n := by
  obtain ⟨w, hw, hstored⟩ := exists_asksFor_wholeValue hkind hsupported hfield dates
  rw [hvalue.unique hw, hstored, wholeValue_of_denotes hn hfits]

theorem asksFor_zero (h : ∀ n, Denotes e.text n → ¬FitsWord n) :
    e.AsksFor dates supported field 0 := by
  obtain ⟨w, hw, hstored⟩ := exists_asksFor_wholeValue hkind hsupported hfield dates
  rw [wholeValue_eq_zero h] at hstored
  have hzero : w = 0 := Int64.toInt_inj.mp (hstored.trans field.stored_zero)
  rwa [hzero] at hw

end

end Element

/-- An element for a supported field that holds a whole number or a length asks with one filter,
whatever its sign and its operator.  The value of the filter is the integer that the text denotes,
or its milliseconds; without such an integer it is zero.  So every word can be asked for by its
digits, with any white space around them, and a larger integer never gives a smaller value. -/
theorem compile_wholeNumber (dates : Resolver) {supported : FieldSet} {field : Field}
    (hkind : field.kind = .number ∨ field.kind = .length)
    (hsupported : supported.supports field = true) :
    (∀ e : Element, Field.ofName? e.field = some field →
      ∃ value, e.AsksFor dates supported field value ∧
        (∀ n, Denotes e.text n → FitsWord n → value.toInt = field.stored n) ∧
        ((∀ n, Denotes e.text n → ¬FitsWord n) → value = 0)) ∧
    (∀ (e : Element) (n : Int64) (front back : String), Field.ofName? e.field = some field →
      (∀ c ∈ front.toList, Text.isBlank c = true) → (∀ c ∈ back.toList, Text.isBlank c = true) →
      e.text = front ++ writeInt n.toInt ++ back →
      ∃ value, e.AsksFor dates supported field value ∧ value.toInt = field.stored n.toInt) ∧
    ∀ (e e' : Element) (n n' : Int) (value value' : Int64), Field.ofName? e.field = some field →
      Field.ofName? e'.field = some field → Denotes e.text n → FitsWord n → Denotes e'.text n' →
      FitsWord n' → e.AsksFor dates supported field value →
      e'.AsksFor dates supported field value' → n ≤ n' → value.toInt ≤ value'.toInt := by
  refine ⟨fun e hfield => ?_, fun e n front back hfield hfront hback htext => ?_, ?_⟩
  · obtain ⟨value, hvalue, -⟩ :=
      Element.exists_asksFor_wholeValue hkind hsupported hfield dates
    exact ⟨value, hvalue,
      fun n hn hfits => Element.toInt_of_asksFor hkind hsupported hfield hvalue hn hfits,
      fun h => hvalue.unique (Element.asksFor_zero hkind hsupported hfield h)⟩
  · have hdenotes : Denotes e.text n.toInt := by
      refine ⟨front.toList, _, back.toList, ?_, hfront, hback, isNumeral_writeInt n.toInt⟩
      rw [htext, String.toList_append, String.toList_append]
    obtain ⟨value, hvalue, -⟩ :=
      Element.exists_asksFor_wholeValue hkind hsupported hfield dates
    exact ⟨value, hvalue,
      Element.toInt_of_asksFor hkind hsupported hfield hvalue hdenotes (fitsWord_toInt n)⟩
  · intro e e' n n' value value' hfield hfield' hn hfits hn' hfits' hvalue hvalue' hle
    rw [Element.toInt_of_asksFor hkind hsupported hfield hvalue hn hfits,
      Element.toInt_of_asksFor hkind hsupported hfield' hvalue' hn' hfits']
    exact field.stored_mono hle

/-- The least word as a year, with white space around it, and a length that is one second longer
than any word of milliseconds. -/
theorem compile_wholeNumber_atBounds :
    let year : Element :=
      { field := "Year", text := "\u00a0-9223372036854775808\n", negate := true }
    let long : Element :=
      { field := "length", text := "+9223372036854776", matchKind := .greaterThan }
    let longer : Element := { field := "length", text := "+9223372036854777" }
    (Field.year.kind = .number ∧ FieldSet.full.supports .year = true ∧
      Field.ofName? year.field = some .year ∧ Denotes year.text (-9223372036854775808) ∧
      ∃ value, year.AsksFor fixedDates .full .year value ∧
        value.toInt = -9223372036854775808) ∧
    Field.length.kind = .length ∧ FieldSet.full.supports .length = true ∧
      Field.ofName? long.field = some .length ∧ Field.ofName? longer.field = some .length ∧
      Denotes long.text 9223372036854776 ∧ Denotes longer.text 9223372036854777 ∧
      ∃ value value', long.AsksFor fixedDates .full .length value ∧
        longer.AsksFor fixedDates .full .length value' ∧ value.toInt = 9223372036854775807 ∧
        value.toInt ≤ value'.toInt := by
  intro year long longer
  have hyear : Field.ofName? year.field = some .year := by decide +kernel
  have hlong : Field.ofName? long.field = some .length := by decide +kernel
  have hlonger : Field.ofName? longer.field = some .length := by decide +kernel
  have hleast : Denotes year.text (-9223372036854775808) :=
    readInt?_trim_eq_some_iff.mp (by decide +kernel)
  have hn : Denotes long.text 9223372036854776 := readInt?_trim_eq_some_iff.mp (by decide +kernel)
  have hn' : Denotes longer.text 9223372036854777 :=
    readInt?_trim_eq_some_iff.mp (by decide +kernel)
  have hfits : FitsWord 9223372036854776 := by unfold FitsWord; omega
  have hfits' : FitsWord 9223372036854777 := by unfold FitsWord; omega
  have hnumber : FieldSet.full.supports .year = true := by decide
  have hlength : FieldSet.full.supports .length = true := by decide
  have hkind : Field.year.kind = .number ∨ Field.year.kind = .length := Or.inl rfl
  have hkind' : Field.length.kind = .number ∨ Field.length.kind = .length := Or.inr rfl
  obtain ⟨-, hdigits, -⟩ := compile_wholeNumber fixedDates hkind hnumber
  obtain ⟨hvalues, -, hmono⟩ := compile_wholeNumber fixedDates hkind' hlength
  have hfront : ∀ c ∈ "\u00a0".toList, Text.isBlank c = true :=
    List.all_eq_true.mp (by decide +kernel)
  have hback : ∀ c ∈ "\n".toList, Text.isBlank c = true :=
    List.all_eq_true.mp (by decide +kernel)
  obtain ⟨least, hleast', hvalue⟩ :=
    hdigits year Int64.minValue _ _ hyear hfront hback (by decide +kernel)
  obtain ⟨value, hv, hstored, -⟩ := hvalues long hlong
  obtain ⟨value', hv', -⟩ := hvalues longer hlonger
  exact ⟨⟨rfl, hnumber, hyear, hleast, least, hleast', hvalue⟩, rfl, hlength, hlong, hlonger, hn,
    hn', value, value', hv, hv', hstored _ hn hfits,
    hmono long longer _ _ _ _ hlong hlonger hn hfits hn' hfits' hv hv' (by omega)⟩

end TrackSearch
