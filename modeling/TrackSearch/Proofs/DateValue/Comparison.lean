/-
Comparisons with dates.

A track is compared with a date of the calendar by its time, and with a time counted back from now
by its age: the tracks of less than two weeks are the ones with a later time than that of two weeks
ago.  `compile_dateComparison` says both, for every field that holds a time.
-/
import TrackSearch.Proofs.DateValue.CountingBack

namespace TrackSearch

open Calendar Number

/-! ## Amounts of a fixed length -/

/-- The length of a unit in seconds.  Years and months have no length of their own. -/
def TimeUnit.seconds? : TimeUnit → Option Nat
  | year | month => none
  | week => some 604800
  | day => some 86400
  | hour => some 3600
  | minute => some 60
  | second => some 1

namespace Amount

/-- The seconds of some amounts together, if all of their units have a length. -/
def seconds? : List Amount → Option Nat
  | [] => some 0
  | a :: as => do
    let length ← a.unit.seconds?
    let rest ← seconds? as
    some (digitsValue a.digits * length + rest)

theorem addend_of_seconds? {a : Amount} {length : Nat} (h : a.unit.seconds? = some length) :
    a.addend .years = 0 ∧ a.addend .months = 0 ∧
      86400 * a.addend .days + a.addend .seconds = digitsValue a.digits * length := by
  obtain ⟨digits, unit, isDigits⟩ := a
  cases unit <;> cases h <;> simp [addend, TimeUnit.sum, TimeUnit.size] <;> omega

/-- Amounts of a fixed length add to no years and no months. -/
theorem total_of_seconds? {as : List Amount} {n : Nat} (h : seconds? as = some n) :
    total as .years = 0 ∧ total as .months = 0 ∧
      86400 * total as .days + total as .seconds = n := by
  induction as generalizing n with
  | nil =>
    cases h
    exact ⟨rfl, rfl, rfl⟩
  | cons a as ih =>
    obtain ⟨length, hlength, h⟩ := Option.bind_eq_some_iff.mp h
    obtain ⟨rest, hrest, h⟩ := Option.bind_eq_some_iff.mp h
    cases h
    obtain ⟨hyears, hmonths, hsum⟩ := addend_of_seconds? hlength
    obtain ⟨hyears', hmonths', hsum'⟩ := ih hrest
    simp only [total_cons]
    omega

end Amount

/-- Without years and months, counting back is one step of seconds. -/
theorem Elapsed.back?_of_no_months {now t : Instant} {total : UnitSum → Nat}
    (hyears : total .years = 0) (hmonths : total .months = 0)
    (ht : t.seconds = now.seconds - (86400 * total .days + total .seconds : Nat)) :
    back? now total = some t := by
  have hfirst := t.first_le_seconds
  obtain ⟨u, hu⟩ := Instant.exists_minusSeconds?_eq (t := now) (k := (86400 * total .days : Nat))
    (by omega) (by omega)
  have hseconds := Instant.seconds_minusSeconds? hu
  have hlast : u.minusSeconds? (total .seconds) = some t :=
    Instant.ofSeconds?_eq_some_iff.mpr (by omega)
  rw [back?, hyears, hmonths, Nat.mul_zero, Instant.minusMonths?_zero, Option.bind_some,
    Instant.minusMonths?_zero, Option.bind_some, hu, Option.bind_some, hlast]

theorem Resolver.resolve_of_seconds? {now t : Instant} {as : List Amount} {n : Nat} (hne : as ≠ [])
    (hdigits : ∀ a ∈ as.head?, a.digits ≠ []) (hn : Amount.seconds? as = some n)
    (ht : t.seconds = now.seconds - n) :
    resolve ⟨now, defaultFormats⟩ (Amount.writeAll as) = .relative t := by
  obtain ⟨hyears, hmonths, hsum⟩ := Amount.total_of_seconds? hn
  rw [← hsum] at ht
  rw [(Amount.resolve_writeAll now hne hdigits).2, Elapsed.back?_of_no_months hyears hmonths ht]
  rfl

/-! ## Elements that compare with one value -/

namespace Element

variable {dates : Resolver} {supported : FieldSet} {field : Field} {e : Element}

/-- Whether an element asks with one filter for the numbers that have a property.  With a sign it
asks with the same filter turned into its opposite. -/
def AsksNumber (dates : Resolver) (supported : FieldSet) (field : Field) (e : Element)
    (p : Int → Prop) : Prop :=
  ∃ value comparison,
    (∀ negate, Element.compile dates supported { e with negate := negate } =
      Emission.ofCalls [if negate then .beginAnd else .beginOr,
        .numberFilter negate field value comparison, .endScope]) ∧
    ∀ n : Int64, comparison.holds n value = true ↔ p n.toInt

theorem asksNumber_of_condition? {value : Int64} {comparison : Comparison} {p : Int → Prop}
    (hc : e.condition? dates supported = some (.number field comparison value))
    (hp : ∀ n : Int64, comparison.holds n value = true ↔ p n.toInt) :
    e.AsksNumber dates supported field p := by
  refine ⟨value, comparison, fun negate => ?_, hp⟩
  have hc' : Element.condition? dates supported { e with negate := negate } =
      some (.number field comparison value) := hc
  exact compile_of_number hc'

end Element

/-! ## Times and ages -/

namespace Element

variable {dates : Resolver} {supported : FieldSet} {field : Field} {e : Element}

section

variable (hfield : Field.ofName? e.field = some field) (hkind : field.kind = .date)
  (hsupported : supported.supports field = true)

include hfield hkind hsupported

theorem asksNumber_of_isAbsolute (hvalid : (dates.resolve e.text).isValid = true)
    (habsolute : (dates.resolve e.text).isAbsolute = true) :
    (e.matchKind = .lessThan →
        e.AsksNumber dates supported field fun n => n < (dates.resolve e.text).value.toInt) ∧
      (e.matchKind = .greaterThan →
        e.AsksNumber dates supported field fun n => (dates.resolve e.text).value.toInt < n) := by
  have hc := condition?_of_date dates hfield hkind hsupported
  rw [Condition.ofDate, if_pos hvalid, habsolute] at hc
  constructor
  · intro hless
    rw [hless] at hc
    exact asksNumber_of_condition? hc fun _ => Comparison.holds_lessThan_iff
  · intro hgreater
    rw [hgreater] at hc
    exact asksNumber_of_condition? hc fun _ => Comparison.holds_greaterThan_iff

/-- The tracks of less than some age are the ones with a later time. -/
theorem asksNumber_of_relative {t : Instant} (ht : dates.resolve e.text = .relative t)
    (hne : t.seconds ≠ 0) :
    (e.matchKind = .lessThan → e.AsksNumber dates supported field fun n => t.seconds < n) ∧
      (e.matchKind = .greaterThan → e.AsksNumber dates supported field fun n => n < t.seconds) := by
  have hvalue := Resolution.value_relative t
  have hvalid : (Resolution.relative t).isValid = true := by
    refine bne_iff_ne.mpr fun hzero => hne ?_
    rw [← hvalue, hzero]
    rfl
  have hc := condition?_of_date dates hfield hkind hsupported
  rw [ht, Condition.ofDate, if_pos hvalid] at hc
  rw [← hvalue]
  constructor
  · intro hless
    rw [hless] at hc
    exact asksNumber_of_condition? hc fun _ => Comparison.holds_greaterThan_iff
  · intro hgreater
    rw [hgreater] at hc
    exact asksNumber_of_condition? hc fun _ => Comparison.holds_lessThan_iff

end

end Element

/-- An element that compares a supported field with a date asks with one filter, whatever its sign.
With an elapsed time of a fixed length it is one for the tracks of less or of more than that age, if
the time before now is in the calendar and is not the epoch, whose value stands for no date.  With a
date of the calendar it is one for the tracks with an earlier or with a later time. -/
theorem compile_dateComparison {dates : Resolver} {supported : FieldSet} {field : Field}
    {e : Element} (hfield : Field.ofName? e.field = some field) (hkind : field.kind = .date)
    (hsupported : supported.supports field = true) :
    (∀ (as : List Amount) (length : Nat), dates.formats = defaultFormats → as ≠ [] →
      (∀ a ∈ as.head?, a.digits ≠ []) → e.text = Amount.writeAll as →
      Amount.seconds? as = some length →
      (∃ t : Instant, t.seconds = dates.now.seconds - length) → dates.now.seconds - length ≠ 0 →
      (e.matchKind = .lessThan →
        e.AsksNumber dates supported field fun n => dates.now.seconds - n < length) ∧
      (e.matchKind = .greaterThan →
        e.AsksNumber dates supported field fun n => length < dates.now.seconds - n)) ∧
    ((dates.resolve e.text).isValid = true → (dates.resolve e.text).isAbsolute = true →
      (e.matchKind = .lessThan →
        e.AsksNumber dates supported field fun n => n < (dates.resolve e.text).value.toInt) ∧
      (e.matchKind = .greaterThan →
        e.AsksNumber dates supported field fun n => (dates.resolve e.text).value.toInt < n)) := by
  refine ⟨?_, Element.asksNumber_of_isAbsolute hfield hkind hsupported⟩
  rintro as length hformats hne hdigits htext hlength ⟨t, ht⟩ hzero
  have hresolve : dates.resolve e.text = .relative t := by
    obtain ⟨now, formats⟩ := dates
    subst hformats
    rw [htext]
    exact Resolver.resolve_of_seconds? hne hdigits hlength ht
  have hage (n : Int) : t.seconds < n ↔ dates.now.seconds - n < length := by omega
  have hage' (n : Int) : n < t.seconds ↔ length < dates.now.seconds - n := by omega
  rw [← ht] at hzero
  simpa only [hage, hage'] using
    Element.asksNumber_of_relative hfield hkind hsupported hresolve hzero

/-- Twelve hours and two weeks before noon, and the last day before the epoch. -/
theorem compile_dateComparison_lastPlayed :
    let as := [Amount.ofNat 2 .week, Amount.ofNat 12 .hour]
    let age : Element := { field := "Played", text := Amount.writeAll as, matchKind := .lessThan }
    let time : Element := { field := "added", text := "31.12.1969", matchKind := .greaterThan }
    (Field.ofName? age.field = some .lastPlayed ∧ Amount.seconds? as = some 1252800 ∧
      (∃ t : Instant, t.seconds = fixedDates.now.seconds - (1252800 : Nat)) ∧
      age.AsksNumber fixedDates .full .lastPlayed
        fun n => fixedDates.now.seconds - n < (1252800 : Nat)) ∧
    Field.ofName? time.field = some .created ∧ (fixedDates.resolve time.text).isValid = true ∧
      (fixedDates.resolve time.text).isAbsolute = true ∧
      time.AsksNumber fixedDates .full .created
        fun n => (fixedDates.resolve time.text).value.toInt < n := by
  intro as age time
  have hage : Field.ofName? age.field = some .lastPlayed := by decide +kernel
  have hseconds : Amount.seconds? as = some 1252800 := by decide +kernel
  have hbefore : ∃ t : Instant, t.seconds = fixedDates.now.seconds - (1252800 : Nat) :=
    ⟨⟨⟨2024, 5, 31, by decide⟩, 43200⟩, by decide +kernel⟩
  have htime : Field.ofName? time.field = some .created := by decide +kernel
  have hvalid : (fixedDates.resolve time.text).isValid = true := by decide +kernel
  have habsolute : (fixedDates.resolve time.text).isAbsolute = true := by decide +kernel
  obtain ⟨hages, -⟩ := @compile_dateComparison fixedDates .full _ age hage rfl (by decide)
  obtain ⟨hless, -⟩ := hages as 1252800 rfl (List.cons_ne_nil _ _)
    (by simp [as, Amount.digits_ofNat_ne_nil]) rfl hseconds hbefore (by decide +kernel)
  obtain ⟨-, htimes⟩ := @compile_dateComparison fixedDates .full _ time htime rfl (by decide)
  obtain ⟨-, hgreater⟩ := htimes hvalid habsolute
  exact ⟨⟨hage, hseconds, hbefore, hless rfl⟩, htime, hvalid, habsolute, hgreater rfl⟩

end TrackSearch
