/-
Sizes in whole megabytes.

An element that asks for a number of megabytes asks for the sizes between its whole part and the next
whole number.  Both bounds are left out, so `existsUnique_sizeWindow` finds one number of megabytes
for every size but the multiples of a megabyte, which no element asks for.
-/
import TrackSearch.Proofs.Number.Rounding
import TrackSearch.Proofs.Number.Numeral
import TrackSearch.Proofs.Query.Meaning

namespace TrackSearch

open Number

/-! ## The bounds of a window -/

/-- The bytes of a whole number of megabytes, in words that stop at the largest one. -/
theorem toInt_clamp_megabytes (n : Nat) :
    (clamp ((clamp n).toInt * bytesPerMegabyte)).toInt =
      min (n * 1048576 : Int) 9223372036854775807 := by
  rw [toInt_clamp, toInt_clamp, bytesPerMegabyte]
  omega

theorem toInt_clamp_nextMegabyte (n : Nat) :
    (clamp ((clamp ((clamp n).toInt + 1)).toInt * bytesPerMegabyte)).toInt =
      min ((n + 1) * 1048576 : Int) 9223372036854775807 := by
  rw [toInt_clamp, toInt_clamp, toInt_clamp, bytesPerMegabyte]
  omega

/-- A size lies strictly between two whole numbers of megabytes, unless it is one itself. -/
theorem between_megabytes_iff {n : Nat} {size : Int} :
    (n * 1048576 : Int) < size ∧ size < (n + 1) * 1048576 ↔
      ¬1048576 ∣ size ∧ (n : Int) = size / 1048576 := by
  omega

/-! ## Numbers of megabytes -/

/-- A whole number of megabytes is read without rounding, up to 53 bits. -/
theorem exists_finiteValue?_writeInt {n : Nat} (h : n < 9007199254740992) :
    ∃ x, finiteValue? (writeInt n) = some x ∧ x.toRat = n := by
  have hnumeral := isNumeral_writeInt n
  have htrim : Text.trim (writeInt n).toList = (writeInt n).toList := by
    have happend := Text.trim_append (List.forall_mem_nil _) (List.forall_mem_nil _)
      hnumeral.ne_nil hnumeral.isBlank_eq_false
    rwa [List.nil_append, List.append_nil] at happend
  rw [finiteValue?, htrim]
  exact Binary64.exists_read?_writeInt h

namespace Element

/-- Whether an element asks, without a sign, for a size of some whole megabytes. -/
structure IsMegabytes (n : Nat) (e : Element) : Prop where
  ofName?_eq : Field.ofName? e.field = some .fileSize
  negate : e.negate = false
  matchKind : e.matchKind = .contains ∨ e.matchKind = .equals
  value : ∃ x, finiteValue? e.text = some x ∧ ⌊|x.toRat|⌋₊ = n

/-- Whether the query of an element is a range of sizes, in a scope beside its own. -/
def AsksForSizes (dates : Resolver) (supported : FieldSet) (e : Element) (low high : Int64) :
    Prop :=
  e.compile dates supported = Emission.ofCalls
    [.beginOr, .endScope, .beginAnd, .numberFilter false .fileSize low .greaterThan,
      .numberFilter false .fileSize high .lessThan, .endScope]

/-- Whether both filters of the range hold of a size. -/
def Admits (dates : Resolver) (supported : FieldSet) (e : Element) (size : Int64) : Prop :=
  ∃ low high, e.AsksForSizes dates supported low high ∧
    Comparison.greaterThan.holds size low = true ∧ Comparison.lessThan.holds size high = true

variable {dates : Resolver} {supported : FieldSet} {e : Element} {n : Nat}

theorem AsksForSizes.unique {low low' high high' : Int64}
    (h : e.AsksForSizes dates supported low high)
    (h' : e.AsksForSizes dates supported low' high') : low = low' ∧ high = high' := by
  have hcalls := congrArg Emission.calls (h.symm.trans h')
  simpa [Emission.ofCalls] using hcalls

theorem exists_isMegabytes (h : n < 9007199254740992) : ∃ e : Element, e.IsMegabytes n := by
  have hname : Field.ofName? "filesize" = some .fileSize := by decide +kernel
  obtain ⟨x, hx, hvalue⟩ := exists_finiteValue?_writeInt h
  refine ⟨{ field := "filesize", text := writeInt n }, hname, rfl, Or.inl rfl, x, hx, ?_⟩
  rw [hvalue, Nat.abs_cast, Nat.floor_natCast]

namespace IsMegabytes

/-- The bounds are the bytes of the whole megabytes and of one megabyte more. -/
theorem exists_asksForSizes (dates : Resolver) (h : e.IsMegabytes n)
    (hsupported : supported.supports .fileSize = true) :
    ∃ low high, e.AsksForSizes dates supported low high ∧
      low.toInt = min (n * 1048576 : Int) 9223372036854775807 ∧
      high.toInt = min ((n + 1) * 1048576 : Int) 9223372036854775807 := by
  obtain ⟨x, hx, hfloor⟩ := h.value
  have hwhole : x.wholeScaled 0 = n := by
    rw [Binary64.wholeScaled_eq_floor, pow_zero, mul_one, hfloor]
  have hrange : Condition.ofSize .fileSize x e.matchKind =
      .between .fileSize (clamp ((clamp n).toInt * bytesPerMegabyte))
        (clamp ((clamp ((clamp n).toInt + 1)).toInt * bytesPerMegabyte)) := by
    rw [← hwhole]
    rcases h.matchKind with hk | hk <;> rw [hk] <;> rfl
  have hc : e.condition? dates supported = some (.ofSize .fileSize x e.matchKind) := by
    rw [condition?_of_supports dates h.ofName?_eq hsupported, fieldCondition?]
    show (finiteValue? e.text).map _ = _
    rw [hx]
    rfl
  rw [hrange] at hc
  have hcompile := compile_of_between hc
  rw [h.negate] at hcompile
  exact ⟨_, _, hcompile, toInt_clamp_megabytes n, toInt_clamp_nextMegabyte n⟩

theorem admits_iff (h : e.IsMegabytes n) (hsupported : supported.supports .fileSize = true)
    {size : Int64} (hsize : size.toInt < 4611686018427387904) :
    e.Admits dates supported size ↔
      ¬1048576 ∣ size.toInt ∧ (n : Int) = size.toInt / 1048576 := by
  obtain ⟨low, high, hasks, hlow, hhigh⟩ := h.exists_asksForSizes dates hsupported
  rw [← between_megabytes_iff]
  constructor
  · rintro ⟨low', high', hasks', hgreater, hless⟩
    obtain ⟨rfl, rfl⟩ := hasks.unique hasks'
    rw [Comparison.holds_greaterThan_iff] at hgreater
    rw [Comparison.holds_lessThan_iff] at hless
    omega
  · rintro ⟨hgreater, hless⟩
    refine ⟨low, high, hasks, Comparison.holds_greaterThan_iff.mpr ?_,
      Comparison.holds_lessThan_iff.mpr ?_⟩ <;> omega

end IsMegabytes
end Element

/-- Every size below 2^62 bytes that is no whole number of megabytes is asked for by the elements of
exactly one number of megabytes, which is its own, and a whole number of megabytes by none.  The
range of these elements has exactly this number of megabytes and the next one as its bounds. -/
theorem existsUnique_sizeWindow (dates : Resolver) {supported : FieldSet}
    (hsupported : supported.supports .fileSize = true) {size : Int64} (hlow : 0 ≤ size.toInt)
    (hhigh : size.toInt < 4611686018427387904) :
    (∀ (n : Nat) (e : Element), e.IsMegabytes n →
      (e.Admits dates supported size ↔
        ¬1048576 ∣ size.toInt ∧ (n : Int) = size.toInt / 1048576)) ∧
    (¬1048576 ∣ size.toInt →
      ∃! n : Nat, ∃ e : Element, e.IsMegabytes n ∧ e.Admits dates supported size) ∧
    ∀ (n : Nat) (e : Element), e.IsMegabytes n → (n : Int) = size.toInt / 1048576 →
      ∃ low high, e.AsksForSizes dates supported low high ∧
        low.toInt = n * 1048576 ∧ high.toInt = (n + 1) * 1048576 := by
  refine ⟨fun n e he => he.admits_iff hsupported hhigh, fun hsize => ?_, fun n e he hn => ?_⟩
  · obtain ⟨n, hn⟩ := Int.eq_ofNat_of_zero_le (a := size.toInt / 1048576) (by omega)
    obtain ⟨e, he⟩ := Element.exists_isMegabytes (n := n) (by omega)
    refine ⟨n, ⟨e, he, (he.admits_iff hsupported hhigh).mpr ⟨hsize, hn.symm⟩⟩, ?_⟩
    rintro m ⟨e', he', hadmits⟩
    have hm := ((he'.admits_iff hsupported hhigh).mp hadmits).2
    omega
  · obtain ⟨low, high, hasks, hlow', hhigh'⟩ := he.exists_asksForSizes dates hsupported
    exact ⟨low, high, hasks, by omega, by omega⟩

/-- The last size of a window. -/
theorem existsUnique_sizeWindow_belowThree :
    let size : Int64 := 3145727
    FieldSet.full.supports .fileSize = true ∧ 0 ≤ size.toInt ∧
      size.toInt < 4611686018427387904 ∧ ¬1048576 ∣ size.toInt ∧
      ∃! n : Nat, ∃ e : Element, e.IsMegabytes n ∧ e.Admits fixedDates .full size := by
  intro size
  have hsupported : FieldSet.full.supports .fileSize = true := by decide
  have hlow : 0 ≤ size.toInt := by decide
  have hhigh : size.toInt < 4611686018427387904 := by decide
  have hsize : ¬1048576 ∣ size.toInt := by decide
  exact ⟨hsupported, hlow, hhigh, hsize,
    (existsUnique_sizeWindow fixedDates hsupported hlow hhigh).2.1 hsize⟩

/-- No number of megabytes stands for a size of one megabyte. -/
theorem not_existsUnique_window_of_megabyte :
    let size : Int64 := 1048576
    0 ≤ size.toInt ∧ size.toInt < 4611686018427387904 ∧
      ¬∃! n : Nat, ∃ e : Element, e.IsMegabytes n ∧ e.Admits fixedDates .full size := by
  intro size
  have hhigh : size.toInt < 4611686018427387904 := by decide
  refine ⟨by decide, hhigh, ?_⟩
  rintro ⟨n, ⟨e, he, hadmits⟩, -⟩
  have hsize := ((he.admits_iff (by decide) hhigh).mp hadmits).1
  exact hsize (by decide)

end TrackSearch
