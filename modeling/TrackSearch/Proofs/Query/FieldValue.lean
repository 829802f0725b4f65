/-
Ratings, file sizes and file types in queries.

A rating is compared in half stars, a size in bytes and a file type by its code.  The decimal that a
text denotes is rounded to binary floating point once.  The number that it is rounded to is scaled
exactly, and what it is compared as is the word nearest to it without its fraction
(`exists_asksFor_rating`, `exists_asksFor_size`).
-/
import TrackSearch.Proofs.Catalog.FileType
import TrackSearch.Proofs.Number.Rounding
import TrackSearch.Proofs.Query.WholeNumber

namespace TrackSearch

open Number

/-! ## The decimal of a text -/

theorem finiteValue?_eq_none_iff {text : String} :
    finiteValue? text = none ↔
      ∀ d, IsDecimal (Text.trim text.toList) d → 2 ^ 1024 - 2 ^ 970 ≤ |d.toRat| :=
  Binary64.read?_eq_none_iff

theorem exists_finiteValue?_of_isDecimal {text : String} {d : Decimal}
    (hd : IsDecimal (Text.trim text.toList) d) (hlt : |d.toRat| < 2 ^ 1024 - 2 ^ 970) :
    ∃ x, finiteValue? text = some x ∧ x.IsNearest d.toRat :=
  Binary64.exists_read?_of_isDecimal hd hlt

namespace Element

section

variable {supported : FieldSet} {field : Field} {e : Element}
  (hsupported : supported.supports field = true) (hfield : Field.ofName? e.field = some field)

include hsupported hfield

/-- A rating is asked for in half stars, and as 0 if the text denotes no number. -/
theorem exists_asksFor_rating (dates : Resolver) (hkind : field.kind = .rating) :
    ∃ value, e.AsksFor dates supported field value ∧
      (∀ d, IsDecimal (Text.trim e.text.toList) d → |d.toRat| < 2 ^ 1024 - 2 ^ 970 →
        ∃ x : Binary64, x.IsNearest d.toRat ∧
          value.toInt = max (-9223372036854775808)
            (min (Binary64.wholePart (x.toRat * 2)) 9223372036854775807)) ∧
      ((∀ d, IsDecimal (Text.trim e.text.toList) d → 2 ^ 1024 - 2 ^ 970 ≤ |d.toRat|) →
        value = 0) := by
  have hc := condition?_of_supports dates hfield hsupported
  rw [fieldCondition?, hkind] at hc
  refine ⟨starsValue e.text, compile_of_number hc, fun d hd hlt => ?_, fun hnone => ?_⟩
  · obtain ⟨x, hx, hnearest⟩ := exists_finiteValue?_of_isDecimal hd hlt
    refine ⟨x, hnearest, ?_⟩
    rw [starsValue, hx]
    show (x.truncScaled 1).toInt = _
    rw [Binary64.toInt_truncScaled, pow_one]
  · rw [starsValue, finiteValue?_eq_none_iff.mpr hnone]
    rfl

/-- A size below or above a number of megabytes is asked for in bytes. -/
theorem exists_asksFor_size (dates : Resolver) (hkind : field.kind = .fileSize)
    (hmatch : e.matchKind = .lessThan ∨ e.matchKind = .greaterThan) {d : Decimal}
    (hd : IsDecimal (Text.trim e.text.toList) d) (hlt : |d.toRat| < 2 ^ 1024 - 2 ^ 970) :
    ∃ (x : Binary64) (value : Int64), x.IsNearest d.toRat ∧
      e.AsksFor dates supported field value ∧
      value.toInt = max (-9223372036854775808)
        (min (Binary64.wholePart (x.toRat * 1048576)) 9223372036854775807) := by
  obtain ⟨x, hx, hnearest⟩ := exists_finiteValue?_of_isDecimal hd hlt
  have hc := condition?_of_supports dates hfield hsupported
  have hnumber : Condition.ofSize field x e.matchKind =
      .number field e.matchKind.comparison (x.truncScaled 20) := by
    rcases hmatch with hk | hk <;> rw [hk] <;> rfl
  rw [fieldCondition?, hkind] at hc
  dsimp only at hc
  rw [hx, Option.map_some, hnumber] at hc
  refine ⟨x, _, hnearest, compile_of_number hc, ?_⟩
  have hbytes : (2 : ℚ) ^ 20 = 1048576 := by norm_num
  rw [Binary64.toInt_truncScaled, hbytes]

/-- A file type is asked for by the code beside its name in the table, and by 0 if it has none. -/
theorem exists_asksFor_format (dates : Resolver) (hkind : field.kind = .format) :
    ∃ value, e.AsksFor dates supported field value ∧
      value.toInt = (FileType.codeTable.lookup (Text.lower e.text)).getD 0 := by
  have hc := condition?_of_supports dates hfield hsupported
  rw [fieldCondition?, hkind] at hc
  refine ⟨_, compile_of_number hc, ?_⟩
  rw [toInt_clamp_of_fitsWord (FileType.fitsWord_code _), FileType.code_ofName]

end

end Element
end TrackSearch
