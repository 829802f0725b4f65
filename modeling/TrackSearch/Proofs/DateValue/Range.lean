/-
What a date value can come to.

`Resolver.isOutcome_resolveWith` lists the three outcomes: no date, a date of the calendar, and a
point in time that is not after now.  The rest follows from these: every value that is valid can be
written, and it is so far from the ends of a 64-bit word that a day can be added and taken away.
-/
import TrackSearch.Proofs.Calendar.Instant
import TrackSearch.Proofs.Query.Shape

namespace TrackSearch

open Calendar Number

/-! ## Amounts of time -/

namespace Elapsed

/-- Whether an amount of time counts back from now and not forward. -/
structure IsNonneg (e : Elapsed) : Prop where
  years : 0 ≤ e.years.toInt
  months : 0 ≤ e.months.toInt
  days : 0 ≤ e.days.toInt
  seconds : 0 ≤ e.seconds.toInt

theorem isNonneg_zero : IsNonneg {} := by
  constructor <;> decide

theorem isNonneg_add? {e e' : Elapsed} {sum : UnitSum} {n factor : Int} (he : e.IsNonneg)
    (hn : 0 ≤ n) (hfactor : 0 ≤ factor) (h : e.add? sum n factor = some e') : e'.IsNonneg := by
  obtain ⟨amount, hamount, h⟩ := Option.bind_eq_some_iff.mp h
  have hnonneg : 0 ≤ amount.toInt := by
    rw [toInt_of_word? hamount]
    exact Int.mul_nonneg hn hfactor
  have hsum {a w : Int64} (ha : 0 ≤ a.toInt) (hw : word? (a.toInt + amount.toInt) = some w) :
      0 ≤ w.toInt := by
    rw [toInt_of_word? hw]
    exact Int.add_nonneg ha hnonneg
  cases sum with
  | years =>
    obtain ⟨w, hw, rfl⟩ := Option.map_eq_some_iff.mp h
    exact { he with years := hsum he.years hw }
  | months =>
    obtain ⟨w, hw, rfl⟩ := Option.map_eq_some_iff.mp h
    exact { he with months := hsum he.months hw }
  | days =>
    obtain ⟨w, hw, rfl⟩ := Option.map_eq_some_iff.mp h
    exact { he with days := hsum he.days hw }
  | seconds =>
    obtain ⟨w, hw, rfl⟩ := Option.map_eq_some_iff.mp h
    exact { he with seconds := hsum he.seconds hw }

theorem unitOf?_factor_nonneg {c : Char} {sum : UnitSum} {factor : Int}
    (h : unitOf? c = some (sum, factor)) : 0 ≤ factor := by
  unfold unitOf? at h
  split at h <;> cases h <;> decide

theorem Reader.isNonneg_feed {r r' : Reader} {c : Char} (hr : r.total.IsNonneg)
    (h : r.feed c = some r') : r'.total.IsNonneg := by
  unfold feed at h
  split at h
  · cases h
    exact hr
  · cases hu : unitOf? c with
    | none =>
      rw [hu] at h
      cases h
      exact hr
    | some unit =>
      obtain ⟨sum, factor⟩ := unit
      rw [hu] at h
      obtain ⟨n, hn, h⟩ := Option.bind_eq_some_iff.mp h
      obtain ⟨total, htotal, h⟩ := Option.bind_eq_some_iff.mp h
      cases h
      have hnonneg : 0 ≤ n.toInt := by
        rw [toInt_of_word? hn]
        exact Int.natCast_nonneg _
      exact isNonneg_add? hr hnonneg (unitOf?_factor_nonneg hu) htotal

theorem Reader.isNonneg_foldlM_feed {r r' : Reader} {cs : List Char} (hr : r.total.IsNonneg)
    (h : cs.foldlM feed r = some r') : r'.total.IsNonneg := by
  induction cs generalizing r with
  | nil =>
    cases h
    exact hr
  | cons c cs ih =>
    rw [List.foldlM_cons] at h
    obtain ⟨next, hnext, hrest⟩ := Option.bind_eq_some_iff.mp h
    exact ih (isNonneg_feed hr hnext) hrest

theorem isNonneg_ofText? {cs : List Char} {e : Elapsed} (h : ofText? cs = some e) :
    e.IsNonneg := by
  obtain ⟨r, hr, h⟩ := Option.bind_eq_some_iff.mp h
  have htotal := Reader.isNonneg_foldlM_feed isNonneg_zero hr
  split at h
  · cases h
    exact htotal
  · cases h

theorem eq_of_duration? {n k : Int} (h : duration? n = some k) : k = n := by
  unfold duration? at h
  dsimp only at h
  split at h
  · exact (Option.some.inj h).symm
  · cases h

theorem eq_of_monthCount? {n : Int} {k : Nat} (h : monthCount? n = some k) : (k : Int) = n := by
  unfold monthCount? at h
  split at h
  · next hrange =>
    cases h
    exact Int.toNat_of_nonneg hrange.1
  · cases h

/-- The point in time that lies an amount of time before now, if there is one: months are counted
off first, and seconds from the point in time that this leads to. -/
theorem exists_months_of_before? {now t : Instant} {e : Elapsed} (h : e.before? now = some t) :
    ∃ (j k : Nat) (u v : Instant), (j : Int) = e.years.toInt * 12 ∧ (k : Int) = e.months.toInt ∧
      now.minusMonths? j = some u ∧ u.minusMonths? k = some v ∧
      t.seconds = v.seconds - e.days.toInt * 86400 - e.seconds.toInt := by
  obtain ⟨years, hyears, h⟩ := Option.bind_eq_some_iff.mp h
  obtain ⟨j, hj, h⟩ := Option.bind_eq_some_iff.mp h
  obtain ⟨u, hu, h⟩ := Option.bind_eq_some_iff.mp h
  obtain ⟨k, hk, h⟩ := Option.bind_eq_some_iff.mp h
  obtain ⟨v, hv, h⟩ := Option.bind_eq_some_iff.mp h
  obtain ⟨daySeconds, hday, h⟩ := Option.bind_eq_some_iff.mp h
  obtain ⟨days, hdays, h⟩ := Option.bind_eq_some_iff.mp h
  obtain ⟨w, hw, h⟩ := Option.bind_eq_some_iff.mp h
  obtain ⟨seconds, hseconds, h⟩ := Option.bind_eq_some_iff.mp h
  have hj' := (eq_of_monthCount? hj).trans (toInt_of_word? hyears)
  have hdays' := (eq_of_duration? hdays).trans (toInt_of_word? hday)
  have hseconds' := eq_of_duration? hseconds
  refine ⟨j, k, u, v, hj', eq_of_monthCount? hk, hu, hv, ?_⟩
  rw [Instant.seconds_minusSeconds? h, Instant.seconds_minusSeconds? hw, hdays', hseconds']

theorem seconds_before?_le {now t : Instant} {e : Elapsed} (he : e.IsNonneg)
    (h : e.before? now = some t) : t.seconds ≤ now.seconds := by
  obtain ⟨j, k, u, v, -, -, hu, hv, ht⟩ := exists_months_of_before? h
  have hyears := Instant.seconds_minusMonths?_le hu
  have hmonths := Instant.seconds_minusMonths?_le hv
  have hdays := he.days
  have hseconds := he.seconds
  omega

end Elapsed

theorem Phrase.seconds_before?_le {now t : Instant} {p : Phrase} (h : p.before? now = some t) :
    t.seconds ≤ now.seconds := by
  cases p with
  | days n =>
    have ht := Instant.seconds_minusSeconds? h
    omega
  | months n => exact Instant.seconds_minusMonths?_le h

/-! ## Outcomes -/

namespace Resolution

/-- What a date value can come to when it is read at some point in time. -/
inductive IsOutcome (now : Instant) : Resolution → Prop
  | invalid : IsOutcome now invalid
  | absolute (d : Date) : IsOutcome now (absolute d)
  | relative (t : Instant) (h : t.seconds ≤ now.seconds) : IsOutcome now (relative t)

end Resolution

namespace Resolver

theorem isOutcome_ofDate (now : Instant) (d : Option Date) :
    Resolution.IsOutcome now (ofDate d) := by
  cases d with
  | none => exact .invalid
  | some d => exact .absolute d

theorem isOutcome_ofInstant {now : Instant} {t : Option Instant}
    (h : ∀ u ∈ t, u.seconds ≤ now.seconds) : Resolution.IsOutcome now (ofInstant t) := by
  cases t with
  | none => exact .invalid
  | some u => exact .relative u (h u rfl)

theorem isOutcome_resolveDigitsWith (now : Instant) (short : Option Date) (cs : List Char) :
    (resolveDigitsWith now short cs).IsOutcome now := by
  unfold resolveDigitsWith
  split
  · exact .absolute _
  · split
    · exact isOutcome_ofDate now _
    · split
      · exact isOutcome_ofDate now _
      · refine isOutcome_ofInstant fun t ht => ?_
        obtain ⟨e, he, ht⟩ := Option.bind_eq_some_iff.mp ht
        exact Elapsed.seconds_before?_le (Elapsed.isNonneg_ofText? he) ht

/-- The outcomes are the same whatever dates the short formats read. -/
theorem isOutcome_resolveWith (now : Instant) (short : List Char → Option Date) (text : String) :
    (resolveWith now short text).IsOutcome now := by
  unfold resolveWith
  split
  · exact .invalid
  · split
    · refine isOutcome_ofInstant fun t ht => ?_
      obtain ⟨p, -, ht⟩ := Option.bind_eq_some_iff.mp ht
      exact Phrase.seconds_before?_le ht
    · exact isOutcome_resolveDigitsWith now _ _

theorem isOutcome_resolve (r : Resolver) (text : String) :
    (r.resolve text).IsOutcome r.now :=
  isOutcome_resolveWith r.now r.shortDate? text

end Resolver

namespace Resolution

variable {now : Instant} {r : Resolution}

theorem value_absolute (d : Date) : (absolute d).value.toInt = d.dayNumber * 86400 := by
  rw [← Instant.seconds_midnight]
  exact Instant.toInt_clamp_seconds _

theorem value_relative (t : Instant) : (relative t).value.toInt = t.seconds :=
  t.toInt_clamp_seconds

theorem IsOutcome.value_emod_eq_zero (h : r.IsOutcome now) (habsolute : r.isAbsolute = true) :
    r.value.toInt % 86400 = 0 := by
  cases h with
  | invalid => cases habsolute
  | absolute d =>
    rw [value_absolute]
    omega
  | relative t _ => cases habsolute

theorem IsOutcome.value_le (h : r.IsOutcome now) (hvalid : r.isValid = true)
    (hrelative : r.isAbsolute = false) : r.value.toInt ≤ now.seconds := by
  cases h with
  | invalid => cases hvalid
  | absolute d => cases hrelative
  | relative t ht =>
    rw [value_relative]
    exact ht

theorem IsOutcome.exists_seconds_eq (h : r.IsOutcome now) (hvalid : r.isValid = true) :
    ∃ t : Instant, t.seconds = r.value.toInt := by
  cases h with
  | invalid => cases hvalid
  | absolute d => exact ⟨Instant.midnight d, by rw [value_absolute, Instant.seconds_midnight]⟩
  | relative t _ => exact ⟨t, (value_relative t).symm⟩

theorem utc?_of_seconds_eq {t : Instant} (hvalid : r.isValid = true)
    (h : t.seconds = r.value.toInt) : r.utc? = some t.write := by
  rw [utc?, if_pos hvalid, ← h, Instant.ofSeconds?_seconds]
  rfl

theorem describe_of_seconds_eq {t : Instant} (hvalid : r.isValid = true)
    (h : t.seconds = r.value.toInt) :
    r.describe = (if r.isAbsolute then "absolute " else "relative ") ++ t.write ++ " (" ++
      writeInt r.value.toInt ++ ")" := by
  rw [describe, utc?_of_seconds_eq hvalid h]

theorem describe_eq_invalid_iff (h : r.isValid = true → ∃ t : Instant, t.seconds = r.value.toInt) :
    r.describe = "invalid date" ↔ r.isValid = false := by
  constructor
  · intro hdescribe
    cases hvalid : r.isValid with
    | false => rfl
    | true =>
      obtain ⟨t, ht⟩ := h hvalid
      rw [describe_of_seconds_eq hvalid ht] at hdescribe
      have hhead := congrArg (fun s => s.toList.head?) hdescribe
      cases habsolute : r.isAbsolute <;> simp [habsolute] at hhead
  · intro hvalid
    rw [describe, utc?, hvalid]
    rfl

end Resolution

/-! ## Ranges of dates -/

theorem Element.condition?_of_date (dates : Resolver) {supported : FieldSet} {e : Element}
    {field : Field} (hfield : Field.ofName? e.field = some field) (hkind : field.kind = .date)
    (hsupported : supported.supports field = true) :
    e.condition? dates supported =
      some (.ofDate field (dates.resolve e.text) e.matchKind) := by
  rw [condition?_of_supports dates hfield hsupported, fieldCondition?, hkind]

theorem Condition.ofDate_of_isValid {k : MatchKind} (hk : k = .contains ∨ k = .equals)
    (field : Field) {date : Resolution} (hvalid : date.isValid = true) :
    ofDate field date k = between field (clamp (date.value.toInt - secondsPerDay))
      (clamp (date.value.toInt + secondsPerDay)) := by
  rw [ofDate, if_pos hvalid]
  rcases hk with rfl | rfl <;> rfl

/-- The two bounds of a date lie a day before and a day after it. -/
theorem Element.compile_of_isSupportedRange {dates : Resolver} {supported : FieldSet} {e : Element}
    {field : Field} (he : e.IsSupportedRange dates supported field) (hkind : field.kind = .date) :
    ∃ low high, low.toInt = (dates.resolve e.text).value.toInt - 86400 ∧
      high.toInt = (dates.resolve e.text).value.toInt + 86400 ∧
      e.compile dates supported = Emission.ofCalls
        [if e.negate then .beginAnd else .beginOr, .endScope, .beginAnd,
          .numberFilter e.negate field low .greaterThan,
          .numberFilter e.negate field high .lessThan, .endScope] := by
  have hvalid : (dates.resolve e.text).isValid = true := by
    rcases he.kind with hsize | ⟨-, hvalid⟩
    · rw [hkind] at hsize
      cases hsize
    · exact hvalid
  obtain ⟨t, ht⟩ := (dates.isOutcome_resolve e.text).exists_seconds_eq hvalid
  have hday : secondsPerDay = 86400 := rfl
  have hcondition := condition?_of_date dates he.ofName?_eq hkind he.supports
  rw [Condition.ofDate_of_isValid he.matchKind field hvalid, ← ht] at hcondition
  refine ⟨_, _, ?_, ?_, compile_of_between hcondition⟩
  · rw [← ht]
    exact t.toInt_clamp_seconds_add (by omega) (by omega)
  · rw [← ht]
    exact t.toInt_clamp_seconds_add (by omega) (by omega)

/-- A date value comes to no date, to a date of the calendar or to a point in time that is not after
now, whatever dates the short formats read.  So one that is absolute is a midnight, one that is
relative is not after now, and one that is valid is a point in time of the calendar.  It is written
as no date only if it is none, and the bounds of the range around it are a day before and a day
after it. -/
theorem resolve_range (r : Resolver) (text : String) :
    (∀ short : List Char → Option Date,
      (Resolver.resolveWith r.now short text).IsOutcome r.now) ∧
      ((r.resolve text).isAbsolute = true → (r.resolve text).value.toInt % 86400 = 0) ∧
      ((r.resolve text).isValid = true → (r.resolve text).isAbsolute = false →
        (r.resolve text).value.toInt ≤ r.now.seconds) ∧
      ((r.resolve text).isValid = true →
        ∃ t : Instant, t.seconds = (r.resolve text).value.toInt) ∧
      ((r.resolve text).describe = "invalid date" ↔ (r.resolve text).isValid = false) ∧
      ∀ (supported : FieldSet) (e : Element) (field : Field), e.text = text →
        e.IsSupportedRange r supported field → field.kind = .date →
        ∃ low high, low.toInt = (r.resolve text).value.toInt - 86400 ∧
          high.toInt = (r.resolve text).value.toInt + 86400 ∧
          e.compile r supported = Emission.ofCalls
            [if e.negate then .beginAnd else .beginOr, .endScope, .beginAnd,
              .numberFilter e.negate field low .greaterThan,
              .numberFilter e.negate field high .lessThan, .endScope] := by
  have houtcome := r.isOutcome_resolve text
  refine ⟨fun short => Resolver.isOutcome_resolveWith r.now short text,
    houtcome.value_emod_eq_zero, houtcome.value_le, houtcome.exists_seconds_eq,
    Resolution.describe_eq_invalid_iff houtcome.exists_seconds_eq, ?_⟩
  rintro supported e field rfl he hkind
  exact Element.compile_of_isSupportedRange he hkind

/-- The last day before the epoch, a day with a time of day behind it, and a time before a leap
day. -/
theorem resolve_range_either_way :
    let e : Element := { field := "played", text := "31-12-1969", matchKind := .equals }
    let minutes : DateFormat :=
      ⟨"%Y-%m-%d %H:%M", [.number .year, .literal '-', .number .month, .literal '-', .number .day,
        .blank, .number .hour, .literal ':', .number .minute], by decide⟩
    let timed : Resolver := ⟨fixedDates.now, [minutes]⟩
    ((fixedDates.resolve e.text).isAbsolute = true ∧
      (fixedDates.resolve e.text).value.toInt % 86400 = 0) ∧
      (timed.resolve "2024-01-15 10:30" = .absolute ⟨2024, 1, 15, by decide⟩ ∧
        (timed.resolve "2024-01-15 10:30").isAbsolute = true ∧
        (timed.resolve "2024-01-15 10:30").value.toInt % 86400 = 0) ∧
      ((fixedDates.resolve "4y3m16d").isValid = true ∧
        (fixedDates.resolve "4y3m16d").isAbsolute = false ∧
        (fixedDates.resolve "4y3m16d").value.toInt ≤ fixedDates.now.seconds ∧
        ∃ t : Instant, t.seconds = (fixedDates.resolve "4y3m16d").value.toInt) ∧
      e.IsSupportedRange fixedDates .full .lastPlayed ∧ Field.lastPlayed.kind = .date ∧
      ∃ low high, low.toInt = (fixedDates.resolve e.text).value.toInt - 86400 ∧
        high.toInt = (fixedDates.resolve e.text).value.toInt + 86400 ∧
        e.compile fixedDates .full = Emission.ofCalls
          [.beginOr, .endScope, .beginAnd, .numberFilter false .lastPlayed low .greaterThan,
            .numberFilter false .lastPlayed high .lessThan, .endScope] := by
  intro e minutes timed
  have habsolute : (fixedDates.resolve e.text).isAbsolute = true := by decide +kernel
  have hvalid : (fixedDates.resolve "4y3m16d").isValid = true := by decide +kernel
  have hrelative : (fixedDates.resolve "4y3m16d").isAbsolute = false := by decide +kernel
  have he : e.IsSupportedRange fixedDates .full .lastPlayed :=
    ⟨by decide +kernel, by decide, Or.inr rfl, Or.inr ⟨rfl, by decide +kernel⟩⟩
  have hdate : timed.resolve "2024-01-15 10:30" = .absolute ⟨2024, 1, 15, by decide⟩ := by
    decide +kernel
  have htimed : (timed.resolve "2024-01-15 10:30").isAbsolute = true := by
    rw [hdate]
    rfl
  obtain ⟨-, hday, -, -, -, hbounds⟩ := resolve_range fixedDates e.text
  obtain ⟨-, hmidnight, -, -, -, -⟩ := resolve_range timed "2024-01-15 10:30"
  obtain ⟨-, -, hnow, htime, -, -⟩ := resolve_range fixedDates "4y3m16d"
  exact ⟨⟨habsolute, hday habsolute⟩, ⟨hdate, htimed, hmidnight htimed⟩,
    ⟨hvalid, hrelative, hnow hvalid hrelative, htime hvalid⟩, he, rfl,
    hbounds .full e .lastPlayed rfl he rfl⟩

end TrackSearch
