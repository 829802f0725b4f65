/-
Phrases as elapsed times.

A phrase is one step back by days or by months, an elapsed time four steps of which some are of no
length.  Steps of no length stay where they are, also in the last days of a month and on the first
day of the calendar, so a phrase comes to the same as every elapsed time with its sums
(`resolve_eq_resolve_writeAll`), and where the one leaves the calendar the other does.
-/
import TrackSearch.Proofs.DateValue.CountingBack
import TrackSearch.Proofs.Text.LetterCase

namespace TrackSearch

open Calendar

namespace Phrase

/-! ## Steps of no length -/

/-- The sums of an elapsed time that goes back as far as the phrase. -/
def total : Phrase → UnitSum → Nat
  | days n, .days => n
  | months n, .months => n
  | _, _ => 0

theorem back?_total (now : Instant) (p : Phrase) : Elapsed.back? now p.total = p.before? now := by
  cases p with
  | days n =>
    have hdays : ((86400 * n : Nat) : Int) = n * 86400 := by omega
    simp only [Elapsed.back?, total, Nat.mul_zero, Instant.minusMonths?_zero, Option.bind_some,
      Int.cast_ofNat_Int, Instant.minusSeconds?_zero, Option.bind_fun_some, hdays, before?]
  | months n =>
    simp only [Elapsed.back?, total, Nat.mul_zero, Instant.minusMonths?_zero, Option.bind_some,
      Int.cast_ofNat_Int, Instant.minusSeconds?_zero, Option.bind_fun_some, before?]

/-! ## Texts of phrases -/

theorem mem_table_of_ofText? {text : String} {p : Phrase} (h : ofText? text = some p) :
    (Text.lower text, p) ∈ table := by
  obtain ⟨front, back, htable, -⟩ := List.lookup_eq_some_iff.mp h
  rw [htable]
  exact List.mem_append_right _ List.mem_cons_self

end Phrase

namespace Resolver

variable {text : String} {p : Phrase}

/-- A text is read as a phrase in any letter case, since it starts with a letter. -/
theorem resolve_of_phrase (r : Resolver) (h : Phrase.ofText? text = some p) :
    r.resolve text = ofInstant (p.before? r.now) := by
  have hletters : ∀ entry ∈ Phrase.table, ∃ d ds, entry.1.toList = d :: ds ∧
      0x61 ≤ d.toNat ∧ d.toNat ≤ 0x7A := by
    intro entry hentry
    simp only [Phrase.table, List.mem_cons, List.not_mem_nil, or_false] at hentry
    rcases hentry with rfl | rfl | rfl | rfl | rfl <;> exact ⟨_, _, rfl, by decide, by decide⟩
  obtain ⟨d, ds, hlower, hlow, hhigh⟩ := hletters _ (Phrase.mem_table_of_ofText? h)
  obtain ⟨c, cs, htext, hc⟩ := Text.exists_alphabetic_of_lower hlower hlow hhigh
  unfold resolve resolveWith
  rw [htext]
  dsimp only
  rw [if_pos hc, h]
  rfl

theorem resolve_eq_resolve_writeAll (now : Instant) (h : Phrase.ofText? text = some p)
    {as : List Amount} (hne : as ≠ []) (hdigits : ∀ a ∈ as.head?, a.digits ≠ [])
    (htotal : ∀ sum, Amount.total as sum = p.total sum) :
    resolve ⟨now, defaultFormats⟩ text = resolve ⟨now, defaultFormats⟩ (Amount.writeAll as) := by
  rw [resolve_of_phrase _ h, (Amount.resolve_writeAll now hne hdigits).2, funext htotal,
    Phrase.back?_total]

end Resolver

/-! ## The phrases and their elapsed times -/

/-- Each phrase with the elapsed times that have one amount and go back as far. -/
def Phrase.elapsedTimes : List (String × String) :=
  [("today", "1d"), ("last week", "7d"), ("last week", "1w"), ("last month", "1m"),
    ("two months ago", "2m"), ("three months ago", "3m")]

theorem Phrase.exists_amount_of_mem_elapsedTimes {phrase elapsed : String}
    (h : (phrase, elapsed) ∈ elapsedTimes) :
    ∃ (p : Phrase) (n : Nat) (unit : TimeUnit), table.lookup phrase = some p ∧
      Amount.writeAll [Amount.ofNat n unit] = elapsed ∧
      ∀ sum, Amount.total [Amount.ofNat n unit] sum = p.total sum := by
  simp only [elapsedTimes, List.mem_cons, Prod.mk.injEq, List.not_mem_nil, or_false] at h
  rcases h with ⟨rfl, rfl⟩ | ⟨rfl, rfl⟩ | ⟨rfl, rfl⟩ | ⟨rfl, rfl⟩ | ⟨rfl, rfl⟩ | ⟨rfl, rfl⟩
  · exact ⟨.days 1, 1, .day, rfl, by decide, fun sum => by cases sum <;> decide⟩
  · exact ⟨.days 7, 7, .day, rfl, by decide, fun sum => by cases sum <;> decide⟩
  · exact ⟨.days 7, 1, .week, rfl, by decide, fun sum => by cases sum <;> decide⟩
  · exact ⟨.months 1, 1, .month, rfl, by decide, fun sum => by cases sum <;> decide⟩
  · exact ⟨.months 2, 2, .month, rfl, by decide, fun sum => by cases sum <;> decide⟩
  · exact ⟨.months 3, 3, .month, rfl, by decide, fun sum => by cases sum <;> decide⟩

/-- A phrase in any letter case comes to the same as each of its elapsed times, whatever the time
is: the same point in time, or no date where the way back leaves the calendar. -/
theorem resolve_phrase (now : Instant) {text phrase elapsed : String}
    (hphrase : (phrase, elapsed) ∈ Phrase.elapsedTimes) (htext : Text.lower text = phrase) :
    Resolver.resolve ⟨now, defaultFormats⟩ text =
      Resolver.resolve ⟨now, defaultFormats⟩ elapsed := by
  obtain ⟨p, n, unit, hlookup, rfl, htotal⟩ := Phrase.exists_amount_of_mem_elapsedTimes hphrase
  have hread : Phrase.ofText? text = some p := by
    rw [Phrase.ofText?, htext, hlookup]
  have hdigits : ∀ a ∈ [Amount.ofNat n unit].head?, a.digits ≠ [] := by
    intro a ha
    cases ha
    exact Amount.digits_ofNat_ne_nil n unit
  exact Resolver.resolve_eq_resolve_writeAll now hread (List.cons_ne_nil _ _) hdigits htotal

/-- Three months before the end of May is the end of February, here in a leap year, and a week before
the second day of the calendar is no date.  The last letter of `last week` is a Kelvin sign. -/
theorem resolve_phrase_leapDay :
    let may := Resolver.mk (Instant.midnight ⟨2024, 5, 31, by decide⟩) defaultFormats
    let early := Resolver.mk (Instant.midnight ⟨-262143, 1, 2, by decide⟩) defaultFormats
    Text.lower "Three Months AGO" = "three months ago" ∧
      may.resolve "Three Months AGO" = may.resolve "3m" ∧
      may.resolve "3m" = .relative (Instant.midnight ⟨2024, 2, 29, by decide⟩) ∧
      Text.lower "LAST wee\u212A" = "last week" ∧
      early.resolve "LAST wee\u212A" = early.resolve "1w" ∧ early.resolve "1w" = .invalid := by
  intro may early
  have hmonths : Text.lower "Three Months AGO" = "three months ago" := by decide +kernel
  have hweek : Text.lower "LAST wee\u212A" = "last week" := by decide +kernel
  exact ⟨hmonths, resolve_phrase _ (by simp [Phrase.elapsedTimes]) hmonths, by decide +kernel,
    hweek, resolve_phrase _ (by simp [Phrase.elapsedTimes]) hweek, by decide +kernel⟩

end TrackSearch
