/-
Formats with a time of day.

What a text says of a time of day and of a time zone has to follow the format and must not
contradict itself, but it does not count for the date: `readParts?_eq_some_iff` says that the date of
a text is the one that is read when all this is dropped.  A step of the reader puts the same to the entries of
a date, with or without the others (`readDatePart?_of_readPart?`), and so does a whole run.
-/
import TrackSearch.DateFormat.Reader

namespace TrackSearch
namespace DateFormat

open Calendar

/-! ## What is known of a date -/

namespace Entries

/-- What is known of a date, without what is known of a time of day and of a time zone. -/
def dateOnly (e : Entries) : Entries :=
  fun k => if k ∈ Entry.ofDates then e k else Option.none

variable {e e' : Entries} {k : Entry} {v : Int}

theorem dateOnly_of_mem (e : Entries) (hk : k ∈ Entry.ofDates) : e.dateOnly k = e k :=
  if_pos hk

theorem dateOnly_none : none.dateOnly = none :=
  funext fun _ => ite_self _

theorem agreeWith_dateOnly (e : Entries) (d : Date) : e.dateOnly.agreeWith d = e.agreeWith d := by
  unfold agreeWith
  rw [Bool.eq_iff_iff, List.all_eq_true, List.all_eq_true]
  exact forall₂_congr fun k hk => by rw [dateOnly_of_mem e hk]

theorem candidate?_dateOnly (e : Entries) (year weekYear : Option Int) :
    e.dateOnly.candidate? year weekYear = e.candidate? year weekYear :=
  rfl

/-- The date depends on what is known of it alone. -/
theorem toDate?_dateOnly (e : Entries) : e.dateOnly.toDate? = e.toDate? := by
  unfold toDate?
  simp only [agreeWith_dateOnly, candidate?_dateOnly]
  rfl

theorem put?_dateOnly (hk : k ∈ Entry.ofDates) (h : e.put? k v = some e') :
    e.dateOnly.put? k v = some e'.dateOnly := by
  unfold put? at h ⊢
  rw [dateOnly_of_mem e hk]
  cases hknown : e k with
  | some w =>
    rw [hknown] at h
    dsimp only at h ⊢
    split at h
    · next hw =>
      cases h
      exact if_pos hw
    · cases h
  | none =>
    rw [hknown] at h
    cases h
    refine congrArg some (funext fun j => ?_)
    by_cases hj : j = k
    · simp [dateOnly, hj, hk]
    · simp [dateOnly, hj]

theorem dateOnly_of_put? (hk : k ∉ Entry.ofDates) (h : e.put? k v = some e') :
    e'.dateOnly = e.dateOnly := by
  unfold put? at h
  split at h
  · split at h
    · cases h
      rfl
    · cases h
  · cases h
    refine funext fun j => ?_
    by_cases hj : j = k
    · simp [dateOnly, hj, hk]
    · simp [dateOnly, hj]

theorem putAll?_dateOnly {values : List (Entry × Int)} (h : e.putAll? values = some e') :
    e.dateOnly.putAll? (values.filter fun (k, _) => k ∈ Entry.ofDates) = some e'.dateOnly := by
  induction values generalizing e with
  | nil =>
    cases h
    rfl
  | cons value values ih =>
    obtain ⟨k, v⟩ := value
    obtain ⟨middle, hput, hrest⟩ := Option.bind_eq_some_iff.mp h
    have hrest := ih hrest
    by_cases hk : k ∈ Entry.ofDates
    · rw [List.filter_cons_of_pos (by simpa using hk)]
      exact Option.bind_eq_some_iff.mpr ⟨_, put?_dateOnly hk hput, hrest⟩
    · rw [List.filter_cons_of_neg (by simpa using hk), ← dateOnly_of_put? hk hput]
      exact hrest

end Entries

/-! ## Reading with the time of day dropped -/

/-- As `readPart?`, with what the text says of a time of day and of a time zone dropped. -/
def readDatePart? (state : Entries × List Char) (part : Part) : Option (Entries × List Char) := do
  let (values, rest) ← takePart? state.2 part
  let entries ← state.1.putAll? (values.filter fun (k, _) => k ∈ Entry.ofDates)
  some (entries, rest)

def readDateParts? (parts : List Part) (cs : List Char) : Option Date := do
  let (entries, rest) ← parts.foldlM readDatePart? (Entries.none, cs)
  if rest.isEmpty then entries.toDate? else none

theorem readDatePart?_of_readPart? {state next : Entries × List Char} {part : Part}
    (h : readPart? state part = some next) :
    readDatePart? (state.1.dateOnly, state.2) part = some (next.1.dateOnly, next.2) := by
  obtain ⟨⟨values, rest⟩, htake, h⟩ := Option.bind_eq_some_iff.mp h
  obtain ⟨entries, hput, h⟩ := Option.bind_eq_some_iff.mp h
  cases h
  refine Option.bind_eq_some_iff.mpr ⟨_, htake, ?_⟩
  exact Option.bind_eq_some_iff.mpr ⟨_, Entries.putAll?_dateOnly hput, rfl⟩

theorem foldlM_readDatePart?_of_foldlM_readPart? {parts : List Part}
    {state last : Entries × List Char} (h : parts.foldlM readPart? state = some last) :
    parts.foldlM readDatePart? (state.1.dateOnly, state.2) =
      some (last.1.dateOnly, last.2) := by
  induction parts generalizing state with
  | nil =>
    cases h
    rfl
  | cons part parts ih =>
    rw [List.foldlM_cons] at h ⊢
    obtain ⟨next, hnext, hrest⟩ := Option.bind_eq_some_iff.mp h
    exact Option.bind_eq_some_iff.mpr ⟨_, readDatePart?_of_readPart? hnext, ih hrest⟩

/-- The date of a text is the date that is read when what the text says of a time of day is dropped,
if the text follows the format in all its parts. -/
theorem readParts?_eq_some_iff {parts : List Part} {cs : List Char} {d : Date} :
    readParts? parts cs = some d ↔
      (parts.foldlM readPart? (Entries.none, cs)).isSome = true ∧
        readDateParts? parts cs = some d := by
  cases hread : parts.foldlM readPart? (Entries.none, cs) with
  | none => simp [readParts?, hread]
  | some last =>
    have hdate := foldlM_readDatePart?_of_foldlM_readPart? hread
    dsimp only at hdate
    rw [Entries.dateOnly_none] at hdate
    simp [readParts?, readDateParts?, hread, hdate, Entries.toDate?_dateOnly]

/-- A time of day and an offset behind a date. -/
example :
    (parts? "%Y-%m-%d %H:%M %z".toList).bind (readParts? · "2024-01-15 10:30 -0800".toList) =
      Date.ofYmd? 2024 1 15 := by
  decide +kernel

end DateFormat
end TrackSearch
