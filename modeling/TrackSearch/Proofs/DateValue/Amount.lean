/-
Amounts of time as they are written.

An amount is a row of digits, which may be empty, with the letter of a unit behind it.  Characters
that are no digits and no units stand for nothing, and so do digits that no unit follows.  What is
left of a text without the former is split into amounts and such digits in just one way
(`existsUnique_write_eq`), and reading the text adds up these amounts, as long as each of the four
sums fits a word (`isSum_ofText?`).
-/
import TrackSearch.DateValue.Elapsed
import TrackSearch.Proofs.Number.Word

namespace TrackSearch

open Number

inductive TimeUnit
  | year | month | week | day | hour | minute | second
  deriving DecidableEq, Repr

namespace TimeUnit

def letter : TimeUnit → Char
  | year => 'y'
  | month => 'm'
  | week => 'w'
  | day => 'd'
  | hour => 'h'
  | minute => 'M'
  | second => 's'

/-- The sum that the unit counts towards: weeks are days, and hours and minutes are seconds. -/
def sum : TimeUnit → UnitSum
  | year => .years
  | month => .months
  | week | day => .days
  | hour | minute | second => .seconds

def size : TimeUnit → Nat
  | week => 7
  | hour => 3600
  | minute => 60
  | year | month | day | second => 1

theorem size_pos (u : TimeUnit) : 1 ≤ u.size := by
  cases u <;> decide

theorem letter_injective {u v : TimeUnit} (h : u.letter = v.letter) : u = v := by
  cases u <;> cases v <;> first | rfl | cases h

theorem isAsciiDigit_letter (u : TimeUnit) : isAsciiDigit u.letter = false := by
  cases u <;> decide

theorem unitOf?_letter (u : TimeUnit) : unitOf? u.letter = some (u.sum, (u.size : Int)) := by
  cases u <;> rfl

end TimeUnit

structure Amount where
  digits : List Char
  unit : TimeUnit
  isDigits : ∀ c ∈ digits, isAsciiDigit c = true

namespace Amount

def write (a : Amount) : List Char :=
  a.digits ++ [a.unit.letter]

/-- What the amount adds to a sum. -/
def addend (sum : UnitSum) (a : Amount) : Nat :=
  if a.unit.sum = sum then digitsValue a.digits * a.unit.size else 0

/-- What amounts add to a sum together. -/
def total (amounts : List Amount) (sum : UnitSum) : Nat :=
  amounts.foldr (fun a n => a.addend sum + n) 0

theorem total_cons (a : Amount) (as : List Amount) (sum : UnitSum) :
    total (a :: as) sum = a.addend sum + total as sum := rfl

theorem total_perm {as bs : List Amount} (h : as.Perm bs) (sum : UnitSum) :
    total as sum = total bs sum := by
  induction h with
  | nil => rfl
  | cons a _ ih => rw [total_cons, total_cons, ih]
  | swap a b as =>
    simp only [total_cons]
    omega
  | trans _ _ ih₁ ih₂ => exact ih₁.trans ih₂

theorem write_append_inj {a b : Amount} {r s : List Char} (h : a.write ++ r = b.write ++ s) :
    a = b ∧ r = s := by
  have hfront (c : Amount) (t : List Char) :
      (c.write ++ t).takeWhile isAsciiDigit = c.digits := by
    rw [write, List.append_assoc, List.takeWhile_append_of_pos c.isDigits, List.singleton_append,
      List.takeWhile_cons, c.unit.isAsciiDigit_letter]
    simp
  have hdigits : a.digits = b.digits := by
    rw [← hfront a r, ← hfront b s, h]
  have hback : a.unit.letter :: r = b.unit.letter :: s := by
    simpa [write, hdigits] using h
  obtain ⟨hletter, hrest⟩ := List.cons.inj hback
  have hunit := TimeUnit.letter_injective hletter
  obtain ⟨ds, u, hds⟩ := a
  obtain ⟨es, v, hes⟩ := b
  subst hdigits hunit
  exact ⟨rfl, hrest⟩

end Amount

/-- Amounts with digits behind them that have no unit. -/
structure AmountRow where
  amounts : List Amount
  tail : List Char
  isDigits : ∀ c ∈ tail, isAsciiDigit c = true

namespace AmountRow

def write (row : AmountRow) : List Char :=
  row.amounts.flatMap Amount.write ++ row.tail

/-- Whether a character is part of an amount. -/
def isCounted (c : Char) : Bool :=
  isAsciiDigit c || ['y', 'm', 'w', 'd', 'h', 'M', 's'].contains c

theorem isCounted_iff {c : Char} :
    isCounted c = true ↔ isAsciiDigit c = true ∨ ∃ u : TimeUnit, c = u.letter := by
  have hletter : ['y', 'm', 'w', 'd', 'h', 'M', 's'].contains c = true ↔
      ∃ u : TimeUnit, c = u.letter := by
    simp only [List.contains_iff_mem, List.mem_cons, List.not_mem_nil, or_false]
    constructor
    · rintro (rfl | rfl | rfl | rfl | rfl | rfl | rfl)
      · exact ⟨.year, rfl⟩
      · exact ⟨.month, rfl⟩
      · exact ⟨.week, rfl⟩
      · exact ⟨.day, rfl⟩
      · exact ⟨.hour, rfl⟩
      · exact ⟨.minute, rfl⟩
      · exact ⟨.second, rfl⟩
    · rintro ⟨u, rfl⟩
      cases u <;> simp [TimeUnit.letter]
  rw [isCounted, Bool.or_eq_true, hletter]

/-! ## Splitting a text -/

theorem exists_write_eq {cs : List Char} (h : ∀ c ∈ cs, isCounted c = true) :
    ∃ row : AmountRow, row.write = cs := by
  induction cs with
  | nil => exact ⟨⟨[], [], nofun⟩, rfl⟩
  | cons c cs ih =>
    obtain ⟨hc, hcs⟩ := List.forall_mem_cons.mp h
    obtain ⟨⟨amounts, tail, htail⟩, rfl⟩ := ih hcs
    rcases isCounted_iff.mp hc with hdigit | ⟨u, rfl⟩
    · -- A digit belongs to the amount behind it, or to the end if there is none.
      cases amounts with
      | nil => exact ⟨⟨[], c :: tail, List.forall_mem_cons.mpr ⟨hdigit, htail⟩⟩, rfl⟩
      | cons a as =>
        let front : Amount :=
          ⟨c :: a.digits, a.unit, List.forall_mem_cons.mpr ⟨hdigit, a.isDigits⟩⟩
        exact ⟨⟨front :: as, tail, htail⟩, rfl⟩
    · exact ⟨⟨⟨[], u, nofun⟩ :: amounts, tail, htail⟩, rfl⟩

theorem write_ne_of_isDigits {cs : List Char} (hcs : ∀ c ∈ cs, isAsciiDigit c = true)
    (a : Amount) (rest : List Char) : cs ≠ a.write ++ rest := by
  rintro rfl
  have hletter := hcs a.unit.letter (by simp [Amount.write])
  rw [a.unit.isAsciiDigit_letter] at hletter
  cases hletter

theorem flatMap_write_append_inj {as bs : List Amount} {s t : List Char}
    (hs : ∀ c ∈ s, isAsciiDigit c = true) (ht : ∀ c ∈ t, isAsciiDigit c = true)
    (h : as.flatMap Amount.write ++ s = bs.flatMap Amount.write ++ t) : as = bs ∧ s = t := by
  induction as generalizing bs with
  | nil =>
    cases bs with
    | nil => exact ⟨rfl, h⟩
    | cons b bs =>
      rw [List.flatMap_cons, List.append_assoc] at h
      exact absurd h (write_ne_of_isDigits hs b _)
  | cons a as ih =>
    cases bs with
    | nil =>
      rw [List.flatMap_cons, List.append_assoc] at h
      exact absurd h.symm (write_ne_of_isDigits ht a _)
    | cons b bs =>
      rw [List.flatMap_cons, List.flatMap_cons, List.append_assoc, List.append_assoc] at h
      obtain ⟨rfl, hrest⟩ := Amount.write_append_inj h
      obtain ⟨rfl, rfl⟩ := ih hrest
      exact ⟨rfl, rfl⟩

theorem write_injective {row row' : AmountRow} (h : row.write = row'.write) : row = row' := by
  obtain ⟨amounts, tail, htail⟩ := row
  obtain ⟨amounts', tail', htail'⟩ := row'
  obtain ⟨rfl, rfl⟩ := flatMap_write_append_inj htail htail' h
  rfl

/-- What is left of a text is one row of amounts. -/
theorem existsUnique_write_eq (cs : List Char) :
    ∃ row : AmountRow, row.write = cs.filter isCounted ∧
      ∀ row' : AmountRow, row'.write = cs.filter isCounted → row' = row := by
  have hcounted : ∀ c ∈ cs.filter isCounted, isCounted c = true :=
    fun c hc => (List.mem_filter.mp hc).2
  obtain ⟨row, hrow⟩ := exists_write_eq hcounted
  exact ⟨row, hrow, fun row' h => write_injective (h.trans hrow.symm)⟩

end AmountRow

/-! ## Sums in words -/

namespace Elapsed

open AmountRow

def get (e : Elapsed) : UnitSum → Int64
  | .years => e.years
  | .months => e.months
  | .days => e.days
  | .seconds => e.seconds

def set (e : Elapsed) (w : Int64) : UnitSum → Elapsed
  | .years => { e with years := w }
  | .months => { e with months := w }
  | .days => { e with days := w }
  | .seconds => { e with seconds := w }

theorem get_set (e : Elapsed) (w : Int64) (sum s : UnitSum) :
    (e.set w sum).get s = if sum = s then w else e.get s := by
  cases sum <;> cases s <;> rfl

theorem add?_eq (e : Elapsed) (sum : UnitSum) (n factor : Int) :
    e.add? sum n factor = (word? (n * factor)).bind fun amount =>
      (word? ((e.get sum).toInt + amount.toInt)).map fun w => e.set w sum := by
  cases sum <;> rfl

/-- Whether the words of an amount of time are given sums. -/
def Holds (e : Elapsed) (total : UnitSum → Nat) : Prop :=
  ∀ sum, (e.get sum).toInt = total sum

/-- Whether sums fit the words of an amount of time. -/
def Fits (total : UnitSum → Nat) : Prop :=
  ∀ sum, total sum ≤ 9223372036854775807

theorem exists_word?_eq {n : Nat} (h : n ≤ 9223372036854775807) :
    ∃ w, word? n = some w ∧ w.toInt = n :=
  exists_word?_of_fitsWord ⟨by omega, by omega⟩

theorem word?_eq_none {n : Nat} (h : 9223372036854775807 < n) : word? n = none := by
  refine word?_eq_none_of_not_fitsWord ?_
  rintro ⟨-, hle⟩
  omega

/-- What adding up comes to: sums in words, and nothing if one of the sums does not fit its word. -/
def IsSum (total : UnitSum → Nat) : Option Elapsed → Prop
  | some e => e.Holds total
  | none => ¬Fits total

theorem isSum_add? {e : Elapsed} {total : UnitSum → Nat} (he : e.Holds total) (sum : UnitSum)
    (n size : Nat) :
    IsSum (fun s => (if sum = s then n * size else 0) + total s) (e.add? sum n size) := by
  have hsum := he sum
  rw [add?_eq, ← Int.natCast_mul]
  by_cases hfits : n * size + total sum ≤ 9223372036854775807
  · obtain ⟨amount, hamount, hamount'⟩ := exists_word?_eq (n := n * size) (by omega)
    obtain ⟨w, hw, hw'⟩ := exists_word?_eq hfits
    have hadd : (e.get sum).toInt + amount.toInt = (n * size + total sum : Nat) := by omega
    rw [hamount, Option.bind_some, hadd, hw]
    intro s
    rw [get_set]
    by_cases hs : sum = s
    · subst hs
      simpa using hw'
    · simpa [hs] using he s
  · have hnone : ((word? (n * size : Nat)).bind fun amount =>
        (word? ((e.get sum).toInt + amount.toInt)).map fun w => e.set w sum) = none := by
      by_cases hword : n * size ≤ 9223372036854775807
      · obtain ⟨amount, hamount, hamount'⟩ := exists_word?_eq hword
        have hadd : (e.get sum).toInt + amount.toInt = (n * size + total sum : Nat) := by omega
        rw [hamount, Option.bind_some, hadd, word?_eq_none (by omega)]
        rfl
      · rw [word?_eq_none (by omega)]
        rfl
    rw [hnone]
    intro h
    have hle : (if sum = sum then n * size else 0) + total sum ≤ 9223372036854775807 := h sum
    rw [if_pos rfl] at hle
    exact hfits hle

/-! ## Reading amounts -/

theorem unitOf?_eq_none {c : Char} (h : isCounted c = false) : unitOf? c = none := by
  have hletter (u : TimeUnit) : c ≠ u.letter := fun hc =>
    absurd (isCounted_iff.mpr (Or.inr ⟨u, hc⟩)) (by simp [h])
  unfold unitOf?
  split
  · exact absurd rfl (hletter .year)
  · exact absurd rfl (hletter .month)
  · exact absurd rfl (hletter .week)
  · exact absurd rfl (hletter .day)
  · exact absurd rfl (hletter .hour)
  · exact absurd rfl (hletter .minute)
  · exact absurd rfl (hletter .second)
  · rfl

namespace Reader

theorem feed_of_isCounted_eq_false (r : Reader) {c : Char} (h : isCounted c = false) :
    r.feed c = some r := by
  have hdigit : isAsciiDigit c = false := by
    refine Bool.eq_false_iff.mpr fun hd => ?_
    rw [isCounted_iff.mpr (Or.inl hd)] at h
    cases h
  rw [feed, hdigit, unitOf?_eq_none h]
  rfl

theorem foldlM_feed_filter (r : Reader) (cs : List Char) :
    (cs.filter isCounted).foldlM feed r = cs.foldlM feed r := by
  induction cs generalizing r with
  | nil => rfl
  | cons c cs ih =>
    cases hc : isCounted c with
    | true =>
      rw [List.filter_cons_of_pos hc, List.foldlM_cons, List.foldlM_cons]
      congr 1
      funext next
      exact ih next
    | false =>
      rw [List.filter_cons_of_neg (by simp [hc]), List.foldlM_cons,
        feed_of_isCounted_eq_false r hc, ih]
      rfl

theorem foldlM_feed_digits (r : Reader) {ds : List Char} (h : ∀ c ∈ ds, isAsciiDigit c = true) :
    ds.foldlM feed r = some { r with digits := r.digits ++ ds } := by
  induction ds generalizing r with
  | nil => simp
  | cons c ds ih =>
    obtain ⟨hc, hds⟩ := List.forall_mem_cons.mp h
    rw [List.foldlM_cons, feed, if_pos hc]
    show ds.foldlM feed { r with digits := r.digits ++ [c] } = _
    rw [ih _ hds]
    simp

theorem feed_letter (r : Reader) (u : TimeUnit) :
    r.feed u.letter = (word? (digitsValue r.digits)).bind fun n =>
      (r.total.add? u.sum n.toInt u.size).map fun total =>
        { total, digits := [], sawUnit := true } := by
  rw [feed, u.isAsciiDigit_letter, if_neg Bool.false_ne_true, u.unitOf?_letter]
  simp only [Option.map_eq_bind]
  rfl

/-- What reading amounts comes to. -/
def HasRead (total : UnitSum → Nat) (sawUnit : Bool) : Option Reader → Prop
  | some r => r.total.Holds total ∧ r.digits = [] ∧ r.sawUnit = sawUnit
  | none => ¬Fits total

theorem hasRead_amount {r : Reader} {total : UnitSum → Nat} (hr : r.total.Holds total)
    (hdigits : r.digits = []) (a : Amount) :
    HasRead (fun s => a.addend s + total s) true (a.write.foldlM feed r) := by
  have hread : a.write.foldlM feed r = (word? (digitsValue a.digits)).bind fun n =>
      (r.total.add? a.unit.sum n.toInt a.unit.size).map fun total =>
        { total, digits := [], sawUnit := true } := by
    rw [Amount.write, List.foldlM_append, foldlM_feed_digits r a.isDigits, hdigits]
    show (feed _ a.unit.letter).bind some = _
    rw [Option.bind_fun_some, feed_letter]
    rfl
  rw [hread]
  by_cases hword : digitsValue a.digits ≤ 9223372036854775807
  · obtain ⟨n, hn, hn'⟩ := exists_word?_eq hword
    have hadd := isSum_add? hr a.unit.sum (digitsValue a.digits) a.unit.size
    rw [hn, Option.bind_some, hn']
    cases hsum : r.total.add? a.unit.sum (digitsValue a.digits) a.unit.size with
    | none =>
      rw [hsum] at hadd
      exact hadd
    | some e =>
      rw [hsum] at hadd
      exact ⟨hadd, rfl, rfl⟩
  · rw [word?_eq_none (by omega)]
    intro h
    have hsize := Nat.le_mul_of_pos_right (digitsValue a.digits) a.unit.size_pos
    have haddend : a.addend a.unit.sum = digitsValue a.digits * a.unit.size := if_pos rfl
    have hle : a.addend a.unit.sum + total a.unit.sum ≤ 9223372036854775807 := h a.unit.sum
    omega

theorem hasRead_amounts {r : Reader} {total : UnitSum → Nat} (hr : r.total.Holds total)
    (hdigits : r.digits = []) (as : List Amount) :
    HasRead (fun s => Amount.total as s + total s) (r.sawUnit || !as.isEmpty)
      ((as.flatMap Amount.write).foldlM feed r) := by
  induction as generalizing r total with
  | nil =>
    refine ⟨fun s => ?_, hdigits, by simp⟩
    rw [hr s]
    simp [Amount.total]
  | cons a as ih =>
    have hstep := hasRead_amount hr hdigits a
    rw [List.flatMap_cons, List.foldlM_append]
    cases hread : a.write.foldlM feed r with
    | none =>
      rw [hread] at hstep
      intro h
      refine hstep fun s => ?_
      have hle : Amount.total (a :: as) s + total s ≤ 9223372036854775807 := h s
      rw [Amount.total_cons] at hle
      show a.addend s + total s ≤ 9223372036854775807
      omega
    | some next =>
      rw [hread] at hstep
      obtain ⟨hnext, hnext', hsaw⟩ := hstep
      have hrest := ih hnext hnext'
      have htotal : (fun s => Amount.total as s + (a.addend s + total s)) =
          fun s => Amount.total (a :: as) s + total s := by
        funext s
        rw [Amount.total_cons]
        omega
      rw [htotal, hsaw] at hrest
      simpa using hrest

end Reader

/-- A text with a unit in it is read as the sums of its amounts. -/
theorem isSum_ofText? {cs : List Char} {row : AmountRow} (h : row.write = cs.filter isCounted)
    (hne : row.amounts ≠ []) : IsSum (Amount.total row.amounts) (ofText? cs) := by
  have hstart : Elapsed.Holds ({} : Reader).total fun _ => 0 := by
    intro s
    cases s <;> rfl
  have hread := Reader.hasRead_amounts hstart rfl row.amounts
  have hsaw : (({} : Reader).sawUnit || !row.amounts.isEmpty) = true := by simpa using hne
  simp only [Nat.add_zero, hsaw] at hread
  rw [ofText?, ← Reader.foldlM_feed_filter, ← h, AmountRow.write, List.foldlM_append]
  cases hfold : (row.amounts.flatMap Amount.write).foldlM Reader.feed {} with
  | none =>
    rw [hfold] at hread
    exact hread
  | some r =>
    rw [hfold] at hread
    obtain ⟨hr, hdigits, hsaw⟩ := hread
    show IsSum _ ((row.tail.foldlM Reader.feed r).bind _)
    rw [Reader.foldlM_feed_digits r row.isDigits, Option.bind_some, if_pos hsaw]
    exact hr

/-- A text without a unit is read as no time. -/
theorem ofText?_eq_none {cs : List Char} {row : AmountRow} (h : row.write = cs.filter isCounted)
    (hnil : row.amounts = []) : ofText? cs = none := by
  rw [ofText?, ← Reader.foldlM_feed_filter, ← h, AmountRow.write, hnil]
  show ((row.tail.foldlM Reader.feed {}).bind _) = none
  rw [Reader.foldlM_feed_digits _ row.isDigits]
  rfl

theorem ofText?_of_no_unit {cs : List Char} (h : ∀ c ∈ cs, ∀ u : TimeUnit, c ≠ u.letter) :
    ofText? cs = none := by
  have hdigits : ∀ c ∈ cs.filter isCounted, isAsciiDigit c = true := by
    intro c hc
    obtain ⟨hmem, hcounted⟩ := List.mem_filter.mp hc
    rcases isCounted_iff.mp hcounted with hdigit | ⟨u, hu⟩
    · exact hdigit
    · exact absurd hu (h c hmem u)
  let row : AmountRow := ⟨[], cs.filter isCounted, hdigits⟩
  have hrow : row.write = cs.filter isCounted := rfl
  exact ofText?_eq_none hrow rfl

end Elapsed

end TrackSearch
