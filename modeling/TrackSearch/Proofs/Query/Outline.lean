/-
The outline of a query tells the query.

A call is written as words with single spaces between them: its verb, a field, a comparison and a
value, the last of which is a number or a quoted text.  No word but the last has a space in it, so that
the words can be told apart, and each word tells what it stands for: `write_injective`.  The outline
adds spaces in front and puts every call on a line of its own, which `outline_injective` says for all
calls and for what the command prints.
-/
import Mathlib.Data.List.Nodup
import TrackSearch.Command.Report
import TrackSearch.Proofs.Json.Document
import TrackSearch.Proofs.Number.Digits
import TrackSearch.Proofs.Query.Meaning
import TrackSearch.Proofs.Text.Quoted
import TrackSearch.Proofs.Text.Split

namespace TrackSearch

open Text

/-! ## Words -/

/-- Whether a text can be told from what comes behind it at the first space. -/
def IsWord (cs : List Char) : Prop :=
  (∀ c ∈ cs, (c != ' ') = true) ∧ IsLine cs

instance (cs : List Char) : Decidable (IsWord cs) :=
  decidable_of_iff (cs.all (· != ' ') = true ∧ IsLine cs) (by rw [List.all_eq_true]; rfl)

/-- What can stand behind a word: nothing, or a space and more. -/
def EndsAtSpace (rest : List Char) : Prop :=
  rest.takeWhile (· != ' ') = []

theorem IsWord.append_inj {u v rest rest' : List Char} (hu : IsWord u) (hv : IsWord v)
    (hrest : EndsAtSpace rest) (hrest' : EndsAtSpace rest') (h : u ++ rest = v ++ rest') :
    u = v ∧ rest = rest' := by
  have hfront {w back : List Char} (hw : IsWord w) (hback : EndsAtSpace back) :
      (w ++ back).takeWhile (· != ' ') = w := by
    rw [List.takeWhile_append_of_pos hw.1, hback, List.append_nil]
  obtain rfl : u = v := by rw [← hfront hu hrest, h, hfront hv hrest']
  exact ⟨rfl, List.append_cancel_left h⟩

/-- Two words and a text behind them, with a space in front of each. -/
def spaced (u v text : List Char) : List Char :=
  ' ' :: (u ++ ' ' :: (v ++ ' ' :: text))

theorem spaced_inj {u u' v v' text text' : List Char} (hu : IsWord u) (hu' : IsWord u')
    (hv : IsWord v) (hv' : IsWord v') (h : spaced u v text = spaced u' v' text') :
    u = u' ∧ v = v' ∧ text = text' := by
  have hspace (rest : List Char) : EndsAtSpace (' ' :: rest) := rfl
  obtain ⟨rfl, hbehind⟩ := hu.append_inj hu' (hspace _) (hspace _) (List.cons.inj h).2
  obtain ⟨rfl, htext⟩ := hv.append_inj hv' (hspace _) (hspace _) (List.cons.inj hbehind).2
  exact ⟨rfl, rfl, (List.cons.inj htext).2⟩

theorem isLine_spaced {u v text : List Char} (hu : IsWord u) (hv : IsWord v) (htext : IsLine text) :
    IsLine (spaced u v text) := by
  have hspace : IsLine [' '] := by decide
  show IsLine ([' '] ++ (u ++ ([' '] ++ (v ++ ([' '] ++ text)))))
  simp only [isLine_append]
  exact ⟨hspace, hu.2, hspace, hv.2, hspace, htext⟩

theorem Field.isWord_name (f : Field) : IsWord f.name.toList := by
  cases f <;> decide

theorem Field.name_injective {f g : Field} (h : f.name = g.name) : f = g :=
  List.inj_on_of_nodup_map (by decide : (all.map name).Nodup) f.mem_all g.mem_all h

theorem Comparison.isWord_symbol (k : Comparison) : IsWord k.symbol.toList := by
  cases k <;> decide

theorem Comparison.mem_all (k : Comparison) : k ∈ all := by
  cases k <;> decide

theorem Comparison.symbol_injective {k l : Comparison} (h : k.symbol = l.symbol) : k = l :=
  List.inj_on_of_nodup_map (by decide : (all.map symbol).Nodup) k.mem_all l.mem_all h

theorem Number.isWord_writeInt (n : Int) : IsWord (Number.writeInt n).toList := by
  have hchars : ∀ c ∈ (Number.writeInt n).toList, (c != ' ') = true ∧ isControl c = false := by
    intro c hc
    rcases Number.mem_toList_writeInt hc with rfl | hdigit
    · decide
    · have hrange := Number.isAsciiDigit_iff.mp hdigit
      refine ⟨bne_iff_ne.mpr ?_, ?_⟩
      · rintro rfl
        exact absurd hrange (by decide)
      · simp only [isControl, Bool.or_eq_false_iff, Bool.and_eq_false_iff, decide_eq_false_iff_not]
        omega
  exact ⟨fun c hc => (hchars c hc).1, fun c hc => (hchars c hc).2⟩

namespace Call

theorem isWord_matchWord (matchStart matchEnd : Bool) :
    IsWord (matchWord matchStart matchEnd).toList := by
  cases matchStart <;> cases matchEnd <;> decide

theorem matchWord_injective {a b a' b' : Bool} (h : matchWord a b = matchWord a' b') :
    a = a' ∧ b = b' := by
  revert a b a' b'
  decide

/-! ## One call -/

/-- The word that a call begins with. -/
def Shape.verb : Shape → String
  | beginOr => "begin_or"
  | beginAnd => "begin_and"
  | endScope => "end"
  | textFilter false => "add"
  | textFilter true => "exclude"
  | numberFilter false => "add_number"
  | numberFilter true => "exclude_number"

theorem Shape.isWord_verb (s : Shape) : IsWord s.verb.toList := by
  rcases s with _ | _ | _ | (_ | _) | (_ | _) <;> decide

theorem Shape.verb_injective {s s' : Shape} (h : s.verb = s'.verb) : s = s' :=
  List.inj_on_of_nodup_map (by decide : (all.map verb).Nodup) s.mem_all s'.mem_all h

/-- What is written behind the verb of a call. -/
def writtenOperands : Call → List Char
  | textFilter _ field text matchStart matchEnd =>
    spaced field.name.toList (matchWord matchStart matchEnd).toList (quoted text).toList
  | numberFilter _ field value comparison =>
    spaced field.name.toList comparison.symbol.toList (Number.writeInt value.toInt).toList
  | _ => []

theorem toList_write (c : Call) : c.write.toList = c.shape.verb.toList ++ c.writtenOperands := by
  cases c with
  | beginOr => rfl
  | beginAnd => rfl
  | endScope => rfl
  | textFilter exclude field text matchStart matchEnd =>
    cases exclude <;> simp [write, shape, Shape.verb, writtenOperands, spaced]
  | numberFilter exclude field value comparison =>
    cases exclude <;> simp [write, shape, Shape.verb, writtenOperands, spaced]

theorem endsAtSpace_writtenOperands (c : Call) : EndsAtSpace c.writtenOperands := by
  cases c <;> rfl

/-- Calls that are written alike are the same call. -/
theorem write_injective : Function.Injective write := by
  intro c d h
  have hlists : c.shape.verb.toList ++ c.writtenOperands =
      d.shape.verb.toList ++ d.writtenOperands := by
    rw [← toList_write, ← toList_write, h]
  obtain ⟨hverb, hoperands⟩ := c.shape.isWord_verb.append_inj d.shape.isWord_verb
    c.endsAtSpace_writtenOperands d.endsAtSpace_writtenOperands hlists
  have hshape : c.shape = d.shape := Shape.verb_injective (String.toList_injective hverb)
  cases c with
  | beginOr => cases d with
    | beginOr => rfl
    | _ => cases hshape
  | beginAnd => cases d with
    | beginAnd => rfl
    | _ => cases hshape
  | endScope => cases d with
    | endScope => rfl
    | _ => cases hshape
  | textFilter exclude field text matchStart matchEnd => cases d with
    | textFilter exclude' field' text' matchStart' matchEnd' =>
      obtain rfl := Shape.textFilter.inj hshape
      obtain ⟨hfield, hmatch, htext⟩ := spaced_inj field.isWord_name field'.isWord_name
        (isWord_matchWord _ _) (isWord_matchWord _ _) hoperands
      obtain rfl := Field.name_injective (String.toList_injective hfield)
      obtain ⟨rfl, rfl⟩ := matchWord_injective (String.toList_injective hmatch)
      obtain rfl := quoted_injective (String.toList_injective htext)
      rfl
    | _ => cases hshape
  | numberFilter exclude field value comparison => cases d with
    | numberFilter exclude' field' value' comparison' =>
      obtain rfl := Shape.numberFilter.inj hshape
      obtain ⟨hfield, hsymbol, hvalue⟩ := spaced_inj field.isWord_name field'.isWord_name
        comparison.isWord_symbol comparison'.isWord_symbol hoperands
      obtain rfl := Field.name_injective (String.toList_injective hfield)
      obtain rfl := Comparison.symbol_injective (String.toList_injective hsymbol)
      obtain rfl := Int64.toInt_inj.mp (Number.writeInt_injective (String.toList_injective hvalue))
      rfl
    | _ => cases hshape

theorem isLine_write (c : Call) : IsLine c.write.toList := by
  have hoperands : IsLine c.writtenOperands := by
    cases c with
    | textFilter exclude field text matchStart matchEnd =>
      exact isLine_spaced field.isWord_name (isWord_matchWord _ _) (isLine_quoted text)
    | numberFilter exclude field value comparison =>
      exact isLine_spaced field.isWord_name comparison.isWord_symbol
        (Number.isWord_writeInt value.toInt).2
    | _ => exact fun _ hd => absurd hd List.not_mem_nil
  rw [toList_write]
  exact isLine_append.mpr ⟨c.shape.isWord_verb.2, hoperands⟩

/-! ## Lines -/

def stripSpaces (line : String) : String :=
  String.ofList (line.toList.dropWhile (· == ' '))

theorem toList_writeAt (depth : Nat) (c : Call) :
    (c.writeAt depth).toList = List.replicate (2 * depth) ' ' ++ c.write.toList := by
  rw [writeAt, String.toList_append, String.toList_ofList]

theorem dropWhile_write (c : Call) : c.write.toList.dropWhile (· == ' ') = c.write.toList := by
  have hverb : ∃ d ds, c.shape.verb.toList = d :: ds ∧ (d == ' ') = false := by
    rcases c.shape with _ | _ | _ | (_ | _) | (_ | _) <;> exact ⟨_, _, rfl, rfl⟩
  obtain ⟨d, ds, hd, hne⟩ := hverb
  rw [toList_write, hd, List.cons_append, List.dropWhile_cons_of_neg (by simp [hne])]

theorem stripSpaces_writeAt (depth : Nat) (c : Call) : stripSpaces (c.writeAt depth) = c.write := by
  have hspaces : ∀ d ∈ List.replicate (2 * depth) ' ', (d == ' ') = true := by
    intro d hd
    rw [List.eq_of_mem_replicate hd]
    rfl
  rw [stripSpaces, toList_writeAt, List.dropWhile_append_of_pos hspaces, dropWhile_write,
    String.ofList_toList]

theorem isLine_writeAt (depth : Nat) (c : Call) : IsLine (c.writeAt depth).toList := by
  have hspaces : IsLine (List.replicate (2 * depth) ' ') := by
    intro d hd
    rw [List.eq_of_mem_replicate hd]
    decide
  rw [toList_writeAt]
  exact isLine_append.mpr ⟨hspaces, c.isLine_write⟩

theorem map_stripSpaces_outlineFrom (depth : Nat) (calls : List Call) :
    (outlineFrom depth calls).map stripSpaces = calls.map write := by
  induction calls generalizing depth with
  | nil => rfl
  | cons c calls ih =>
    rw [outlineFrom, List.map_cons, List.map_cons, stripSpaces_writeAt, ih]

theorem isLine_of_mem_outlineFrom {depth : Nat} {calls : List Call} {line : String}
    (h : line ∈ outlineFrom depth calls) : IsLine line.toList := by
  induction calls generalizing depth with
  | nil => exact absurd h List.not_mem_nil
  | cons c calls ih =>
    rw [outlineFrom] at h
    rcases List.mem_cons.mp h with rfl | h
    · exact c.isLine_writeAt _
    · exact ih h

end Call

/-! ## What is printed -/

theorem Text.IsLine.lineEnd_not_mem {cs : List Char} (h : IsLine cs) : '\n' ∉ cs := by
  intro hmem
  exact absurd (h _ hmem) (by decide)

/-- Printed lines are told apart by their ends. -/
theorem Report.splitAt_lines {ls : List String} (h : ∀ l ∈ ls, IsLine l.toList) :
    splitAt '\n' (lines ls).toList = ls.map String.toList ++ [[]] := by
  induction ls with
  | nil => rfl
  | cons l ls ih =>
    have hl := (h l List.mem_cons_self).lineEnd_not_mem
    have hlines : (lines (l :: ls)).toList = l.toList ++ '\n' :: (lines ls).toList := by
      simp [lines, String.join_cons]
    rw [hlines, splitAt_append_cons hl, ih fun m hm => h m (List.mem_cons_of_mem l hm)]
    rfl

theorem Report.compile_text {text : String} {supported : FieldSet} {dates : Resolver}
    (hnone : ((Expression.parse text).compile dates supported).failure = none) :
    Report.compile text supported dates .text =
      .ok (lines (Call.outline ((Expression.parse text).compile dates supported).calls)) := by
  unfold Report.compile
  dsimp only
  rw [hnone]

/-- Nothing of a query is lost in its outline.  Queries with the same outline are the same, a line
without the spaces in front of it is its call, which is written unlike any other call, and whatever the
texts of the filters are, no line has a control character in it; so the command that prints the calls
for a text prints one line for each call. -/
theorem outline_injective :
    Function.Injective Call.outline ∧
      (∀ calls, (Call.outline calls).map Call.stripSpaces = calls.map Call.write) ∧
      Function.Injective Call.write ∧
      (∀ calls, ∀ line ∈ Call.outline calls, IsLine line.toList) ∧
      ∀ text supported dates,
        ((Expression.parse text).compile dates supported).failure = none →
        let calls := ((Expression.parse text).compile dates supported).calls
        ∃ printed, Report.compile text supported dates .text = .ok printed ∧
          splitAt '\n' printed.toList = (Call.outline calls).map String.toList ++ [[]] ∧
          (Call.outline calls).length = calls.length := by
  have hstrip (calls : List Call) :
      (Call.outline calls).map Call.stripSpaces = calls.map Call.write :=
    Call.map_stripSpaces_outlineFrom 0 calls
  have hlines (calls : List Call) : ∀ line ∈ Call.outline calls, IsLine line.toList :=
    fun _ h => Call.isLine_of_mem_outlineFrom h
  refine ⟨fun a b h => ?_, hstrip, Call.write_injective, hlines, ?_⟩
  · have hwritten : a.map Call.write = b.map Call.write := by rw [← hstrip, ← hstrip, h]
    exact List.map_injective_iff.mpr Call.write_injective hwritten
  · intro text supported dates hnone calls
    have hlength := congrArg List.length (hstrip calls)
    rw [List.length_map, List.length_map] at hlength
    exact ⟨Report.lines (Call.outline calls), Report.compile_text hnone,
      Report.splitAt_lines (hlines calls), hlength⟩

/-- A text with a line end in it is not taken for one with a backslash and an `n`. -/
theorem outline_injective_lineEnd :
    Call.outline [.textFilter false .title "a\n\" \"b" false false] ≠
        Call.outline [.textFilter false .title "a\\n\" \"b" false false] ∧
      ((Expression.parse "title:\"a\n\\b\" -rating:>3").compile fixedDates .full).failure = none ∧
      ∃ printed, Report.compile "title:\"a\n\\b\" -rating:>3" .full fixedDates .text = .ok printed ∧
        (splitAt '\n' printed.toList).length = 11 := by
  have hread : ((Expression.parse "title:\"a\n\\b\" -rating:>3").compile fixedDates .full).failure =
      none := by decide +kernel
  obtain ⟨houtline, -, -, -, hprinted⟩ := outline_injective
  obtain ⟨printed, hok, hsplit, hlength⟩ := hprinted _ _ _ hread
  refine ⟨fun h => absurd (houtline h) (by decide), hread, printed, hok, ?_⟩
  rw [hsplit, List.length_append, List.length_map, hlength]
  decide +kernel

end TrackSearch
