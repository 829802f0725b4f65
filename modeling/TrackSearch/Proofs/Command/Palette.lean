/-
Colouring changes no text.

`plain` takes the sequences out of a text.  A painted text shows another one if that is left of it,
whatever stands behind it, so that no sequence is open at its end (`Shows`).  What shows its text is
closed under appending, and every painter puts together pieces that show theirs.
-/
import TrackSearch.Command.Palette
import TrackSearch.Proofs.Text.Split

namespace TrackSearch
namespace Palette

/-! ## Texts without their sequences -/

def escape : Char := '\x1b'

/-- What is left of a text without its sequences, which go from an escape character to the next `m`.
The text begins inside of a sequence or not. -/
def plainFrom : Bool → List Char → List Char
  | _, [] => []
  | true, c :: cs => plainFrom (c != 'm') cs
  | false, c :: cs => if c = escape then plainFrom true cs else c :: plainFrom false cs

def plain (cs : List Char) : List Char :=
  plainFrom false cs

theorem plain_append_of_not_mem {cs : List Char} (h : escape ∉ cs) (rest : List Char) :
    plain (cs ++ rest) = cs ++ plain rest := by
  induction cs with
  | nil => rfl
  | cons c cs ih =>
    rw [List.mem_cons, not_or] at h
    have hc : c ≠ escape := Ne.symm h.1
    show (if c = escape then _ else c :: plain (cs ++ rest)) = _
    rw [if_neg hc, ih h.2]
    rfl

theorem plainFrom_true_append {cs : List Char} (h : 'm' ∉ cs) (rest : List Char) :
    plainFrom true (cs ++ 'm' :: rest) = plain rest := by
  induction cs with
  | nil => rfl
  | cons c cs ih =>
    rw [List.mem_cons, not_or] at h
    have hc : (c != 'm') = true := by simpa using Ne.symm h.1
    show plainFrom (c != 'm') (cs ++ 'm' :: rest) = _
    rw [hc, ih h.2]

/-- Whether a painted text is another one with sequences put in, the last of which is complete. -/
def Shows (painted cs : List Char) : Prop :=
  ∀ rest, plain (painted ++ rest) = cs ++ plain rest

namespace Shows

variable {painted painted' cs ds : List Char}

theorem plain_eq (h : Shows painted cs) : plain painted = cs := by
  have hend := h []
  rwa [List.append_nil, show plain [] = [] from rfl, List.append_nil] at hend

theorem append (h : Shows painted cs) (h' : Shows painted' ds) :
    Shows (painted ++ painted') (cs ++ ds) := by
  intro rest
  rw [List.append_assoc, List.append_assoc, h, h']

theorem of_not_mem (h : escape ∉ cs) : Shows cs cs :=
  plain_append_of_not_mem h

theorem sequence (h : 'm' ∉ cs) : Shows (escape :: (cs ++ ['m'])) [] := by
  intro rest
  show plainFrom true (cs ++ ['m'] ++ rest) = plain rest
  rw [List.append_assoc]
  exact plainFrom_true_append h rest

end Shows

/-! ## Painted pieces -/

theorem shows_start (color : Color) : Shows (start color) [] := by
  have hdigits : 'm' ∉ Nat.toDigits 10 color := by
    intro hm
    have hdigit := Nat.isDigit_of_mem_toDigits (by omega) (by omega) hm
    exact absurd hdigit (by decide)
  have hsequence : 'm' ∉ "[38;5;".toList ++ Nat.toDigits 10 color := by
    rw [List.mem_append, not_or]
    exact ⟨by decide, hdigits⟩
  exact Shows.sequence hsequence

theorem shows_reset : Shows reset [] := by
  have hsequence : 'm' ∉ "[0".toList := by decide
  exact Shows.sequence hsequence

theorem shows_paint (color : Color) {cs : List Char} (h : escape ∉ cs) :
    Shows (paint color cs) cs := by
  have hshows := ((shows_start color).append (Shows.of_not_mem h)).append shows_reset
  rwa [List.nil_append, List.append_nil] at hshows

/-- Pieces show the text that was cut at its quotes, with a quote in front if the first piece is
inside of one. -/
theorem shows_paintPieces (inside : Bool) {pieces : List (List Char)} (hne : pieces ≠ [])
    (h : ∀ piece ∈ pieces, escape ∉ piece) :
    Shows (paintPieces inside pieces)
      ((if inside then ['"'] else []) ++ ['"'].intercalate pieces) := by
  have hquote {piece : List Char} (hpiece : escape ∉ piece) : escape ∉ '"' :: piece := by
    rw [List.mem_cons, not_or]
    exact ⟨by decide, hpiece⟩
  have houtside {piece : List Char} (hpiece : escape ∉ piece) :
      Shows (if piece.isEmpty then [] else paint literalColor piece) piece := by
    cases piece with
    | nil => exact Shows.of_not_mem hpiece
    | cons c cs => exact shows_paint literalColor hpiece
  induction pieces generalizing inside with
  | nil => exact absurd rfl hne
  | cons piece pieces ih =>
    obtain ⟨hpiece, hpieces⟩ := List.forall_mem_cons.mp h
    cases pieces with
    | nil =>
      rw [List.intercalate_singleton]
      cases inside with
      | false => exact houtside hpiece
      | true => exact shows_paint contextColor (hquote hpiece)
    | cons next rest =>
      have hrest := ih (!inside) (List.cons_ne_nil next rest) hpieces
      rw [List.intercalate_cons_cons]
      cases inside with
      | false =>
        -- The quote behind the piece is painted together with the next one.
        have hshows := (houtside hpiece).append hrest
        simpa [paintPieces] using hshows
      | true =>
        have hboth : escape ∉ '"' :: piece ++ ['"'] := by
          rw [List.mem_append, not_or]
          exact ⟨hquote hpiece, by decide⟩
        have hshows := (shows_paint contextColor hboth).append hrest
        simpa [paintPieces] using hshows

theorem shows_paintCommand {cs : List Char} (h : escape ∉ cs) : Shows (paintCommand cs) cs := by
  have hpieces : ∀ piece ∈ Text.splitAt '"' cs, escape ∉ piece := by
    intro piece hpiece hc
    exact h (Text.mem_of_mem_splitAt hpiece hc)
  have hshows := shows_paintPieces false (Text.splitAt_ne_nil '"' cs) hpieces
  rwa [Text.intercalate_splitAt] at hshows

/-! ## Painted lines -/

theorem append_of_splitAtGap? {cs before gap : List Char}
    (h : splitAtGap? cs = some (before, gap)) : before ++ gap = cs := by
  fun_induction splitAtGap? cs generalizing before with
  | case1 cs =>
    cases h
    rfl
  | case2 c cs _ ih =>
    obtain ⟨⟨before', gap'⟩, hsplit, hpair⟩ := Option.map_eq_some_iff.mp h
    cases hpair
    rw [List.cons_append, ih hsplit]
  | case3 => cases h

theorem append_of_splitDescription? {cs command description : List Char}
    (h : splitDescription? cs = some (command, description)) : command ++ description = cs :=
  append_of_splitAtGap? (Option.filter_eq_some_iff.mp h).1

theorem shows_paintLine {line : List Char} (h : escape ∉ line) : Shows (paintLine line) line := by
  have hsuffix : Text.trimStart line <:+ line := List.dropWhile_suffix _
  have hline : line.take (line.length - (Text.trimStart line).length) ++ Text.trimStart line = line :=
    List.suffix_iff_eq_append.mp hsuffix
  have hindent : escape ∉ line.take (line.length - (Text.trimStart line).length) :=
    fun hc => h (List.mem_of_mem_take hc)
  have hbody : escape ∉ Text.trimStart line := fun hc => h (hsuffix.subset hc)
  unfold paintLine
  dsimp only
  split
  · have hshows := (Shows.of_not_mem hindent).append (shows_paint headerColor hbody)
    rwa [hline] at hshows
  · split
    · next command description hsplit =>
      have hparts := append_of_splitDescription? hsplit
      rw [← hparts, List.mem_append, not_or] at hbody
      have hshows := ((Shows.of_not_mem hindent).append (shows_paintCommand hbody.1)).append
        (Shows.of_not_mem hbody.2)
      rwa [List.append_assoc _ command, hparts, hline] at hshows
    · exact Shows.of_not_mem h

/-! ## Lines -/

theorem joinLines_eq_intercalate (ls : List (List Char)) :
    joinLines ls = ['\n'].intercalate ls := by
  induction ls with
  | nil => rfl
  | cons line ls ih =>
    cases ls with
    | nil => exact List.intercalate_singleton.symm
    | cons next rest =>
      have hjoin : joinLines (line :: next :: rest) = line ++ '\n' :: joinLines (next :: rest) := rfl
      rw [hjoin, ih, List.intercalate_cons_cons, List.append_assoc, List.singleton_append]

theorem shows_joinLines {f : List Char → List Char} {ls : List (List Char)}
    (h : ∀ line ∈ ls, Shows (f line) line) : Shows (joinLines (ls.map f)) (joinLines ls) := by
  have hend : escape ∉ ['\n'] := by decide
  rw [joinLines_eq_intercalate, joinLines_eq_intercalate]
  induction ls with
  | nil => exact Shows.of_not_mem List.not_mem_nil
  | cons line ls ih =>
    obtain ⟨hline, hls⟩ := List.forall_mem_cons.mp h
    cases ls with
    | nil =>
      rw [List.map_singleton, List.intercalate_singleton, List.intercalate_singleton]
      exact hline
    | cons next rest =>
      have hshows := (hline.append (Shows.of_not_mem hend)).append (ih hls)
      rwa [List.map_cons, List.map_cons, List.intercalate_cons_cons, List.intercalate_cons_cons]

theorem dropReturn_prefix (cs : List Char) : dropReturn cs <+: cs := by
  unfold dropReturn
  split
  · exact List.dropLast_prefix cs
  · exact List.prefix_refl cs

theorem exists_mem_of_mem_linesOfPieces {pieces : List (List Char)} {line : List Char}
    (h : line ∈ linesOfPieces pieces) : ∃ piece ∈ pieces, line <+: piece := by
  fun_induction linesOfPieces pieces with
  | case1 => cases h
  | case2 last hempty => cases h
  | case3 last hempty =>
    rw [List.mem_singleton.mp h]
    exact ⟨last, List.mem_singleton_self last, List.prefix_refl last⟩
  | case4 piece rest _ ih =>
    rcases List.mem_cons.mp h with rfl | h
    · exact ⟨piece, List.mem_cons_self, dropReturn_prefix piece⟩
    · obtain ⟨p, hp, hfront⟩ := ih h
      exact ⟨p, List.mem_cons_of_mem piece hp, hfront⟩

theorem mem_of_mem_lines {cs line : List Char} {c : Char} (hline : line ∈ lines cs) (hc : c ∈ line) :
    c ∈ cs := by
  obtain ⟨piece, hpiece, hfront⟩ := exists_mem_of_mem_linesOfPieces hline
  exact Text.mem_of_mem_splitAt hpiece (hfront.subset hc)

theorem lines_append_lineEnd {line : List Char} (h : '\n' ∉ line) (rest : List Char) :
    lines (line ++ '\n' :: rest) = dropReturn line :: lines rest := by
  obtain ⟨piece, pieces, hpieces⟩ :=
    List.exists_cons_of_ne_nil (Text.splitAt_ne_nil '\n' rest)
  rw [lines, lines, Text.splitAt_append_cons h, hpieces]
  rfl

theorem lines_of_not_mem {line : List Char} (h : '\n' ∉ line) :
    lines line = if line.isEmpty then [] else [line] := by
  rw [lines, Text.splitAt_of_not_mem h]
  rfl

/-- The lines of a text make up the text, unless it ends with a line end or a carriage return
belongs to one of its line ends. -/
theorem joinLines_lines {cs : List Char} (hlast : cs.getLast? ≠ some '\n')
    (hreturn : ¬['\r', '\n'] <:+: cs) : joinLines (lines cs) = cs := by
  by_cases hend : '\n' ∈ cs
  · obtain ⟨line, rest, hcs, hline⟩ := List.eq_append_cons_of_mem hend
    rw [hcs] at hlast hreturn ⊢
    have hne : rest ≠ [] := by
      rintro rfl
      simp at hlast
    have hdrop : dropReturn line = line := by
      refine if_neg fun h => hreturn ?_
      obtain ⟨front, rfl⟩ := List.getLast?_eq_some_iff.mp (beq_iff_eq.mp h)
      exact ⟨front, rest, by simp⟩
    have hrest : joinLines (lines rest) = rest := by
      refine joinLines_lines (fun h => hlast ?_) fun h => hreturn ?_
      · rw [List.getLast?_append_cons, List.getLast?_cons, h]
        rfl
      · exact h.trans ⟨line ++ ['\n'], [], by simp⟩
    have hlines : lines rest ≠ [] := by
      intro hnil
      rw [hnil] at hrest
      exact hne hrest.symm
    rw [lines_append_lineEnd hline, hdrop, joinLines_eq_intercalate,
      List.intercalate_cons_of_ne_nil hlines, ← joinLines_eq_intercalate, hrest]
    simp
  · rw [lines_of_not_mem hend]
    cases cs <;> rfl
termination_by cs.length
decreasing_by
  rw [hcs, List.length_append, List.length_cons]
  omega

theorem shows_paintExamples {cs : List Char} (h : escape ∉ cs) :
    Shows (paintExamples cs) (joinLines (lines cs)) :=
  shows_joinLines fun _ hline => shows_paintLine fun hc => h (mem_of_mem_lines hline hc)

/-- Colour adds sequences to a text without any and changes nothing else.  Without them painted
examples are their lines, with a line end between any two neighbours, which is the text itself
unless it ends with a line end or a carriage return belongs to one of its line ends; and a painted
command is the command, wherever its quotes are. -/
theorem plain_painted {cs : List Char} (h : escape ∉ cs) :
    plain (paintExamples cs) = joinLines (lines cs) ∧
      (cs.getLast? ≠ some '\n' → ¬['\r', '\n'] <:+: cs → plain (paintExamples cs) = cs) ∧
      plain (paintCommand cs) = cs := by
  have hexamples := (shows_paintExamples h).plain_eq
  refine ⟨hexamples, fun hlast hreturn => ?_, (shows_paintCommand h).plain_eq⟩
  rw [hexamples, joinLines_lines hlast hreturn]

/-- A heading, an example with a quote that is not closed, and a line that starts with a tab. -/
theorem plain_painted_unclosed :
    let cs := "Examples:\n  songq parse \"a\" \"é  Show\n\tlast".toList
    escape ∉ cs ∧ cs.getLast? ≠ some '\n' ∧ ¬['\r', '\n'] <:+: cs ∧
      paintExamples cs ≠ cs ∧ plain (paintExamples cs) = cs ∧ plain (paintCommand cs) = cs := by
  intro cs
  have hescape : escape ∉ cs := by decide
  have hlast : cs.getLast? ≠ some '\n' := by decide
  have hnoReturn : '\r' ∉ cs := by decide
  have hreturn : ¬['\r', '\n'] <:+: cs := fun h => hnoReturn (h.subset List.mem_cons_self)
  obtain ⟨-, hexamples, hcommand⟩ := plain_painted hescape
  exact ⟨hescape, hlast, hreturn, by decide +kernel, hexamples hlast hreturn, hcommand⟩

end Palette
end TrackSearch
