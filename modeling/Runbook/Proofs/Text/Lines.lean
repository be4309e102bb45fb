/-
# The lines of a text

A text is cut into pieces at its line feeds, and the pieces are its lines, but for two things.

| the piece                      | the line                                |
|:-------------------------------|:----------------------------------------|
| a line feed ends it            | the piece without a carriage return     |
| it is the last one             | the piece, but none if it is empty      |

`Text.lines` finds the lines in one pass (`lines_eq_of_separates`).  So a text has the same
lines with a carriage return before every line feed (`lines_withReturns`).
-/

import Runbook.Proofs.Text.Parts
import Runbook.Proofs.Text.Trim

namespace Runbook

namespace Text

variable {cs text piece : List Char} {pieces : List (List Char)}

/-- The line that a piece is when a line feed ends it. -/
def ended (piece : List Char) : List Char := (dropReturn piece.reverse).reverse

/-- The lines that the pieces between line feeds are. -/
def linesOf : List (List Char) → List (List Char)
  | [] => []
  | [last] => if last.isEmpty then [] else [last]
  | piece :: next :: pieces => ended piece :: linesOf (next :: pieces)

/-- A line goes on to the next line feed. -/
theorem linesFrom_ended (hfree : '\n' ∉ piece) (line rest : List Char) :
    linesFrom line (piece ++ '\n' :: rest)
      = (dropReturn (piece.reverse ++ line)).reverse :: linesFrom [] rest := by
  induction piece generalizing line with
  | nil => rfl
  | cons c piece ih =>
    obtain ⟨hc, hfree⟩ := List.ne_and_not_mem_of_not_mem_cons hfree
    rw [List.cons_append, linesFrom, if_neg hc.symm, ih hfree, List.reverse_cons,
      List.append_assoc, List.singleton_append]

/-- Or to the end of the text. -/
theorem linesFrom_last (hfree : '\n' ∉ piece) (line : List Char) :
    linesFrom line piece = if (piece.reverse ++ line).isEmpty then []
      else [(piece.reverse ++ line).reverse] := by
  induction piece generalizing line with
  | nil => rfl
  | cons c piece ih =>
    obtain ⟨hc, hfree⟩ := List.ne_and_not_mem_of_not_mem_cons hfree
    rw [linesFrom, if_neg hc.symm, ih hfree, List.reverse_cons, List.append_assoc,
      List.singleton_append]

theorem linesOf_cons (piece : List Char) (h : pieces ≠ []) :
    linesOf (piece :: pieces) = ended piece :: linesOf pieces := by
  obtain ⟨next, pieces, rfl⟩ := List.exists_cons_of_ne_nil h
  rfl

/-- **The lines of a text are those of its pieces.** -/
theorem lines_eq_of_separates (h : Separates '\n' text pieces) : lines text = linesOf pieces := by
  obtain ⟨hne, hfree, rfl⟩ := h
  induction pieces with
  | nil => exact absurd rfl hne
  | cons piece pieces ih =>
    obtain ⟨hpiece, hpieces⟩ := List.forall_mem_cons.1 hfree
    cases pieces with
    | nil => simpa [lines, linesOf, List.intercalate] using linesFrom_last hpiece []
    | cons next pieces =>
      have hjoin : ['\n'].intercalate (piece :: next :: pieces)
          = piece ++ '\n' :: ['\n'].intercalate (next :: pieces) := by
        simp [List.intercalate]
      rw [hjoin, lines, linesFrom_ended hpiece, List.append_nil,
        linesOf_cons piece (List.cons_ne_nil next pieces), ← ih (List.cons_ne_nil _ _) hpieces]
      rfl

/-- All pieces but those of the rest are ended. -/
theorem linesOf_append (first : List (List Char)) (h : pieces ≠ []) :
    linesOf (first ++ pieces) = first.map ended ++ linesOf pieces := by
  induction first with
  | nil => rfl
  | cons piece first ih =>
    rw [List.cons_append, linesOf_cons piece (List.append_ne_nil_of_right_ne_nil _ h), ih]
    rfl

/-- Blanks at both ends are trimmed. -/
theorem trim_pad {front back : List Char} (hfront : ∀ c ∈ front, isBlank c = true)
    (hback : ∀ c ∈ back, isBlank c = true) (cs : List Char) :
    trim (front ++ (cs ++ back)) = trim cs := by
  obtain ⟨front', back', hcs, hfront', hback', hbare⟩ := trims_trim cs
  refine trims_iff.1 ⟨front ++ front', back' ++ back, ?_, ?_, ?_, hbare⟩
  · rw [List.append_assoc, ← List.append_assoc _ back', ← List.append_assoc front', ← hcs]
  · exact fun c hc => (List.mem_append.1 hc).elim (hfront c) (hfront' c)
  · exact fun c hc => (List.mem_append.1 hc).elim (hback' c) (hback c)

/-- A carriage return at the end is trimmed in any case. -/
theorem trim_ended (piece : List Char) : trim (ended piece) = trim piece := by
  obtain rfl | ⟨front, c, rfl⟩ := piece.eq_nil_or_concat
  · rfl
  · rw [List.concat_eq_append]
    by_cases hc : c = '\r'
    · subst hc
      have hended : ended (front ++ ['\r']) = front := by simp [ended, dropReturn]
      rw [hended]
      have hpad : trim ([] ++ (front ++ ['\r'])) = trim front :=
        trim_pad (by simp) (List.forall_mem_singleton.2 rfl) front
      exact hpad.symm
    · have hended : ended (front ++ [c]) = front ++ [c] := by simp [ended, dropReturn, hc]
      rw [hended]

/-- The lines are the pieces, up to blanks at their ends. -/
theorem exists_trim_eq_of_mem_linesOf {line : List Char} (h : line ∈ linesOf pieces) :
    ∃ piece ∈ pieces, trim line = trim piece := by
  induction pieces with
  | nil => cases h
  | cons piece pieces ih =>
    cases pieces with
    | nil =>
      rw [linesOf] at h
      split at h
      · cases h
      · exact ⟨piece, List.mem_cons_self, by rw [List.mem_singleton.1 h]⟩
    | cons next pieces =>
      rcases List.mem_cons.1 h with rfl | h
      · exact ⟨piece, List.mem_cons_self, trim_ended piece⟩
      · obtain ⟨other, hmem, htrim⟩ := ih h
        exact ⟨other, List.mem_cons_of_mem piece hmem, htrim⟩

/-- The text with a carriage return before every line feed. -/
def withReturns (cs : List Char) : List Char :=
  cs.flatMap fun c => if c = '\n' then ['\r', '\n'] else [c]

theorem linesFrom_withReturns (hcs : '\r' ∉ cs) {line : List Char} (hline : '\r' ∉ line) :
    linesFrom line (withReturns cs) = linesFrom line cs := by
  induction cs generalizing line with
  | nil => rfl
  | cons c cs ih =>
    obtain ⟨hc, hrest⟩ := List.ne_and_not_mem_of_not_mem_cons hcs
    by_cases hlf : c = '\n'
    · subst hlf
      have hkeep : dropReturn line = line := by
        cases line with
        | nil => rfl
        | cons x line =>
          rw [dropReturn]
          rintro rest ⟨⟩
          exact hline List.mem_cons_self
      have hreturn : withReturns ('\n' :: cs) = '\r' :: '\n' :: withReturns cs := rfl
      rw [hreturn, linesFrom, if_neg (by decide), linesFrom, if_pos rfl, linesFrom, if_pos rfl,
        ih hrest List.not_mem_nil, hkeep]
      rfl
    · have hcopy : withReturns (c :: cs) = c :: withReturns cs := by simp [withReturns, hlf]
      rw [hcopy, linesFrom, if_neg hlf, linesFrom, if_neg hlf]
      exact ih hrest (List.not_mem_cons_of_ne_of_not_mem hc hline)

/-- **A text has the same lines with a carriage return before every line feed.** -/
theorem lines_withReturns (h : '\r' ∉ cs) : lines (withReturns cs) = lines cs :=
  linesFrom_withReturns h List.not_mem_nil

end Text

end Runbook
