/-
# Trimming

`Text.trim` drops the blanks at both ends of a text and nothing else: what is left has a
character that is no blank at either end, or is empty (`trims_iff`).  Either end can be
trimmed first (`trim_trimEnd`, `trim_trimStart`).
-/

import Mathlib.Data.List.TakeWhile
import Runbook.Text.Blank

namespace Runbook

namespace Text

/-- A text with no blank at either end. -/
def Bare (cs : List Char) : Prop :=
  (∀ c ∈ cs.head?, isBlank c = false) ∧ ∀ c ∈ cs.getLast?, isBlank c = false

theorem head?_trimStart (cs : List Char) : ∀ c ∈ (trimStart cs).head?, isBlank c = false := by
  intro c hc
  have h := List.head?_dropWhile_not isBlank cs
  rw [show cs.dropWhile isBlank = trimStart cs from rfl, Option.mem_def.1 hc] at h
  simpa using h

theorem getLast?_trimEnd (cs : List Char) : ∀ c ∈ (trimEnd cs).getLast?, isBlank c = false := by
  intro c hc
  rw [trimEnd, List.getLast?_reverse] at hc
  exact head?_trimStart cs.reverse c hc

/-- What starts with no blank keeps its front. -/
theorem trimStart_eq_self {cs : List Char} (h : ∀ c ∈ cs.head?, isBlank c = false) :
    trimStart cs = cs := by
  cases cs with
  | nil => rfl
  | cons c cs => exact List.dropWhile_cons_of_neg (by simp [h c rfl])

/-- What ends with no blank keeps its end. -/
theorem trimEnd_eq_self {cs : List Char} (h : ∀ c ∈ cs.getLast?, isBlank c = false) :
    trimEnd cs = cs := by
  obtain rfl | ⟨front, c, rfl⟩ := cs.eq_nil_or_concat
  · rfl
  · have hc : isBlank c = false := h c (by simp)
    simp [trimEnd, hc]

/-- What ends with no blank stays in front of what is trimmed. -/
theorem trimEnd_append_of_getLast? {a : List Char} (h : ∀ c ∈ a.getLast?, isBlank c = false)
    (b : List Char) : trimEnd (a ++ b) = a ++ trimEnd b := by
  rw [trimEnd, List.reverse_append, List.dropWhile_append]
  split
  · rename_i hb
    have hnil : trimEnd b = [] := by
      rw [trimEnd, List.isEmpty_iff.1 hb]
      rfl
    rw [hnil, List.append_nil]
    exact trimEnd_eq_self h
  · rw [List.reverse_append, List.reverse_reverse, trimEnd]

/-- A blank end is dropped. -/
theorem trimEnd_blanks {b : List Char} (h : ∀ c ∈ b, isBlank c = true) : trimEnd b = [] := by
  rw [trimEnd, List.dropWhile_eq_nil_iff.2 fun c hc => h c (List.mem_reverse.1 hc)]
  rfl

/-- The text inside is the other one without the blanks around it. -/
def Trims (cs inner : List Char) : Prop :=
  ∃ front back, cs = front ++ (inner ++ back) ∧
    (∀ c ∈ front, isBlank c = true) ∧ (∀ c ∈ back, isBlank c = true) ∧ Bare inner

theorem trims_trim (cs : List Char) : Trims cs (trim cs) := by
  have hend := trimEnd_append (trimStart cs)
  refine ⟨cs.takeWhile isBlank, ((trimStart cs).reverse.takeWhile isBlank).reverse, ?_, ?_, ?_,
    fun c hc => ?_, getLast?_trimEnd _⟩
  · rw [trim, hend, trimStart_append]
  · exact fun c hc => List.mem_takeWhile_imp hc
  · exact fun c hc => List.mem_takeWhile_imp (List.mem_reverse.1 hc)
  · -- What the trimmed text starts with, the text without its front starts with too.
    refine head?_trimStart cs c ?_
    rw [← hend, Option.mem_def, List.head?_append, ← trim, Option.mem_def.1 hc, Option.some_or]

theorem Trims.trim {cs inner : List Char} (h : Trims cs inner) : Text.trim cs = inner := by
  obtain ⟨front, back, rfl, hfront, hback, hhead, hlast⟩ := h
  have hstart : trimStart (front ++ (inner ++ back)) = trimStart (inner ++ back) :=
    List.dropWhile_append_of_pos hfront
  rw [Text.trim, hstart]
  cases inner with
  | nil =>
    have hnil : trimStart back = [] := List.dropWhile_eq_nil_iff.2 hback
    rw [List.nil_append, hnil]
    rfl
  | cons c inner =>
    have hkeep : trimStart (c :: inner ++ back) = c :: inner ++ back := trimStart_eq_self hhead
    rw [hkeep, trimEnd_append_of_getLast? hlast, trimEnd_blanks hback, List.append_nil]

/-- Trimming drops the blanks at both ends of a text, and nothing else. -/
theorem trims_iff {cs inner : List Char} : Trims cs inner ↔ trim cs = inner :=
  ⟨Trims.trim, fun h => h ▸ trims_trim cs⟩

/-- The end of a text can be trimmed first. -/
theorem trim_trimEnd (cs : List Char) : trim (trimEnd cs) = trim cs := by
  obtain ⟨front, back, heq, hfront, hback, hbare⟩ := trims_trim (trimEnd cs)
  refine (trims_iff.1 ⟨front, back ++ (cs.reverse.takeWhile isBlank).reverse, ?_, hfront, ?_,
    hbare⟩).symm
  · rw [← List.append_assoc _ back, ← List.append_assoc front, ← heq, trimEnd_append]
  · intro c hc
    obtain hc | hc := List.mem_append.1 hc
    · exact hback c hc
    · exact List.mem_takeWhile_imp (List.mem_reverse.1 hc)

/-- And so can its front. -/
theorem trim_trimStart (cs : List Char) : trim (trimStart cs) = trim cs := by
  obtain ⟨front, back, heq, hfront, hback, hbare⟩ := trims_trim (trimStart cs)
  refine (trims_iff.1 ⟨cs.takeWhile isBlank ++ front, back, ?_, ?_, hback, hbare⟩).symm
  · rw [List.append_assoc, ← heq, trimStart_append]
  · intro c hc
    obtain hc | hc := List.mem_append.1 hc
    · exact List.mem_takeWhile_imp hc
    · exact hfront c hc

end Text

end Runbook
