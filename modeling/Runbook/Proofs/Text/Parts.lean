/-
# The parts between separators

`Text.splitAll` cuts a text at every separator.  The parts are the ones that a reader sees:
none of them holds the separator, and with one between any two they make up the text
(`separates_iff`).  There is no other way to cut it, so a text that is put together from such
parts is cut into them again.  A single cut, at the first separator or at the last, can be
made in one way as well (`append_cons_inj`, `append_cons_inj_last`).
-/

import Mathlib.Data.List.Basic
import Runbook.Text.Split

namespace Runbook
namespace Text

variable {sep : Char} {cs : List Char} {parts : List (List Char)}

/-- Parts that hold no separator and make up a text with one between any two. -/
structure Separates (sep : Char) (cs : List Char) (parts : List (List Char)) : Prop where
  ne_nil : parts ≠ []
  free : ∀ part ∈ parts, sep ∉ part
  joined : [sep].intercalate parts = cs

theorem splitAll_eq_splitOn (sep : Char) (cs : List Char) : splitAll sep cs = cs.splitOn sep := by
  induction cs with
  | nil => rfl
  | cons c cs ih =>
    rw [splitAll, List.splitOn_cons_eq_if_modifyHead, ih]
    by_cases h : c = sep
    · simp [h]
    · obtain ⟨part, parts, hparts⟩ := List.exists_cons_of_ne_nil (List.splitOn_ne_nil sep cs)
      simp [h, hparts]

/-- No part holds the separator. -/
theorem notMem_of_mem_splitAll (sep : Char) (cs : List Char) :
    ∀ part ∈ splitAll sep cs, sep ∉ part := by
  induction cs with
  | nil => simp [splitAll]
  | cons c cs ih =>
    rw [splitAll]
    split
    · exact List.forall_mem_cons.2 ⟨List.not_mem_nil, ih⟩
    · rename_i hc
      obtain ⟨part, parts, hparts⟩ : ∃ part parts, splitAll sep cs = part :: parts := by
        rw [splitAll_eq_splitOn]
        exact List.exists_cons_of_ne_nil (List.splitOn_ne_nil sep cs)
      rw [hparts] at ih ⊢
      obtain ⟨hpart, hparts⟩ := List.forall_mem_cons.1 ih
      refine List.forall_mem_cons.2 ⟨?_, hparts⟩
      exact List.not_mem_cons_of_ne_of_not_mem (Ne.symm hc) hpart

/-- **A text is cut into the parts between its separators**, and into nothing else. -/
theorem separates_iff : Separates sep cs parts ↔ splitAll sep cs = parts := by
  rw [splitAll_eq_splitOn]
  constructor
  · rintro ⟨hne, hfree, rfl⟩
    exact List.splitOn_intercalate sep hfree hne
  · rintro rfl
    refine ⟨List.splitOn_ne_nil sep cs, ?_, List.intercalate_splitOn sep⟩
    rw [← splitAll_eq_splitOn]
    exact notMem_of_mem_splitAll sep cs

theorem splitAll_of_notMem (h : sep ∉ cs) : splitAll sep cs = [cs] :=
  separates_iff.1 ⟨List.cons_ne_nil cs [], by simpa using h, by simp [List.intercalate]⟩

theorem splitAll_append (sep : Char) (a b : List Char) :
    splitAll sep (a ++ sep :: b) = splitAll sep a ++ splitAll sep b := by
  simp only [splitAll_eq_splitOn, List.splitOn_append_cons_self]

/-- A text is cut at its first separator in one way. -/
theorem append_cons_inj {sep : Char} {a a' b b' : List Char} (ha : sep ∉ a) (ha' : sep ∉ a')
    (h : a ++ sep :: b = a' ++ sep :: b') : a = a' ∧ b = b' := by
  have hcut : splitFirst sep (a ++ sep :: b) = some (a, b) := splitFirst_eq_some_iff.2 ⟨ha, rfl⟩
  have hcut' : splitFirst sep (a ++ sep :: b) = some (a', b') := splitFirst_eq_some_iff.2 ⟨ha', h⟩
  exact Prod.mk.inj (Option.some.inj (hcut.symm.trans hcut'))

/-- So it is at its last one. -/
theorem append_cons_inj_last {sep : Char} {a a' b b' : List Char} (hb : sep ∉ b)
    (hb' : sep ∉ b') (h : a ++ sep :: b = a' ++ sep :: b') : a = a' ∧ b = b' := by
  have hback : b.reverse ++ sep :: a.reverse = b'.reverse ++ sep :: a'.reverse := by
    simpa using congrArg List.reverse h
  obtain ⟨hb, ha⟩ := append_cons_inj (by simpa using hb) (by simpa using hb') hback
  exact ⟨List.reverse_injective ha, List.reverse_injective hb⟩

end Text
end Runbook
