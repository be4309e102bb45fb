/-
# What holds of every task of a document

Tasks come from headings, and the lines under a heading change them.  So a property holds of
all tasks of a document if every task has it that a heading can give, and no line takes it
away: no property, whatever its value, and no code (`Task.Lasting`).  That no draft breaks it
is proved once, line by line (`Draft.AllTasks.addLine`), and any such property can be read
off (`Task.Lasting.parseAs`).

A heading gives a name that is proper: it is not empty and has no blank at either end
(`Line.proper_of_read`).  A bare mark is none, since a line is trimmed before it is read and
the mark of a heading ends with a blank.
-/

import Mathlib.Data.List.Basic
import Runbook.Proofs.Text.Trim
import Runbook.Proofs.Workflow.Scan

namespace Runbook

namespace Text

/-- A text that can be a name: it is not empty and has no blank at either end. -/
structure Proper (cs : List Char) : Prop where
  ne_nil : cs ≠ []
  bare : Bare cs

theorem bare_trim (cs : List Char) : Bare (trim cs) := by
  obtain ⟨-, -, -, -, -, hbare⟩ := trims_trim cs
  exact hbare

/-- Something stands behind a mark that ends with a blank, if the line has none at its end. -/
theorem proper_trim_of_bare (mark : List Char) {rest : List Char} {c : Char}
    (hc : isBlank c = true) (h : Bare (mark ++ c :: rest)) : Proper (trim rest) := by
  refine ⟨fun hnil => ?_, bare_trim rest⟩
  obtain ⟨front, back, hrest, hfront, hback, -⟩ := trims_trim rest
  rw [hnil, List.nil_append] at hrest
  have hblank : ∀ x ∈ c :: rest, isBlank x = true := by
    simpa [hrest, hc, or_imp, forall_and] using And.intro hfront hback
  have hlast : (mark ++ c :: rest).getLast? = some ((c :: rest).getLast (by simp)) := by
    rw [List.getLast?_append_cons, List.getLast?_eq_some_getLast]
  have hno := h.2 _ hlast
  rw [hblank _ (List.getLast_mem _)] at hno
  cases hno

end Text

namespace Line

/-- The name that a heading gives. -/
def name? : Line → Option (List Char)
  | .phase name | .task name => some name
  | _ => none

theorem proper_of_boldTask? {line name : List Char} (h : boldTask? line = some name) :
    Text.Proper name := by
  obtain ⟨rest, -, h⟩ := Option.bind_eq_some_iff.1 h
  obtain ⟨hname, h⟩ := Option.ite_none_left_eq_some.1 h
  cases h
  exact ⟨fun hnil => hname (by rw [hnil]; rfl), Text.bare_trim _⟩

/-- **A heading gives a proper name.** -/
theorem proper_of_read {line name : List Char} (hbare : Text.Bare line)
    (h : (read line).name? = some name) : Text.Proper name := by
  unfold read at h
  split at h
  · cases h
  cases h₁ : Text.dropStart? "# ".toList line with
  | some text => rw [h₁] at h; cases h
  | none =>
    rw [h₁] at h
    cases h₂ : Text.dropStart? "## ".toList line with
    | some rest =>
      rw [h₂] at h
      rw [Text.dropStart?_eq_some_iff.1 h₂] at hbare
      cases h
      exact Text.proper_trim_of_bare "##".toList (by decide) hbare
    | none =>
      rw [h₂] at h
      cases h₃ : Text.dropStart? "### ".toList line with
      | some rest =>
        rw [h₃] at h
        rw [Text.dropStart?_eq_some_iff.1 h₃] at hbare
        cases h
        exact Text.proper_trim_of_bare "###".toList (by decide) hbare
      | none =>
        rw [h₃] at h
        cases h₄ : boldTask? line with
        | some bold =>
          rw [h₄] at h
          cases h
          exact proper_of_boldTask? h₄
        | none =>
          rw [h₄] at h
          cases hs : Property.split? line with
          | some kv => rw [hs] at h; cases h
          | none => rw [hs] at h; cases h

end Line

/-- A property of tasks that every heading gives and no line takes away. -/
structure Task.Lasting (P : Task → Prop) : Prop where
  newTask : ∀ phase name, (∀ place ∈ phase, Text.Proper place) → Text.Proper name →
    P (Draft.newTask phase name)
  apply : ∀ (p : Property) value t, P t → P (p.apply value t)
  withCode : ∀ t code, P t → P { t with code }

namespace Draft

variable {P : Task → Prop} {d e : Draft}

/-- All tasks read so far have a property, the open one included, and the current phase has a
name. -/
structure AllTasks (P : Task → Prop) (d : Draft) : Prop where
  phase : ∀ place ∈ d.phase, Text.Proper place
  tasks : ∀ t ∈ d.workflow.tasks, P t
  openTask : ∀ t ∈ d.openTask, P t

theorem allTasks_empty (P : Task → Prop) : ({} : Draft).AllTasks P where
  phase _ h := nomatch h
  tasks _ h := absurd h List.not_mem_nil
  openTask _ h := nomatch h

theorem AllTasks.of_eq (h : d.AllTasks P) (hphase : e.phase = d.phase)
    (htasks : e.workflow.tasks = d.workflow.tasks) (hopen : e.openTask = d.openTask) :
    e.AllTasks P :=
  ⟨hphase ▸ h.phase, htasks ▸ h.tasks, hopen ▸ h.openTask⟩

theorem AllTasks.closeTask (h : d.AllTasks P) : d.closeTask.AllTasks P := by
  cases hopen : d.openTask with
  | none => rwa [closeTask_of_none hopen]
  | some t =>
    rw [closeTask_of_some hopen]
    refine ⟨h.phase, fun u hu => ?_, fun _ h => nomatch h⟩
    rcases List.mem_append.1 hu with hu | hu
    · exact h.tasks u hu
    · rw [List.mem_singleton.1 hu]
      exact h.openTask t hopen

variable (hP : Task.Lasting P)
include hP

theorem AllTasks.setProperty (h : d.AllTasks P) (number : Nat) (key value : List Char) :
    (d.setProperty number key value).AllTasks P := by
  rw [Draft.setProperty_eq_match]
  split
  · exact h
  · exact h.of_eq rfl rfl rfl
  · rename_i p t _ ht
    have hopen : ∀ u ∈ some (p.apply value t), P u := by
      rintro u ⟨⟩
      exact hP.apply p value t (h.openTask t ht)
    simp only []
    split <;> exact ⟨h.phase, h.tasks, hopen⟩

theorem AllTasks.attachCode (h : d.AllTasks P) (lines : List (List Char)) :
    (d.attachCode lines).AllTasks P := by
  refine ⟨h.phase, h.tasks, fun u hu => ?_⟩
  obtain ⟨t, ht, rfl⟩ := Option.map_eq_some_iff.1 hu
  exact hP.withCode t _ (h.openTask t ht)

theorem AllTasks.addBodyLine (h : d.AllTasks P) (number : Nat) {l : Line}
    (hl : ∀ name ∈ l.name?, Text.Proper name) : (d.addBodyLine number l).AllTasks P := by
  cases l with
  | title text =>
    simp only [Draft.addBodyLine]
    split <;> exact h.of_eq rfl rfl rfl
  | phase name =>
    refine ⟨?_, h.closeTask.tasks, h.closeTask.openTask⟩
    rintro place ⟨⟩
    exact hl name rfl
  | task name =>
    refine ⟨h.closeTask.phase, h.closeTask.tasks, ?_⟩
    rintro t ⟨⟩
    exact hP.newTask d.phase name h.phase (hl name rfl)
  | property key value => exact h.setProperty hP number key value
  | fence | other => exact h.of_eq rfl rfl rfl

/-- **A line keeps it.** -/
theorem AllTasks.addLine (h : d.AllTasks P) (number : Nat) (raw : List Char) :
    (d.addLine number raw).AllTasks P := by
  unfold Draft.addLine
  cases d.part with
  | body =>
    simp only []
    split
    · exact h.of_eq rfl rfl rfl
    · exact h.addBodyLine hP number fun name hname =>
        Line.proper_of_read (Text.bare_trim raw) hname
  | metadata =>
    obtain ⟨metadata, part, hline⟩ := d.exists_addMetadataLine_eq (Text.trim raw)
    simp only [hline]
    exact h.of_eq rfl rfl rfl
  | code lines =>
    simp only []
    split
    · exact h.attachCode hP lines
    · exact h.of_eq rfl rfl rfl

theorem AllTasks.addLines (h : d.AllTasks P) (number : Nat) (lines : List (List Char)) :
    (d.addLines number lines).AllTasks P := by
  induction lines generalizing d number with
  | nil => exact h
  | cons raw lines ih => exact ih (h.addLine hP number raw) (number + 1)

theorem AllTasks.finish (h : d.AllTasks P) : ∀ t ∈ d.finish.tasks, P t := by
  unfold Draft.finish
  cases d.part with
  | code lines =>
    have hwarn : (d.warn openCodeWarning).AllTasks P := h.of_eq rfl rfl rfl
    exact (hwarn.attachCode hP lines).closeTask.tasks
  | body | metadata => exact h.closeTask.tasks

end Draft

/-- **Every task of a document has a property that no line takes away.** -/
theorem Task.Lasting.parseAs {P : Task → Prop} (hP : Task.Lasting P) (stem : Option String)
    (text : List Char) : ∀ t ∈ (Workflow.parseAs stem text).tasks, P t :=
  ((Draft.allTasks_empty P).addLines hP 1 (Text.lines (Workflow.dropMark text))).finish hP

end Runbook
