/-
# Documents read side by side

Reading does not look at the code a task has, nor at the warnings there are: it only adds to
them.  With the code of one place among the tasks veiled, and the warnings as well, a line
changes a draft in a way that does not depend on what is veiled (`addLine_veil`), nor on the
number of the line, which goes into warnings alone.  So two drafts that are the same under
the veil stay so, whatever lines come (`veil_addLines`), and in the end their workflows
differ in that code and in the warnings at most (`exists_eq_recode`).

Only the first line is another matter, since metadata can open there.
-/

import Runbook.Proofs.Workflow.Scan

namespace Runbook

/-- The task that stands at the place `i`, without its code if that is the veiled place. -/
def Task.veil (place : Option Nat) (i : Nat) (t : Task) : Task :=
  if place = some i then { t with code := none } else t

/-- The workflow without its warnings and without the code of the veiled task. -/
def Workflow.veil (place : Option Nat) (w : Workflow) : Workflow :=
  { w with tasks := w.tasks.mapIdx (Task.veil place), warnings := [] }

namespace Task

variable (place : Option Nat) (i : Nat) (t : Task)

theorem veil_self : t.veil (some i) i = { t with code := none } := if_pos rfl

theorem veil_of_ne {place : Option Nat} (h : place ≠ some i) : t.veil place i = t := if_neg h

theorem veil_name : (t.veil place i).name = t.name := by
  unfold veil; split <;> rfl

theorem veil_phase : (t.veil place i).phase = t.phase := by
  unfold veil; split <;> rfl

/-- A task has nothing to veil as long as it has no code. -/
theorem veil_of_code (h : t.code = none) : t.veil place i = t := by
  unfold veil
  split
  · rw [← h]
  · rfl

@[simp] theorem veil_veil : (t.veil place i).veil place i = t.veil place i := by
  unfold veil; split <;> rfl

/-- What a property does to a task has nothing to do with its code. -/
theorem apply_veil (p : Property) (value : List Char) :
    p.apply value (t.veil place i) = (p.apply value t).veil place i := by
  unfold veil
  split
  · have hsame := congrArg (fun s : Task => { s with code := none })
      (p.apply_frame value t t.name t.phase t.code)
    exact (p.apply_frame value t t.name t.phase none).trans hsame.symm
  · rfl

/-- More code under the veil is not seen, and outside it is the same. -/
theorem veil_joinCode (block : String) :
    ({ t.veil place i with code := some (Draft.joinCode (t.veil place i).code block) }).veil place i
      = ({ t with code := some (Draft.joinCode t.code block) }).veil place i := by
  unfold veil
  split <;> rfl

end Task

theorem Workflow.veil_veil (place : Option Nat) (w : Workflow) :
    (w.veil place).veil place = w.veil place := by
  simp [Workflow.veil, List.mapIdx_mapIdx, Function.comp_def]

namespace Draft

/-- The draft without its warnings and without the code of the veiled task, be it finished or
open. -/
def veil (place : Option Nat) (d : Draft) : Draft :=
  { d with
    workflow := d.workflow.veil place
    openTask := d.openTask.map (Task.veil place d.workflow.tasks.length) }

variable {place : Option Nat} {d e : Draft}

theorem veil_warn (d : Draft) (text : String) : (d.warn text).veil place = d.veil place := rfl

theorem veil_veil (d : Draft) : (d.veil place).veil place = d.veil place := by
  have htasks : (d.workflow.veil place).tasks.length = d.workflow.tasks.length :=
    List.length_mapIdx
  simp only [veil, Workflow.veil_veil, htasks, Option.map_map, Function.comp_def, Task.veil_veil]

theorem openTask_veil {t : Task} (h : d.openTask = some t) :
    (d.veil place).openTask = some (t.veil place d.workflow.tasks.length) := by
  rw [veil, h, Option.map_some]

theorem openTask_veil_of_none (h : d.openTask = none) : (d.veil place).openTask = none := by
  rw [veil, h, Option.map_none]

theorem closeTask_veil (d : Draft) : (d.veil place).closeTask = d.closeTask.veil place := by
  cases h : d.openTask with
  | none => rw [closeTask_of_none h, closeTask_of_none (openTask_veil_of_none h)]
  | some t =>
    rw [closeTask_of_some h, closeTask_of_some (openTask_veil h)]
    simp only [veil, Workflow.veil, Workflow.pushTask, Task.veil_name, Task.veil_phase,
      List.mapIdx_concat, Option.map_none]

theorem setProperty_veil (d : Draft) (number number' : Nat) (key value : List Char) :
    ((d.veil place).setProperty number' key value).veil place
      = (d.setProperty number key value).veil place := by
  rw [setProperty_eq_match, setProperty_eq_match]
  cases Property.ofKey? (String.ofList key) with
  | none => exact d.veil_veil
  | some p =>
    cases h : d.openTask with
    | none =>
      rw [openTask_veil_of_none h]
      exact d.veil_veil
    | some t =>
      have hset : ({ d.veil place with
            openTask := some (p.apply value (t.veil place d.workflow.tasks.length)) }).veil place
          = ({ d with openTask := some (p.apply value t) }).veil place := by
        rw [Task.apply_veil]
        exact veil_veil { d with openTask := some (p.apply value t) }
      rw [openTask_veil h]
      simp only []
      split <;> exact hset

theorem addMetadataLine_veil (d : Draft) (line : List Char) :
    (d.veil place).addMetadataLine line = (d.addMetadataLine line).veil place := by
  unfold addMetadataLine
  split
  · rfl
  · split
    · rfl
    · simp only []
      split <;> rfl

theorem attachCode_veil (d : Draft) (lines : List (List Char)) :
    ((d.veil place).attachCode lines).veil place = (d.attachCode lines).veil place := by
  have htasks : (d.workflow.veil place).tasks.length = d.workflow.tasks.length :=
    List.length_mapIdx
  simp only [veil, attachCode, Workflow.veil_veil, htasks, Option.map_map, Function.comp_def,
    Task.veil_joinCode]

/-- A line of the body says the same under the veil.  Only of a property the number matters,
and that only to a warning. -/
theorem addBodyLine_veil (d : Draft) (number number' : Nat) (l : Line) :
    ((d.veil place).addBodyLine number' l).veil place = (d.addBodyLine number l).veil place := by
  have hexact (h : (d.veil place).addBodyLine number' l = (d.addBodyLine number l).veil place) :
      ((d.veil place).addBodyLine number' l).veil place = (d.addBodyLine number l).veil place := by
    rw [h, veil_veil]
  cases l with
  | fence | other => exact hexact rfl
  | title text =>
    refine hexact ?_
    have hdescription : (d.veil place).workflow.description = d.workflow.description := rfl
    simp only [addBodyLine, hdescription]
    split <;> rfl
  | phase name =>
    refine hexact ?_
    simp only [addBodyLine, closeTask_veil]
    rfl
  | task name =>
    refine hexact ?_
    have hnew : ∀ i, (newTask d.phase name).veil place i = newTask d.phase name :=
      fun i => Task.veil_of_code place i _ rfl
    simp only [addBodyLine, closeTask_veil]
    simp only [veil, Option.map_some, hnew]
  | property key value => exact setProperty_veil ..

/-- A line behind the first one says the same under the veil, whatever its number. -/
theorem addLine_veil (d : Draft) {number number' : Nat} (hn : number ≠ 1) (hn' : number' ≠ 1)
    (raw : List Char) :
    ((d.veil place).addLine number' raw).veil place = (d.addLine number raw).veil place := by
  have hpart : (d.veil place).part = d.part := rfl
  unfold addLine
  rw [hpart]
  cases d.part with
  | metadata => simp only [addMetadataLine_veil, veil_veil]
  | code lines =>
    simp only []
    split
    · exact attachCode_veil d lines
    · exact veil_veil { d with part := .code (raw :: lines) }
  | body =>
    simp only [if_neg fun h => hn (And.left h), if_neg fun h => hn' (And.left h)]
    exact addBodyLine_veil ..

/-- Lines behind the first one change drafts that are the same under the veil to such. -/
theorem veil_addLines (h : d.veil place = e.veil place) {number number' : Nat} (hn : 1 < number)
    (hn' : 1 < number') (lines : List (List Char)) :
    (d.addLines number lines).veil place = (e.addLines number' lines).veil place := by
  induction lines generalizing d e number number' with
  | nil => exact h
  | cons raw lines ih =>
    have hne : number ≠ 1 := Nat.ne_of_gt hn
    have hne' : number' ≠ 1 := Nat.ne_of_gt hn'
    refine ih ?_ (Nat.lt_add_right 1 hn) (Nat.lt_add_right 1 hn')
    calc (d.addLine number raw).veil place
        = ((d.veil place).addLine number raw).veil place := (addLine_veil d hne hne raw).symm
      _ = ((e.veil place).addLine number raw).veil place := by rw [h]
      _ = (e.addLine number' raw).veil place := addLine_veil e hne' hne raw

/-- The end of the document is the same under the veil. -/
theorem veil_finish (h : d.veil place = e.veil place) :
    d.finish.veil place = e.finish.veil place := by
  have hclose : ∀ d : Draft, d.closeTask.workflow.veil place = (d.veil place).closeTask.workflow :=
    fun d => (congrArg workflow d.closeTask_veil).symm
  have hpart : (d.veil place).part = (e.veil place).part := congrArg part h
  have hpart : d.part = e.part := hpart
  unfold finish
  rw [hpart]
  cases e.part with
  | body | metadata => rw [hclose, hclose, h]
  | code lines =>
    rw [hclose, hclose, ← attachCode_veil (d.warn _), veil_warn, h, ← attachCode_veil (e.warn _),
      veil_warn]

end Draft

namespace Workflow

/-- The workflow with other code for the task at a place, if there is one. -/
def recode (place : Option Nat) (code : Option String) (w : Workflow) : Workflow :=
  { w with tasks := place.elim w.tasks fun i => w.tasks.modify i fun t => { t with code } }

/-- Tasks that are the same with one of them veiled differ in its code at most. -/
theorem exists_eq_modify {i : Nat} {ts us : List Task}
    (h : ts.mapIdx (Task.veil (some i)) = us.mapIdx (Task.veil (some i))) :
    ∃ code, us = ts.modify i fun t => { t with code } := by
  refine ⟨us[i]?.bind (·.code), List.ext_getElem? fun j => ?_⟩
  have hj := congrArg (·[j]?) h
  simp only [List.getElem?_mapIdx] at hj
  rw [List.getElem?_modify]
  cases ht : ts[j]? with
  | none => simpa [ht] using hj.symm
  | some t =>
    rw [ht, Option.map_some] at hj
    obtain ⟨u, hu, hut⟩ := Option.map_eq_some_iff.1 hj.symm
    by_cases hij : i = j
    · subst hij
      have hcode : u = { t with code := u.code } := by
        rw [Task.veil_self, Task.veil_self] at hut
        exact congrArg (fun s : Task => { s with code := u.code }) hut
      simp only [hu, Option.bind_some, if_true]
      exact congrArg some hcode
    · have hne : some i ≠ some j := fun h => hij (Option.some.inj h)
      rw [Task.veil_of_ne j _ hne, Task.veil_of_ne j _ hne] at hut
      simp [hij, hu, hut]

/-- Workflows that are the same under the veil differ in code and warnings at most. -/
theorem exists_eq_recode {place : Option Nat} {v w : Workflow} (h : w.veil place = v.veil place) :
    ∃ code, v = { w.recode place code with warnings := v.warnings } := by
  have htasks : w.tasks.mapIdx (Task.veil place) = v.tasks.mapIdx (Task.veil place) :=
    congrArg tasks h
  obtain ⟨code, hcode⟩ : ∃ code, v.tasks = (w.recode place code).tasks := by
    cases place with
    | none =>
      have hnone : ∀ ts : List Task, ts.mapIdx (Task.veil none) = ts := fun ts =>
        List.ext_getElem? fun j => by
          rw [List.getElem?_mapIdx]
          exact Option.map_id_apply
      rw [hnone, hnone] at htasks
      exact ⟨none, htasks.symm⟩
    | some i => exact exists_eq_modify htasks
  have hrest : { w with tasks := v.tasks, warnings := v.warnings } = v :=
    congrArg (fun u : Workflow => { u with tasks := v.tasks, warnings := v.warnings }) h
  refine ⟨code, hrest.symm.trans ?_⟩
  rw [hcode]
  rfl

end Workflow
end Runbook
