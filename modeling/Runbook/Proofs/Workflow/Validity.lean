/-
# Valid workflows

Validation accepts exactly the workflows that can be run (`validate_exact`).  Each
kind of fault is found by itself: which tasks repeat a name and which dependencies
are unknown does not depend on what else is wrong, so the faults of one kind are
all there, in the order of definition, whatever the others are.
-/

import Runbook.Proofs.Workflow.Cycle

namespace Runbook

namespace Workflow

/-- The names that stand in a list of names before, at each place where they do. -/
def repeats (names : List String) : List String :=
  (names.zipIdx.filter fun x => x.1 ∈ names.take x.2).map (·.1)

/-- All dependencies: each task with each name that it depends on, the tasks in the
order of definition and the names of each in ascending order. -/
def dependencies (w : Workflow) : List (String × String) :=
  w.tasks.flatMap fun t => t.dependencies.names.map fun d => (t.name, d)

/-- The faults of repeated names in the rest of a list, once some names have been
seen. -/
theorem duplicateFaults_eq {seen before names : List String}
    (h : ∀ n, n ∈ seen ↔ n ∈ before) :
    duplicateFaults seen names
      = ((names.zipIdx before.length).filter fun x => x.1 ∈ (before ++ names).take x.2).map
          fun x => .duplicateTask x.1 := by
  induction names generalizing seen before with
  | nil => rfl
  | cons n ns ih =>
    have htake : (before ++ n :: ns).take before.length = before := by simp
    have hrest : before ++ n :: ns = (before ++ [n]) ++ ns := by simp
    rw [duplicateFaults, List.zipIdx_cons, List.filter_cons, htake]
    by_cases hn : n ∈ seen
    · have hsame : ∀ m, m ∈ seen ↔ m ∈ before ++ [n] := by
        intro m
        rw [List.mem_append, List.mem_singleton, h]
        refine (or_iff_left_of_imp ?_).symm
        rintro rfl
        exact (h _).1 hn
      have hlen : (before ++ [n]).length = before.length + 1 := by simp
      rw [if_pos hn, ih hsame, hlen, ← hrest]
      simp [(h n).1 hn]
    · have hmore : ∀ m, m ∈ n :: seen ↔ m ∈ before ++ [n] := by
        intro m
        rw [List.mem_cons, List.mem_append, List.mem_singleton, h, or_comm]
      have hlen : (before ++ [n]).length = before.length + 1 := by simp
      have hnot : n ∉ before := fun hin => hn ((h n).2 hin)
      rw [if_neg hn, ih hmore, hlen, ← hrest]
      simp [hnot]

/-- The faults of repeated names are one for each place where a name stands again. -/
theorem duplicateFaults_nil (names : List String) :
    duplicateFaults [] names = (repeats names).map .duplicateTask := by
  have h := @duplicateFaults_eq [] [] names fun _ => Iff.rfl
  rw [h, repeats, List.map_map]
  rfl

/-- The faults of unknown dependencies are one for each dependency that is no task. -/
theorem unknownFaults_eq (w : Workflow) (names : List String) :
    unknownFaults names w.tasks
      = (w.dependencies.filter fun x => x.2 ∉ names).map fun x => .unknownDependency x.1 x.2 := by
  rw [unknownFaults, dependencies, List.filter_flatMap, List.map_flatMap]
  refine congrArg (fun f => w.tasks.flatMap f) (funext fun t => ?_)
  rw [List.filter_map, List.map_map]
  rfl

/-- Where no name comes twice, no fault says so. -/
theorem duplicateFaults_eq_nil {seen names : List String} (hn : names.Nodup)
    (hs : ∀ n ∈ names, n ∉ seen) : duplicateFaults seen names = [] := by
  induction names generalizing seen with
  | nil => rfl
  | cons n ns ih =>
    rw [List.nodup_cons] at hn
    rw [List.forall_mem_cons] at hs
    rw [duplicateFaults, if_neg hs.1]
    refine ih hn.2 fun m hm hin => ?_
    rcases List.mem_cons.1 hin with rfl | hin
    · exact hn.1 hm
    · exact hs.2 m hm hin

/-- Where all dependencies are known, no fault says otherwise. -/
theorem unknownFaults_eq_nil {names : List String} {tasks : List Task}
    (h : ∀ t ∈ tasks, ∀ d ∈ t.dependencies, d ∈ names) : unknownFaults names tasks = [] := by
  rw [unknownFaults, List.flatMap_eq_nil_iff]
  intro t ht
  rw [List.map_eq_nil_iff, List.filter_eq_nil_iff]
  intro d hd hunknown
  exact of_decide_eq_true hunknown (h t ht d hd)

/-- Where no name comes twice, nothing is found exactly if no task depends on
itself. -/
theorem findCycle_eq_none_iff_needs {w : Workflow} (hn : (w.tasks.map (·.name)).Nodup) :
    w.findCycle = none ↔ ∀ name, ¬ Relation.TransGen w.Needs name name := by
  have hsame : Leads w.dependencyGraph = w.Needs :=
    funext fun b => funext fun a => propext (leads_iff_needs hn)
  rw [findCycle_eq_none_iff, hsame]

/-- A workflow is valid exactly if no kind of fault is found. -/
theorem valid_iff {w : Workflow} :
    w.validate.valid ↔ Text.isBlankText w.name = false ∧ w.tasks ≠ [] ∧
      duplicateFaults [] (w.tasks.map (·.name)) = [] ∧
      unknownFaults (w.tasks.map (·.name)) w.tasks = [] ∧ w.findCycle = none := by
  rw [ValidationReport.valid, List.isEmpty_iff, validate]
  dsimp only
  rw [faults]
  cases Text.isBlankText w.name <;> cases w.tasks <;> cases w.findCycle <;> simp

/-- The errors of a workflow, one kind after the other. -/
theorem errors_eq (w : Workflow) :
    w.validate.errors =
      (if Text.isBlankText w.name then [Fault.unnamed.message] else []) ++
      (if w.tasks = [] then [Fault.noTasks.message] else []) ++
      (repeats (w.tasks.map (·.name))).map (fun n => (Fault.duplicateTask n).message) ++
      (w.dependencies.filter fun x => x.2 ∉ w.tasks.map (·.name)).map
        (fun x => (Fault.unknownDependency x.1 x.2).message) ++
      w.findCycle.toList.map fun n => (Fault.cycle n).message := by
  have hname : (if Text.isBlankText w.name then [Fault.unnamed] else []).map Fault.message
      = if Text.isBlankText w.name then [Fault.unnamed.message] else [] := by split <;> rfl
  have htasks : (if w.tasks.isEmpty then [Fault.noTasks] else []).map Fault.message
      = if w.tasks = [] then [Fault.noTasks.message] else [] := by cases w.tasks <;> rfl
  have hcycle : (w.findCycle.map Fault.cycle).toList.map Fault.message
      = w.findCycle.toList.map fun n => (Fault.cycle n).message := by cases w.findCycle <;> rfl
  show w.faults.map Fault.message = _
  rw [faults, duplicateFaults_nil, unknownFaults_eq]
  simp only [List.map_append, List.map_map]
  rw [hname, htasks, hcycle]
  rfl

/-- **Validation accepts exactly the workflows that can be run**: those with a name
that is not blank, with at least one task, no two tasks of one name, no dependency
that is no task, and no task that depends on itself, be it through others.  And no
fault hides another: whatever else is wrong, the errors hold one for each task whose
name stands before it, and one for each dependency that is no task, in the order of
definition and of names. -/
theorem validate_exact (w : Workflow) :
    (w.validate.valid ↔ ¬ Text.isBlankText w.name ∧ w.tasks ≠ [] ∧
      (w.tasks.map (·.name)).Nodup ∧
      (∀ t ∈ w.tasks, ∀ d ∈ t.dependencies, d ∈ w.tasks.map (·.name)) ∧
      ∀ name, ¬ Relation.TransGen w.Needs name name) ∧
    w.validate.errors =
      (if Text.isBlankText w.name then [Fault.unnamed.message] else []) ++
      (if w.tasks = [] then [Fault.noTasks.message] else []) ++
      (repeats (w.tasks.map (·.name))).map (fun n => (Fault.duplicateTask n).message) ++
      (w.dependencies.filter fun x => x.2 ∉ w.tasks.map (·.name)).map
        (fun x => (Fault.unknownDependency x.1 x.2).message) ++
      w.findCycle.toList.map fun n => (Fault.cycle n).message := by
  refine ⟨valid_iff.trans ⟨?_, ?_⟩, w.errors_eq⟩
  · rintro ⟨hname, htasks, hdup, hunknown, hcycle⟩
    have hnodup := (nodup_of_duplicateFaults hdup).1
    refine ⟨ne_true_of_eq_false hname, htasks, hnodup, fun t ht d hd => ?_, ?_⟩
    · exact known_of_unknownFaults hunknown ht hd
    · exact (findCycle_eq_none_iff_needs hnodup).1 hcycle
  · rintro ⟨hname, htasks, hnodup, hknown, hacyclic⟩
    refine ⟨eq_false_of_ne_true hname, htasks, ?_, unknownFaults_eq_nil hknown, ?_⟩
    · exact duplicateFaults_eq_nil hnodup fun _ _ => List.not_mem_nil
    · exact (findCycle_eq_none_iff_needs hnodup).2 hacyclic

end Workflow
end Runbook
