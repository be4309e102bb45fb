/-
# Tasks made ready

What comes of making a task ready depends on the task, the workers, the settings
and the values that its references can name.  A task that is ready stands for the
task it was made from (`readied_of_prepareAll`); one that cannot be made ready
gives an error about itself in spite of which no job goes on
(`rejected_of_prepareAll`).
-/

import Mathlib.Data.List.Forall2
import Runbook.Proofs.Engine.World

namespace Runbook

/-- The task that an error is about. -/
def ExecutionError.task? : ExecutionError → Option String
  | .workerNotFound task _ | .taskInvalid task _ | .taskFailed task _ | .taskTimeout task _
  | .unresolvedReference task _ | .taskPanicked task _ => some task
  | .workflowNotFound _ | .jobNotFound _ | .unresolvedDependency _ | .invalidJobState _ _ => none

/-- The settings without that of the final report. -/
def EngineSettings.withoutReport (s : EngineSettings) : EngineSettings :=
  { s with generateReport := false }

/-- The task as its worker is given it. -/
def Task.assignment (t : Task) (jobId : String) (scope : Scope) : Assignment :=
  { jobId, name := t.name, worker := t.worker, action := t.action
    parameters := scope.values t, code := t.code, output := t.output, critical := t.critical }

/-- The assignment without the job that it belongs to. -/
def Assignment.anonymous (a : Assignment) : Assignment := { a with jobId := "" }

namespace Prepared

/-- What is ready, without the job that it belongs to. -/
def anonymous (p : Prepared) : Prepared := { p with assignment := p.assignment.anonymous }

/-- What a task ends with does not depend on the job that it belongs to. -/
theorem outcomeOf_anonymous (p : Prepared) (end? : Option AttemptEnd) :
    p.anonymous.outcomeOf end? = p.outcomeOf end? := by
  rcases end? with _ | v | cause | message <;> rfl

/-- A task that is ready stands for a task: it has its name, its worker, and goes
on after a failure if that does. -/
structure StandsFor (p : Prepared) (t : Task) : Prop where
  name : p.name = t.name
  worker : p.assignment.worker = t.worker
  continues : p.continues = t.continuesOnFailure

/-- What a task ended with is about that task. -/
theorem task?_of_outcomeOf {p : Prepared} {end? : Option AttemptEnd} {e : ExecutionError}
    (h : (p.outcomeOf end?).result = .error e) : e.task? = some p.name := by
  rcases end? with _ | v | cause | message <;> cases h <;> rfl

theorem task_outcomeOf (p : Prepared) (end? : Option AttemptEnd) :
    (p.outcomeOf end?).task = p.name := by
  rcases end? with _ | v | cause | message <;> rfl

end Prepared

namespace Orchestrator

/-- The task made ready for its worker. -/
def readied (o : Orchestrator) (t : Task) (worker : Worker) (assignment : Assignment) : Prepared :=
  { assignment, worker
    limitMs := if o.settings.enforceTimeouts then some t.timeoutMs else none
    retries := t.retries
    continues := t.continuesOnFailure }

/-- The steps of making a task ready, one after the other. -/
theorem prepare_eq (o : Orchestrator) (jobId : String) (scope : Scope) (t : Task) :
    o.prepare jobId scope t =
      match if o.settings.strictReferences then (scope.unresolved t).head? else none with
      | some reference => .error (.unresolvedReference t.name reference)
      | none =>
        match o.registry.worker? t.worker with
        | none => .error (.workerNotFound t.name t.worker)
        | some worker =>
          if (worker.check (t.assignment jobId scope)).valid then
            .ok (o.readied t worker (t.assignment jobId scope))
          else .error (.taskInvalid t.name (worker.check (t.assignment jobId scope)).errors) := by
  have hrest : ∀ (validation : TaskValidation) (p : Prepared),
      (if (!validation.valid) = true then
        Except.error (ExecutionError.taskInvalid t.name validation.errors) else .ok p) =
      if validation.valid then .ok p else .error (.taskInvalid t.name validation.errors) :=
    fun validation p => by cases validation.valid <;> rfl
  unfold prepare
  cases o.settings.strictReferences <;> cases (scope.unresolved t).head? <;>
    cases o.registry.worker? t.worker <;> first | rfl | exact hrest _ _

/-- A task that was made ready stands for the task. -/
theorem standsFor_of_prepare {o : Orchestrator} {jobId : String} {scope : Scope} {t : Task}
    {p : Prepared} (h : o.prepare jobId scope t = .ok p) : p.StandsFor t := by
  rw [prepare_eq] at h
  split at h
  · cases h
  · split at h
    · cases h
    · split at h
      · cases h
        exact ⟨rfl, rfl, rfl⟩
      · cases h

/-- A task that cannot be made ready gives an error about itself, and no job goes
on in spite of it. -/
theorem error_of_prepare {o : Orchestrator} {jobId : String} {scope : Scope} {t : Task}
    {e : ExecutionError} (h : o.prepare jobId scope t = .error e) :
    e.task? = some t.name ∧ e.isContinuable = false := by
  rw [prepare_eq] at h
  split at h
  · cases h
    exact ⟨rfl, rfl⟩
  · split at h
    · cases h
      exact ⟨rfl, rfl⟩
    · split at h
      · cases h
      · cases h
        exact ⟨rfl, rfl⟩

/-- All tasks are made ready, one for one. -/
theorem readied_of_prepareAll {o : Orchestrator} {jobId : String} {scope : Scope} {ts : List Task}
    {ps : List Prepared} (h : o.prepareAll jobId scope ts = .ok ps) :
    List.Forall₂ (fun p t => o.prepare jobId scope t = .ok p) ps ts := by
  induction ts generalizing ps with
  | nil =>
    rw [prepareAll] at h
    cases h
    exact .nil
  | cons t ts ih =>
    rw [prepareAll] at h
    split at h
    · cases h
    · rename_i p hp
      cases hps : o.prepareAll jobId scope ts with
      | error e => rw [hps] at h; cases h
      | ok qs =>
        rw [hps] at h
        cases h
        exact .cons hp (ih hps)

/-- What is made ready has the names of the tasks. -/
theorem map_name_of_prepareAll {o : Orchestrator} {jobId : String} {scope : Scope}
    {ts : List Task} {ps : List Prepared} (h : o.prepareAll jobId scope ts = .ok ps) :
    ps.map (·.name) = ts.map (·.name) := by
  have hall := readied_of_prepareAll h
  clear h
  induction hall with
  | nil => rfl
  | cons hp hps ih =>
    rw [List.map_cons, List.map_cons, ih, (standsFor_of_prepare hp).name]

/-- What is made ready is one of the tasks made ready. -/
theorem exists_of_mem_prepareAll {o : Orchestrator} {jobId : String} {scope : Scope}
    {ts : List Task} {ps : List Prepared} (h : o.prepareAll jobId scope ts = .ok ps)
    {p : Prepared} (hp : p ∈ ps) : ∃ t ∈ ts, o.prepare jobId scope t = .ok p := by
  have hall := readied_of_prepareAll h
  clear h
  induction hall with
  | nil => exact absurd hp List.not_mem_nil
  | @cons q t qs ts hq hqs ih =>
    rcases List.mem_cons.1 hp with rfl | hp
    · exact ⟨t, List.mem_cons_self, hq⟩
    · obtain ⟨u, hu, hready⟩ := ih hp
      exact ⟨u, List.mem_cons_of_mem t hu, hready⟩

/-- Making a task ready asks for the workers and the settings alone, and of the settings
not for that of the final report. -/
theorem prepare_congr {o env : Orchestrator} (hr : o.registry = env.registry)
    (hs : o.settings.withoutReport = env.settings.withoutReport) (id : String) (scope : Scope)
    (t : Task) : o.prepare id scope t = env.prepare id scope t := by
  have hstrict : o.settings.strictReferences = env.settings.strictReferences :=
    (congrArg EngineSettings.strictReferences hs :)
  have hlimits : o.settings.enforceTimeouts = env.settings.enforceTimeouts :=
    (congrArg EngineSettings.enforceTimeouts hs :)
  rw [prepare, prepare, hr, hstrict, hlimits]

/-- So does making all tasks ready. -/
theorem prepareAll_congr {o env : Orchestrator} (hr : o.registry = env.registry)
    (hs : o.settings.withoutReport = env.settings.withoutReport) (id : String) (scope : Scope)
    (ts : List Task) : o.prepareAll id scope ts = env.prepareAll id scope ts := by
  induction ts with
  | nil => rfl
  | cons t ts ih =>
    rw [prepareAll, prepareAll, prepare_congr hr hs, ih]

/-- So does making the final report ready. -/
theorem prepareReport_congr {o env : Orchestrator}
    (hs : o.settings.withoutReport = env.settings.withoutReport) (worker : Worker) (j : Job) :
    o.prepareReport worker j = env.prepareReport worker j := by
  have hlimits : o.settings.enforceTimeouts = env.settings.enforceTimeouts :=
    (congrArg EngineSettings.enforceTimeouts hs :)
  rw [prepareReport, prepareReport, hlimits]

/-- The task that cannot be made ready is one of the tasks. -/
theorem rejected_of_prepareAll {o : Orchestrator} {jobId : String} {scope : Scope}
    {ts : List Task} {t : Task} {e : ExecutionError}
    (h : o.prepareAll jobId scope ts = .error (t, e)) :
    t ∈ ts ∧ o.prepare jobId scope t = .error e := by
  induction ts with
  | nil => rw [prepareAll] at h; cases h
  | cons u us ih =>
    rw [prepareAll] at h
    split at h
    · rename_i e' he
      cases h
      exact ⟨List.mem_cons_self, he⟩
    · cases hus : o.prepareAll jobId scope us with
      | error _ =>
        rw [hus] at h
        cases h
        obtain ⟨hmem, herr⟩ := ih hus
        exact ⟨List.mem_cons_of_mem u hmem, herr⟩
      | ok _ => rw [hus] at h; cases h

/-- If the workers judge assignments without regard to the job, so does making a
task ready, but for the name of the job in the assignment. -/
theorem prepare_anonymous {o o' : Orchestrator} (hr : o.registry = o'.registry)
    (hs : o.settings = o'.settings)
    (hcheck : ∀ kind worker, o.registry.worker? kind = some worker →
      ∀ a : Assignment, worker.check a.anonymous = worker.check a)
    (jobId : String) (scope : Scope) (t : Task) :
    (o.prepare jobId scope t).map Prepared.anonymous = o'.prepare "" scope t := by
  have hready : ∀ worker, (o.readied t worker (t.assignment jobId scope)).anonymous
      = o'.readied t worker (t.assignment "" scope) := by
    intro worker
    unfold readied
    rw [hs]
    rfl
  rw [prepare_eq, prepare_eq, ← hr, ← hs]
  split
  · rfl
  · split
    · rfl
    · rename_i worker hw
      have hsame : worker.check (t.assignment "" scope) = worker.check (t.assignment jobId scope) :=
        hcheck t.worker worker hw (t.assignment jobId scope)
      rw [hsame]
      split
      · exact congrArg Except.ok (hready worker)
      · rfl

end Orchestrator

end Runbook
