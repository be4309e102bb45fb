/-
# What one operation does to the jobs

Every operation of a run, and every stop, concerns one job.  It gives that job
another state, tells events of it, and leaves alone all other jobs, the
registered workflows and the settings (`Orchestrator.Changes`).  So whatever is
shown of one job holds however the operations on others come in between.
-/

import Runbook.Engine.Run

namespace Runbook

namespace Job

/-- The job ended in a state at an instant. -/
def endedAs (j : Job) (status : JobStatus) (now : Instant) : Job :=
  { j with status, endTime := some now, durationMs := some (now.since j.startTime) }

theorem finish?_of_running {j : Job} (h : j.isTerminal = false) (status : JobStatus)
    (now : Instant) : j.finish? status now = some (j.endedAs status now) := by
  rw [finish?, h, if_neg Bool.false_ne_true, endedAs]

theorem finish?_of_terminal {j : Job} (h : j.isTerminal) (status : JobStatus) (now : Instant) :
    j.finish? status now = none := by
  rw [finish?, if_pos h]

/-- A job that has not ended is running. -/
theorem isTerminal_eq_false {j : Job} : j.isTerminal = false ↔ j.status = .running := by
  rw [isTerminal]
  cases j.status <;> simp [JobStatus.isTerminal]

theorem not_completed {j : Job} (running : j.isTerminal = false) : j.status ≠ .completed := by
  rw [isTerminal_eq_false.1 running]
  decide

end Job

namespace Orchestrator

theorem id_of_job? {o : Orchestrator} {id : String} {j : Job} (h : o.job? id = some j) :
    j.id = id := by
  have hbeq := List.find?_some h
  exact eq_of_beq hbeq

/-- The events that have been told of a job. -/
def told (o : Orchestrator) (id : String) : List JobEvent :=
  o.events.filter fun e => e.jobId == id

@[simp] theorem job?_emit (o : Orchestrator) (e : JobEvent) (id : String) :
    (o.emit e).job? id = o.job? id := by
  rw [emit]
  split <;> rfl

theorem job?_setJob_self {o : Orchestrator} {id : String} {j k : Job} (hk : o.job? id = some k)
    (hj : j.id = id) : (o.setJob id j).job? id = some j := by
  rw [job?] at hk
  rw [job?, setJob]
  dsimp only
  revert hk
  induction o.jobs with
  | nil => exact fun hk => by cases hk
  | cons x xs ih =>
    intro hk
    rw [List.find?_cons] at hk
    rw [List.map_cons, List.find?_cons]
    cases hx : x.id == id with
    | true => rw [if_pos rfl, beq_iff_eq.2 hj]
    | false =>
      rw [hx] at hk
      rw [if_neg Bool.false_ne_true, hx]
      exact ih hk

theorem job?_setJob_of_ne {o : Orchestrator} {id id' : String} {j : Job} (hj : j.id = id)
    (h : id' ≠ id) : (o.setJob id j).job? id' = o.job? id' := by
  rw [job?, job?, setJob]
  dsimp only
  have hne : (j.id == id') = false := beq_eq_false_iff_ne.2 fun he => h (he.symm.trans hj)
  induction o.jobs with
  | nil => rfl
  | cons x xs ih =>
    rw [List.map_cons, List.find?_cons, List.find?_cons, ih]
    cases hx : x.id == id with
    | true =>
      have hx' : (x.id == id') = false :=
        beq_eq_false_iff_ne.2 fun he => h (he.symm.trans (eq_of_beq hx))
      rw [if_pos rfl, hne, hx']
    | false => rw [if_neg Bool.false_ne_true]

/-- **One job changes.**  From `o` to `o'` the job of an identifier comes to be
`j` and the events `es` are told of it; nothing else changes but how much the
workers have done. -/
structure Changes (o o' : Orchestrator) (id : String) (j : Job) (es : List JobEvent) : Prop where
  registry : o'.registry = o.registry
  settings : o'.settings = o.settings
  workflows : o'.workflows = o.workflows
  listening : o'.listening = o.listening
  job : o'.job? id = some j
  others : ∀ id', id' ≠ id → o'.job? id' = o.job? id'
  events : o'.events = o.events ++ if o.listening then es else []
  ours : ∀ e ∈ es, e.jobId = id

namespace Changes

variable {o o' : Orchestrator} {id : String} {j : Job} {es : List JobEvent}

/-- Nothing changes. -/
theorem refl (h : o.job? id = some j) : o.Changes o id j [] where
  registry := rfl
  settings := rfl
  workflows := rfl
  listening := rfl
  job := h
  others := fun _ _ => rfl
  events := by split <;> exact (List.append_nil _).symm
  ours := fun _ he => absurd he List.not_mem_nil

/-- The job is replaced. -/
theorem setJob (h : o.Changes o' id j es) {k : Job} (hk : k.id = id) :
    o.Changes (o'.setJob id k) id k es where
  registry := h.registry
  settings := h.settings
  workflows := h.workflows
  listening := h.listening
  job := job?_setJob_self h.job hk
  others := fun id' hid => (job?_setJob_of_ne hk hid).trans (h.others id' hid)
  events := h.events
  ours := h.ours

/-- An event is told. -/
theorem emit (h : o.Changes o' id j es) {e : JobEvent} (he : e.jobId = id) :
    o.Changes (o'.emit e) id j (es ++ [e]) := by
  have hl := h.listening
  have hev := h.events
  refine ⟨?_, ?_, ?_, ?_, ?_, fun id' hid => ?_, ?_, fun x hx => ?_⟩
  · rw [Orchestrator.emit]; split <;> exact h.registry
  · rw [Orchestrator.emit]; split <;> exact h.settings
  · rw [Orchestrator.emit]; split <;> exact h.workflows
  · rw [Orchestrator.emit]; split <;> exact h.listening
  · rw [job?_emit]; exact h.job
  · rw [job?_emit]; exact h.others id' hid
  · rw [Orchestrator.emit]
    cases ho : o.listening with
    | true =>
      rw [ho] at hl hev
      rw [if_pos hl, if_pos rfl]
      dsimp only
      rw [hev, if_pos rfl, List.append_assoc]
    | false =>
      rw [ho] at hl hev
      rw [hl, if_neg Bool.false_ne_true, hev]
      rfl
  · rcases List.mem_append.1 hx with hx | hx
    · exact h.ours x hx
    · rw [List.mem_singleton.1 hx]
      exact he

/-- A worker's activity is counted. -/
theorem countActivity (h : o.Changes o' id j es) (kind : WorkerKind) (now : Instant) :
    o.Changes (o'.countActivity kind now) id j es :=
  ⟨h.registry, h.settings, h.workflows, h.listening, h.job, h.others, h.events, h.ours⟩

/-- What is told of the job grows by the events. -/
theorem told_self (h : o.Changes o' id j es) (hl : o.listening) :
    o'.told id = o.told id ++ es := by
  rw [told, told, h.events, if_pos hl, List.filter_append]
  congr 1
  exact List.filter_eq_self.2 fun e he => beq_iff_eq.2 (h.ours e he)

/-- What is told of other jobs stays the same. -/
theorem told_of_ne (h : o.Changes o' id j es) {id' : String} (hid : id' ≠ id) :
    o'.told id' = o.told id' := by
  have hnil : es.filter (fun e => e.jobId == id') = [] :=
    List.filter_eq_nil_iff.2 fun e he hb => hid ((eq_of_beq hb).symm.trans (h.ours e he))
  rw [told, told, h.events, List.filter_append]
  split
  · rw [hnil, List.append_nil]
  · rw [List.filter_nil, List.append_nil]

end Changes

/-- A running job is stopped. -/
theorem stop_of_running {o : Orchestrator} {id : String} {j : Job} (hj : o.job? id = some j)
    (running : j.isTerminal = false) (now : Instant) :
    o.stop id now = (.ok (j.endedAs .stopped now),
      (o.setJob id (j.endedAs .stopped now)).emit (.jobStopped id)) := by
  rw [stop, hj]
  dsimp only
  rw [Job.finish?_of_running running]

/-- An unknown job is not stopped. -/
theorem stop_of_unknown {o : Orchestrator} {id : String} (hj : o.job? id = none)
    (now : Instant) : o.stop id now = (.error (.jobNotFound id), o) := by
  rw [stop, hj]

/-- A job that has ended is not stopped. -/
theorem stop_of_terminal {o : Orchestrator} {id : String} {j : Job} (hj : o.job? id = some j)
    (terminal : j.isTerminal) (now : Instant) :
    o.stop id now = (.error (.invalidJobState id j.status), o) := by
  rw [stop, hj]
  dsimp only
  rw [Job.finish?_of_terminal terminal]

/-- The state of an orchestrator that stops a job. -/
theorem changes_of_stop {o o' : Orchestrator} {id : String} {now : Instant} {j' : Job}
    (h : o.stop id now = (.ok j', o')) :
    ∃ j, o.job? id = some j ∧ j.isTerminal = false ∧ j' = j.endedAs .stopped now ∧
      o.Changes o' id j' [.jobStopped id] := by
  cases hj : o.job? id with
  | none => rw [stop, hj] at h; cases h
  | some j =>
    cases ht : j.isTerminal with
    | true => rw [stop_of_terminal hj ht] at h; cases h
    | false =>
      rw [stop_of_running hj ht] at h
      cases h
      have hid : (j.endedAs .stopped now).id = id := id_of_job? (j := j) hj
      exact ⟨j, rfl, ht, rfl, ((Changes.refl hj).setJob hid).emit rfl⟩

/-- The state of an orchestrator that starts a job under a new identifier. -/
theorem changes_of_start {o o' : Orchestrator} {workflowId id : String} {parameters : Dict Json}
    {now : Instant} {r : Run} (hn : o.job? id = none)
    (h : o.start workflowId id parameters now = (.ok r, o')) :
    ∃ w, o.workflows.get? workflowId = some w ∧ r = ⟨id, .round w.tasks⟩ ∧
      o.Changes o' id (.new id w parameters now) [.jobStarted id w.id] := by
  rw [start] at h
  cases hw : o.workflows.get? workflowId with
  | none => rw [hw] at h; cases h
  | some w =>
    rw [hw] at h
    cases h
    have hjob : ∀ id', ({ o with jobs := o.jobs ++ [.new id w parameters now] } :
        Orchestrator).job? id' = (o.job? id').or (if id = id' then
          some (.new id w parameters now) else none) := fun id' => by
      rw [job?, job?, List.find?_append, List.find?_singleton]
      by_cases he : id = id'
      · have hb : ((Job.new id w parameters now).id == id') = true := beq_iff_eq.2 he
        rw [if_pos he, if_pos hb]
      · have hb : ¬((Job.new id w parameters now).id == id') = true := fun hb => he (eq_of_beq hb)
        rw [if_neg he, if_neg hb]
    have hadded : o.Changes { o with jobs := o.jobs ++ [.new id w parameters now] } id
        (.new id w parameters now) [] := by
      refine ⟨rfl, rfl, rfl, rfl, ?_, fun id' hid => ?_, ?_, fun _ he => ?_⟩
      · rw [hjob, hn, if_pos rfl, Option.none_or]
      · rw [hjob, if_neg hid.symm, Option.or_none]
      · split <;> exact (List.append_nil _).symm
      · exact absurd he List.not_mem_nil
    exact ⟨w, rfl, rfl, hadded.emit rfl⟩

/-- No job is started on an unknown workflow. -/
theorem start_of_unknown {o : Orchestrator} {workflowId : String}
    (hw : o.workflows.get? workflowId = none) (id : String) (parameters : Dict Json)
    (now : Instant) :
    o.start workflowId id parameters now = (.error (.workflowNotFound workflowId), o) := by
  rw [start, hw]

/-- A valid workflow is registered. -/
theorem register_of_valid {o : Orchestrator} {w : Workflow} (h : w.validate.valid) :
    o.register w = (.ok (), { o with workflows := o.workflows.insert w.id w }) := by
  rw [register, ValidationReport.toExcept, if_pos h]

/-- A workflow that is not valid is refused. -/
theorem register_of_not_valid {o : Orchestrator} {w : Workflow} (h : ¬ w.validate.valid) :
    o.register w = (.error (.invalid w.validate.errors), o) := by
  rw [register, ValidationReport.toExcept, if_neg h]

end Orchestrator
end Runbook
