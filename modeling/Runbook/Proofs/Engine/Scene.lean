/-
# One job and its run

What a run and the stops of its job can do, step by step, with everything that a
step changes (`Turn`), and the scenes that this leads to (`Scene.Reached`).  Most
turns begin, start, take up and record nothing (`Pass`); what they all leave as it
is stands in `Scene.Frame`.
-/

import Mathlib.Data.List.Basic
import Runbook.Execution
import Runbook.Proofs.Engine.Prepare

namespace Runbook

/-- A run that is over has ended with an error or with a job, or its report has
panicked. -/
theorem Run.stage_of_isOver {r : Run} (h : r.isOver) :
    (∃ e, r.stage = .ended (.error e)) ∨ (∃ j, r.stage = .ended (.ok j)) ∨
      ∃ message, r.stage = .panicked message := by
  rw [isOver.eq_def] at h
  split at h
  · rename_i result hst
    cases result with
    | error e => exact .inl ⟨e, hst⟩
    | ok j => exact .inr (.inl ⟨j, hst⟩)
  · rename_i message hst
    exact .inr (.inr ⟨message, hst⟩)
  · cases h

/-- A run that is over does not go on by itself. -/
theorem Run.isAwaiting_of_isOver {run : Run} (h : run.isOver) : run.isAwaiting := by
  rw [isAwaiting.eq_def]
  obtain ⟨e, hst⟩ | ⟨j, hst⟩ | ⟨message, hst⟩ := stage_of_isOver h <;> rw [hst]

/-- A run that is over has nothing left to do. -/
theorem Run.weight_of_isOver {r : Run} (h : r.isOver) : r.weight = 0 := by
  rw [weight]
  obtain ⟨e, hst⟩ | ⟨j, hst⟩ | ⟨message, hst⟩ := stage_of_isOver h <;> rw [hst]

theorem Run.weight_le_of_isOver {r : Run} (h : r.isOver) (n : Nat) : r.weight ≤ n := by
  rw [weight_of_isOver h]
  exact Nat.zero_le n

namespace Stage

/-- The tasks of later rounds, as long as the rounds are under way. -/
def pending? : Stage → Option (List Task)
  | .round pending | .starting _ _ pending | .waiting _ pending | .recording _ _ pending =>
    some pending
  | .completing => some []
  | _ => none

/-- What is ready and not yet started. -/
def ready : Stage → List Prepared
  | .starting ready _ _ => ready
  | _ => []

/-- The outcome that has come in and is not yet recorded. -/
def returned : Stage → List Outcome
  | .recording outcome _ _ => [outcome]
  | _ => []

/-- How many tasks the run takes to be in flight. -/
def count : Stage → Nat
  | .starting _ n _ | .waiting n _ | .recording _ n _ => n
  | _ => 0

/-- The error that the run has met. -/
def error? : Stage → Option ExecutionError
  | .rejecting _ e | .failing e | .ended (.error e) => some e
  | .recording outcome _ _ =>
    match outcome.result with
    | .error e => some e
    | .ok _ => none
  | _ => none

/-- The error with which the run fails. -/
def fate? : Stage → Option ExecutionError
  | .failing e | .ended (.error e) => some e
  | _ => none

/-- The task that could not be made ready, until it is recorded. -/
def rejected? : Stage → Option Task
  | .rejecting t _ => some t
  | _ => none

/-- Whether the stage lies between two rounds or after the last one. -/
def isBetween : Stage → Bool
  | .round _ | .completing => true
  | _ => false

/-- Between two rounds nothing is ready, recorded or in flight. -/
theorem of_isBetween {stage : Stage} (h : stage.isBetween) :
    stage.ready = [] ∧ stage.returned = [] ∧ stage.count = 0 := by
  unfold isBetween at h
  split at h
  · exact ⟨rfl, rfl, rfl⟩
  · exact ⟨rfl, rfl, rfl⟩
  · cases h

theorem error?_recording {oc : Outcome} {n : Nat} {pending : List Task} {e : ExecutionError} :
    (recording oc n pending).error? = some e ↔ oc.result = .error e := by
  rw [error?.eq_def]
  dsimp only
  cases oc.result with
  | ok v => exact ⟨nofun, nofun⟩
  | error e' => rw [Option.some.injEq, Except.error.injEq]

end Stage

namespace Course

/-- The course at another stage of its run. -/
def enter (c : Course) (stage : Stage) : Course := { c with run := c.run.enter stage }

/-- The course with one round more. -/
def beginRound (c : Course) : Course := { c with rounds := c.rounds + 1 }

/-- The course with something more in flight. -/
def launch (c : Course) (p : Prepared) : Course := { c with inFlight := c.inFlight ++ [p] }

/-- The course with a task more in flight that was started in this round. -/
def startTask (c : Course) (p : Prepared) : Course :=
  { c.launch p with started := c.started ++ [(c.rounds, p)] }

/-- The course with something less in flight. -/
def land (c : Course) (p : Prepared) : Course :=
  { c with inFlight := c.inFlight.eraseP fun q => q.name == p.name }

/-- The course with an end taken up. -/
def takeUp (c : Course) (p : Prepared) (e : Option AttemptEnd) : Course :=
  { c.land p with taken := c.taken ++ [(p, e)] }

/-- What lands is no longer among the names of what is in flight. -/
theorem map_name_land (c : Course) (p : Prepared) :
    (c.land p).inFlight.map (·.name) = (c.inFlight.map (·.name)).erase p.name := by
  rw [List.erase_eq_eraseP', List.eraseP_map]
  rfl

theorem length_land {c : Course} {p : Prepared} (h : p ∈ c.inFlight) :
    (c.land p).inFlight.length + 1 = c.inFlight.length := by
  have hpos := List.length_pos_of_mem h
  have hlen : (c.land p).inFlight.length = c.inFlight.length - 1 :=
    List.length_eraseP_of_mem h (beq_self_eq_true p.name)
  omega

end Course

/-- A job, the course of its run, and all that a listener is told of it. -/
structure Scene where
  job : Job
  course : Course
  told : List JobEvent

namespace Scene

/-- Where the run is. -/
def stage (s : Scene) : Stage := s.course.run.stage

/-- The identifier of the job. -/
def id (s : Scene) : String := s.course.run.jobId

/-- The scene at another stage of the run. -/
def enter (s : Scene) (stage : Stage) : Scene := { s with course := s.course.enter stage }

/-- The workflow that the job was started on. -/
def workflow (s : Scene) : Workflow := s.course.workflow

/-- How many rounds have begun. -/
def rounds (s : Scene) : Nat := s.course.rounds

/-- The tasks that have been started, each with its round. -/
def started (s : Scene) : List (Nat × String) := s.course.started.map fun x => (x.1, x.2.name)

/-- The tasks of this round that are not recorded yet. -/
def outstanding (s : Scene) : List String :=
  s.stage.returned.map (·.task) ++ s.course.inFlight.map (·.name) ++ s.stage.ready.map (·.name)

/-- The values that references can name. -/
def scope (s : Scene) : Scope := ⟨s.job.parameters, s.job.results⟩

/-- The tasks that are ready, and the others. -/
def split (s : Scene) (pending : List Task) : List Task × List Task :=
  pending.partition fun t => t.isReady s.job.completedTasks

/-- A job that has just been started. -/
def start (w : Workflow) (id : String) (parameters : Dict Json) (now : Instant) : Scene where
  job := .new id w parameters now
  course := { workflow := w, run := ⟨id, .round w.tasks⟩ }
  told := [.jobStarted id w.id]

/-- The scene with its job stopped. -/
def stop (s : Scene) (now : Instant) : Scene :=
  { s with job := s.job.endedAs .stopped now, told := s.told ++ [.jobStopped s.id] }

end Scene

/-- What a run does next without beginning a round and without starting, taking up
or recording a task.  `env` has the workers and the settings. -/
inductive Pass (env : Orchestrator) : Scene → Scene → Prop where
  /-- No task is left to start. -/
  | finish {s : Scene} (stage : s.stage = .round []) : Pass env s (s.enter .completing)
  /-- The job was stopped before the round. -/
  | leave {s : Scene} {pending : List Task} (stage : s.stage = .round pending)
      (left : pending ≠ []) (terminal : s.job.isTerminal) : Pass env s (s.enter .leaving)
  /-- All tasks of the round are started. -/
  | await {s : Scene} {n : Nat} {pending : List Task}
      (stage : s.stage = .starting [] n pending) : Pass env s (s.enter (.waiting n pending))
  /-- All tasks of the round have ended. -/
  | close {s : Scene} {pending : List Task} (stage : s.stage = .waiting 0 pending) :
      Pass env s (s.enter (.round pending))
  /-- An outcome comes in after the end of the job. -/
  | discard {s : Scene} {p : Prepared} {n : Nat} {pending : List Task}
      (stage : s.stage = .waiting (n + 1) pending) (flight : p ∈ s.course.inFlight)
      (terminal : s.job.isTerminal) :
      Pass env s { s with course := (s.course.land p).enter .leaving }
  /-- The job fails. -/
  | fall {s : Scene} {e : ExecutionError} {now : Instant} (stage : s.stage = .failing e)
      (running : s.job.isTerminal = false) :
      Pass env s
        { job := { s.job.endedAs .failed now with error := some e.message }
          course := s.course.enter (.ended (.error e))
          told := s.told ++ [.jobFailed s.id e.message] }
  /-- The run fails, but the job has ended in between. -/
  | fallLate {s : Scene} {e : ExecutionError} (stage : s.stage = .failing e)
      (terminal : s.job.isTerminal) : Pass env s (s.enter (.ended (.error e)))
  /-- All is done, but the job has ended in between. -/
  | succeedLate {s : Scene} (stage : s.stage = .completing) (terminal : s.job.isTerminal) :
      Pass env s (s.enter .leaving)
  /-- Nobody can write the final report. -/
  | reportMissing {s : Scene} {message : String} (stage : s.stage = .reporting)
      (missing : env.registry.worker? .report = none) :
      Pass env s
        { s with
          course := s.course.enter .leaving
          told := s.told ++ [.reportFailed s.id message] }
  /-- The final report is begun. -/
  | reportBegin {s : Scene} {worker : Worker} (stage : s.stage = .reporting)
      (found : env.registry.worker? .report = some worker) :
      Pass env s
        { s with
          course := (s.course.launch (env.prepareReport worker s.job)).enter .awaitingReport }
  /-- The worker of the report panicked. -/
  | reportPanic {s : Scene} {p : Prepared} {message : String} (stage : s.stage = .awaitingReport)
      (flight : p ∈ s.course.inFlight) :
      Pass env s { s with course := (s.course.land p).enter (.panicked message) }
  /-- The final report failed. -/
  | reportFail {s : Scene} {p : Prepared} {message : String} (stage : s.stage = .awaitingReport)
      (flight : p ∈ s.course.inFlight) :
      Pass env s
        { s with
          course := (s.course.land p).enter .leaving
          told := s.told ++ [.reportFailed s.id message] }
  /-- The final report is recorded. -/
  | reportDone {s : Scene} {p : Prepared} {v : Json} (stage : s.stage = .awaitingReport)
      (flight : p ∈ s.course.inFlight) :
      Pass env s
        { job := { s.job with finalReport := some v }
          course := (s.course.land p).enter .leaving
          told := s.told ++ [.reportGenerated s.id v] }
  /-- The run hands over the job as it is. -/
  | depart {s : Scene} (stage : s.stage = .leaving) : Pass env s (s.enter (.ended (.ok s.job)))

/-- What a run does next, from each of its stages.  A job that has been stopped
shows only where the run looks at it. -/
inductive Turn (env : Orchestrator) : Scene → Scene → Prop where
  /-- Nothing is begun, started, taken up or recorded. -/
  | pass {s s' : Scene} (pass : Pass env s s') : Turn env s s'
  /-- Tasks are left, but none is ready. -/
  | starve {s : Scene} {pending : List Task} (stage : s.stage = .round pending)
      (left : pending ≠ []) (running : s.job.isTerminal = false)
      (none_ready : (s.split pending).1 = []) :
      Turn env s
        (s.enter (.failing (.unresolvedDependency ((s.split pending).2.map (·.name)))))
  /-- One of the ready tasks cannot be prepared. -/
  | reject {s : Scene} {pending : List Task} {t : Task} {e : ExecutionError}
      (stage : s.stage = .round pending) (running : s.job.isTerminal = false)
      (ready : (s.split pending).1 ≠ [])
      (prepared : env.prepareAll s.id s.scope (s.split pending).1 = .error (t, e)) :
      Turn env s { s with course := s.course.beginRound.enter (.rejecting t e) }
  /-- All ready tasks are prepared. -/
  | begin {s : Scene} {pending : List Task} {ps : List Prepared}
      (stage : s.stage = .round pending) (running : s.job.isTerminal = false)
      (ready : (s.split pending).1 ≠ [])
      (prepared : env.prepareAll s.id s.scope (s.split pending).1 = .ok ps) :
      Turn env s
        { s with course := s.course.beginRound.enter (.starting ps 0 (s.split pending).2) }
  /-- A prepared task is started. -/
  | launch {s : Scene} {p : Prepared} {ready : List Prepared} {n : Nat} {pending : List Task}
      (stage : s.stage = .starting (p :: ready) n pending) :
      Turn env s
        { job := s.job.startTask p.name
          course := (s.course.startTask p).enter (.starting ready (n + 1) pending)
          told := s.told ++ [.taskStarted s.id p.name p.assignment.worker] }
  /-- An outcome comes in. -/
  | takeUp {s : Scene} {p : Prepared} {e : Option AttemptEnd} {n : Nat} {pending : List Task}
      (stage : s.stage = .waiting (n + 1) pending) (flight : p ∈ s.course.inFlight)
      (running : s.job.isTerminal = false) :
      Turn env s
        { s with
          job := s.job.endTask p.name
          course := (s.course.takeUp p e).enter (.recording (p.outcomeOf e) n pending) }
  /-- A result is recorded, even if the job has ended in between. -/
  | complete {s : Scene} {oc : Outcome} {v : Json} {n : Nat} {pending : List Task}
      (stage : s.stage = .recording oc n pending) (result : oc.result = .ok v) :
      Turn env s
        { job := s.job.completeTask oc.task v
          course := s.course.enter (.waiting n pending)
          told := s.told ++ [.taskCompleted s.id oc.task oc.worker v] }
  /-- A failure is recorded in spite of which the job goes on. -/
  | overcome {s : Scene} {oc : Outcome} {e : ExecutionError} {n : Nat} {pending : List Task}
      {now : Instant} (stage : s.stage = .recording oc n pending) (result : oc.result = .error e)
      (continued : (oc.continues && e.isContinuable) = true) (running : s.job.isTerminal = false) :
      Turn env s
        { job := s.job.failTask oc.task ⟨oc.worker, e.message, now⟩ true
          course := s.course.enter (.waiting n pending)
          told := s.told ++ [.taskFailed s.id oc.task oc.worker e.message true] }
  /-- A failure is recorded that ends the job. -/
  | fail {s : Scene} {oc : Outcome} {e : ExecutionError} {n : Nat} {pending : List Task}
      {now : Instant} (stage : s.stage = .recording oc n pending) (result : oc.result = .error e)
      (continued : (oc.continues && e.isContinuable) = false)
      (running : s.job.isTerminal = false) :
      Turn env s
        { job := s.job.failTask oc.task ⟨oc.worker, e.message, now⟩ false
          course := s.course.enter (.failing e)
          told := s.told ++ [.taskFailed s.id oc.task oc.worker e.message false] }
  /-- A failure is not recorded, because the job has ended in between. -/
  | overlook {s : Scene} {oc : Outcome} {e : ExecutionError} {n : Nat} {pending : List Task}
      (stage : s.stage = .recording oc n pending) (result : oc.result = .error e)
      (terminal : s.job.isTerminal) :
      Turn env s
        (s.enter (if oc.continues && e.isContinuable then .waiting n pending else .failing e))
  /-- The task that cannot be prepared is recorded as failed. -/
  | refuse {s : Scene} {t : Task} {e : ExecutionError} {now : Instant}
      (stage : s.stage = .rejecting t e) (running : s.job.isTerminal = false) :
      Turn env s
        { job := s.job.failTask t.name ⟨t.worker, e.message, now⟩ false
          course := s.course.enter (.failing e)
          told := s.told ++ [.taskFailed s.id t.name t.worker e.message false] }
  /-- The task is not recorded, because the job has ended in between. -/
  | refuseLate {s : Scene} {t : Task} {e : ExecutionError} (stage : s.stage = .rejecting t e)
      (terminal : s.job.isTerminal) : Turn env s (s.enter (.failing e))
  /-- The job is completed. -/
  | succeed {s : Scene} {now : Instant} (stage : s.stage = .completing)
      (running : s.job.isTerminal = false) :
      Turn env s
        { job := s.job.endedAs .completed now
          course := s.course.enter (if env.settings.generateReport then .reporting else .leaving)
          told := s.told ++ [.jobCompleted s.id (now.since s.job.startTime)] }

/-- The scenes that turns and stops lead to, if the job is stopped only where its
run may be. -/
inductive Scene.Reached (env : Orchestrator) (may : Run → Prop) : Scene → Prop where
  | start {w : Workflow} {id : String} {parameters : Dict Json} {now : Instant}
      (valid : w.validate.valid) : Reached env may (.start w id parameters now)
  | turn {s s' : Scene} (before : Reached env may s) (turn : Turn env s s') : Reached env may s'
  | stop {s : Scene} {now : Instant} (before : Reached env may s)
      (running : s.job.isTerminal = false) (allowed : may s.course.run) :
      Reached env may (s.stop now)

/-- Who may be stopped at more places reaches more scenes. -/
theorem Scene.Reached.mono {env : Orchestrator} {may may' : Run → Prop} {s : Scene}
    (h : ∀ r, may r → may' r) (hs : Reached env may s) : Reached env may' s := by
  induction hs with
  | start valid => exact .start valid
  | turn before turn ih => exact .turn ih turn
  | stop before running allowed ih => exact .stop ih running (h _ allowed)

/-- A turn is one of the same job. -/
theorem Turn.id_eq {env : Orchestrator} {s s' : Scene} (h : Turn env s s') : s'.id = s.id := by
  cases h with
  | pass h => cases h <;> rfl
  | _ => rfl

/-- The account that a job gives of its tasks is the same. -/
structure Job.SameRecord (j j' : Job) : Prop where
  parameters : j'.parameters = j.parameters
  results : j'.results = j.results
  failures : j'.failures = j.failures
  failed : j'.failedTasks = j.failedTasks
  completed : j'.completedTasks = j.completedTasks
  current : j'.currentTasks = j.currentTasks

/-- The course has the same rounds, tasks and ends behind it. -/
structure Course.SamePast (c c' : Course) : Prop where
  workflow : c'.workflow = c.workflow
  jobId : c'.run.jobId = c.run.jobId
  rounds : c'.rounds = c.rounds
  started : c'.started = c.started
  taken : c'.taken = c.taken

namespace Scene

variable {s s' : Scene}

/-- The rounds are under way as before. -/
structure SameRound (s s' : Scene) : Prop where
  pending : s'.stage.pending? = s.stage.pending?
  ready : s'.stage.ready = s.stage.ready
  count : s'.stage.count = s.stage.count
  inFlight : s'.course.inFlight = s.course.inFlight
  status : s'.job.status = s.job.status

/-- **What a pass leaves as it is.**  Nothing is begun, started, taken up or
recorded, and the rounds are over if they do not go on as before. -/
structure Frame (s s' : Scene) : Prop where
  past : s.course.SamePast s'.course
  record : s.job.SameRecord s'.job
  whole : s'.job.status = .completed → s.job.status = .completed
  returned : s.stage.returned = []
  returned' : s'.stage.returned = []
  error : ∀ e, s'.stage.error? = some e → s.stage.error? = some e
  fate : s'.stage.fate? = s.stage.fate?
  rejected : s'.stage.rejected? = none
  round : s'.stage.pending? = none ∨ s.SameRound s'

namespace Frame

variable {here next : Stage}

theorem workflow (h : s.Frame s') : s'.workflow = s.workflow := h.past.workflow

theorem started (h : s.Frame s') : s'.started = s.started :=
  congrArg (List.map fun x : Nat × Prepared => (x.1, x.2.name)) h.past.started

/-- The rounds go on. -/
theorem goes (stage : s.stage = here) (hp : next.pending? = here.pending?)
    (hready : next.ready = here.ready) (hcount : next.count = here.count)
    (hreturned : here.returned = []) (hreturned' : next.returned = [])
    (he : ∀ e, next.error? = some e → here.error? = some e) (hf : next.fate? = here.fate?)
    (hr : next.rejected? = none) : s.Frame (s.enter next) := by
  subst stage
  exact ⟨⟨rfl, rfl, rfl, rfl, rfl⟩, ⟨rfl, rfl, rfl, rfl, rfl, rfl⟩, fun hd => hd, hreturned,
    hreturned', he, hf, hr, Or.inr ⟨hp, hready, hcount, rfl, rfl⟩⟩

/-- The run leaves its rounds. -/
theorem leaves (stage : s.stage = here) (past : s.course.SamePast s'.course)
    (record : s.job.SameRecord s'.job)
    (whole : s'.job.status = .completed → s.job.status = .completed)
    (hp : s'.stage.pending? = none) (hreturned : here.returned = [])
    (hreturned' : s'.stage.returned = [])
    (he : ∀ e, s'.stage.error? = some e → here.error? = some e)
    (hf : s'.stage.fate? = here.fate?) (hr : s'.stage.rejected? = none) : s.Frame s' := by
  subst stage
  exact ⟨past, record, whole, hreturned, hreturned', he, hf, hr, Or.inl hp⟩

end Frame

end Scene

/-- **Every pass has this frame.** -/
theorem Pass.frame {env : Orchestrator} {s s' : Scene} (h : Pass env s s') : s.Frame s' := by
  cases h with
  | finish stage => exact .goes stage rfl rfl rfl rfl rfl (fun _ he => he) rfl rfl
  | await stage => exact .goes stage rfl rfl rfl rfl rfl (fun _ he => he) rfl rfl
  | close stage => exact .goes stage rfl rfl rfl rfl rfl (fun _ he => he) rfl rfl
  | fall stage running =>
    exact .leaves stage ⟨rfl, rfl, rfl, rfl, rfl⟩ ⟨rfl, rfl, rfl, rfl, rfl, rfl⟩ nofun rfl rfl rfl
      (fun _ he => he) rfl rfl
  | leave stage | discard stage | fallLate stage | succeedLate stage | reportMissing stage
  | reportBegin stage | reportPanic stage | reportFail stage | reportDone stage | depart stage =>
    exact .leaves stage ⟨rfl, rfl, rfl, rfl, rfl⟩ ⟨rfl, rfl, rfl, rfl, rfl, rfl⟩ (fun hd => hd) rfl
      rfl rfl (fun _ he => he) rfl rfl

/-- A turn is one on the same workflow. -/
theorem Turn.workflow_eq {env : Orchestrator} {s s' : Scene} (h : Turn env s s') :
    s'.workflow = s.workflow := by
  cases h with
  | pass h => exact h.frame.workflow
  | _ => rfl

end Runbook
