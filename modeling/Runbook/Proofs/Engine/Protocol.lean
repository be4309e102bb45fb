/-
# The order of the events of a job

What is told of a job has a fixed form: its start, whole rounds, the round that is
under way, and an ending.  A round is told as the starts of its tasks and then their
outcomes (`Round`), and how the ending looks depends on the state of the job and on
where its run is (`Ending`).

While a round is under way, its tasks that are not yet told as ended are those in
flight and the one whose outcome has come in (`Scene.Spoken`).  So an outcome is
always the first one of a task that was told as started, and a round is whole when
nothing of it is in flight.
-/

import Runbook.Proofs.Engine.Dispatch
import Runbook.Proofs.Engine.Replay

namespace Runbook

/-- An error that keeps a task from being started. -/
def ExecutionError.isPreparation : ExecutionError → Bool
  | .unresolvedReference .. | .workerNotFound .. | .taskInvalid .. => true
  | _ => false

/-- What a started task ends with is no such error. -/
theorem Prepared.isPreparation_of_outcomeOf {p : Prepared} {end? : Option AttemptEnd}
    {e : ExecutionError} (h : (p.outcomeOf end?).result = .error e) : e.isPreparation = false := by
  rcases end? with _ | v | cause | message <;> cases h <;> rfl

/-- What a task cannot be made ready for is such an error. -/
theorem Orchestrator.isPreparation_of_prepare {o : Orchestrator} {jobId : String} {scope : Scope}
    {t : Task} {e : ExecutionError} (h : o.prepare jobId scope t = .error e) :
    e.isPreparation = true := by
  rw [prepare_eq] at h
  split at h
  · cases h
    rfl
  · split at h
    · cases h
      rfl
    · split at h
      · cases h
      · cases h
        rfl

/-- A round as it is told: the starts of its tasks, and the outcomes after which the
job goes on. -/
structure Round where
  starts : List JobEvent := []
  outcomes : List JobEvent := []

namespace Round

variable {r : Round} {e : JobEvent} {n : String}

/-- All that is told of the round, in order. -/
def events (r : Round) : List JobEvent := r.starts ++ r.outcomes

/-- The tasks that are told as started. -/
def started (r : Round) : List String := r.starts.filterMap JobEvent.starts?

/-- The tasks that are told as completed. -/
def settled (r : Round) : List String := r.outcomes.filterMap JobEvent.settles?

/-- **Starts come first, then at most one outcome of each task started.** -/
structure Regular (r : Round) : Prop where
  starts : ∀ e ∈ r.starts, e.starts? ≠ none
  outcomes : ∀ e ∈ r.outcomes, e.settles? ≠ none
  known : ∀ n ∈ r.settled, n ∈ r.started
  once : r.settled.Nodup

/-- **Every task of the round has its outcome.** -/
structure Whole (r : Round) : Prop extends r.Regular where
  all : ∀ n ∈ r.started, n ∈ r.settled

/-- The round with one start more. -/
def start (r : Round) (e : JobEvent) : Round := { r with starts := r.starts ++ [e] }

/-- The round with one outcome more. -/
def settle (r : Round) (e : JobEvent) : Round := { r with outcomes := r.outcomes ++ [e] }

theorem events_start (h : r.outcomes = []) : (r.start e).events = r.events ++ [e] := by
  rw [events, events, start, h, List.append_nil, List.append_nil]

theorem events_settle : (r.settle e).events = r.events ++ [e] :=
  (List.append_assoc ..).symm

theorem started_start (h : e.starts? = some n) : (r.start e).started = r.started ++ [n] := by
  rw [started, start, List.filterMap_append, List.filterMap_cons_some h]
  rfl

theorem settled_settle (h : e.settles? = some n) : (r.settle e).settled = r.settled ++ [n] := by
  rw [settled, settle, List.filterMap_append, List.filterMap_cons_some h]
  rfl

theorem Regular.start (h : r.Regular) (he : e.starts? = some n) : (r.start e).Regular := by
  refine ⟨fun x hx => ?_, h.outcomes, fun m hm => ?_, h.once⟩
  · rcases List.mem_append.1 hx with hx | hx
    · exact h.starts x hx
    · rw [List.mem_singleton.1 hx, he]
      exact Option.some_ne_none n
  · rw [started_start he]
    exact List.mem_append_left _ (h.known m hm)

theorem Regular.settle (h : r.Regular) (he : e.settles? = some n) (hin : n ∈ r.started)
    (hnew : n ∉ r.settled) : (r.settle e).Regular := by
  refine ⟨h.starts, fun x hx => ?_, fun m hm => ?_, ?_⟩
  · rcases List.mem_append.1 hx with hx | hx
    · exact h.outcomes x hx
    · rw [List.mem_singleton.1 hx, he]
      exact Option.some_ne_none n
  · rw [settled_settle he] at hm
    rcases List.mem_append.1 hm with hm | hm
    · exact h.known m hm
    · rw [List.mem_singleton.1 hm]
      exact hin
  · rw [settled_settle he]
    exact List.nodup_append.2 ⟨h.once, List.nodup_singleton n,
      fun a ha b hb hab => hnew (by rw [← List.mem_singleton.1 hb, ← hab]; exact ha)⟩

/-- Nothing is told of the round yet. -/
theorem Regular.blank : Regular {} := ⟨nofun, nofun, nofun, List.nodup_nil⟩

end Round

/-- The error of a job is told as that of one of its tasks: of one that was never
started, before any of its round is, if the error kept it from being started, and
else of one of the round under way that had no outcome yet. -/
def ExecutionError.Blames (e : ExecutionError) (begun : List String) (now : Round)
    (task : String) : Prop :=
  e.task? = some task ∧
    if e.isPreparation then now = {} ∧ task ∉ begun
    else task ∈ now.started ∧ task ∉ now.settled

/-- Whether the final report is about to be written, or its writer has panicked. -/
def Stage.reports : Stage → Bool
  | .reporting | .awaitingReport | .panicked _ => true
  | _ => false

/-- **How what is told of a job ends**, by where its run is and by the state of the
job.  `report` says whether final reports are wanted, `begun` are the tasks started,
and `now` is the round under way. -/
inductive Ending (report : Bool) (id : String) (begun : List String) (now : Round) :
    Stage → JobStatus → List JobEvent → Prop where
  /-- The job is running. -/
  | running {stage : Stage} (fate : stage.fate? = none) :
      Ending report id begun now stage .running []
  /-- A task has failed by which the job is about to fail. -/
  | failing {task : String} {kind : WorkerKind} {e : ExecutionError}
      (blames : e.Blames begun now task) :
      Ending report id begun now (.failing e) .running
        [.taskFailed id task kind e.message false]
  /-- The job has failed. -/
  | failed {task : String} {kind : WorkerKind} {e : ExecutionError}
      (blames : e.Blames begun now task) :
      Ending report id begun now (.ended (.error e)) .failed
        [.taskFailed id task kind e.message false, .jobFailed id e.message]
  /-- The job was stopped. -/
  | stopped {stage : Stage} : Ending report id begun now stage .stopped [.jobStopped id]
  /-- The job is completed, and no report is wanted or there is none yet. -/
  | completed {stage : Stage} {ms : Nat} (blank : now = {}) (wanted : report = stage.reports) :
      Ending report id begun now stage .completed [.jobCompleted id ms]
  /-- The job is completed and has a report. -/
  | reported {stage : Stage} {ms : Nat} {v : Json} (blank : now = {}) (wanted : report = true)
      (closed : stage.reports = false) :
      Ending report id begun now stage .completed [.jobCompleted id ms, .reportGenerated id v]
  /-- The job is completed, but its report could not be written. -/
  | unreported {stage : Stage} {ms : Nat} {text : String} (blank : now = {})
      (wanted : report = true) (closed : stage.reports = false) :
      Ending report id begun now stage .completed [.jobCompleted id ms, .reportFailed id text]

namespace Ending

variable {report : Bool} {id : String} {begun : List String} {now : Round}
  {stage stage' : Stage} {status : JobStatus} {es : List JobEvent}

/-- Unless the run fails or turns to the report, its stage does not matter. -/
theorem moves (h : Ending report id begun now stage status es) (hf : stage.fate? = none)
    (hf' : stage'.fate? = none) (hr : stage'.reports = stage.reports) :
    Ending report id begun now stage' status es := by
  cases h with
  | running fate => exact .running hf'
  | failing blames | failed blames => cases hf
  | stopped => exact .stopped
  | completed blank wanted => exact .completed blank (wanted.trans hr.symm)
  | reported blank wanted closed => exact .reported blank wanted (hr.trans closed)
  | unreported blank wanted closed => exact .unreported blank wanted (hr.trans closed)

/-- Of a running job that is not about to fail no ending is told. -/
theorem eq_nil (h : Ending report id begun now stage .running es) (hf : stage.fate? = none) :
    es = [] := by
  cases h with
  | running fate => rfl
  | failing blames => cases hf

/-- Only of a running job no ending is told. -/
theorem status_of_nil (h : Ending report id begun now stage status []) : status = .running := by
  cases h
  rfl

/-- What is told of a job that is about to fail, and then that it has. -/
theorem fails {e : ExecutionError}
    (h : Ending report id begun now (.failing e) .running es) :
    Ending report id begun now (.ended (.error e)) .failed (es ++ [.jobFailed id e.message]) := by
  cases h with
  | running fate => cases fate
  | failing blames => exact .failed blames

/-- While the report is about to be written, the job was told as completed and
nothing after that. -/
theorem of_reports (h : Ending report id begun now stage .completed es) (hr : stage.reports) :
    now = {} ∧ report = true ∧ ∃ ms, es = [.jobCompleted id ms] := by
  cases h with
  | completed blank wanted => exact ⟨blank, wanted.trans hr, _, rfl⟩
  | reported blank wanted closed | unreported blank wanted closed =>
    rw [closed] at hr
    cases hr

end Ending

namespace Stage

/-- What can have been told of a round at a stage: nothing before its tasks are
started, and no outcome while they are being started. -/
def Admits (now : Round) : Stage → Prop
  | .round _ | .completing | .rejecting .. => now = {}
  | .starting .. => now.outcomes = []
  | _ => True

/-- An error that is to be recorded is about its task, and kept it from being started
if the task was not started. -/
def Blamed : Stage → Prop
  | .rejecting t e => e.isPreparation = true ∧ e.task? = some t.name
  | .recording oc _ _ => ∀ e, oc.result = .error e →
    e.isPreparation = false ∧ e.task? = some oc.task
  | _ => True

/-- Stages outside the rounds ask for nothing. -/
theorem admits_of_over {stage : Stage} (hp : stage.pending? = none)
    (hr : stage.rejected? = none) (now : Round) : stage.Admits now ∧ stage.Blamed := by
  cases stage with
  | round pending | starting ready n pending | recording oc n pending | completing => cases hp
  | rejecting t e => cases hr
  | _ => exact ⟨trivial, trivial⟩

end Stage

namespace Scene

/-- **What is told of the job has the form of its rounds.**  The tasks of the round
under way that are not told as ended are in flight or have just come in. -/
structure Spoken (s : Scene) (report : Bool) (done : List Round) (now : Round)
    (ending : List JobEvent) : Prop where
  told : s.told = .jobStarted s.id s.workflow.id ::
    (done.flatMap Round.events ++ now.events ++ ending)
  begun : s.begunNames = done.flatMap Round.started ++ now.started
  whole : ∀ r ∈ done, r.Whole
  regular : now.Regular
  admits : s.stage.Admits now
  blamed : s.stage.Blamed
  out : s.stage.pending? ≠ none → now.started.Perm
    (now.settled ++ (s.stage.returned.map (·.task) ++ s.course.inFlight.map (·.name)))
  ending : Ending report s.id s.begunNames now s.stage s.job.status ending

variable {s s' : Scene} {report : Bool} {done : List Round} {now : Round}
  {ending : List JobEvent}

namespace Spoken

/-- Of a running job that is not about to fail no ending is told. -/
theorem eq_nil (h : s.Spoken report done now ending) (running : s.job.isTerminal = false)
    (hf : s.stage.fate? = none) : ending = [] :=
  Ending.eq_nil (Job.isTerminal_eq_false.1 running ▸ h.ending) hf

/-- Nothing is told, and the job is in the same state. -/
theorem goes (h : s.Spoken report done now ending) (hid : s'.id = s.id)
    (hw : s'.workflow = s.workflow) (hb : s'.begunNames = s.begunNames)
    (ht : s'.told = s.told) (hs : s'.job.status = s.job.status) {here : Stage}
    (stage : s.stage = here) (hf : here.fate? = none) (hf' : s'.stage.fate? = none)
    (hr : s'.stage.reports = here.reports) (ha : s'.stage.Admits now) (hblame : s'.stage.Blamed)
    (ho : s'.stage.pending? ≠ none → now.started.Perm
      (now.settled ++ (s'.stage.returned.map (·.task) ++ s'.course.inFlight.map (·.name)))) :
    s'.Spoken report done now ending := by
  refine ⟨?_, ?_, h.whole, h.regular, ha, hblame, ho, ?_⟩
  · rw [ht, hid, hw]
    exact h.told
  · rw [hb]
    exact h.begun
  · rw [hid, hb, hs]
    exact h.ending.moves (stage ▸ hf) hf' (hr.trans (congrArg _ stage.symm))

/-- The run leaves its rounds, and something may be told. -/
theorem leaves (h : s.Spoken report done now ending) (hid : s'.id = s.id)
    (hw : s'.workflow = s.workflow) (hb : s'.begunNames = s.begunNames) {es : List JobEvent}
    (ht : s'.told = s.told ++ es) (hp : s'.stage.pending? = none)
    (hr : s'.stage.rejected? = none)
    (hend : Ending report s.id s.begunNames now s'.stage s'.job.status (ending ++ es)) :
    ∃ done now ending, s'.Spoken report done now ending := by
  obtain ⟨hadmits, hblamed⟩ := Stage.admits_of_over hp hr now
  refine ⟨done, now, ending ++ es, ?_, ?_, h.whole, h.regular, hadmits, hblamed,
    fun hne => absurd hp hne, ?_⟩
  · rw [ht, hid, hw, h.told, List.cons_append, List.append_assoc _ ending es]
  · rw [hb]
    exact h.begun
  · rw [hid, hb]
    exact hend

/-- While the rounds are under way, an event of the round is told. -/
theorem told_concat (h : s.Spoken report done now []) (e : JobEvent) :
    s.told ++ [e] = .jobStarted s.id s.workflow.id ::
      (done.flatMap Round.events ++ (now.events ++ [e]) ++ []) := by
  rw [h.told, List.append_nil, List.append_nil, List.cons_append, List.append_assoc]

/-- A task is started. -/
theorem launches (h : s.Spoken report done now []) {p : Prepared} {ready : List Prepared} {n : Nat}
    {pending : List Task} (stage : s.stage = .starting (p :: ready) n pending)
    (running : s.job.isTerminal = false) :
    Spoken
      { job := s.job.startTask p.name
        course := (s.course.startTask p).enter (.starting ready (n + 1) pending)
        told := s.told ++ [.taskStarted s.id p.name p.assignment.worker] } report done
      (now.start (.taskStarted s.id p.name p.assignment.worker)) [] := by
  have hnone := h.admits
  have hout := h.out (by rw [stage]; exact nofun)
  rw [stage] at hnone hout
  have hnone : now.outcomes = [] := hnone
  have hstarted : (now.start (.taskStarted s.id p.name p.assignment.worker)).started
      = now.started ++ [p.name] := Round.started_start rfl
  refine ⟨?_, ?_, h.whole, h.regular.start rfl, hnone, trivial, fun _ => ?_, ?_⟩
  · rw [Round.events_start hnone]
    exact h.told_concat _
  · rw [begunNames_of_started rfl, hstarted, h.begun, List.append_assoc]
  · rw [hstarted]
    show (now.started ++ [p.name]).Perm (now.settled ++ ([] ++ (s.course.inFlight ++ [p]).map _))
    rw [List.map_append, List.nil_append, ← List.append_assoc]
    exact hout.append_right [p.name]
  · show Ending _ _ _ _ _ s.job.status []
    rw [Job.isTerminal_eq_false.1 running]
    exact .running rfl

/-- The task whose outcome has come in was told as started and not yet as ended. -/
theorem awaits (h : s.Spoken report done now ending) (hs : s.Sound) {oc : Outcome} {n : Nat}
    {pending : List Task} (stage : s.stage = .recording oc n pending) :
    oc.task ∈ now.started ∧ oc.task ∉ now.settled := by
  have hout := h.out (by rw [stage]; exact nofun)
  rw [stage] at hout
  have hnodup := hs.nodup_begunNames
  rw [h.begun, List.nodup_append] at hnodup
  have hsettled := hout.nodup_iff.1 hnodup.2.1
  have hmem : oc.task ∈ [oc].map (·.task) ++ s.course.inFlight.map (·.name) :=
    List.mem_append_left _ List.mem_cons_self
  refine ⟨hout.mem_iff.2 (List.mem_append_right _ hmem), fun hin => ?_⟩
  exact (List.nodup_append.1 hsettled).2.2 _ hin _ hmem rfl

/-- An outcome is recorded after which the job goes on. -/
theorem settles (h : s.Spoken report done now []) (hs : s.Sound) {oc : Outcome} {n : Nat}
    {pending : List Task} (stage : s.stage = .recording oc n pending) {j : Job} {e : JobEvent}
    (he : e.settles? = some oc.task) (running : j.isTerminal = false) :
    Spoken { job := j, course := s.course.enter (.waiting n pending), told := s.told ++ [e] }
      report done (now.settle e) [] := by
  have hout := h.out (by rw [stage]; exact nofun)
  rw [stage] at hout
  obtain ⟨hin, hnew⟩ := h.awaits hs stage
  refine ⟨?_, h.begun, h.whole, h.regular.settle he hin hnew, trivial, trivial, fun _ => ?_, ?_⟩
  · rw [Round.events_settle]
    exact h.told_concat _
  · rw [Round.settled_settle he, List.append_assoc]
    exact hout
  · show Ending _ _ _ _ _ j.status []
    rw [Job.isTerminal_eq_false.1 running]
    exact .running rfl

/-- Nothing of the round is in flight any more, and it is whole. -/
theorem closes (h : s.Spoken report done now []) (hs : s.Sound) {pending : List Task}
    (stage : s.stage = .waiting 0 pending) (running : s.job.isTerminal = false) :
    (s.enter (.round pending)).Spoken report (done ++ [now]) {} [] := by
  have hout := h.out (by rw [stage]; exact nofun)
  have hcount := (hs.underWay pending (by rw [stage]; rfl)).count
  rw [stage] at hout hcount
  have hflight : s.course.inFlight = [] := List.length_eq_zero_iff.1 hcount.symm
  rw [hflight] at hout
  -- With nothing in flight, the tasks told as started are those told as ended.
  have hall : now.started.Perm now.settled := hout.trans (List.Perm.of_eq (List.append_nil _))
  refine ⟨?_, ?_, fun r hr => ?_, .blank, rfl, trivial, fun _ => ?_, ?_⟩
  · show s.told = _
    rw [h.told]
    simp only [List.flatMap_append, List.flatMap_singleton, List.append_nil, Round.events]
    rfl
  · show s.begunNames = _
    rw [h.begun, List.flatMap_append, List.flatMap_singleton]
    exact (List.append_nil _).symm
  · rcases List.mem_append.1 hr with hr | hr
    · exact h.whole r hr
    · rw [List.mem_singleton.1 hr]
      exact ⟨h.regular, fun n hn => hall.subset hn⟩
  · show List.Perm [] ([] ++ ([] ++ s.course.inFlight.map _))
    rw [hflight]
    exact .nil
  · show Ending _ _ _ _ _ s.job.status []
    rw [Job.isTerminal_eq_false.1 running]
    exact .running rfl

/-- What has become of the final report is told. -/
theorem closesReport (h : s.Spoken report done now ending) (ht : s.Timed) {here : Stage}
    (stage : s.stage = here) (hr : here.reports)
    (ha : here.allows s.job.status → s.job.status = .completed) (hid : s'.id = s.id)
    (hw : s'.workflow = s.workflow) (hb : s'.begunNames = s.begunNames) {e : JobEvent}
    (htold : s'.told = s.told ++ [e]) (hstage : s'.stage = .leaving)
    (hstatus : s'.job.status = s.job.status)
    (hend : ∀ ms, Ending true s.id s.begunNames {} .leaving .completed
      [.jobCompleted s.id ms, e]) :
    ∃ done now ending, s'.Spoken report done now ending := by
  have hdone : s.job.status = .completed := ha (stage ▸ ht.allowed)
  have hbefore := h.ending
  rw [hdone] at hbefore
  obtain ⟨rfl, rfl, ms, rfl⟩ := hbefore.of_reports (stage ▸ hr)
  refine h.leaves hid hw hb htold (by rw [hstage]; rfl) (by rw [hstage]; rfl) ?_
  rw [hstage, hstatus, hdone]
  exact hend ms

/-- A pass keeps it. -/
theorem pass (h : s.Spoken report done now ending) (hs : s.Sound) (ht : s.Timed)
    {env : Orchestrator} (hp : Pass env s s') :
    ∃ done now ending, s'.Spoken report done now ending := by
  have hend := h.ending
  cases hp with
  | finish stage =>
    have hout := h.out (by rw [stage]; exact nofun)
    have hadmits := h.admits
    rw [stage] at hout hadmits
    exact ⟨_, _, _, h.goes rfl rfl rfl rfl rfl stage rfl rfl rfl hadmits trivial fun _ => hout⟩
  | await stage =>
    have hout := h.out (by rw [stage]; exact nofun)
    rw [stage] at hout
    exact ⟨_, _, _, h.goes rfl rfl rfl rfl rfl stage rfl rfl rfl trivial trivial fun _ => hout⟩
  | close stage =>
    have hrun := ht.running stage fun ha => ha
    obtain rfl := h.eq_nil hrun (by rw [stage]; rfl)
    exact ⟨_, _, _, h.closes hs stage hrun⟩
  | leave stage left terminal => exact absurd terminal (ht.not_terminal stage fun ha => ha)
  | fallLate stage terminal => exact absurd terminal (ht.not_terminal stage fun ha => ha)
  | succeedLate stage terminal => exact absurd terminal (ht.not_terminal stage fun ha => ha)
  | discard stage | reportBegin stage | reportPanic stage | depart stage =>
    exact ⟨_, _, _, h.goes rfl rfl rfl rfl rfl stage rfl rfl rfl trivial trivial
      fun hne => absurd rfl hne⟩
  | fall stage running =>
    rw [Job.isTerminal_eq_false.1 running, stage] at hend
    exact h.leaves rfl rfl rfl rfl rfl rfl hend.fails
  | reportMissing stage | reportFail stage =>
    exact h.closesReport ht stage rfl (fun ha => ha) rfl rfl rfl rfl rfl rfl
      fun ms => .unreported rfl rfl rfl
  | reportDone stage =>
    exact h.closesReport ht stage rfl (fun ha => ha) rfl rfl rfl rfl rfl rfl
      fun ms => .reported rfl rfl rfl

/-- An outcome comes in. -/
theorem takesUp (h : s.Spoken report done now ending) {p : Prepared} {e : Option AttemptEnd}
    {n : Nat} {pending : List Task} (stage : s.stage = .waiting (n + 1) pending)
    (flight : p ∈ s.course.inFlight) :
    Spoken
      { s with
        job := s.job.endTask p.name
        course := (s.course.takeUp p e).enter (.recording (p.outcomeOf e) n pending) }
      report done now ending := by
  have hout := h.out (by rw [stage]; exact nofun)
  rw [stage] at hout
  refine h.goes rfl rfl rfl rfl rfl stage rfl rfl rfl trivial (fun err herr => ?_) fun _ => ?_
  · rw [p.task_outcomeOf]
    exact ⟨Prepared.isPreparation_of_outcomeOf herr, Prepared.task?_of_outcomeOf herr⟩
  · have hland := s.course.map_name_land p
    refine hout.trans (List.Perm.append_left _ ?_)
    show (s.course.inFlight.map (·.name)).Perm
      ((p.outcomeOf e).task :: (s.course.land p).inFlight.map _)
    rw [hland, p.task_outcomeOf]
    exact List.perm_cons_erase (List.mem_map_of_mem flight)

/-- A failure by which the job is about to fail is told of a task to blame. -/
theorem blames (h : s.Spoken report done now ending) (running : s.job.isTerminal = false)
    (hf : s.stage.fate? = none) (hid : s'.id = s.id) (hw : s'.workflow = s.workflow)
    (hb : s'.begunNames = s.begunNames) {task : String} {kind : WorkerKind} {e : ExecutionError}
    (ht : s'.told = s.told ++ [.taskFailed s.id task kind e.message false])
    (stage : s'.stage = .failing e) (running' : s'.job.status = .running)
    (hblames : e.Blames s.begunNames now task) :
    ∃ done now ending, s'.Spoken report done now ending := by
  obtain rfl := h.eq_nil running hf
  refine h.leaves hid hw hb ht (by rw [stage]; rfl) (by rw [stage]; rfl) ?_
  rw [stage, running']
  exact .failing hblames

/-- A stop of a running job where its run waits keeps it. -/
theorem stops (h : s.Spoken report done now ending) (ht : s.Timed)
    (running : s.job.isTerminal = false) (rest : s.course.run.isAwaiting) (time : Instant) :
    (s.stop time).Spoken report done now [.jobStopped s.id] := by
  have hf : s.stage.fate? = none := by
    rcases ht.rests rest with ⟨hf, -, -⟩ | ⟨e, -, hfailed⟩
    · exact hf
    · rw [Job.isTerminal_eq_false.1 running] at hfailed
      cases hfailed
  obtain rfl := h.eq_nil running hf
  refine ⟨?_, h.begun, h.whole, h.regular, h.admits, h.blamed, h.out, .stopped⟩
  show s.told ++ [_] = _
  rw [h.told, List.append_nil]
  rfl

/-- **A turn keeps it.** -/
theorem turn {env : Orchestrator} (h : s.Spoken env.settings.generateReport done now ending)
    (hs : s.Sound) (ht : s.Timed) (hr : s.Retold) (hturn : Turn env s s') :
    ∃ done now ending, s'.Spoken env.settings.generateReport done now ending := by
  have hadmits := h.admits
  cases hturn with
  | pass pass => exact h.pass hs ht pass
  | starve stage left running none_ready =>
    exact absurd none_ready (hs.ready_ne_nil stage running left)
  | reject stage running ready prepared =>
    rw [stage] at hadmits
    have herr := (Orchestrator.rejected_of_prepareAll prepared).2
    exact ⟨_, _, _, h.goes rfl rfl rfl rfl rfl stage rfl rfl rfl hadmits
      ⟨Orchestrator.isPreparation_of_prepare herr, (Orchestrator.error_of_prepare herr).1⟩
      fun hne => absurd rfl hne⟩
  | begin stage running ready prepared =>
    have hout := h.out (by rw [stage]; exact nofun)
    rw [stage] at hadmits hout
    exact ⟨_, _, _, h.goes rfl rfl rfl rfl rfl stage rfl rfl rfl (congrArg Round.outcomes hadmits)
      trivial fun _ => hout⟩
  | launch stage =>
    have hrun := ht.running stage fun ha => ha
    obtain rfl := h.eq_nil hrun (by rw [stage]; rfl)
    exact ⟨_, _, _, h.launches stage hrun⟩
  | takeUp stage flight running => exact ⟨_, _, _, h.takesUp stage flight⟩
  | complete stage result =>
    have hrun := ht.running stage fun ha => ha
    obtain rfl := h.eq_nil hrun (by rw [stage]; rfl)
    exact ⟨_, _, _, h.settles hs stage rfl hrun⟩
  | overcome stage result continued running =>
    obtain rfl := h.eq_nil running (by rw [stage]; rfl)
    exact ⟨_, _, _, h.settles hs stage rfl running⟩
  | fail stage result continued running =>
    have hblamed := h.blamed
    rw [stage] at hblamed
    obtain ⟨hkind, htask⟩ := hblamed _ result
    refine h.blames running (by rw [stage]; rfl) rfl rfl rfl rfl rfl
      (Job.isTerminal_eq_false.1 running) ⟨htask, ?_⟩
    -- A task that was started is to blame, one of this round.
    rw [if_neg (by rw [hkind]; exact Bool.false_ne_true)]
    exact h.awaits hs stage
  | overlook stage result terminal => exact absurd terminal (ht.not_terminal stage fun ha => ha)
  | refuse stage running =>
    have hblamed := h.blamed
    rw [stage] at hblamed hadmits
    obtain ⟨hkind, htask⟩ := hblamed
    refine h.blames running (by rw [stage]; rfl) rfl rfl rfl rfl rfl
      (Job.isTerminal_eq_false.1 running) ⟨htask, ?_⟩
    rw [if_pos hkind]
    exact ⟨hadmits, hr.rejected _ (by rw [stage]; rfl)⟩
  | refuseLate stage terminal => exact absurd terminal (ht.not_terminal stage fun ha => ha)
  | succeed stage running =>
    rw [stage] at hadmits
    obtain rfl := h.eq_nil running (by rw [stage]; rfl)
    refine h.leaves rfl rfl rfl rfl ?_ ?_ (.completed hadmits ?_) <;>
      cases env.settings.generateReport <;> rfl

end Spoken

/-- **It holds of every scene that is reached** by stops where the run waits. -/
theorem Reached.spoken {env : Orchestrator} (h : Reached env (fun r => r.isAwaiting) s) :
    ∃ done now ending, s.Spoken env.settings.generateReport done now ending := by
  induction h with
  | start valid =>
    exact ⟨[], {}, [], rfl, rfl, nofun, .blank, rfl, trivial, fun _ => .nil, .running rfl⟩
  | turn before turn ih =>
    obtain ⟨done, now, ending, hs⟩ := ih
    exact hs.turn before.sound before.timed before.retold turn
  | stop before running rest ih =>
    obtain ⟨done, now, ending, hs⟩ := ih
    exact ⟨done, now, _, hs.stops before.timed running rest _⟩

end Scene

namespace World

/-- **The events of a job have a fixed form.**  Whatever has been registered, loaded,
started and answered, in any order, if the job is stopped only where its run waits or
is over: what is told of the job is its start, then whole rounds, then the round under
way, then an ending that its run and its state allow.  No task is started twice. -/
theorem protocol_of_events (registry : Registry) (settings : EngineSettings) (moves : List Move)
    (id : String) (c : Course)
    (hstops : (initial registry settings true).StopsOnly (fun r => r.isAwaiting) id moves)
    (h : ((initial registry settings true).play moves).courses.get? id = some c) :
    ∃ (j : Job) (done : List Round) (now : Round) (ending : List JobEvent),
      ((initial registry settings true).play moves).orchestrator.job? id = some j ∧
      ((initial registry settings true).play moves).orchestrator.told id =
        .jobStarted id c.workflow.id :: (done.flatMap Round.events ++ now.events ++ ending) ∧
      (∀ r ∈ done, r.Whole) ∧ now.Regular ∧
      (done.flatMap Round.started ++ now.started).Nodup ∧
      (∀ result, c.run.stage = .ended result → ending ≠ []) ∧
      Ending settings.generateReport id (done.flatMap Round.started ++ now.started) now
        c.run.stage j.status ending := by
  obtain ⟨rfl, j, told, hj, hreach, htold⟩ :=
    reached_of_play (fun r => r.isAwaiting) hstops h
  obtain ⟨done, now, ending, hs⟩ := hreach.spoken
  have hbegun := hs.begun
  refine ⟨j, done, now, ending, hj, (htold rfl).trans hs.told, hs.whole, hs.regular, ?_,
    fun result hover hnil => ?_, ?_⟩
  · rw [← hbegun]
    exact hreach.sound.nodup_begunNames
  · exact hreach.timed.ne_running hover (hnil ▸ hs.ending).status_of_nil
  · rw [← hbegun]
    exact hs.ending

/-- In the sample, whole rounds are told, and then that the job is completed. -/
theorem protocol_of_events_sample :
    ∃ (c : Course) (done : List Round) (now : Round) (ending : List JobEvent),
      (Sample.world (Sample.firstRound ++ Sample.secondRound)).courses.get? "job" = some c ∧
      (Sample.world (Sample.firstRound ++ Sample.secondRound)).orchestrator.told "job" =
        .jobStarted "job" "sample" :: (done.flatMap Round.events ++ now.events ++ ending) ∧
      (∀ r ∈ done, r.Whole) ∧ (done.flatMap Round.started ++ now.started).Nodup ∧
      Ending true "job" (done.flatMap Round.started ++ now.started) now c.run.stage .completed
        ending := by
  have hcourse :
      ((Sample.world (Sample.firstRound ++ Sample.secondRound)).courses.get? "job").map
        (·.workflow.id) = some "sample" := rfl
  have hstatus :
      ((Sample.world (Sample.firstRound ++ Sample.secondRound)).orchestrator.job? "job").map
        (·.status) = some .completed := rfl
  have hnever : ∀ now,
      Move.stop "job" now ∉ Sample.moves (Sample.firstRound ++ Sample.secondRound) := by
    intro now h
    simp [Sample.moves, Sample.firstRound, Sample.secondRound, Sample.step] at h
  obtain ⟨c, hc, hid⟩ := Option.map_eq_some_iff.1 hcourse
  obtain ⟨j, done, now, ending, hj, htold, hwhole, -, hnodup, -, hending⟩ :=
    protocol_of_events (.ofList [Sample.worker]) {}
      (Sample.moves (Sample.firstRound ++ Sample.secondRound)) "job" c
      (stopsOnly_of_notMem hnever _ _) hc
  obtain ⟨k, hk, hdone⟩ := Option.map_eq_some_iff.1 hstatus
  cases hj.symm.trans hk
  rw [hdone] at hending
  rw [hid] at htold
  exact ⟨c, done, now, ending, hc, htold, hwhole, hnodup, hending⟩

end World
end Runbook
