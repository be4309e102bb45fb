/-
# What workers are credited with

The activity of a worker is counted where a run takes up an outcome, and nowhere else.
A task that was started is therefore not credited as long as it is in flight, and never
if its run is over by then (`Course.uncredited`): a run that fails or is stopped leaves
the others of the round behind.  Nor is a final report that panics.

| a move of a run | started | in flight | credited |
| --- | --- | --- | --- |
| it launches a task | one more | one more | |
| it launches its report | | one more | |
| it takes up an outcome | | one less | one more |
| its report panics | | one less, but lost | |

So each move keeps the balance of the table (`account_act`), and the credit of a kind of
worker falls short of what was started by exactly what is uncredited (`credit_of_kind`).
-/

import Runbook.Proofs.Dictionary
import Runbook.Proofs.Engine.Halt

namespace Runbook

/-- Whether the event tells that a task was started for a worker of the kind. -/
def JobEvent.starts (k : WorkerKind) : JobEvent → Bool
  | .taskStarted _ _ worker => worker = k
  | _ => false

/-- Whether it is for a worker of the kind. -/
def Prepared.isFor (k : WorkerKind) (p : Prepared) : Bool := p.assignment.worker = k

/-- Whether the final report has panicked. -/
def Stage.isPanicked : Stage → Bool
  | .panicked _ => true
  | _ => false

namespace Course

variable {c : Course} {k : WorkerKind}

/-- How many tasks the run has started for workers of a kind. -/
def begun (c : Course) (k : WorkerKind) : Nat := c.started.countP fun x => x.2.isFor k

/-- How much the run has begun for workers of a kind that they are not credited with: what
is in flight, and a final report that panicked. -/
def uncredited (c : Course) (k : WorkerKind) : Nat :=
  c.inFlight.countP (·.isFor k) + if k = .report ∧ c.run.stage.isPanicked then 1 else 0

/-- How many final reports a step of the run begins. -/
def reportsBy (c : Course) (o : Orchestrator) (now : Instant) : Nat :=
  if c.run.stage.startsTasks then 0 else (c.run.step o now).launched.toList.length

end Course

/-- **A run that waits for its report has nothing else in flight.** -/
theorem Scene.Reached.reporting {env : Orchestrator} {may : Run → Prop} {s : Scene}
    (h : Reached env may s) (stage : s.stage = .awaitingReport) :
    ∀ p ∈ s.course.inFlight, p.isFor .report := by
  induction h with
  | start valid => cases stage
  | stop before running allowed ih => exact ih stage
  | turn before turn ih =>
    cases turn with
    | pass pass =>
      cases pass with
      | @reportBegin worker here found =>
        intro p hp
        have hp : p ∈ _ ++ [env.prepareReport worker _] := hp
        rw [before.closing.landed here] at hp
        rw [List.mem_singleton.1 hp]
        rfl
      | finish | leave | await | close | discard | fall | fallLate | succeedLate | reportMissing
      | reportPanic | reportFail | reportDone | depart => cases stage
    | @overlook oc e n pending =>
      have stage : (if (oc.continues && e.isContinuable) = true then Stage.waiting n pending
        else .failing e) = .awaitingReport := stage
      split at stage <;> cases stage
    | succeed =>
      have stage : (if env.settings.generateReport = true then Stage.reporting else .leaving)
        = .awaitingReport := stage
      split at stage <;> cases stage
    | starve | reject | begin | launch | takeUp | complete | overcome | fail | refuse
    | refuseLate => cases stage

/-! ### What one move of a run changes -/

/-- **What is told of a turn are the tasks that it starts.** -/
theorem Turn.countP_starts {env : Orchestrator} {s s' : Scene} (h : Turn env s s')
    (k : WorkerKind) :
    s'.course.begun k + s.told.countP (JobEvent.starts k)
      = s.course.begun k + s'.told.countP (JobEvent.starts k) := by
  have hquiet : s'.course.started = s.course.started →
      s'.told.countP (JobEvent.starts k) = s.told.countP (JobEvent.starts k) →
      s'.course.begun k + s.told.countP (JobEvent.starts k)
        = s.course.begun k + s'.told.countP (JobEvent.starts k) := by
    intro hstarted htold
    rw [Course.begun, Course.begun, hstarted, htold]
  cases h with
  | pass pass =>
    refine hquiet pass.frame.past.started ?_
    cases pass <;> simp [JobEvent.starts, Scene.enter]
  | launch =>
    simp [Course.begun, Course.enter, Course.startTask, Course.launch, List.countP_append,
      JobEvent.starts, Prepared.isFor]
    omega
  | starve | reject | begin | takeUp | overlook | refuseLate => exact hquiet rfl rfl
  | complete | overcome | fail | refuse | succeed =>
    refine hquiet rfl ?_
    simp [JobEvent.starts]

namespace Run

/-- A step credits nobody. -/
theorem activity_step (r : Run) (o : Orchestrator) (now : Instant) :
    (r.step o now).orchestrator.activity = o.activity := by
  have hrecord : ∀ j task worker error continued,
      (o.recordFailure j task worker error continued now).activity = o.activity := by
    intro j task worker error continued
    rw [Orchestrator.recordFailure]
    split
    · rfl
    · exact Orchestrator.activity_emit _ _
  rw [step]
  split
  · rfl
  · split
    · rfl
    · rw [stepOn]
      split
      · rfl
      · rfl
      · rfl
      · exact Orchestrator.activity_emit _ _
      · rfl
      · rw [recordOutcome]
        split
        · exact Orchestrator.activity_emit _ _
        · exact hrecord ..
      · exact hrecord ..
      · dsimp only
        split
        · rfl
        · exact Orchestrator.activity_emit _ _
      · split
        · rfl
        · exact Orchestrator.activity_emit _ _
      · split
        · exact Orchestrator.activity_emit _ _
        · rfl
      · rfl
      · rfl
      · rfl
      · rfl
      · rfl

end Run

theorem Orchestrator.executed_countActivity (o : Orchestrator) (kind k : WorkerKind)
    (now : Instant) :
    ((o.countActivity kind now).activity k).tasksExecuted
      = (o.activity k).tasksExecuted + if k = kind then 1 else 0 := by
  rw [countActivity]
  dsimp only
  split
  · rename_i hk
    rw [hk]
  · rfl

namespace Course

variable {c : Course} {k : WorkerKind}

/-- A step neither lets a report panic nor makes up for one that did. -/
theorem isPanicked_step (r : Run) (o : Orchestrator) (now : Instant) (h : r.Quiet (r.step o now).run) :
    (r.step o now).run.stage.isPanicked = r.stage.isPanicked := by
  have hiff : ∀ stage : Stage, stage.isPanicked = true ↔ ∃ message, stage = .panicked message := by
    intro stage
    cases stage <;> simp [Stage.isPanicked]
  rw [Bool.eq_iff_iff, hiff, hiff]
  constructor
  · rintro ⟨message, hst⟩
    exact ⟨message, h.panicked message hst⟩
  · rintro ⟨message, hst⟩
    have rest : r.isAwaiting = true := by rw [Run.isAwaiting, hst]
    rw [Run.step, rest, if_pos rfl]
    exact ⟨message, hst⟩

/-- **What a step launches is uncredited.** -/
theorem uncredited_follow (c : Course) (k : WorkerKind) (o : Orchestrator) (now : Instant) :
    (c.follow (c.run.step o now)).uncredited k + c.begun k
      = c.uncredited k + (c.follow (c.run.step o now)).begun k
        + if k = .report then c.reportsBy o now else 0 := by
  rcases c.run.launched_step o now with ⟨hnone, hquiet⟩ | ⟨p, ready, n, pending, hst, hsome, hnext⟩ |
    ⟨worker, j, hst, hsome, hnext⟩
  · have hzero : c.reportsBy o now = 0 := by simp [reportsBy, hnone]
    rw [hzero, follow, hnone]
    simp [uncredited, begun, isPanicked_step c.run o now hquiet]
  · have hzero : c.reportsBy o now = 0 := by simp [reportsBy, hst, Stage.startsTasks]
    rw [hzero, follow, hsome]
    simp [uncredited, begun, hst, hnext, Stage.isPanicked, List.countP_append]
    omega
  · have hone : c.reportsBy o now = 1 := by simp [reportsBy, hst, hsome, Stage.startsTasks]
    have hkind : (o.prepareReport worker j).isFor k = decide (k = .report) := by
      rw [Prepared.isFor, decide_eq_decide]
      exact eq_comm
    rw [hone, follow, hsome]
    simp [uncredited, begun, hst, hnext, Stage.isPanicked, List.countP_append, hkind,
      List.countP_cons]
    omega

/-- What has landed is no longer in flight. -/
theorem countP_land {task : String} {p : Prepared} (hp : c.awaited? task = some p)
    (q : Prepared → Bool) :
    (c.inFlight.eraseP fun x => x.name == p.name).countP q + (if q p then 1 else 0)
      = c.inFlight.countP q := by
  rw [awaited?] at hp
  split at hp
  · have hname : (p.name == task) = true :=
      List.find?_some (p := fun x : Prepared => x.name == task) hp
    rw [(perm_cons_eraseP hp).countP_eq, List.countP_cons, eq_of_beq hname]
  · cases hp

/-- **An outcome that is taken up is credited**, unless the report panics. -/
theorem uncredited_receive {task : String} {p : Prepared} (hp : c.awaited? task = some p)
    (hreport : c.run.stage = .awaitingReport → p.isFor .report) (k : WorkerKind)
    (o : Orchestrator) (e : Option AttemptEnd) (now : Instant) :
    ((c.run.deliver o (p.outcomeOf e) now).1.activity k).tasksExecuted
        + (c.receive p e (c.run.deliver o (p.outcomeOf e) now).2).uncredited k
      = (o.activity k).tasksExecuted + c.uncredited k := by
  have hland := countP_land hp (·.isFor k)
  have takes : c.run.stage.takesOutcomes := by
    rw [awaited?] at hp
    split at hp
    · assumption
    · cases hp
  have hbefore : c.uncredited k = c.inFlight.countP (·.isFor k) := by
    have hnot : c.run.stage.isPanicked = false := by
      rcases Stage.of_takesOutcomes takes with ⟨n, pending, hst⟩ | hst <;> rw [hst] <;> rfl
    simp [uncredited, hnot]
  rw [hbefore]
  -- Whoever is credited, one less is in flight.
  have hcredited : ∀ {o' : Orchestrator} {r : Run} {kind : WorkerKind}, p.isFor kind →
      o'.activity = (o.countActivity kind now).activity → r.stage.isPanicked = false →
      (o'.activity k).tasksExecuted + (c.receive p e r).uncredited k
        = (o.activity k).tasksExecuted + c.inFlight.countP (·.isFor k) := by
    intro o' r kind hkind hactivity hcalm
    have hfor : p.isFor k = decide (k = kind) := by
      rw [Prepared.isFor, decide_eq_decide, of_decide_eq_true hkind]
      exact eq_comm
    rw [hactivity, Orchestrator.executed_countActivity]
    simp [uncredited, receive, hcalm]
    simp [hfor] at hland
    omega
  have hself : p.isFor (p.outcomeOf e).worker := by
    rcases e with _ | v | cause | message <;> exact decide_eq_true rfl
  rcases Stage.of_takesOutcomes takes with ⟨n, pending, hst⟩ | hst
  · rw [Run.deliver, hst]
    dsimp only
    split
    · exact hcredited hself rfl rfl
    · split
      · exact hcredited hself rfl rfl
      · exact hcredited hself rfl rfl
  · have hfor := hreport hst
    rw [Run.deliver, hst]
    dsimp only
    split
    · -- The report panics: it has landed, but nobody is credited.
      have hfor' : p.isFor k = decide (k = .report) := by
        rw [Prepared.isFor, decide_eq_decide, of_decide_eq_true hfor]
        exact eq_comm
      simp [hfor'] at hland
      simp [uncredited, receive, Run.enter, Stage.isPanicked]
      omega
    · exact hcredited hfor (Orchestrator.activity_emit _ _) rfl
    · split
      · exact hcredited hfor rfl rfl
      · exact hcredited hfor (Orchestrator.activity_emit _ _) rfl

end Course

namespace World

/-- How many tasks the worker of a kind is credited with. -/
def executed (s : World) (k : WorkerKind) : Nat := (s.orchestrator.activity k).tasksExecuted

/-- How many tasks the runs have started for workers of a kind. -/
def begun (s : World) (k : WorkerKind) : Nat := s.courses.total fun c => c.begun k

/-- How much of it is uncredited. -/
def uncredited (s : World) (k : WorkerKind) : Nat := s.courses.total fun c => c.uncredited k

/-- How many events tell that a task was started for a worker of a kind. -/
def starts (s : World) (k : WorkerKind) : Nat :=
  s.orchestrator.events.countP (JobEvent.starts k)

/-- How many final reports a move begins. -/
def reportsBy (s : World) : Move → Nat
  | .step jobId now => ((s.courses.get? jobId).map fun c => c.reportsBy s.orchestrator now).getD 0
  | _ => 0

/-- How many final reports some moves begin. -/
def reportsBegun (s : World) : List Move → Nat
  | [] => 0
  | m :: ms => s.reportsBy m + (s.act m).reportsBegun ms

/-- **A move keeps the balance** of what is begun, credited and uncredited. -/
structure Balances (s : World) (m : Move) (k : WorkerKind) : Prop where
  credit : (s.act m).executed k + (s.act m).uncredited k + s.begun k
    = s.executed k + s.uncredited k + (s.act m).begun k + if k = .report then s.reportsBy m else 0
  told : s.orchestrator.listening →
    (s.act m).begun k + s.starts k = s.begun k + (s.act m).starts k

variable {env : Orchestrator} {s : World} {m : Move} {k : WorkerKind}

/-- Where no course changes and nobody is credited, only what is told matters. -/
theorem Balances.of_same (hcourses : (s.act m).courses = s.courses)
    (hactivity : (s.act m).orchestrator.activity = s.orchestrator.activity)
    (hstarts : (s.act m).starts k = s.starts k) (hreports : s.reportsBy m = 0) :
    s.Balances m k where
  credit := by
    simp [executed, uncredited, begun, hcourses, hactivity, hreports]
  told := fun _ => by simp [begun, hcourses, hstarts]

/-- One course takes the place of another. -/
theorem total_insert {id : String} {c : Course} (hc : s.courses.get? id = some c) (c' : Course)
    (f : Course → Nat) :
    (s.courses.insert id c').total f + f c = s.courses.total f + f c' := by
  simpa [hc] using s.courses.total_insert f id c'

/-- A registered workflow changes nothing of it. -/
theorem balances_register (w : Workflow) (hact : s.act m = s.register w)
    (hreports : s.reportsBy m = 0) : s.Balances m k := by
  have hsame : (s.register w).courses = s.courses ∧
      (s.register w).orchestrator.activity = s.orchestrator.activity ∧
      (s.register w).orchestrator.events = s.orchestrator.events := by
    rcases s.register_cases w with ⟨-, hact⟩ | hact <;> rw [hact] <;> exact ⟨rfl, rfl, rfl⟩
  refine .of_same (hact ▸ hsame.1) (hact ▸ hsame.2.1) ?_ hreports
  rw [starts, starts, hact, hsame.2.2]

/-- A course that has just begun has nothing in it. -/
theorem balances_start {workflowId jobId : String} {parameters : Dict Json} {now : Instant} :
    s.Balances (.start workflowId jobId parameters now) k := by
  cases hc : s.courses.get? jobId with
  | some c =>
    have hact : s.act (.start workflowId jobId parameters now) = s := by rw [act, hc]
    exact .of_same (by rw [hact]) (by rw [hact]) (by rw [hact]) rfl
  | none =>
    cases hw : s.orchestrator.workflows.get? workflowId with
    | none =>
      have hact : s.act (.start workflowId jobId parameters now) = s := by
        rw [act, hc, Orchestrator.start_of_unknown hw]
      exact .of_same (by rw [hact]) (by rw [hact]) (by rw [hact]) rfl
    | some w =>
      have hact : s.act (.start workflowId jobId parameters now) =
          ⟨({ s.orchestrator with jobs := s.orchestrator.jobs ++ [.new jobId w parameters now] } :
              Orchestrator).emit (.jobStarted jobId w.id),
            s.courses.insert jobId { workflow := w, run := ⟨jobId, .round w.tasks⟩ }⟩ := by
        rw [act, hc, hw, Orchestrator.start, hw]
      have hnew : ∀ f : Course → Nat, f { workflow := w, run := ⟨jobId, .round w.tasks⟩ } = 0 →
          (s.courses.insert jobId { workflow := w, run := ⟨jobId, .round w.tasks⟩ }).total f
            = s.courses.total f := by
        intro f hf
        simpa [hc, hf] using s.courses.total_insert f jobId
          { workflow := w, run := ⟨jobId, .round w.tasks⟩ }
      have huncredited : (s.act (.start workflowId jobId parameters now)).uncredited k
          = s.uncredited k := by
        rw [hact]
        exact hnew _ (by simp [Course.uncredited, Stage.isPanicked])
      have hbegun : (s.act (.start workflowId jobId parameters now)).begun k = s.begun k := by
        rw [hact]
        exact hnew _ rfl
      constructor
      · rw [huncredited, hbegun, hact]
        simp [executed, Orchestrator.activity_emit, reportsBy]
      · intro hl
        rw [hbegun, hact]
        simp [starts, Orchestrator.emit, hl, JobEvent.starts]

/-- A stop changes nothing of it. -/
theorem balances_stop {jobId : String} {now : Instant} : s.Balances (.stop jobId now) k := by
  rcases s.stop_cases jobId now with ⟨j', o, ho, -⟩ | hact
  · obtain ⟨j, hj, running, -, -⟩ := Orchestrator.changes_of_stop ho
    have hstops := stops_of_running hj running now
    refine .of_same hstops.courses hstops.activity ?_ rfl
    rw [starts, starts, hstops.events]
    split <;> simp [JobEvent.starts]
  · exact .of_same (by rw [hact]) (by rw [hact]) (by rw [hact]) rfl

/-- The run of a job makes a move of its own. -/
theorem balances_own (h : s.Tracked env fun _ _ => True) {id : String} {c c' : Course}
    {o' : Orchestrator} (hc : s.courses.get? id = some c)
    (hact : s.act m = ⟨o', s.courses.insert id c'⟩)
    (hadv : ∀ j, s.orchestrator.job? c.run.jobId = some j →
      Run.Advances env s.orchestrator o' j c c' [])
    (hcredit : (o'.activity k).tasksExecuted + c'.uncredited k + c.begun k
      = s.executed k + c.uncredited k + c'.begun k + if k = .report then s.reportsBy m else 0) :
    s.Balances m k := by
  have huncredited := total_insert hc c' fun c => c.uncredited k
  have hbegun := total_insert hc c' fun c => c.begun k
  constructor
  · simp only [hact, executed, uncredited, begun] at hcredit ⊢
    omega
  · intro hl
    obtain ⟨hid, j, told, hj, -, -⟩ := h.scene id c hc
    obtain ⟨j', es, ch, hturn⟩ := hadv j (hid ▸ hj)
    have hevents : (s.act m).starts k = s.starts k + es.countP (JobEvent.starts k) := by
      rw [starts, hact, ch.events, if_pos hl, List.countP_append]
      rfl
    have htold : c'.begun k = c.begun k + es.countP (JobEvent.starts k) := by
      rcases hturn with ⟨-, rfl, rfl⟩ | hturn
      · simp
      · simpa using hturn.countP_starts k
    rw [hevents, hact]
    simp only [begun]
    omega

/-- **Every move keeps the balance.** -/
theorem Tracked.account_act (h : s.Tracked env fun _ _ => True) (m : Move) (k : WorkerKind) :
    s.Balances m k := by
  cases m with
  | register w => exact balances_register w rfl rfl
  | load path text =>
    cases text with
    | error detail => exact .of_same rfl rfl rfl rfl
    | ok text => exact balances_register _ rfl rfl
  | start workflowId jobId parameters now => exact balances_start
  | stop jobId now => exact balances_stop
  | step jobId now =>
    cases hc : s.courses.get? jobId with
    | none =>
      have hact : s.act (.step jobId now) = s := by rw [World.act, hc]
      exact .of_same (by rw [hact]) (by rw [hact]) (by rw [hact]) (by rw [reportsBy, hc]; rfl)
    | some c =>
      have hact : s.act (.step jobId now) = ⟨(c.run.step s.orchestrator now).orchestrator,
          s.courses.insert jobId (c.follow (c.run.step s.orchestrator now))⟩ := by rw [World.act, hc]
      refine balances_own h hc hact (fun j hj => ?_) ?_
      · exact Run.advances_step h.registry h.settings hj now []
      · have hflow := c.uncredited_follow k s.orchestrator now
        have hreports : s.reportsBy (.step jobId now) = c.reportsBy s.orchestrator now := by
          rw [reportsBy, hc]
          rfl
        rw [Run.activity_step, hreports, executed]
        omega
  | deliver jobId task e now =>
    cases hc : s.courses.get? jobId with
    | none =>
      have hact : s.act (.deliver jobId task e now) = s := by rw [World.act, hc]
      exact .of_same (by rw [hact]) (by rw [hact]) (by rw [hact]) rfl
    | some c =>
      cases hp : c.awaited? task with
      | none =>
        have hact : s.act (.deliver jobId task e now) = s := by
          rw [World.act, hc]
          dsimp only
          rw [hp]
        exact .of_same (by rw [hact]) (by rw [hact]) (by rw [hact]) rfl
      | some p =>
        have hact : s.act (.deliver jobId task e now) =
            ⟨(c.run.deliver s.orchestrator (p.outcomeOf e) now).1, s.courses.insert jobId
              (c.receive p e (c.run.deliver s.orchestrator (p.outcomeOf e) now).2)⟩ := by
          rw [World.act, hc]
          dsimp only
          rw [hp]
        refine balances_own h hc hact (fun j hj => ?_) ?_
        · exact Run.advances_deliver hj hp e now []
        · obtain ⟨-, j, told, -, hreach, -⟩ := h.scene jobId c hc
          have hflow := c.uncredited_receive hp (fun hst => ?_) k s.orchestrator e now
          · have hbegun : (c.receive p e (c.run.deliver s.orchestrator (p.outcomeOf e) now).2
                ).begun k = c.begun k := rfl
            have hreports : s.reportsBy (.deliver jobId task e now) = 0 := rfl
            rw [hbegun, hreports, executed]
            simp only [ite_self]
            omega
          · refine hreach.reporting hst p ?_
            rw [Course.awaited?] at hp
            split at hp
            · exact List.mem_of_find?_eq_some hp
            · cases hp

/-- Moves keep the balance that there was. -/
theorem Tracked.account_play (h : s.Tracked env fun _ _ => True) (moves : List Move)
    (k : WorkerKind) :
    (s.play moves).executed k + (s.play moves).uncredited k + s.begun k
        = s.executed k + s.uncredited k + (s.play moves).begun k
          + (if k = .report then s.reportsBegun moves else 0) ∧
      (env.listening → (s.play moves).begun k + s.starts k = s.begun k + (s.play moves).starts k) := by
  induction moves generalizing s with
  | nil => simp [World.play, reportsBegun]
  | cons m ms ih =>
    obtain ⟨hcredit, htold⟩ := h.account_act m k
    obtain ⟨ihcredit, ihtold⟩ := ih (h.act_freely m)
    rw [play_cons, reportsBegun]
    refine ⟨?_, fun hl => ?_⟩
    · by_cases hk : k = .report <;> simp only [hk, if_true, if_false] at hcredit ihcredit ⊢ <;>
        omega
    · have hfirst := htold (h.listening ▸ hl)
      have hrest := ihtold hl
      omega

/-- A run that is over leaves behind what it has in flight. -/
theorem course_of_over {id : String} {c : Course} (hc : s.courses.get? id = some c)
    (hover : c.run.isOver) (moves : List Move) : (s.play moves).courses.get? id = some c := by
  have rest : c.run.isAwaiting := Run.isAwaiting_of_isOver hover
  have hnot : c.run.stage.takesOutcomes = false := by
    rcases Run.stage_of_isOver hover with ⟨e, hst⟩ | ⟨j, hst⟩ | ⟨message, hst⟩ <;> rw [hst] <;> rfl
  induction moves generalizing s with
  | nil => exact hc
  | cons m ms ih =>
    refine ih ?_
    by_cases hown : m.job? = some id
    · cases m with
      | register w => cases hown
      | load path text => cases hown
      | start workflowId jobId parameters now =>
        cases hown
        rw [act, hc]
        exact hc
      | stop jobId now => exact hc
      | step jobId now =>
        cases hown
        rw [act, hc]
        refine (s.courses.get?_insert id id _).trans ?_
        rw [if_pos rfl, Course.follow_of_isAwaiting rest]
      | deliver jobId task e now =>
        cases hown
        rw [act_deliver_of_not_takes hc hnot]
        exact hc
    · have hstep : ∀ now, m ≠ .step id now := fun now he => hown (by rw [he]; rfl)
      have hdeliver : ∀ task e now, m ≠ .deliver id task e now := fun task e now he =>
        hown (by rw [he]; rfl)
      rcases courses_act (fun now he => absurd he (hstep now))
        (fun task e now he => absurd he (hdeliver task e now)) with hsame | ⟨hnone, -⟩
      · exact hsame.trans hc
      · rw [hc] at hnone
        cases hnone

/-- Nothing is uncredited where every course has nothing of the kind in flight and none has a
report that panicked. -/
theorem uncredited_eq_zero_iff :
    s.uncredited k = 0 ↔ ∀ id c, s.courses.get? id = some c →
      (∀ p ∈ c.inFlight, p.assignment.worker ≠ k) ∧ ¬(k = .report ∧ c.run.stage.isPanicked) := by
  have hcourse : ∀ c : Course, c.uncredited k = 0 ↔
      (∀ p ∈ c.inFlight, p.assignment.worker ≠ k) ∧ ¬(k = .report ∧ c.run.stage.isPanicked) := by
    intro c
    simp [Course.uncredited, List.countP_eq_zero, Prepared.isFor]
  rw [uncredited, Dict.total_eq_zero_iff]
  exact forall_congr' fun id => forall_congr' fun c => imp_congr_right fun _ => hcourse c

/-- **What a worker is credited with.**  After any moves, the worker of a kind has been
credited with all tasks that were started for it and with the final reports, if it writes
those, but for what is uncredited: what is in flight, and reports that panicked.  So the
credit is full exactly if there is no such thing.  And where a run is over, what it left
in flight stays so, whatever comes of it. -/
theorem credit_of_kind (registry : Registry) (settings : EngineSettings) (listening : Bool)
    (moves : List Move) (s : World) (hs : s = (initial registry settings listening).play moves)
    (status : WorkerStatus) (registered : status ∈ s.orchestrator.workerStatus) :
    status.activity.tasksExecuted + s.uncredited status.kind
        = s.begun status.kind + (if status.kind = .report then
          (initial registry settings listening).reportsBegun moves else 0) ∧
      (listening → s.begun status.kind = s.starts status.kind) ∧
      (status.activity.tasksExecuted = s.begun status.kind + (if status.kind = .report then
          (initial registry settings listening).reportsBegun moves else 0) ↔
        ∀ id c, s.courses.get? id = some c →
          (∀ p ∈ c.inFlight, p.assignment.worker ≠ status.kind) ∧
            ¬(status.kind = .report ∧ c.run.stage.isPanicked)) ∧
      ∀ id c, s.courses.get? id = some c → c.run.isOver → ∀ more : List Move,
        (s.play more).courses.get? id = some c := by
  subst hs
  obtain ⟨hcredit, htold⟩ := (tracked_initial registry settings listening
    fun _ _ => True).account_play moves status.kind
  have hexecuted : status.activity.tasksExecuted
      = ((initial registry settings listening).play moves).executed status.kind := by
    obtain ⟨kind, -, hkind⟩ := List.mem_filterMap.1 registered
    obtain ⟨worker, -, rfl⟩ := Option.map_eq_some_iff.1 hkind
    rfl
  have hzero : (initial registry settings listening).executed status.kind = 0 ∧
      (initial registry settings listening).uncredited status.kind = 0 ∧
      (initial registry settings listening).begun status.kind = 0 ∧
      (initial registry settings listening).starts status.kind = 0 := ⟨rfl, rfl, rfl, rfl⟩
  rw [hexecuted, ← uncredited_eq_zero_iff]
  refine ⟨by omega, fun hl => ?_, by omega, fun id c hc hover more => course_of_over hc hover more⟩
  have htold := htold hl
  omega

/-- In the sample, the worker has ended two tasks by the end of the first round and is
credited with both. -/
theorem credit_of_kind_sample :
    ∃ status ∈ (Sample.world Sample.firstRound).orchestrator.workerStatus,
      status.kind = .general ∧
        status.activity.tasksExecuted + (Sample.world Sample.firstRound).uncredited status.kind
          = (Sample.world Sample.firstRound).begun status.kind + 0 ∧
        (Sample.world Sample.firstRound).begun status.kind = 2 := by
  obtain ⟨status, hmem, hkind⟩ : ∃ status ∈
      (Sample.world Sample.firstRound).orchestrator.workerStatus, status.kind = .general :=
    ⟨_, List.mem_cons_self, rfl⟩
  have hcredit := (credit_of_kind (.ofList [Sample.worker]) {} true (Sample.moves Sample.firstRound)
    _ rfl status hmem).1
  rw [if_neg (by rw [hkind]; decide)] at hcredit
  exact ⟨status, hmem, hkind, hcredit, by rw [hkind]; rfl⟩

end World

namespace Sample

/-- Two tasks are in flight.  The first one fails and ends the job, the second one ends well
after that. -/
def abandoned : List Deed :=
  [.move (.register workflow), .move (.start "sample" "job" .empty ⟨0⟩), .move (step 1),
    .move (step 1), .move (step 1), .move (step 1), .begin "survey", .begin "probe",
    .finish "survey" (.error (.failed "no signal")), .take "survey" ⟨2⟩, .move (step 2),
    .move (step 2), .finish "probe" (.value .null)]

end Sample

namespace Workshop

/-- **A task that is left behind is not credited.**  In the sample, the run is over, all
attempts have come to an end, and two tasks were started; the worker is credited with one. -/
theorem abandoned_task_uncredited :
    (∃ c, (Sample.empty.play "job" Sample.abandoned).course? "job" = some c ∧ c.run.isOver) ∧
      (∀ a ∈ (Sample.empty.play "job" Sample.abandoned).efforts, ∃ e, a.standing = .ended e) ∧
      (Sample.empty.play "job" Sample.abandoned).reports = [] ∧
      (Sample.empty.play "job" Sample.abandoned).world.starts .general = 2 ∧
      ∃ status ∈ (Sample.empty.play "job" Sample.abandoned).world.orchestrator.workerStatus,
        status.kind = .general ∧ status.activity.tasksExecuted = 1 := by
  refine ⟨?_, ?_, rfl, rfl, _, List.mem_cons_self, rfl, rfl⟩
  · have hover : ((Sample.empty.play "job" Sample.abandoned).course? "job").map (·.run.isOver)
        = some true := rfl
    exact Option.map_eq_some_iff.1 hover
  · have hefforts : (Sample.empty.play "job" Sample.abandoned).efforts.map (·.standing)
        = [.ended (some (.value .null))] := rfl
    intro a ha
    have hmem := List.mem_map_of_mem (f := (·.standing)) ha
    rw [hefforts] at hmem
    exact ⟨_, List.mem_singleton.1 hmem⟩

end Workshop
end Runbook
