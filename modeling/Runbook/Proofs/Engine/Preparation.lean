/-
# A round is prepared as a whole

Before any task of a round is started, all tasks that are ready are made ready for
their workers, in the order of their definitions.

| the ready tasks | what the run does |
| --- | --- |
| all are fit (`Task.IsFit`) | it starts every one of them (`Scene.Starts`) |
| one is hindered (`Task.Hindered`) | it starts none and fails with its error (`Scene.Refusing`) |

Which of the two happens is decided by the step that begins the round, and with what
error by the first of the tasks that is hindered (`prepareAll_of_hindered`).  Neither
the retries of that task nor its being continued has a say in it.
-/

import Runbook.Proofs.Engine.Halt

namespace Runbook

/-- A task can be made ready: its references have values where they must, and there is a
worker for it that accepts its assignment. -/
structure Task.IsFit (t : Task) (o : Orchestrator) (jobId : String) (scope : Scope) : Prop where
  resolves : o.settings.strictReferences → scope.unresolved t = []
  passes : ∃ worker, o.registry.worker? t.worker = some worker ∧
    (worker.check (t.assignment jobId scope)).valid = true

/-- A task cannot be made ready, and the error that this gives. -/
inductive Task.Hindered (t : Task) (o : Orchestrator) (jobId : String) (scope : Scope) :
    ExecutionError → Prop where
  /-- A reference has no value. -/
  | reference {reference : String} {others : List String} (strict : o.settings.strictReferences)
      (unknown : scope.unresolved t = reference :: others) :
      Hindered t o jobId scope (.unresolvedReference t.name reference)
  /-- There is no worker of its kind. -/
  | worker (resolves : o.settings.strictReferences → scope.unresolved t = [])
      (missing : o.registry.worker? t.worker = none) :
      Hindered t o jobId scope (.workerNotFound t.name t.worker)
  /-- The worker does not accept the assignment. -/
  | check {worker : Worker} (resolves : o.settings.strictReferences → scope.unresolved t = [])
      (found : o.registry.worker? t.worker = some worker)
      (faulty : (worker.check (t.assignment jobId scope)).valid = false) :
      Hindered t o jobId scope
        (.taskInvalid t.name (worker.check (t.assignment jobId scope)).errors)

namespace Orchestrator

variable {o : Orchestrator} {jobId : String} {scope : Scope} {t : Task}

/-- Where references must have values, one without a value comes first. -/
theorem reference?_eq_none (resolves : o.settings.strictReferences → scope.unresolved t = []) :
    (if o.settings.strictReferences then (scope.unresolved t).head? else none) = none := by
  split
  · rename_i strict
    simp [resolves strict]
  · rfl

/-- A task that is fit is made ready. -/
theorem prepare_of_fit (h : t.IsFit o jobId scope) :
    ∃ p, o.prepare jobId scope t = .ok p ∧ p.assignment = t.assignment jobId scope := by
  obtain ⟨worker, hworker, hcheck⟩ := h.passes
  refine ⟨o.readied t worker (t.assignment jobId scope), ?_, rfl⟩
  rw [prepare_eq, reference?_eq_none h.resolves]
  simp [hworker, hcheck]

/-- A task that is hindered gives its error. -/
theorem prepare_of_hindered {e : ExecutionError} (h : t.Hindered o jobId scope e) :
    o.prepare jobId scope t = .error e := by
  rw [prepare_eq]
  cases h with
  | reference strict unknown => simp [strict, unknown]
  | worker resolves missing => simp [reference?_eq_none resolves, missing]
  | check resolves found faulty => simp [reference?_eq_none resolves, found, faulty]

/-- **Every task is fit or hindered.** -/
theorem fit_or_hindered (o : Orchestrator) (jobId : String) (scope : Scope) (t : Task) :
    t.IsFit o jobId scope ∨ ∃ e, t.Hindered o jobId scope e := by
  by_cases hopen : o.settings.strictReferences = true ∧ scope.unresolved t ≠ []
  · obtain ⟨strict, hne⟩ := hopen
    obtain ⟨reference, others, hcons⟩ := List.exists_cons_of_ne_nil hne
    exact Or.inr ⟨_, .reference strict hcons⟩
  · have resolves : o.settings.strictReferences → scope.unresolved t = [] := by
      intro strict
      by_contra hne
      exact hopen ⟨strict, hne⟩
    cases hworker : o.registry.worker? t.worker with
    | none => exact Or.inr ⟨_, .worker resolves hworker⟩
    | some worker =>
      cases hcheck : (worker.check (t.assignment jobId scope)).valid with
      | true => exact Or.inl ⟨resolves, worker, hworker, hcheck⟩
      | false => exact Or.inr ⟨_, .check resolves hworker hcheck⟩

/-- No task is both. -/
theorem not_fit_of_hindered {e : ExecutionError} (h : t.Hindered o jobId scope e) :
    ¬ t.IsFit o jobId scope := by
  intro hfit
  obtain ⟨p, hp, -⟩ := prepare_of_fit hfit
  rw [prepare_of_hindered h] at hp
  cases hp

/-- Tasks that are all fit are made ready one for one. -/
theorem prepareAll_of_fit {ts : List Task} (h : ∀ t ∈ ts, t.IsFit o jobId scope) :
    ∃ ps, o.prepareAll jobId scope ts = .ok ps ∧
      ps.map (·.assignment) = ts.map fun t => t.assignment jobId scope := by
  induction ts with
  | nil => exact ⟨[], rfl, rfl⟩
  | cons t ts ih =>
    obtain ⟨p, hp, hassigned⟩ := prepare_of_fit (h t List.mem_cons_self)
    obtain ⟨ps, hps, hall⟩ := ih fun u hu => h u (List.mem_cons_of_mem t hu)
    refine ⟨p :: ps, ?_, ?_⟩
    · rw [prepareAll, hp, hps]
      rfl
    · simp [hassigned, hall]

/-- **The first task that is hindered decides the error.** -/
theorem prepareAll_of_hindered {l r : List Task} {e : ExecutionError}
    (hl : ∀ u ∈ l, u.IsFit o jobId scope) (ht : t.Hindered o jobId scope e) :
    o.prepareAll jobId scope (l ++ t :: r) = .error (t, e) := by
  induction l with
  | nil => rw [List.nil_append, prepareAll, prepare_of_hindered ht]
  | cons u l ih =>
    obtain ⟨p, hp, -⟩ := prepare_of_fit (hl u List.mem_cons_self)
    rw [List.cons_append, prepareAll, hp, ih fun v hv => hl v (List.mem_cons_of_mem u hv)]
    rfl

/-- All tasks are fit, or there is a first that is not. -/
theorem all_fit_or_first_hindered (o : Orchestrator) (jobId : String) (scope : Scope)
    (ts : List Task) :
    (∀ t ∈ ts, t.IsFit o jobId scope) ∨ ∃ l t r e, ts = l ++ t :: r ∧
      (∀ u ∈ l, u.IsFit o jobId scope) ∧ t.Hindered o jobId scope e := by
  induction ts with
  | nil => exact Or.inl fun t ht => absurd ht List.not_mem_nil
  | cons t ts ih =>
    rcases fit_or_hindered o jobId scope t with hfit | ⟨e, hhindered⟩
    · rcases ih with hall | ⟨l, u, r, e, rfl, hl, hu⟩
      · exact Or.inl (List.forall_mem_cons.2 ⟨hfit, hall⟩)
      · exact Or.inr ⟨t :: l, u, r, e, rfl, List.forall_mem_cons.2 ⟨hfit, hl⟩, hu⟩
    · exact Or.inr ⟨[], t, ts, e, rfl, fun u hu => absurd hu List.not_mem_nil, hhindered⟩

end Orchestrator

/-! ### Turns of a round that begins -/

/-- The tasks that are ready for the next round, in the order of their definitions. -/
def Job.readyOf (j : Job) (pending : List Task) : List Task :=
  pending.filter fun t => t.isReady j.completedTasks

/-- The ready tasks are those that a run parts from the others. -/
theorem Job.partition_isReady (j : Job) (pending : List Task) :
    (pending.partition fun t => t.isReady j.completedTasks).1 = j.readyOf pending := by
  rw [List.partition_eq_filter_filter]
  rfl

/-- The values that references can name while the job is so. -/
def Job.scope (j : Job) : Scope := ⟨j.parameters, j.results⟩

/-- All that a run can do while it starts tasks is to start the next one, or to wait. -/
theorem Turn.of_starting {env : Orchestrator} {s s' : Scene} (h : Turn env s s')
    {ready : List Prepared} {n : Nat} {pending : List Task}
    (stage : s.stage = .starting ready n pending) :
    ready = [] ∧ s' = s.enter (.waiting n pending) ∨
      ∃ p rest, ready = p :: rest ∧ s'.stage = .starting rest (n + 1) pending ∧
        s'.course.started = s.course.started ++ [(s.course.rounds, p)] ∧
        s'.course.rounds = s.course.rounds := by
  cases h with
  | pass pass =>
    cases pass with
    | await here =>
      cases stage.symm.trans here
      exact Or.inl ⟨rfl, rfl⟩
    | finish here | leave here | close here | discard here | fall here | fallLate here
    | succeedLate here | reportMissing here | reportBegin here | reportPanic here
    | reportFail here | reportDone here | depart here => cases stage.symm.trans here
  | launch here =>
    cases stage.symm.trans here
    exact Or.inr ⟨_, _, rfl, rfl, rfl, rfl⟩
  | starve here | reject here | begin here | takeUp here | complete here | overcome here
  | fail here | overlook here | refuse here | refuseLate here | succeed here =>
    cases stage.symm.trans here

/-- All that a run can do with a task that could not be made ready is to record that, unless
the job has ended. -/
theorem Turn.of_rejecting {env : Orchestrator} {s s' : Scene} (h : Turn env s s') {t : Task}
    {e : ExecutionError} (stage : s.stage = .rejecting t e) :
    s'.course = s.course.enter (.failing e) ∧
      (s.job.isTerminal = true ∧ s'.job = s.job ∧ s'.told = s.told ∨
        s.job.isTerminal = false ∧ ∃ now,
          s'.job = s.job.failTask t.name ⟨t.worker, e.message, now⟩ false ∧
          s'.told = s.told ++ [.taskFailed s.id t.name t.worker e.message false]) := by
  cases h with
  | pass pass =>
    cases pass with
    | await here | finish here | leave here | close here | discard here | fall here
    | fallLate here | succeedLate here | reportMissing here | reportBegin here
    | reportPanic here | reportFail here | reportDone here | depart here =>
      cases stage.symm.trans here
  | @refuse _ _ now here running =>
    cases stage.symm.trans here
    exact ⟨rfl, Or.inr ⟨running, now, rfl, rfl⟩⟩
  | refuseLate here terminal =>
    cases stage.symm.trans here
    exact ⟨rfl, Or.inl ⟨terminal, rfl, rfl⟩⟩
  | launch here | starve here | reject here | begin here | takeUp here | complete here
  | overcome here | fail here | overlook here | succeed here => cases stage.symm.trans here

/-- All that a failing run can do is to fail its job, unless the job has ended. -/
theorem Turn.of_failing {env : Orchestrator} {s s' : Scene} (h : Turn env s s')
    {e : ExecutionError} (stage : s.stage = .failing e) :
    s'.course = s.course.enter (.ended (.error e)) ∧
      (s.job.isTerminal = true ∧ s'.job = s.job ∧ s'.told = s.told ∨
        s.job.isTerminal = false ∧ ∃ now,
          s'.job = { s.job.endedAs .failed now with error := some e.message } ∧
          s'.told = s.told ++ [.jobFailed s.id e.message]) := by
  cases h with
  | pass pass =>
    cases pass with
    | @fall _ now here running =>
      cases stage.symm.trans here
      exact ⟨rfl, Or.inr ⟨running, now, rfl, rfl⟩⟩
    | fallLate here terminal =>
      cases stage.symm.trans here
      exact ⟨rfl, Or.inl ⟨terminal, rfl, rfl⟩⟩
    | await here | finish here | leave here | close here | discard here | succeedLate here
    | reportMissing here | reportBegin here | reportPanic here | reportFail here
    | reportDone here | depart here => cases stage.symm.trans here
  | launch here | starve here | reject here | begin here | takeUp here | complete here
  | overcome here | fail here | overlook here | refuse here | refuseLate here | succeed here =>
    cases stage.symm.trans here

/-- What has been started stays started. -/
theorem Turn.started_prefix {env : Orchestrator} {s s' : Scene} (h : Turn env s s') :
    s.course.started <+: s'.course.started := by
  cases h with
  | pass pass => exact pass.frame.past.started ▸ List.prefix_rfl
  | launch => exact List.prefix_append _ _
  | _ => exact List.prefix_rfl

/-- The stages of a run that could not make a task ready, by how many are left after them. -/
def Stage.refusal (t : Task) (e : ExecutionError) : Nat → Stage
  | 0 => .ended (.error e)
  | 1 => .failing e
  | _ + 2 => .rejecting t e

namespace Scene

/-- **The prepared tasks of a round are being started.**  Of those that the run prepared in
the scene `x`, the given number is left, or they have all been started. -/
inductive Starts (x : Scene) (ps : List Prepared) (n : Nat) (y : Scene) : Prop where
  | starting {l r : List Prepared} {count : Nat} {pending : List Task} (split : ps = l ++ r)
      (left : n = r.length) (stage : y.stage = .starting r count pending)
      (rounds : y.course.rounds = x.course.rounds + 1)
      (started : y.course.started = x.course.started ++ l.map fun p => (x.course.rounds + 1, p))
  | done (left : n = 0)
      (started : x.course.started ++ ps.map (fun p => (x.course.rounds + 1, p))
        <+: y.course.started)

namespace Starts

variable {x y y' : Scene} {ps : List Prepared} {n : Nat}

/-- A turn starts the next of them. -/
theorem turn (h : x.Starts ps n y) {env : Orchestrator} (ht : Turn env y y') :
    x.Starts ps (n - 1) y' := by
  cases h with
  | @starting l r count pending split left stage rounds started =>
    rcases ht.of_starting stage with ⟨rfl, rfl⟩ | ⟨p, rest, rfl, hstage, hstarted, hrounds⟩
    · refine .done (by simp [left]) ?_
      rw [split, List.append_nil, ← started]
      exact List.prefix_rfl
    · refine .starting (l := l ++ [p]) (by simp [split]) (by simp [left]) hstage
        (hrounds.trans rounds) ?_
      rw [hstarted, started, rounds]
      simp
  | done left started => exact .done (by omega) (started.trans ht.started_prefix)

/-- A stop changes nothing about it. -/
theorem stop (h : x.Starts ps n y) (now : Instant) : x.Starts ps n (y.stop now) := by
  cases h with
  | starting split left stage rounds started => exact .starting split left stage rounds started
  | done left started => exact .done left started

/-- When none is left, all have been started. -/
theorem prefix_of_zero (h : x.Starts ps 0 y) :
    x.course.started ++ ps.map (fun p => (x.course.rounds + 1, p)) <+: y.course.started := by
  cases h with
  | starting split left stage rounds started =>
    rw [List.length_eq_zero_iff.1 left.symm, List.append_nil] at split
    exact started ▸ split ▸ List.prefix_rfl
  | done left started => exact started

/-- As long as one is left, the run does not wait. -/
theorem moves (h : x.Starts ps (n + 1) y) : y.course.run.isAwaiting = false := by
  cases h with
  | starting split left stage =>
    rw [Run.isAwaiting, show y.course.run.stage = _ from stage]
  | done left => cases left

end Starts

/-- **A job is blamed for a task.**  The task could not be made ready while the job was `j`.
What is left to do is to record the task and to fail, or only to fail, or nothing; and
if somebody stopped the job in between, it stays as it was by then. -/
inductive Blamed (j : Job) (told : List JobEvent) (t : Task) (e : ExecutionError) (may : Prop) :
    Nat → Job → List JobEvent → Prop where
  | untouched : Blamed j told t e may 2 j told
  | recorded (now : Instant) :
      Blamed j told t e may 1 (j.failTask t.name ⟨t.worker, e.message, now⟩ false)
        (told ++ [.taskFailed j.id t.name t.worker e.message false])
  | failed (now now' : Instant) :
      Blamed j told t e may 0
        { (j.failTask t.name ⟨t.worker, e.message, now⟩ false).endedAs .failed now' with
          error := some e.message }
        (told ++ [.taskFailed j.id t.name t.worker e.message false, .jobFailed j.id e.message])
  | stopped {k n : Nat} {j' : Job} {told' : List JobEvent} {now : Instant} (who : may)
      (before : Blamed j told t e may k j' told') (later : n ≤ k) :
      Blamed j told t e may n (j'.endedAs .stopped now) (told' ++ [.jobStopped j.id])

namespace Blamed

variable {j j' : Job} {told told' : List JobEvent} {t : Task} {e : ExecutionError} {may : Prop}
  {n : Nat}

/-- What the job has of other tasks does not change. -/
theorem same (h : Blamed j told t e may n j' told') :
    j'.completedTasks = j.completedTasks ∧ j'.results = j.results ∧
      j'.currentTasks = j.currentTasks := by
  induction h with
  | untouched | recorded now | failed now now' => exact ⟨rfl, rfl, rfl⟩
  | stopped who before later ih => exact ih

/-- No other task is blamed. -/
theorem only (h : Blamed j told t e may n j' told') :
    j'.failedTasks = j.failedTasks ∧ j'.failures = j.failures ∨
      j'.failedTasks = j.failedTasks.insert t.name ∧
        ∃ now, j'.failures = j.failures.insert t.name ⟨t.worker, e.message, now⟩ := by
  induction h with
  | untouched => exact Or.inl ⟨rfl, rfl⟩
  | recorded now | failed now now' => exact Or.inr ⟨rfl, now, rfl⟩
  | stopped who before later ih => exact ih

/-- Somebody stopped a job that is stopped. -/
theorem who_of_stopped (h : Blamed j told t e may n j' told') (running : j.status = .running)
    (hs : j'.status = .stopped) : may := by
  cases h with
  | untouched | recorded now =>
    have hs : j.status = .stopped := hs
    rw [running] at hs
    cases hs
  | failed now now' => cases hs
  | stopped who before later => exact who

/-- A job that nobody stopped has failed by the task once nothing is left to do. -/
theorem failed_of_zero (h : Blamed j told t e may 0 j' told') (hs : j'.status ≠ .stopped) :
    ∃ now now', j' = { (j.failTask t.name ⟨t.worker, e.message, now⟩ false).endedAs .failed now'
        with error := some e.message } ∧
      told' = told ++ [.taskFailed j.id t.name t.worker e.message false,
        .jobFailed j.id e.message] := by
  cases h with
  | failed now now' => exact ⟨now, now', rfl, rfl⟩
  | stopped who before later => exact absurd rfl hs

/-- A job that has ended is blamed no further. -/
theorem late (h : Blamed j told t e may (n + 1) j' told') (running : j.isTerminal = false)
    (terminal : j'.isTerminal) : Blamed j told t e may n j' told' := by
  cases h with
  | untouched | recorded now =>
    have terminal : j.isTerminal = true := terminal
    rw [running] at terminal
    cases terminal
  | stopped who before later => exact .stopped who before (by omega)

end Blamed

/-- **A task of a round could not be made ready.**  The run began the round in the scene `x`
and goes to its end with the error, without having started anything. -/
structure Refusing (x : Scene) (t : Task) (e : ExecutionError) (may : Prop) (n : Nat) (y : Scene) :
    Prop where
  few : n ≤ 2
  course : y.course = x.course.beginRound.enter (.refusal t e n)
  blamed : Blamed x.job x.told t e may n y.job y.told

namespace Refusing

variable {x y y' : Scene} {t : Task} {e : ExecutionError} {may : Prop} {n : Nat}

/-- A turn leaves one thing less to do. -/
theorem turn (h : x.Refusing t e may n y) (running : x.job.isTerminal = false)
    (hid : x.job.id = x.id) {env : Orchestrator} (ht : Turn env y y') :
    x.Refusing t e may (n - 1) y' := by
  obtain ⟨few, course, blamed⟩ := h
  have hyid : y.id = x.job.id := by
    rw [Scene.id, course]
    exact hid.symm
  have hn : n = 0 ∨ n = 1 ∨ n = 2 := by omega
  rcases hn with rfl | rfl | rfl
  · have hover := ht.not_isOver
    rw [course] at hover
    cases hover
  · obtain ⟨hcourse, ⟨terminal, hjob, htold⟩ | ⟨hrun, now, hjob, htold⟩⟩ :=
      ht.of_failing (by rw [Scene.stage, course]; rfl)
    · refine ⟨by omega, by rw [hcourse, course]; rfl, ?_⟩
      rw [hjob, htold]
      exact blamed.late running terminal
    · refine ⟨by omega, by rw [hcourse, course]; rfl, ?_⟩
      rw [hjob, htold, hyid]
      generalize y.job = k at *
      generalize y.told = told at *
      cases blamed with
      | recorded now' =>
        rw [List.append_assoc]
        exact .failed now' now
      | stopped who before later => cases hrun
  · obtain ⟨hcourse, ⟨terminal, hjob, htold⟩ | ⟨hrun, now, hjob, htold⟩⟩ :=
      ht.of_rejecting (t := t) (by rw [Scene.stage, course]; rfl)
    · refine ⟨by omega, by rw [hcourse, course]; rfl, ?_⟩
      rw [hjob, htold]
      exact blamed.late running terminal
    · refine ⟨by omega, by rw [hcourse, course]; rfl, ?_⟩
      rw [hjob, htold, hyid]
      generalize y.job = k at *
      generalize y.told = told at *
      cases blamed with
      | untouched => exact .recorded now
      | stopped who before later => cases hrun

/-- A stop leaves the run where it is. -/
theorem stop (h : x.Refusing t e may n y) (hid : x.job.id = x.id) (who : may) (now : Instant) :
    x.Refusing t e may n (y.stop now) := by
  have hyid : y.id = x.job.id := by
    rw [Scene.id, h.course]
    exact hid.symm
  refine ⟨h.few, h.course, ?_⟩
  show Blamed _ _ _ _ _ _ _ (y.told ++ [.jobStopped y.id])
  rw [hyid]
  exact .stopped who h.blamed (Nat.le_refl n)

/-- As long as something is left to do, the run does not wait. -/
theorem moves (h : x.Refusing t e may (n + 1) y) : y.course.run.isAwaiting = false := by
  have few := h.few
  rw [h.course]
  match n, few with
  | 0, _ => rfl
  | 1, _ => rfl

end Refusing

end Scene

namespace Workshop

variable {id : String} {env : Orchestrator} {s t : Workshop} {x : Scene}

/-- How often the run of the job is told to make a step. -/
def steps (id : String) (deeds : List Deed) : Nat :=
  deeds.countP fun
    | .move (.step jobId _) => jobId == id
    | _ => false

theorem steps_cons_step (now : Instant) (deeds : List Deed) :
    steps id (.move (.step id now) :: deeds) = steps id deeds + 1 := by
  simp [steps]

theorem steps_cons_of_ne {d : Deed} (h : ∀ now, d ≠ .move (.step id now)) (deeds : List Deed) :
    steps id (d :: deeds) = steps id deeds := by
  refine List.countP_cons_of_neg ?_
  cases d with
  | move m =>
    cases m with
    | step jobId now =>
      intro heq
      exact h now (by rw [eq_of_beq heq])
    | _ => exact nofun
  | _ => exact nofun

/-- **What every turn brings nearer, enough steps of the run bring about.**  `P n` says that
at most `n` turns are left; as long as some are, the run does not wait. -/
theorem phases_play {P : Nat → Scene → Prop}
    (hturn : ∀ {n y y'}, P n y → Turn env y y' → P (n - 1) y')
    (hmoves : ∀ {n y}, P (n + 1) y → y.course.run.isAwaiting = false)
    (ht : t.world.Tracked env fun _ _ => True) (hx : t.world.Shows id x) {n : Nat} (hp : P n x)
    (deeds : List Deed)
    (hstop : ∀ {n y now}, .move (.stop id now) ∈ deeds → P n y → P n (y.stop now)) :
    ∃ k y, (t.play id deeds).world.Shows id y ∧ P k y ∧ k ≤ n - steps id deeds := by
  induction deeds generalizing t x n with
  | nil => exact ⟨n, x, hx, hp, Nat.le_refl n⟩
  | cons d ds ih =>
    have hrest : ∀ {n y now}, .move (.stop id now) ∈ ds → P n y → P n (y.stop now) :=
      fun hin => hstop (List.mem_cons_of_mem d hin)
    have hnext : (t.act id d).world.Tracked env fun _ _ => True := tracked_act ht d
    obtain ⟨x', hx', hmove⟩ := shows_act ht hx d
    by_cases hown : ∃ now, d = .move (.step id now)
    · obtain ⟨now, rfl⟩ := hown
      rw [steps_cons_step]
      -- A step of a run that does not wait is a turn.
      have hp' : P (n - 1) x' := by
        rcases hmove with rfl | hmove | ⟨now', he, -⟩
        · cases n with
          | zero => exact hp
          | succ n =>
            have hlt := Course.weight_follow_lt (hmoves hp) t.world.orchestrator now
            rw [← Option.some.inj (hx'.course.symm.trans (course?_step hx.course now))] at hlt
            exact absurd hlt (Nat.lt_irrefl _)
        · exact hturn hp hmove
        · cases he
      obtain ⟨k, y, hy, hk, hle⟩ := ih hnext hx' hp' hrest
      exact ⟨k, y, hy, hk, by omega⟩
    · rw [steps_cons_of_ne fun now he => hown ⟨now, he⟩]
      rcases hmove with rfl | hmove | ⟨now', rfl, -, rfl⟩
      · exact ih hnext hx' hp hrest
      · obtain ⟨k, y, hy, hk, hle⟩ := ih hnext hx' (hturn hp hmove) hrest
        exact ⟨k, y, hy, hk, by omega⟩
      · exact ih hnext hx' (hstop List.mem_cons_self hp) hrest

/-- **The step that begins a round** prepares all its tasks, or is refused the first that is
hindered. -/
theorem begins_round (ht : s.world.Tracked env fun _ _ => True) (hx : s.world.Shows id x)
    {pending : List Task} (stage : x.stage = .round pending) (left : pending ≠ [])
    (running : x.job.isTerminal = false) (now : Instant) :
    x.job.readyOf pending ≠ [] ∧ (x.job.readyOf pending).Sublist x.workflow.tasks ∧
      ((∀ u ∈ x.job.readyOf pending, u.IsFit s.world.orchestrator id x.job.scope) ∧
          (∃ ps : List Prepared, ps.map (·.assignment)
              = (x.job.readyOf pending).map (fun u => u.assignment id x.job.scope) ∧
            ∃ y, (s.act id (.move (.step id now))).world.Shows id y ∧
              x.Starts ps ps.length y) ∨
        ∃ l u r e, x.job.readyOf pending = l ++ u :: r ∧
          (∀ v ∈ l, v.IsFit s.world.orchestrator id x.job.scope) ∧
          u.Hindered s.world.orchestrator id x.job.scope e ∧
          ∀ may, ∃ y, (s.act id (.move (.step id now))).world.Shows id y ∧
            x.Refusing u e may 2 y) := by
  obtain ⟨hid, j, told, hj, hreach, -⟩ := ht.scene id x.course hx.course
  obtain rfl : x.job = j := Option.some.inj (hx.job.symm.trans hj)
  have hsound := hreach.sound
  have hready : (x.split pending).1 = x.job.readyOf pending := x.job.partition_isReady pending
  have hne := hsound.ready_ne_nil stage running left
  have hpending := (hsound.underWay pending (congrArg Stage.pending? stage)).pending
  have hprepare : ∀ ts, s.world.orchestrator.prepareAll id x.job.scope ts
      = env.prepareAll x.id x.scope ts := fun ts => by
    rw [Scene.id, hid]
    exact Orchestrator.prepareAll_congr ht.registry
      (congrArg EngineSettings.withoutReport ht.settings) id x.job.scope ts
  refine ⟨hready ▸ hne, ?_, ?_⟩
  · refine List.filter_sublist.trans ?_
    rw [hpending]
    exact List.filter_sublist
  -- The run does not wait, so its step is a turn, and with tasks ready it begins the round.
  have hturn : ∃ y, (s.act id (.move (.step id now))).world.Shows id y ∧ Turn env x y := by
    obtain ⟨y, hy, rfl | hturn | ⟨now', he, -⟩⟩ := shows_act ht hx (.move (.step id now))
    · have hmoves : y.course.run.isAwaiting = false := by
        rw [Run.isAwaiting, show y.course.run.stage = _ from stage]
      have hlt := Course.weight_follow_lt hmoves s.world.orchestrator now
      rw [← Option.some.inj (hy.course.symm.trans (course?_step hx.course now))] at hlt
      exact absurd hlt (Nat.lt_irrefl _)
    · exact ⟨y, hy, hturn⟩
    · cases he
  obtain ⟨y, hy, hturn⟩ := hturn
  have hround := hturn.of_round stage running
  rw [hready, ← hprepare] at hround
  have hround := (hround.resolve_left left).resolve_left (hready ▸ hne)
  rcases Orchestrator.all_fit_or_first_hindered s.world.orchestrator id x.job.scope
    (x.job.readyOf pending) with hfit | ⟨l, u, r, e, hsplit, hl, hu⟩
  · obtain ⟨ps, hps, hassigned⟩ := Orchestrator.prepareAll_of_fit hfit
    refine Or.inl ⟨hfit, ps, hassigned, y, hy, ?_⟩
    rcases hround with ⟨u, e, herr, -⟩ | ⟨qs, hqs, rfl⟩
    · rw [hps] at herr
      cases herr
    · rw [hps] at hqs
      cases hqs
      exact .starting (l := []) rfl rfl rfl rfl (by simp [Course.enter, Course.beginRound])
  · refine Or.inr ⟨l, u, r, e, hsplit, hl, hu, fun may => ⟨y, hy, ?_⟩⟩
    have hfirst := Orchestrator.prepareAll_of_hindered (r := r) hl hu
    rw [hsplit, hfirst] at hround
    rcases hround with ⟨u', e', herr, rfl⟩ | ⟨qs, hqs, -⟩
    · cases herr
      exact ⟨Nat.le_refl 2, rfl, .untouched⟩
    · cases hqs

/-- **A round is refused** for the task `u` with the error `e`: the workshop `s` has the job
`j` and the course `c` before the round, and `after` the step that begins it come deeds
that lead to the workshop `t`.  Nothing of the round is started and no worker called for
it, and no round comes after it.  Two steps of the run end it with the error; then the job
has failed, and it has the record that it had before the round and this one failure,
which counts as one after which the job does not go on.  Only a stop in between takes the
place of the failure. -/
structure Refused (s : Workshop) (id : String) (c : Course) (j : Job) (ready : List Task)
    (u : Task) (e : ExecutionError) (after : List Deed) (t : Workshop) : Prop where
  course : ∃ c', t.course? id = some c' ∧ c'.rounds = c.rounds + 1 ∧ c'.started = c.started ∧
    c'.taken = c.taken ∧ c'.inFlight = [] ∧
    (c'.run.stage = .rejecting u e ∨ c'.run.stage = .failing e ∨
      c'.run.stage = .ended (.error e)) ∧
    (2 ≤ steps id after → c'.run.stage = .ended (.error e))
  uncalled : t.efforts = [] ∧ ∀ v ∈ ready, t.attemptsAt v.name = []
  job : ∃ k, t.world.orchestrator.job? id = some k ∧ k.completedTasks = j.completedTasks ∧
    k.results = j.results ∧ (∀ n, n ∉ k.currentTasks) ∧
    (k.failedTasks = j.failedTasks ∧ k.failures = j.failures ∨
      k.failedTasks = j.failedTasks.insert u.name ∧
        ∃ now, k.failures = j.failures.insert u.name ⟨u.worker, e.message, now⟩) ∧
    (k.status = .stopped → ¬ Unstopped id after) ∧
    (k.status ≠ .stopped → 2 ≤ steps id after → ∃ now now',
      k = { (j.failTask u.name ⟨u.worker, e.message, now⟩ false).endedAs .failed now' with
        error := some e.message } ∧
      (t.world.orchestrator.listening → t.world.orchestrator.told id =
        s.world.orchestrator.told id ++ [.taskFailed id u.name u.worker e.message false,
          .jobFailed id e.message]))

/-- Tasks that are ready for a round are not attempted before it. -/
theorem attemptsAt_eq_nil (hm : t.Manned env id) {c' : Course} (hc' : t.course? id = some c')
    (hstarted : c'.started = x.course.started) {v : Task} (hv : v.name ∉ x.begunNames) :
    t.attemptsAt v.name = [] := by
  rw [attemptsAt, List.filter_eq_nil_iff]
  intro a ha hname
  have hmem := (hm.serves c' hc').tasks.mem_iff.1 (List.mem_map_of_mem ha)
  rw [hstarted] at hmem
  obtain ⟨y, hy, hprepared⟩ := List.mem_map.1 hmem
  refine hv ?_
  rw [Scene.begunNames, Scene.started, List.map_map, ← eq_of_beq hname]
  exact List.mem_map.2 ⟨y, hy, congrArg Prepared.name hprepared⟩

/-- Between two rounds no task of a running job is current. -/
theorem notMem_currentTasks (ht : s.world.Tracked env fun _ _ => True) (hx : s.world.Shows id x)
    {pending : List Task} (stage : x.stage = .round pending) (running : x.job.isTerminal = false)
    (n : String) : n ∉ x.job.currentTasks := by
  obtain ⟨-, j, told, hj, hreach, -⟩ := ht.scene id x.course hx.course
  obtain rfl : x.job = j := Option.some.inj (hx.job.symm.trans hj)
  have hunstopped := hreach.unstopped (by rw [Job.isTerminal_eq_false.1 running]; exact nofun)
  have hawaiting := hunstopped.mono fun (r : Run) (h : False) => (h.elim : r.isAwaiting)
  obtain ⟨outs, hkept⟩ := hawaiting.kept
  have hstage : Scene.stage ⟨x.job, x.course, told⟩ = .round pending := stage
  have haloft := hkept.aloft (by rw [hstage]; exact nofun)
  have hflight := ((hreach.sound.underWay pending (congrArg Stage.pending? stage)).between
    (congrArg Stage.isBetween stage)).2.2
  intro hin
  have hmem := haloft.current n hin
  rw [hflight] at hmem
  exact absurd hmem List.not_mem_nil

/-- A round that was refused stays so. -/
theorem refused_play (ht : t.world.Tracked env fun _ _ => True) (hm : t.Manned env id) {y : Scene}
    {u : Task} {e : ExecutionError} {ready : List Task} {after : List Deed}
    (hy : t.world.Shows id y)
    (hp : x.Refusing u e (¬ Unstopped id after) 2 y) (hid : x.job.id = id)
    (hxid : x.id = id) (running : x.job.isTerminal = false)
    (hready : ∀ v ∈ ready, v.name ∉ x.begunNames) (hidle : ∀ n, n ∉ x.job.currentTasks)
    (hflight : x.course.inFlight = [])
    (htold : t.world.orchestrator.listening → x.told = s.world.orchestrator.told id) :
    Refused s id x.course x.job ready u e after (t.play id after) := by
  obtain ⟨ht', hm'⟩ := manned_play ht hm after
  have hlistening := ht'.listening.trans ht.listening.symm
  obtain ⟨k, z, hz, hk, hle⟩ := phases_play
    (P := fun n z => x.Refusing u e (¬ Unstopped id after) n z)
    (fun h hturn => h.turn running (hid.trans hxid.symm) hturn) (fun h => h.moves) ht hy hp after
    fun hin h => h.stop (hid.trans hxid.symm) (fun hnot => hnot _ hin) _
  obtain ⟨few, course, blamed⟩ := hk
  have hlast : 2 ≤ steps id after → k = 0 := by omega
  obtain ⟨hcompleted, hresults, hcurrent⟩ := blamed.same
  refine ⟨⟨z.course, hz.course, ?_⟩, ⟨?_, fun v hv => ?_⟩, z.job, hz.job, hcompleted, hresults,
    ?_, blamed.only, fun hs => ?_, fun hs hsteps => ?_⟩
  · rw [course]
    refine ⟨rfl, rfl, rfl, hflight, ?_, fun hsteps => ?_⟩
    · match k, few with
      | 0, _ => exact Or.inr (Or.inr rfl)
      | 1, _ => exact Or.inr (Or.inl rfl)
      | 2, _ => exact Or.inl rfl
    · rw [hlast hsteps]
      rfl
  · have hnone := (hm'.serves z.course hz.course).flight
    rw [course] at hnone
    exact List.map_eq_nil_iff.1 (hnone.trans hflight)
  · exact attemptsAt_eq_nil hm' hz.course (by rw [course]; rfl) (hready v hv)
  · rw [hcurrent]
    exact hidle
  · exact blamed.who_of_stopped (Job.isTerminal_eq_false.1 running) hs
  · rw [hlast hsteps] at blamed
    obtain ⟨now, now', hjob, htold'⟩ := blamed.failed_of_zero hs
    refine ⟨now, now', hjob, fun hl => ?_⟩
    rw [hz.told hl, htold', htold (hlistening ▸ hl), hid]

/-- **Preparation of a round is all or nothing.**  Whatever has been registered, loaded,
started, stopped, attempted and taken up before, in any order: a run is about to begin a
round, and tasks are left.  Some of them are ready, and the step that begins the round
looks at those, in the order of their definitions.  If all of them are fit, every one is
started: as many steps of the run later, whatever else has happened and whether the job
was stopped or not, there are attempts at each.  Otherwise the round is refused for the
first that is hindered. -/
theorem round_all_or_nothing (registry : Registry) (settings : EngineSettings) (listening : Bool)
    (id : String) (before after : List Deed) (now : Instant) (s t : Workshop)
    (hs : s = (initial registry settings listening).play id before)
    (ht : t = s.play id (.move (.step id now) :: after)) (c : Course) (j : Job)
    (pending : List Task) (hc : s.course? id = some c) (stage : c.run.stage = .round pending)
    (left : pending ≠ []) (hj : s.world.orchestrator.job? id = some j)
    (running : j.status = .running) :
    j.readyOf pending ≠ [] ∧ (j.readyOf pending).Sublist c.workflow.tasks ∧
      ((∀ u ∈ j.readyOf pending, u.IsFit s.world.orchestrator id j.scope) ∧
          (∃ ps : List Prepared, ps.map (·.assignment)
              = (j.readyOf pending).map (fun u => u.assignment id j.scope) ∧
            ((j.readyOf pending).length ≤ steps id after →
              (∃ c', t.course? id = some c' ∧
                c.started ++ ps.map (fun p => (c.rounds + 1, p)) <+: c'.started) ∧
              ∀ p ∈ ps, p ∈ t.tasks.map (·.prepared))) ∨
        ∃ l u r e, j.readyOf pending = l ++ u :: r ∧
          (∀ v ∈ l, v.IsFit s.world.orchestrator id j.scope) ∧
          u.Hindered s.world.orchestrator id j.scope e ∧
          Refused s id c j (j.readyOf pending) u e after t) := by
  subst hs ht
  obtain ⟨htracked, hmanned⟩ := manned_of_play registry settings listening id before
  generalize (initial registry settings listening).play id before = s at *
  have running' := Job.isTerminal_eq_false.2 running
  have hx : s.world.Shows id ⟨j, c, s.world.orchestrator.told id⟩ := ⟨hc, hj, fun _ => rfl⟩
  obtain ⟨hne, hsub, hround⟩ := begins_round htracked hx stage left running' now
  have htracked' := @tracked_act id _ _ htracked (.move (.step id now))
  have hmanned' := hmanned.act htracked (.move (.step id now))
  refine ⟨hne, hsub, ?_⟩
  rcases hround with ⟨hfit, ps, hassigned, y, hy, hstarts⟩ | ⟨l, u, r, e, hsplit, hl, hu, hrefuse⟩
  · refine Or.inl ⟨hfit, ps, hassigned, fun hsteps => ?_⟩
    have hlength : ps.length = (j.readyOf pending).length := by
      simpa using congrArg List.length hassigned
    obtain ⟨k, z, hz, hk, hle⟩ := phases_play (fun h hturn => h.turn hturn) (fun h => h.moves)
      htracked' hy hstarts after fun _ h => h.stop _
    have hzero : k = 0 := by omega
    subst hzero
    obtain ⟨-, hm'⟩ := manned_play htracked' hmanned' after
    have hbegun := hk.prefix_of_zero
    refine ⟨⟨z.course, hz.course, hbegun⟩, fun p hp => ?_⟩
    refine (hm'.serves z.course hz.course).tasks.mem_iff.2 ((hbegun.map _).subset ?_)
    simp only [List.map_append, List.map_map, List.mem_append, List.mem_map, Function.comp_apply]
    exact Or.inr ⟨p, hp, rfl⟩
  · obtain ⟨y, hy, hrefusing⟩ := hrefuse (¬ Unstopped id after)
    refine Or.inr ⟨l, u, r, e, hsplit, hl, hu, ?_⟩
    obtain ⟨hid, j', told, hj', hreach, -⟩ := htracked.scene id c hc
    obtain rfl : j = j' := Option.some.inj (hj.symm.trans hj')
    have hsplit' : (Scene.split ⟨j, c, told⟩ pending).1 = j.readyOf pending := by
      rw [Scene.split, List.partition_eq_filter_filter]
      rfl
    refine refused_play htracked' hmanned' hy hrefusing (Orchestrator.id_of_job? hj) hid running'
      (fun v hv => ?_) (notMem_currentTasks htracked hx stage running') ?_ fun _ => rfl
    · exact (hreach.sound.notMem_begunNames_of_ready stage running' (hsplit' ▸ hv)).2
    · exact ((hreach.sound.underWay pending (congrArg Stage.pending? stage)).between
        (congrArg Stage.isBetween stage)).2.2

end Workshop

namespace Sample

/-- Two tasks side by side.  Nobody is there for the second one, which may be attempted
three times and may fail. -/
def lopsided : Workflow :=
  { id := "lopsided", name := "Lopsided"
    tasks := [task "survey" [],
      { task "probe" [] with worker := .recon, retries := 2, continueFlag := true }] }

/-- A job on it is started. -/
def launch : List Deed :=
  [.move (.register lopsided), .move (.start "lopsided" "job" .empty ⟨0⟩)]

end Sample

namespace Workshop

/-- In the sample, the first of two ready tasks is fit and the second is not: neither is
started, and the job fails. -/
theorem round_all_or_nothing_sample :
    ∃ c j, (Sample.empty.play "job" Sample.launch).course? "job" = some c ∧
      (j.readyOf Sample.lopsided.tasks).map (·.name) = ["survey", "probe"] ∧
      ∃ u e, Refused (Sample.empty.play "job" Sample.launch) "job" c j
        (j.readyOf Sample.lopsided.tasks) u e [.move (Sample.step 2), .move (Sample.step 3)]
        ((Sample.empty.play "job" Sample.launch).play "job"
          [.move (Sample.step 1), .move (Sample.step 2), .move (Sample.step 3)]) := by
  have hstage : ((Sample.empty.play "job" Sample.launch).course? "job").map (·.run.stage)
      = some (.round Sample.lopsided.tasks) := rfl
  have hjob : ((Sample.empty.play "job" Sample.launch).world.orchestrator.job? "job").map
      (fun j => (j.status, j.completedTasks)) = some (.running, .empty) := rfl
  obtain ⟨c, hc, hst⟩ := Option.map_eq_some_iff.1 hstage
  obtain ⟨j, hj, hrecord⟩ := Option.map_eq_some_iff.1 hjob
  obtain ⟨hrunning, hcompleted⟩ := Prod.mk.inj hrecord
  have hready : j.readyOf Sample.lopsided.tasks = Sample.lopsided.tasks := by
    rw [Job.readyOf, hcompleted]
    rfl
  refine ⟨c, j, hc, by rw [hready]; rfl, ?_⟩
  obtain ⟨-, -, ⟨hfit, -⟩ | ⟨l, u, r, e, -, -, -, hrefused⟩⟩ :=
    round_all_or_nothing (.ofList [Sample.worker]) {} true "job" Sample.launch
      [.move (Sample.step 2), .move (Sample.step 3)] ⟨1⟩ _ _ rfl rfl c j Sample.lopsided.tasks hc
      hst (List.cons_ne_nil _ _) hj hrunning
  · rw [hready] at hfit
    obtain ⟨worker, hworker, -⟩ :=
      (hfit _ (List.mem_cons_of_mem _ List.mem_cons_self)).passes
    cases hworker
  · exact ⟨u, e, hrefused⟩

end Workshop
end Runbook
