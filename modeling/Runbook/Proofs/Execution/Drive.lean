/-
# Executions and workshops

What a host does to execute a job is a history of a workshop.  The run advances by steps, the
attempts at what it starts are those of efforts, and what it takes up is what they came to
(`Host.InTurn.drive`, `Host.InTurn.execute`).  So what holds of all histories holds of all that is
executed.

| on the host                       | in the workshop                                  |
|:----------------------------------|:-------------------------------------------------|
| the run advances                  | the run makes steps, and what it starts is due   |
| its events are told and forgotten | nothing                                          |
| an outcome is taken up            | attempts until there is one, which is then taken |

The workshop makes the attempts when the outcome is needed.  The host has made them before, as
soon as the run had advanced, but nothing that happened since then depends on them.
-/

import Runbook.Proofs.Engine.Return
import Runbook.Proofs.Execution.Attempts

namespace Runbook

/-! ### Events that have been told -/

namespace Orchestrator

/-- The orchestrator that still has the events told before. -/
def recalling (o : Orchestrator) (told : List JobEvent) : Orchestrator :=
  { o with events := told ++ o.events }

variable (o : Orchestrator) (told : List JobEvent)

@[simp] theorem registry_recalling : (o.recalling told).registry = o.registry := rfl

@[simp] theorem workflows_recalling : (o.recalling told).workflows = o.workflows := rfl

@[simp] theorem job?_recalling (id : String) : (o.recalling told).job? id = o.job? id := rfl

@[simp] theorem setJob_recalling (id : String) (j : Job) :
    (o.recalling told).setJob id j = (o.setJob id j).recalling told := rfl

@[simp] theorem countActivity_recalling (kind : WorkerKind) (now : Instant) :
    (o.recalling told).countActivity kind now = (o.countActivity kind now).recalling told := rfl

@[simp] theorem emit_recalling (e : JobEvent) :
    (o.recalling told).emit e = (o.emit e).recalling told := by
  rw [emit, emit, recalling]
  dsimp only
  split
  · rw [recalling, List.append_assoc]
  · rfl

@[simp] theorem recordFailure_recalling (j : Job) (task : String) (worker : WorkerKind)
    (error : ExecutionError) (continued : Bool) (now : Instant) :
    (o.recalling told).recordFailure j task worker error continued now
      = (o.recordFailure j task worker error continued now).recalling told := by
  rw [recordFailure, recordFailure]
  split
  · rfl
  · rw [setJob_recalling, emit_recalling]

@[simp] theorem prepareAll_recalling (jobId : String) (scope : Scope) (ts : List Task) :
    (o.recalling told).prepareAll jobId scope ts = o.prepareAll jobId scope ts := by
  induction ts with
  | nil => rfl
  | cons t ts ih =>
    rw [prepareAll, prepareAll, ih]
    rfl

/-- What was told before does not matter to the start of a job. -/
theorem start_recalling (workflowId jobId : String) (parameters : Dict Json) (now : Instant) :
    (o.recalling told).start workflowId jobId parameters now
      = ((o.start workflowId jobId parameters now).1,
        (o.start workflowId jobId parameters now).2.recalling told) := by
  rw [start, start, workflows_recalling]
  cases o.workflows.get? workflowId with
  | none => rfl
  | some w => 
    exact congrArg (Prod.mk _)
      (emit_recalling { o with jobs := o.jobs ++ [Job.new jobId w parameters now] } told _)

end Orchestrator

namespace Run

open Orchestrator

variable (r : Run) (o : Orchestrator) (told : List JobEvent)

/-- What was told before does not matter to a step. -/
theorem step_recalling (now : Instant) :
    r.step (o.recalling told) now
      = { r.step o now with orchestrator := (r.step o now).orchestrator.recalling told } := by
  rw [step, step]
  split
  · rfl
  · rw [job?_recalling]
    cases o.job? r.jobId with
    | none => rfl
    | some j =>
      obtain ⟨jobId, stage⟩ := r
      cases stage with
      | round pending =>
        cases pending with
        | nil => rfl
        | cons t ts => simp only [stepOn, beginRound, prepareAll_recalling]
      | starting ready started pending =>
        cases ready with
        | nil => rfl
        | cons p ready => simp only [stepOn, setJob_recalling, emit_recalling]
      | waiting inFlight pending => cases inFlight <;> rfl
      | recording outcome inFlight pending =>
        simp only [stepOn, recordOutcome]
        split
        · simp only [setJob_recalling, emit_recalling]
        · simp only [recordFailure_recalling]
      | rejecting t e => simp only [stepOn, recordFailure_recalling]
      | failing e =>
        simp only [stepOn]
        split <;> simp only [setJob_recalling, emit_recalling]
      | completing =>
        simp only [stepOn]
        split
        · rfl
        · simp only [setJob_recalling, emit_recalling]
          rfl
      | reporting =>
        simp only [stepOn, registry_recalling]
        cases o.registry.worker? .report with
        | none => simp only [emit_recalling]
        | some worker => rfl
      | leaving => rfl
      | awaitingReport => rfl
      | ended result => rfl
      | panicked message => rfl

/-- Neither does it to a delivery. -/
theorem deliver_recalling (outcome : Outcome) (now : Instant) :
    r.deliver (o.recalling told) outcome now
      = ((r.deliver o outcome now).1.recalling told, (r.deliver o outcome now).2) := by
  rw [deliver, deliver]
  split
  · simp only [countActivity_recalling, job?_recalling]
    split
    · rfl
    · split <;> rfl
  · split
    · rfl
    · simp only [countActivity_recalling, emit_recalling]
    · simp only [countActivity_recalling, job?_recalling]
      split
      · rfl
      · simp only [setJob_recalling, emit_recalling]
  · rfl

end Run

/-! ### What a run awaits -/

/-- How many outcomes the run has still to take up, of what it has started so far. -/
def Stage.awaited : Stage → Nat
  | .awaitingReport => 1
  | stage => stage.count

theorem Stage.awaited_pos {stage : Stage} (h : stage.takesOutcomes) : 0 < stage.awaited := by
  rcases Stage.of_takesOutcomes h with ⟨n, pending, rfl⟩ | rfl
  · exact Nat.zero_lt_succ n
  · exact Nat.one_pos

namespace Run

/-- A step adds to what is awaited no more than it launches. -/
theorem awaited_step_le (r : Run) (o : Orchestrator) (now : Instant) :
    (r.step o now).run.stage.awaited
      ≤ r.stage.awaited + (r.step o now).launched.toList.length := by
  rw [step]
  split
  · exact Nat.le_add_right ..
  · split
    · exact Nat.zero_le _
    · rename_i j _
      obtain ⟨jobId, stage⟩ := r
      cases stage with
      | round pending =>
        cases pending with
        | nil => exact Nat.zero_le _
        | cons t ts =>
          simp only [stepOn, beginRound]
          split
          · exact Nat.zero_le _
          · split
            · exact Nat.zero_le _
            · split <;> exact Nat.zero_le _
      | starting ready n pending => cases ready <;> exact Nat.le_refl _
      | waiting n pending =>
        cases n with
        | zero => exact Nat.zero_le _
        | succ n => exact Nat.le_add_right ..
      | recording outcome n pending =>
        simp only [stepOn, recordOutcome]
        split
        · exact Nat.le_refl _
        · dsimp only
          split
          · exact Nat.le_refl _
          · exact Nat.zero_le _
      | completing =>
        simp only [stepOn]
        split
        · exact Nat.zero_le _
        · dsimp only
          split <;> exact Nat.zero_le _
      | reporting =>
        simp only [stepOn]
        split
        · exact Nat.zero_le _
        · exact Nat.le_refl _
      | rejecting t e => exact Nat.zero_le _
      | failing e => exact Nat.zero_le _
      | leaving => exact Nat.zero_le _
      | awaitingReport => exact Nat.le_add_right ..
      | ended result => exact Nat.zero_le _
      | panicked message => exact Nat.zero_le _

/-- An outcome that is taken up is awaited no longer. -/
theorem awaited_deliver_lt (r : Run) (o : Orchestrator) (outcome : Outcome) (now : Instant)
    (takes : r.stage.takesOutcomes) :
    (r.deliver o outcome now).2.stage.awaited < r.stage.awaited := by
  obtain ⟨jobId, stage⟩ := r
  cases stage with
  | waiting n pending =>
    cases n with
    | zero => cases takes
    | succ n =>
      simp only [deliver]
      split
      · exact Nat.zero_lt_succ n
      · split
        · exact Nat.zero_lt_succ n
        · exact Nat.lt_succ_self n
  | awaitingReport =>
    simp only [deliver]
    split
    · exact Nat.one_pos
    · exact Nat.one_pos
    · split <;> exact Nat.one_pos
  | _ => cases takes

end Run

/-! ### Workshops of executions -/

/-- New efforts are about what has been launched. -/
theorem Effort.map_prepared_of_isNew {as : List Effort} {ps : List Prepared}
    (h : List.Forall₂ IsNew as ps) : as.map (·.prepared) = ps := by
  induction h with
  | nil => rfl
  | cons hnew _ ih =>
    obtain ⟨report, rfl⟩ := hnew
    rw [List.map_cons, ih]
    rfl

namespace Workshop

variable {id : String} {s : Workshop} {r : Run} {o : Orchestrator} {told : List JobEvent}

/-- What stands first is changed. -/
theorem alter_cons {task : String} {a : Effort} (h : a.name = task) (g : Effort → Effort)
    (as : List Effort) : alter task g (a :: as) = g a :: as :=
  if_pos (beq_iff_eq.2 h)

/-- **What stands first is attempted** until no attempt follows. -/
theorem play_attempts (s : Workshop) (id : String) {a : Effort} {as : List Effort}
    (first : s.efforts = a :: as) {e : Option AttemptEnd} (comes : a.ComesTo e) :
    ∃ deeds b, s.play id deeds = { s with efforts := b :: as } ∧ b.prepared = a.prepared ∧
      b.standing = .ended e := by
  induction comes generalizing s with
  | @ended a e h => exact ⟨[], a, by rw [← first]; rfl, rfl, h⟩
  | @attempt a e e' allowed _ ih =>
    obtain ⟨deeds, b, hplay, hb, hended⟩ := ih { s with efforts := a.attempt e' :: as } rfl
    have hname : a.begin.name = a.name := congrArg Prepared.name a.leads_begin.prepared
    have hbegin : s.act id (.begin a.name) = { s with efforts := a.begin :: as } := by
      rw [act, first, alter_cons rfl]
    obtain ⟨d, hd⟩ : ∃ d, Workshop.act id { s with efforts := a.begin :: as } d
        = { s with efforts := a.attempt e' :: as } := by
      cases e' with
      | some e' => exact ⟨.finish a.name e', by rw [act, alter_cons hname]; rfl⟩
      | none =>
        have hlimit : a.begin.prepared.limitMs.isSome := by
          rw [a.leads_begin.prepared]
          exact allowed rfl
        refine ⟨.expire a.name, ?_⟩
        rw [act, alter_cons hname, Effort.expire, if_pos hlimit]
        rfl
    refine ⟨.begin a.name :: d :: deeds, b, ?_, hb.trans (a.prepared_attempt e'), hended⟩
    change play id (Workshop.act id (s.act id (.begin a.name)) d) deeds = _
    rw [hbegin, hd, hplay]

/-- The workshop of a job that a host executes.  The run of the job and the orchestrator are
those that the host has, but that the world still has the events that were told; what is in
flight is attempted. -/
structure Mirrors (s : Workshop) (id : String) (r : Run) (o : Orchestrator)
    (told : List JobEvent) : Prop where
  course : ∃ c, s.course? id = some c ∧ c.run = r ∧ c.inFlight = s.efforts.map (·.prepared)
  orchestrator : s.world.orchestrator = o.recalling told
  enough : r.stage.awaited ≤ s.efforts.length

namespace Mirrors

/-- A job is started. -/
theorem start (orchestrator : s.world.orchestrator = o.recalling told) (idle : s.efforts = [])
    (fresh : s.course? id = none) {workflowId : String} {w : Workflow}
    (registered : o.workflows.get? workflowId = some w) (parameters : Dict Json) (now : Instant) :
    ∃ r o', o.start workflowId id parameters now = (.ok r, o') ∧
      (s.act id (.move (.start workflowId id parameters now))).efforts = [] ∧
      (s.act id (.move (.start workflowId id parameters now))).Mirrors id r o' told := by
  have hstart := Orchestrator.start.eq_def o workflowId id parameters now
  rw [registered] at hstart
  have fresh' : s.world.courses.get? id = none := fresh
  have hworld : s.world.act (.start workflowId id parameters now)
      = ⟨(o.start workflowId id parameters now).2.recalling told,
        s.world.courses.insert id { workflow := w, run := ⟨id, .round w.tasks⟩ }⟩ := by
    rw [World.act, fresh', orchestrator, Orchestrator.start_recalling,
      Orchestrator.workflows_recalling, registered, hstart]
  have hact : s.act id (.move (.start workflowId id parameters now))
      = { s with world := s.world.act (.start workflowId id parameters now), efforts := [] } := by
    rw [← idle, ← List.append_nil s.efforts]
    rfl
  rw [hact, hworld, hstart]
  exact ⟨_, _, rfl, rfl,
    ⟨_, (s.world.courses.get?_insert id id _).trans (if_pos rfl), rfl, rfl⟩, rfl, Nat.zero_le _⟩

/-- Events are told and forgotten. -/
theorem tell (h : s.Mirrors id r o told) :
    s.Mirrors id r { o with events := [] } (told ++ o.events) := by
  refine ⟨h.course, h.orchestrator.trans ?_, h.enough⟩
  rw [Orchestrator.recalling, Orchestrator.recalling, List.append_nil]

/-- The run makes a step, and what it launches is attempted. -/
theorem step (h : s.Mirrors id r o told) (now : Instant) :
    ∃ new, (s.act id (.move (.step id now))).efforts = s.efforts ++ new ∧
      List.Forall₂ Effort.IsNew new (r.step o now).launched.toList ∧
      (s.act id (.move (.step id now))).Mirrors id (r.step o now).run
        (r.step o now).orchestrator told := by
  obtain ⟨⟨c, hc, rfl, hflying⟩, ho, enough⟩ := h
  have hc' : s.world.courses.get? id = some c := hc
  have hlaunches : launches id s.world (.step id now)
      = (c.run.step o now).launched.toList.map (Effort.new (!c.run.stage.startsTasks)) := by
    rw [launches_step hc', ho, Run.step_recalling]
  have hnew : List.Forall₂ Effort.IsNew (launches id s.world (.step id now))
      (c.run.step o now).launched.toList := by
    rw [hlaunches, List.forall₂_map_left_iff]
    exact List.forall₂_same.2 fun p _ => ⟨_, rfl⟩
  refine ⟨_, rfl, hnew, ⟨_, course?_step hc now, ?_, ?_⟩, ?_, ?_⟩
  · rw [Course.run_follow, ho, Run.step_recalling]
  · rw [Course.inFlight_follow, ho, Run.step_recalling, hflying, act_step, List.map_append,
      Effort.map_prepared_of_isNew hnew]
  · rw [act_step, World.act, hc']
    dsimp only
    rw [ho, Run.step_recalling]
  · have hmore := c.run.awaited_step_le o now
    rw [act_step, List.length_append, hnew.length_eq]
    omega

/-- The run makes some steps. -/
theorem steps (h : s.Mirrors id r o told) (fuel : Nat) (now : Instant) :
    ∃ deeds new, (s.play id deeds).efforts = s.efforts ++ new ∧
      List.Forall₂ Effort.IsNew new (Run.steps fuel r o now).2.2 ∧
      (s.play id deeds).Mirrors id (Run.steps fuel r o now).2.1
        (Run.steps fuel r o now).1 told := by
  induction fuel generalizing s r o with
  | zero => exact ⟨[], [], (List.append_nil _).symm, .nil, h⟩
  | succ fuel ih =>
    rw [Run.steps]
    split
    · exact ⟨[], [], (List.append_nil _).symm, .nil, h⟩
    · obtain ⟨new, hefforts, hnew, hstep⟩ := h.step now
      obtain ⟨deeds, new', hefforts', hnew', hsteps⟩ := ih hstep
      refine ⟨.move (.step id now) :: deeds, new ++ new', ?_, List.rel_append hnew hnew', hsteps⟩
      rw [← List.append_assoc, ← hefforts]
      exact hefforts'

/-- The run takes up the outcome of what is in flight first, after the attempts at it. -/
theorem deliver {a : Effort} {as : List Effort} (h : s.Mirrors id r o told)
    (first : s.efforts = a :: as) (takes : r.stage.takesOutcomes) {outcome : Outcome}
    (yields : a.Yields outcome) (now : Instant) :
    ∃ deeds, (s.play id deeds).efforts = as ∧
      (s.play id deeds).Mirrors id (r.deliver o outcome now).2 (r.deliver o outcome now).1
        told := by
  obtain ⟨e, comes, rfl⟩ := yields
  obtain ⟨deeds, b, hplay, hb, hended⟩ := s.play_attempts id first comes
  obtain ⟨⟨c, hc, rfl, hflying⟩, ho, enough⟩ := h
  have hname : b.name = a.prepared.name := congrArg Prepared.name hb
  have hinFlight : c.inFlight = a.prepared :: as.map (·.prepared) := by
    rw [hflying, first, List.map_cons]
  have hawaited : c.awaited? a.prepared.name = some a.prepared := by
    rw [Course.awaited?, if_pos takes, hinFlight]
    exact List.find?_cons_of_pos (beq_self_eq_true _)
  let s' : Workshop := { s with efforts := b :: as }
  have hripe : s'.ripe? id a.prepared.name = some (b, e) :=
    ripe?_eq hc hawaited (List.find?_cons_of_pos (beq_iff_eq.2 hname)) hended
  have hlanded : c.inFlight.eraseP (fun q => q.name == a.prepared.name)
      = as.map (·.prepared) := by
    rw [hinFlight]
    exact List.eraseP_cons_of_pos (beq_self_eq_true a.prepared.name)
  have hrest : s'.efforts.eraseP (fun b => b.name == a.prepared.name) = as :=
    List.eraseP_cons_of_pos (beq_iff_eq.2 hname)
  have htake : s'.act id (.take a.prepared.name now) =
      { world := s.world.act (.deliver id a.prepared.name e now), efforts := as
        done := s.done ++ [b] } := by
    rw [act, hripe]
    dsimp only
    rw [hrest]
  have hdeeds : s.play id (deeds ++ [.take a.prepared.name now])
      = s'.act id (.take a.prepared.name now) := by
    rw [play_append, hplay]
    rfl
  refine ⟨deeds ++ [.take a.prepared.name now], ?_⟩
  rw [hdeeds]
  refine ⟨by rw [htake], ⟨_, course?_take (s := s') hc hawaited hripe now, ?_, ?_⟩, ?_, ?_⟩
  · show (c.run.deliver s.world.orchestrator _ now).2 = _
    rw [ho, Run.deliver_recalling]
  · rw [htake]
    exact hlanded
  · have hc' : s.world.courses.get? id = some c := hc
    rw [htake, World.act, hc']
    dsimp only
    rw [hawaited]
    dsimp only
    rw [ho, Run.deliver_recalling]
  · have hless := c.run.awaited_deliver_lt o (a.prepared.outcomeOf e) now takes
    rw [first, List.length_cons] at enough
    rw [htake]
    exact Nat.le_of_lt_succ (Nat.lt_of_lt_of_le hless enough)

end Mirrors

end Workshop

/-! ### Executions -/

namespace Host.InTurn

variable {σ : Type} {queue : σ → List Outcome} {h : Host (StateM σ)} {id : String}
  {tell : JobEvent → StateM σ Unit} (turn : h.InTurn queue) (client : InferenceClient)
  (quiet : ∀ e, Leaves queue (tell e))
include turn quiet

/-- **What a host drives is the run of a workshop**, and it drives it to its end. -/
theorem drive (fuel : Nat) {s : Workshop} {r : Run} {o : Orchestrator} {told : List JobEvent}
    (mirrors : s.Mirrors id r o told) {st : σ}
    (yields : List.Forall₂ Effort.Yields s.efforts (queue st)) :
    ∃ deeds told', (s.play id deeds).Mirrors id (h.drive client tell fuel r o st).1.1
        (h.drive client tell fuel r o st).1.2 told' ∧
      (r.weight < fuel → (h.drive client tell fuel r o st).1.1.isOver) := by
  induction fuel generalizing s r o told st with
  | zero => exact ⟨[], told, mirrors, fun hlt => absurd hlt (Nat.not_lt_zero _)⟩
  | succ fuel ih =>
    rw [Host.drive, StateM.bind_apply]
    have hnow := turn.now st
    generalize h.now st = clock at hnow ⊢
    obtain ⟨now, st₁⟩ := clock
    obtain ⟨deeds, new, hefforts, hnew, hmirrors⟩ := mirrors.steps r.weight now
    have waits := r.isAwaiting_advance o now
    have lighter := Run.weight_steps_le r.weight r o now
    rw [Run.advance] at waits ⊢
    dsimp only
    generalize Run.steps r.weight r o now = advanced at hnew hmirrors waits lighter ⊢
    obtain ⟨o₁, r₁, launched⟩ := advanced
    dsimp only at hnew hmirrors waits lighter hnow ⊢
    rw [StateM.bind_apply, StateM.bind_apply]
    have htold := Leaves.forM quiet o₁.events st₁
    obtain ⟨outcomes, hyields, hqueue⟩ := turn.spawnAll client o₁.settings.retryBackoffMs hnew
      (o₁.events.forM tell st₁).2
    generalize (launched.forM fun p =>
      h.spawn (h.attempts client o₁.settings.retryBackoffMs p p.retries 1))
      (o₁.events.forM tell st₁).2 = spawned at hqueue ⊢
    have hyields : List.Forall₂ Effort.Yields (s.play id deeds).efforts (queue spawned.2) := by
      rw [hefforts, hqueue, htold, hnow]
      exact List.rel_append yields hyields
    cases hover : r₁.isOver with
    | true =>
      rw [if_pos rfl]
      exact ⟨deeds, told ++ o₁.events, hmirrors.tell, fun _ => hover⟩
    | false =>
      rw [if_neg Bool.false_ne_true, StateM.bind_apply]
      have takes := Run.takesOutcomes_of_isAwaiting waits hover
      -- what the run awaits is in flight, so there is something to take up
      obtain ⟨a, as, outcome, hflying, hyields, htaken, hrest⟩ :=
        turn.await_first hyields ((Stage.awaited_pos takes).trans_le hmirrors.enough)
      generalize h.await spawned.2 = awaited at htaken hrest ⊢
      obtain ⟨taken, st₂⟩ := awaited
      obtain rfl : taken = some outcome := htaken
      dsimp only at hrest ⊢
      rw [StateM.bind_apply]
      have hnow' := turn.now st₂
      generalize h.now st₂ = clock at hnow' ⊢
      obtain ⟨now', st₃⟩ := clock
      dsimp only at hnow' ⊢
      obtain ⟨deeds', hefforts', hdelivered⟩ := hmirrors.tell.deliver hflying takes hyields now'
      obtain ⟨deeds'', told', hdriven, hends⟩ := ih hdelivered (by rwa [hefforts', hnow'])
      have lighter' := r₁.weight_deliver_lt { o₁ with events := [] } outcome now' waits
        (Run.weight_pos_of_takesOutcomes takes).2
      refine ⟨deeds ++ (deeds' ++ deeds''), told', ?_, fun hlt => hends (by omega)⟩
      rw [Workshop.play_append, Workshop.play_append]
      exact hdriven

/-- **Executing a registered workflow is a history of its workshop**: the job is started, and its
run comes to an end.  The answer is how the run has ended, and the job as it is then. -/
theorem execute {s : Workshop} {o : Orchestrator} {told : List JobEvent} {jobId workflowId : String}
    {w : Workflow} (orchestrator : s.world.orchestrator = o.recalling told)
    (idle : s.efforts = []) {st : σ} (nothing : queue st = [])
    (identifier : "job-" ++ (h.newId st).1 = jobId) (fresh : s.course? jobId = none)
    (registered : o.workflows.get? workflowId = some w) (parameters : Dict Json) :
    ∃ now deeds s' c ending,
      s.play jobId (.move (.start workflowId jobId parameters now) :: deeds) = s' ∧
      s'.course? jobId = some c ∧ c.run.ending? = some ending ∧
      (h.execute client tell o workflowId parameters st).1
        = (some ending, s'.world.orchestrator.job? jobId) := by
  rw [Host.execute, StateM.bind_apply, StateM.bind_apply]
  have hid := turn.newId st
  generalize h.newId st = identified at hid identifier ⊢
  obtain ⟨newId, st₁⟩ := identified
  dsimp only at hid identifier ⊢
  subst identifier
  have hnow := turn.now st₁
  generalize h.now st₁ = clock at hnow ⊢
  obtain ⟨now, st₂⟩ := clock
  dsimp only at hnow ⊢
  obtain ⟨r, o', hstart, hefforts, hmirrors⟩ :=
    Workshop.Mirrors.start orchestrator idle fresh registered parameters now
  rw [hstart]
  dsimp only
  rw [StateM.bind_apply]
  have hyields : List.Forall₂ Effort.Yields [] (queue st₂) := by
    rw [hnow, hid, nothing]
    exact .nil
  rw [← hefforts] at hyields
  obtain ⟨deeds, told', hdriven, hends⟩ := turn.drive client quiet (r.weight + 1) hmirrors hyields
  obtain ⟨c, hc, hrun, -⟩ := hdriven.course
  have hover := hends (Nat.lt_succ_self _)
  rw [← Run.isSome_ending?] at hover
  obtain ⟨ending, hending⟩ := Option.isSome_iff_exists.1 hover
  refine ⟨now, deeds, _, c, ending, rfl, hc, hrun ▸ hending, Prod.ext hending ?_⟩
  rw [Workshop.play, List.foldl_cons, ← Workshop.play, hdriven.orchestrator,
    Orchestrator.job?_recalling]
  rfl

end Host.InTurn
end Runbook
