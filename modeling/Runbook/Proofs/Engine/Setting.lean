/-
# The setting of strict references

A run reads the setting of strict references where it makes the tasks of a round ready,
and there it matters only if one of them has a gap (`Orchestrator.prepare_withStrict`).
So each operation of a run does the same under both values of the setting
(`Run.step_withStrict`, `Run.deliver_withStrict`), and so does every move of its job, unless
the run is about to begin a round with a gap (`World.AtGap`).  Moves of other jobs do not
show in any case (`World.Agree.act_withStrict`).
-/

import Runbook.Proofs.Engine.Filling
import Runbook.Proofs.Engine.Preparation

namespace Runbook

/-- The settings with references having to have values, or not. -/
def EngineSettings.withStrict (strict : Bool) (s : EngineSettings) : EngineSettings :=
  { s with strictReferences := strict }

namespace Orchestrator

/-- The orchestrator under another value of the setting. -/
def withStrict (strict : Bool) (o : Orchestrator) : Orchestrator :=
  { o with settings := o.settings.withStrict strict }

variable {o o' : Orchestrator} {strict : Bool} {jobId id : String} {scope : Scope}

theorem emit_withStrict (o : Orchestrator) (e : JobEvent) :
    (o.withStrict strict).emit e = (o.emit e).withStrict strict := by
  have hlistening : (o.withStrict strict).listening = o.listening := rfl
  rw [emit, emit, hlistening]
  split <;> rfl

/-- The job is replaced and an event told. -/
theorem replace_withStrict (o : Orchestrator) (jobId : String) (j : Job) (e : JobEvent) :
    ((o.withStrict strict).setJob jobId j).emit e
      = ((o.setJob jobId j).emit e).withStrict strict :=
  (o.setJob jobId j).emit_withStrict e

theorem recordFailure_withStrict (o : Orchestrator) (j : Job) (task : String) (worker : WorkerKind)
    (e : ExecutionError) (continued : Bool) (now : Instant) :
    (o.withStrict strict).recordFailure j task worker e continued now
      = (o.recordFailure j task worker e continued now).withStrict strict := by
  rw [recordFailure, recordFailure]
  split
  · rfl
  · exact o.replace_withStrict j.id _ _

/-- **A task without a gap is made ready in the same way under both values.** -/
theorem prepare_withStrict {t : Task} (h : ¬ t.HasGap scope) :
    (o.withStrict strict).prepare jobId scope t = o.prepare jobId scope t := by
  have hnone := Scope.unresolved_eq_nil_iff.2 h
  rw [prepare_eq, prepare_eq, reference?_eq_none fun _ => hnone, reference?_eq_none fun _ => hnone]
  rfl

theorem prepareAll_withStrict {ts : List Task} (h : ∀ t ∈ ts, ¬ t.HasGap scope) :
    (o.withStrict strict).prepareAll jobId scope ts = o.prepareAll jobId scope ts := by
  induction ts with
  | nil => rfl
  | cons t ts ih =>
    rw [prepareAll, prepareAll, prepare_withStrict (h t List.mem_cons_self),
      ih fun u hu => h u (List.mem_cons_of_mem t hu)]

/-- Orchestrators that agree on a job do so under another value. -/
theorem Agree.withStrict (h : o.Agree o' id) :
    (o.withStrict strict).Agree (o'.withStrict strict) id where
  registry := h.registry
  settings := congrArg (EngineSettings.withStrict strict) h.settings
  listening := h.listening
  job := h.job
  told := h.told

end Orchestrator

/-- The step with the orchestrator under another value of the setting. -/
def Stepped.withStrict (strict : Bool) (s : Stepped) : Stepped :=
  { s with orchestrator := s.orchestrator.withStrict strict }

namespace Run

variable {r : Run} {o : Orchestrator} {j : Job} {strict : Bool} {now : Instant}

theorem beginRound_withStrict {pending : List Task}
    (h : j.isTerminal = false → ∀ t ∈ j.readyOf pending, ¬ t.HasGap j.scope) :
    r.beginRound (o.withStrict strict) j pending = r.beginRound o j pending := by
  rw [beginRound, beginRound]
  cases hj : j.isTerminal with
  | true => rfl
  | false =>
    have hprepare : (o.withStrict strict).prepareAll r.jobId ⟨j.parameters, j.results⟩
          (pending.partition fun t => t.isReady j.completedTasks).1
        = o.prepareAll r.jobId ⟨j.parameters, j.results⟩
          (pending.partition fun t => t.isReady j.completedTasks).1 :=
      Orchestrator.prepareAll_withStrict (j.partition_isReady pending ▸ h hj)
    dsimp only
    rw [hprepare]

theorem stepOn_withStrict
    (h : ∀ pending, r.stage = .round pending → j.isTerminal = false →
      ∀ t ∈ j.readyOf pending, ¬ t.HasGap j.scope) :
    r.stepOn (o.withStrict strict) j now = (r.stepOn o j now).withStrict strict := by
  rw [stepOn, stepOn]
  cases hst : r.stage with
  | round pending =>
    cases pending with
    | nil => rfl
    | cons t ts =>
      dsimp only
      rw [beginRound_withStrict (h _ hst)]
      rfl
  | starting ready n pending =>
    cases ready with
    | nil => rfl
    | cons p ready =>
      dsimp only
      rw [o.replace_withStrict]
      rfl
  | waiting n pending => cases n <;> rfl
  | recording outcome n pending =>
    dsimp only
    rw [recordOutcome, recordOutcome]
    split
    · rw [o.replace_withStrict]
      rfl
    · dsimp only
      rw [o.recordFailure_withStrict]
      rfl
  | rejecting t e =>
    dsimp only
    rw [o.recordFailure_withStrict]
    rfl
  | failing e =>
    dsimp only
    cases j.finish? .failed now with
    | none => rfl
    | some k =>
      dsimp only
      rw [o.replace_withStrict]
      rfl
  | completing =>
    dsimp only
    cases j.finish? .completed now with
    | none => rfl
    | some k =>
      dsimp only
      rw [o.replace_withStrict]
      rfl
  | reporting =>
    have hworker : (o.withStrict strict).registry.worker? .report
        = o.registry.worker? .report := rfl
    dsimp only
    rw [hworker]
    cases o.registry.worker? .report with
    | none =>
      dsimp only
      rw [o.emit_withStrict]
      rfl
    | some worker => rfl
  | awaitingReport | leaving | ended result | panicked message => rfl

/-- **A step that begins no round with a gap is the same under both values.** -/
theorem step_withStrict
    (h : ∀ pending, r.stage = .round pending → ∀ j, o.job? r.jobId = some j →
      j.isTerminal = false → ∀ t ∈ j.readyOf pending, ¬ t.HasGap j.scope) :
    r.step (o.withStrict strict) now = (r.step o now).withStrict strict := by
  have hjob : (o.withStrict strict).job? r.jobId = o.job? r.jobId := rfl
  rw [step, step, hjob]
  split
  · rfl
  · cases hj : o.job? r.jobId with
    | none => rfl
    | some j => exact stepOn_withStrict fun pending hst => h pending hst j hj

/-- **So is every delivery.** -/
theorem deliver_withStrict (outcome : Outcome) :
    (r.deliver (o.withStrict strict) outcome now).1
        = (r.deliver o outcome now).1.withStrict strict ∧
      (r.deliver (o.withStrict strict) outcome now).2 = (r.deliver o outcome now).2 := by
  have hcount : ∀ kind, (o.withStrict strict).countActivity kind now
      = (o.countActivity kind now).withStrict strict := fun _ => rfl
  have hjob : ∀ p : Orchestrator, (p.withStrict strict).job? r.jobId = p.job? r.jobId :=
    fun _ => rfl
  rw [deliver, deliver]
  cases r.stage with
  | waiting n pending =>
    cases n with
    | zero => exact ⟨rfl, rfl⟩
    | succ n =>
      dsimp only
      rw [hcount, hjob]
      cases (o.countActivity outcome.worker now).job? r.jobId with
      | none => exact ⟨rfl, rfl⟩
      | some j =>
        dsimp only
        split <;> exact ⟨rfl, rfl⟩
  | awaitingReport =>
    dsimp only
    cases outcome.result with
    | error e =>
      cases e with
      | taskPanicked task message => exact ⟨rfl, rfl⟩
      | _ => exact ⟨(o.countActivity .report now).emit_withStrict _, rfl⟩
    | ok report =>
      dsimp only
      rw [hcount, hjob]
      cases (o.countActivity .report now).job? r.jobId with
      | none => exact ⟨rfl, rfl⟩
      | some j => exact ⟨(o.countActivity .report now).replace_withStrict _ _ _, rfl⟩
  | _ => exact ⟨rfl, rfl⟩

end Run

namespace World

/-- The world under another value of the setting. -/
def withStrict (strict : Bool) (s : World) : World :=
  { s with orchestrator := s.orchestrator.withStrict strict }

/-- **The run of the job is about to begin a round in which a ready task has a gap.** -/
structure AtGap (s : World) (id : String) (c : Course) (j : Job) (pending : List Task) : Prop where
  course : s.courses.get? id = some c
  stage : c.run.stage = .round pending
  job : s.orchestrator.job? id = some j
  running : j.status = .running
  gap : ∃ t ∈ j.readyOf pending, t.HasGap j.scope

variable {s t : World} {id : String} {strict : Bool}

/-- A step of the job's run is the same under both values, unless it begins a round with a
gap. -/
theorem step_withStrict {c : Course} (hc : s.courses.get? id = some c) (hid : c.run.jobId = id)
    (hgap : ∀ j pending, ¬ s.AtGap id c j pending) (now : Instant) :
    c.run.step (s.orchestrator.withStrict strict) now
      = (c.run.step s.orchestrator now).withStrict strict :=
  Run.step_withStrict fun pending hst j hj running t ht hopen =>
    hgap j pending ⟨hc, hst, hid ▸ hj, Job.isTerminal_eq_false.1 running, t, ht, hopen⟩

/-- A move of the job is the same under both values, unless its run begins a round with a
gap. -/
theorem act_withStrict (hid : ∀ c, s.courses.get? id = some c → c.run.jobId = id) {m : Move}
    (hm : m.job? = some id)
    (hgap : ∀ now, m = .step id now → ∀ c j pending, ¬ s.AtGap id c j pending) :
    (s.withStrict strict).act m = (s.act m).withStrict strict := by
  have hcourse : (s.withStrict strict).courses.get? id = s.courses.get? id := rfl
  cases m with
  | register w => cases hm
  | load path text => cases hm
  | start workflowId jobId parameters now =>
    cases hm
    have hregistered : (s.withStrict strict).orchestrator.workflows.get? workflowId
        = s.orchestrator.workflows.get? workflowId := rfl
    rw [act, act, Orchestrator.start, Orchestrator.start, hcourse, hregistered]
    cases s.courses.get? id with
    | some c => rfl
    | none =>
      cases s.orchestrator.workflows.get? workflowId with
      | none => rfl
      | some w =>
        exact congrArg (World.mk · _) (Orchestrator.emit_withStrict
          { s.orchestrator with jobs := s.orchestrator.jobs ++ [.new id w parameters now] } _)
  | stop jobId now =>
    cases hm
    have hjob : (s.withStrict strict).orchestrator.job? id = s.orchestrator.job? id := rfl
    rw [act, act, Orchestrator.stop, Orchestrator.stop, hjob]
    cases s.orchestrator.job? id with
    | none => rfl
    | some j =>
      dsimp only
      cases j.finish? .stopped now with
      | none => rfl
      | some k => exact congrArg (World.mk · _) (s.orchestrator.replace_withStrict _ _ _)
  | step jobId now =>
    cases hm
    rw [act, act, hcourse]
    cases hc : s.courses.get? id with
    | none => rfl
    | some c =>
      dsimp only
      rw [withStrict, step_withStrict hc (hid c hc) (hgap now rfl c)]
      rfl
  | deliver jobId task e now =>
    cases hm
    rw [act, act, hcourse]
    cases s.courses.get? id with
    | none => rfl
    | some c =>
      dsimp only
      cases c.awaited? task with
      | none => rfl
      | some p =>
        obtain ⟨ho, hr⟩ := @Run.deliver_withStrict c.run s.orchestrator strict now (p.outcomeOf e)
        dsimp only
        rw [withStrict, ho, hr]
        rfl

/-- Worlds that agree on a job do so under another value. -/
theorem Agree.withStrict (h : s.Agree t id) :
    (s.withStrict strict).Agree (t.withStrict strict) id :=
  ⟨h.orchestrator.withStrict, h.course⟩

section

variable {registry : Registry} {settings : EngineSettings} {listening : Bool}

/-- The final report is wanted under both values or under neither. -/
theorem generateReport_withStrict
    (hs : s.Tracked { registry, settings, listening } fun _ _ => True)
    (ht : t.Tracked { registry, settings := settings.withStrict strict, listening }
      fun _ _ => True) :
    (s.withStrict strict).orchestrator.settings.generateReport
      = t.orchestrator.settings.generateReport := by
  show s.orchestrator.settings.generateReport = _
  rw [hs.settings, ht.settings]
  rfl

/-- **Worlds that agree on a job but for the setting go on doing so**, whatever happens,
unless the job's run begins a round with a gap. -/
theorem Agree.act_withStrict (h : (s.withStrict strict).Agree t id)
    (hs : s.Tracked { registry, settings, listening } fun _ _ => True)
    (ht : t.Tracked { registry, settings := settings.withStrict strict, listening }
      fun _ _ => True)
    (hw : s.orchestrator.workflows = t.orchestrator.workflows) (m : Move)
    (hgap : ∀ now, m = .step id now → ∀ c j pending, ¬ s.AtGap id c j pending) :
    ((s.act m).withStrict strict).Agree (t.act m) id := by
  -- Moves of other jobs may begin rounds with gaps, but do not show in either world.
  by_cases hm : m.job? = some id
  · rw [← World.act_withStrict (fun c hc => (hs.scene id c hc).1) hm hgap]
    cases hc : s.courses.get? id with
    | none => exact h.act_unknown (hs.unknown id hc).1 hw hc hm
    | some c =>
      exact h.act hc (hs.scene id c hc).1 hm fun _ _ _ _ _ _ => generateReport_withStrict hs ht
  · exact (hs.agree_act hm).withStrict.symm.trans (h.trans (ht.agree_act hm))

/-- A step of the job's run launches the same in both. -/
theorem Agree.launched_withStrict (h : (s.withStrict strict).Agree t id)
    (hs : s.Tracked { registry, settings, listening } fun _ _ => True)
    (ht : t.Tracked { registry, settings := settings.withStrict strict, listening }
      fun _ _ => True)
    {c : Course} (hc : s.courses.get? id = some c)
    (hgap : ∀ j pending, ¬ s.AtGap id c j pending) (now : Instant) :
    (c.run.step s.orchestrator now).launched = (c.run.step t.orchestrator now).launched := by
  have hid := (hs.scene id c hc).1
  have ho : (s.orchestrator.withStrict strict).Agree t.orchestrator c.run.jobId :=
    hid.symm ▸ h.orchestrator
  have hsame : c.run.step (s.orchestrator.withStrict strict) now
      = (c.run.step s.orchestrator now).withStrict strict := step_withStrict hc hid hgap now
  have hstep := ho.step (fun _ _ _ _ => generateReport_withStrict hs ht) now
  rw [hsame] at hstep
  exact hstep.launched

end

end World
end Runbook
