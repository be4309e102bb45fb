/-
# What a job sees of its orchestrator

A run reads of its orchestrator the workers, the settings and its own job, and what it
writes is its job and the events that are told of it.  Orchestrators that agree on this
(`Orchestrator.Agree`) let a run make the same step and leave them in agreement
(`Agree.step`, `Agree.deliver`); what concerns another job leaves an orchestrator in
agreement with itself (`Changes.agree`).  So do worlds agree on a job before and after its
own moves (`World.Agree.act`) and the moves of others (`World.Tracked.agree_act`).

The setting of the final report is left out, since a run reads it at one point only, where
it completes its job.
-/

import Runbook.Proofs.Engine.Track

namespace Runbook

/-- Two orchestrators are the same to the job of an identifier. -/
structure Orchestrator.Agree (o o' : Orchestrator) (id : String) : Prop where
  registry : o.registry = o'.registry
  settings : o.settings.withoutReport = o'.settings.withoutReport
  listening : o.listening = o'.listening
  job : o.job? id = o'.job? id
  told : o.told id = o'.told id

/-- Two steps come to the same for the job of an identifier. -/
structure Stepped.Agree (x y : Stepped) (id : String) : Prop where
  orchestrator : x.orchestrator.Agree y.orchestrator id
  run : x.run = y.run
  launched : x.launched = y.launched

namespace Orchestrator

variable {o o' o'' : Orchestrator} {id : String}

namespace Agree

theorem refl (o : Orchestrator) (id : String) : o.Agree o id := ⟨rfl, rfl, rfl, rfl, rfl⟩

theorem symm (h : o.Agree o' id) : o'.Agree o id :=
  ⟨h.registry.symm, h.settings.symm, h.listening.symm, h.job.symm, h.told.symm⟩

theorem trans (h : o.Agree o' id) (h' : o'.Agree o'' id) : o.Agree o'' id where
  registry := h.registry.trans h'.registry
  settings := h.settings.trans h'.settings
  listening := h.listening.trans h'.listening
  job := h.job.trans h'.job
  told := h.told.trans h'.told

/-- The job is replaced in both. -/
theorem setJob {j k : Job} (h : o.Agree o' id) (hk : o.job? id = some k) (hj : j.id = id) :
    (o.setJob id j).Agree (o'.setJob id j) id where
  registry := h.registry
  settings := h.settings
  listening := h.listening
  job := (job?_setJob_self hk hj).trans (job?_setJob_self (h.job.symm.trans hk) hj).symm
  told := h.told

/-- An event is told in both. -/
theorem emit (h : o.Agree o' id) (e : JobEvent) : (o.emit e).Agree (o'.emit e) id := by
  have htold := h.told
  rw [Orchestrator.told, Orchestrator.told] at htold
  rw [Orchestrator.emit, Orchestrator.emit, ← h.listening]
  split
  · refine ⟨h.registry, h.settings, rfl, h.job, ?_⟩
    rw [Orchestrator.told, Orchestrator.told, List.filter_append, List.filter_append, htold]
  · exact h

/-- The job is replaced and an event told in both. -/
theorem replace {j k : Job} {e : JobEvent} (h : o.Agree o' id) (hk : o.job? id = some k)
    (hj : j.id = id) : ((o.setJob id j).emit e).Agree ((o'.setJob id j).emit e) id :=
  (h.setJob hk hj).emit e

/-- A worker's activity is counted in both. -/
theorem countActivity (h : o.Agree o' id) (kind : WorkerKind) (now : Instant) :
    (o.countActivity kind now).Agree (o'.countActivity kind now) id :=
  ⟨h.registry, h.settings, h.listening, h.job, h.told⟩

/-- A failure is recorded in both. -/
theorem recordFailure (h : o.Agree o' id) {j : Job} (hj : o.job? id = some j) (task : String)
    (worker : WorkerKind) (error : ExecutionError) (continued : Bool) (now : Instant) :
    (o.recordFailure j task worker error continued now).Agree
      (o'.recordFailure j task worker error continued now) id := by
  have hid := id_of_job? hj
  rw [Orchestrator.recordFailure, Orchestrator.recordFailure, hid]
  split
  · exact h
  · exact h.replace hj hid

end Agree

/-- The same change is made in both. -/
theorem Agree.changes {p p' : Orchestrator} {j : Job} {es : List JobEvent} (h : o.Agree o' id)
    (ch : o.Changes p id j es) (ch' : o'.Changes p' id j es) : p.Agree p' id := by
  have htold := h.told
  rw [Orchestrator.told, Orchestrator.told] at htold
  refine ⟨ch.registry.trans (h.registry.trans ch'.registry.symm), ?_,
    ch.listening.trans (h.listening.trans ch'.listening.symm), ch.job.trans ch'.job.symm, ?_⟩
  · rw [ch.settings, ch'.settings]
    exact h.settings
  · rw [Orchestrator.told, Orchestrator.told, ch.events, ch'.events, List.filter_append,
      List.filter_append, htold, h.listening]

/-- A change of another job does not show. -/
theorem Changes.agree {id' : String} {j : Job} {es : List JobEvent} (ch : o.Changes o' id' j es)
    (hne : id ≠ id') : o.Agree o' id where
  registry := ch.registry.symm
  settings := congrArg EngineSettings.withoutReport ch.settings.symm
  listening := ch.listening.symm
  job := (ch.others id hne).symm
  told := (ch.told_of_ne hne).symm

end Orchestrator

namespace Orchestrator.Agree

variable {o o' : Orchestrator} {r : Run} {j : Job}

/-- Beginning a round comes to the same. -/
theorem beginRound (h : o.Agree o' r.jobId) (pending : List Task) :
    r.beginRound o j pending = r.beginRound o' j pending := by
  rw [Run.beginRound, Run.beginRound]
  dsimp only
  rw [Orchestrator.prepareAll_congr h.registry h.settings]

/-- Recording an outcome comes to the same. -/
theorem recordOutcome (h : o.Agree o' r.jobId) (hj : o.job? r.jobId = some j)
    (outcome : Outcome) (inFlight : Nat) (pending : List Task) (now : Instant) :
    (r.recordOutcome o j outcome inFlight pending now).Agree
      (r.recordOutcome o' j outcome inFlight pending now) r.jobId := by
  have hid := Orchestrator.id_of_job? hj
  rw [Run.recordOutcome, Run.recordOutcome]
  split
  · exact ⟨h.replace hj hid, rfl, rfl⟩
  · exact ⟨h.recordFailure hj _ _ _ _ _, rfl, rfl⟩

/-- A step on the run's job comes to the same, if the final report is wanted in both or
in neither where the job is completed. -/
theorem stepOn (h : o.Agree o' r.jobId) (hj : o.job? r.jobId = some j)
    (hreport : r.stage = .completing → j.isTerminal = false →
      o.settings.generateReport = o'.settings.generateReport) (now : Instant) :
    (r.stepOn o j now).Agree (r.stepOn o' j now) r.jobId := by
  have hid := Orchestrator.id_of_job? hj
  rw [Run.stepOn, Run.stepOn]
  cases hst : r.stage with
  | round pending =>
    cases pending with
    | nil => exact ⟨h, rfl, rfl⟩
    | cons t ts => exact ⟨h, h.beginRound (t :: ts), rfl⟩
  | starting ready started pending =>
    cases ready with
    | nil => exact ⟨h, rfl, rfl⟩
    | cons p ready => exact ⟨h.replace hj hid, rfl, rfl⟩
  | waiting n pending => cases n <;> exact ⟨h, rfl, rfl⟩
  | recording outcome n pending => exact h.recordOutcome hj outcome n pending now
  | rejecting t e => exact ⟨h.recordFailure hj _ _ _ _ _, rfl, rfl⟩
  | failing e =>
    refine ⟨?_, rfl, rfl⟩
    dsimp only
    cases ht : j.isTerminal with
    | true =>
      rw [Job.finish?_of_terminal ht]
      exact h
    | false =>
      rw [Job.finish?_of_running ht]
      exact h.replace hj hid
  | completing =>
    dsimp only
    cases ht : j.isTerminal with
    | true =>
      rw [Job.finish?_of_terminal ht]
      exact ⟨h, rfl, rfl⟩
    | false =>
      rw [Job.finish?_of_running ht, hreport hst ht]
      exact ⟨h.replace hj hid, rfl, rfl⟩
  | reporting =>
    dsimp only
    rw [← h.registry]
    split
    · exact ⟨h.emit _, rfl, rfl⟩
    · exact ⟨h, rfl, congrArg some (Orchestrator.prepareReport_congr h.settings _ j)⟩
  | awaitingReport => exact ⟨h, rfl, rfl⟩
  | leaving => exact ⟨h, rfl, rfl⟩
  | ended result => exact ⟨h, rfl, rfl⟩
  | panicked message => exact ⟨h, rfl, rfl⟩

/-- A step comes to the same. -/
theorem step (h : o.Agree o' r.jobId)
    (hreport : r.stage = .completing → ∀ j, o.job? r.jobId = some j → j.isTerminal = false →
      o.settings.generateReport = o'.settings.generateReport) (now : Instant) :
    (r.step o now).Agree (r.step o' now) r.jobId := by
  rw [Run.step, Run.step, ← h.job]
  split
  · exact ⟨h, rfl, rfl⟩
  · cases hj : o.job? r.jobId with
    | none => exact ⟨h, rfl, rfl⟩
    | some j => exact h.stepOn hj (fun hst => hreport hst j hj) now

/-- A delivery comes to the same. -/
theorem deliver (h : o.Agree o' r.jobId) (outcome : Outcome) (now : Instant) :
    (r.deliver o outcome now).1.Agree (r.deliver o' outcome now).1 r.jobId ∧
      (r.deliver o outcome now).2 = (r.deliver o' outcome now).2 := by
  have hcount := fun kind => h.countActivity kind now
  rw [Run.deliver, Run.deliver]
  cases r.stage with
  | waiting n pending =>
    cases n with
    | zero => exact ⟨h, rfl⟩
    | succ n =>
      dsimp only
      rw [← (hcount outcome.worker).job]
      cases hj : (o.countActivity outcome.worker now).job? r.jobId with
      | none => exact ⟨hcount _, rfl⟩
      | some j =>
        have hid := Orchestrator.id_of_job? hj
        dsimp only
        split
        · exact ⟨hcount _, rfl⟩
        · exact ⟨(hcount _).setJob hj hid, rfl⟩
  | awaitingReport =>
    dsimp only
    cases hresult : outcome.result with
    | error e => cases e <;> first | exact ⟨h, rfl⟩ | exact ⟨(hcount _).emit _, rfl⟩
    | ok report =>
      dsimp only
      rw [← (hcount .report).job]
      cases hj : (o.countActivity .report now).job? r.jobId with
      | none => exact ⟨hcount _, rfl⟩
      | some j =>
        have hid := Orchestrator.id_of_job? hj
        exact ⟨(hcount _).replace hj hid, rfl⟩
  | _ => exact ⟨h, rfl⟩

end Orchestrator.Agree

namespace World

/-- Two worlds are the same to the job of an identifier. -/
structure Agree (s t : World) (id : String) : Prop where
  orchestrator : s.orchestrator.Agree t.orchestrator id
  course : s.courses.get? id = t.courses.get? id

variable {s t u : World} {id : String}

namespace Agree

theorem refl (s : World) (id : String) : s.Agree s id := ⟨.refl _ id, rfl⟩

theorem symm (h : s.Agree t id) : t.Agree s id := ⟨h.orchestrator.symm, h.course.symm⟩

theorem trans (h : s.Agree t id) (h' : t.Agree u id) : s.Agree u id :=
  ⟨h.orchestrator.trans h'.orchestrator, h.course.trans h'.course⟩

/-- The course of the job goes on in both. -/
theorem advance {c : Course} {o o' : Orchestrator} (h : o.Agree o' id) :
    World.Agree ⟨o, s.courses.insert id c⟩ ⟨o', t.courses.insert id c⟩ id := by
  refine ⟨h, ?_⟩
  dsimp only
  rw [Dict.get?_insert, Dict.get?_insert, if_pos rfl, if_pos rfl]

/-- A start of the job comes to the same, if the same workflow is registered in both. -/
theorem start (h : s.Agree t id) (hj : s.orchestrator.job? id = none)
    (hn : s.courses.get? id = none) {workflowId : String} (hw : s.orchestrator.workflows.get? workflowId
      = t.orchestrator.workflows.get? workflowId) (parameters : Dict Json) (now : Instant) :
    (s.act (.start workflowId id parameters now)).Agree
      (t.act (.start workflowId id parameters now)) id := by
  have hn' : t.courses.get? id = none := h.course.symm.trans hn
  cases hget : s.orchestrator.workflows.get? workflowId with
  | none =>
    have hstay : ∀ {u : World}, u.courses.get? id = none →
        u.orchestrator.workflows.get? workflowId = none →
        u.act (.start workflowId id parameters now) = u := fun hu hnone => by
      rw [World.act, hu, Orchestrator.start_of_unknown hnone]
    rw [hstay hn hget, hstay hn' (hw.symm.trans hget)]
    exact h
  | some w =>
    have hstart : ∀ {u : World}, u.orchestrator.workflows.get? workflowId = some w →
        ∃ o, u.orchestrator.start workflowId id parameters now = (.ok ⟨id, .round w.tasks⟩, o) :=
      fun hu => ⟨_, by rw [Orchestrator.start, hu]⟩
    obtain ⟨o, ho⟩ := hstart hget
    obtain ⟨o', ho'⟩ := hstart (hw.symm.trans hget)
    obtain ⟨v, hv, -, ch⟩ := Orchestrator.changes_of_start hj ho
    obtain ⟨v', hv', -, ch'⟩ :=
      Orchestrator.changes_of_start (h.orchestrator.job.symm.trans hj) ho'
    cases hget.symm.trans hv
    cases (hw.symm.trans hget).symm.trans hv'
    rw [World.act, World.act, hn, hn', ho, ho', ← hw, hget]
    exact advance (h.orchestrator.changes ch ch')

/-- A stop of the job comes to the same. -/
theorem stop (h : s.Agree t id) (now : Instant) :
    (s.act (.stop id now)).Agree (t.act (.stop id now)) id := by
  rw [World.act, World.act]
  cases hj : s.orchestrator.job? id with
  | none =>
    rw [Orchestrator.stop_of_unknown hj,
      Orchestrator.stop_of_unknown (h.orchestrator.job.symm.trans hj)]
    exact h
  | some j =>
    have hid := Orchestrator.id_of_job? hj
    have hj' := h.orchestrator.job.symm.trans hj
    cases ht : j.isTerminal with
    | true =>
      rw [Orchestrator.stop_of_terminal hj ht, Orchestrator.stop_of_terminal hj' ht]
      exact h
    | false =>
      rw [Orchestrator.stop_of_running hj ht, Orchestrator.stop_of_running hj' ht]
      exact ⟨h.orchestrator.replace hj hid, h.course⟩

/-- **A move of the job comes to the same**, if the final report is wanted in both worlds
or in neither where the move completes the job. -/
theorem act (h : s.Agree t id) {c : Course} (hc : s.courses.get? id = some c)
    (hid : c.run.jobId = id) {m : Move} (hm : m.job? = some id)
    (hreport : ∀ now, m = .step id now → c.run.stage = .completing →
      ∀ j, s.orchestrator.job? id = some j → j.isTerminal = false →
        s.orchestrator.settings.generateReport = t.orchestrator.settings.generateReport) :
    (s.act m).Agree (t.act m) id := by
  have hc' := h.course.symm.trans hc
  have ho : s.orchestrator.Agree t.orchestrator c.run.jobId := hid ▸ h.orchestrator
  cases m with
  | register w => cases hm
  | load path text => cases hm
  | start workflowId jobId parameters now =>
    cases hm
    rw [World.act, World.act, hc, hc']
    exact h
  | stop jobId now =>
    cases hm
    exact h.stop now
  | step jobId now =>
    cases hm
    have hstep := ho.step (fun hst j hj => hreport now rfl hst j (hid ▸ hj)) now
    rw [hid] at hstep
    have hfollow : c.follow (c.run.step t.orchestrator now)
        = c.follow (c.run.step s.orchestrator now) := by
      rw [Course.follow, Course.follow, hstep.launched, hstep.run]
    rw [World.act, World.act, hc, hc']
    dsimp only
    rw [hfollow]
    exact advance hstep.orchestrator
  | deliver jobId task e now =>
    cases hm
    rw [World.act, World.act, hc, hc']
    dsimp only
    split
    · exact h
    · rename_i p hp
      obtain ⟨hdeliver, hrun⟩ := ho.deliver (p.outcomeOf e) now
      rw [hid] at hdeliver
      rw [← hrun]
      exact advance hdeliver

end Agree

namespace Tracked

variable {env : Orchestrator} {may : String → Run → Prop}

/-- Registering a workflow does not show. -/
theorem agree_register (s : World) (w : Workflow) (id : String) : s.Agree (s.register w) id := by
  rcases s.register_cases w with ⟨-, hact⟩ | hact <;> rw [hact]
  · exact ⟨⟨rfl, rfl, rfl, rfl, rfl⟩, rfl⟩
  · exact .refl s id

/-- Worlds that know nothing of a job agree on it. -/
theorem agree_of_unknown {may' : String → Run → Prop} (hs : s.Tracked env may)
    (ht : t.Tracked env may') (hn : s.courses.get? id = none) (hn' : t.courses.get? id = none) :
    s.Agree t id := by
  have hnone := hs.unknown id hn
  have hnone' := ht.unknown id hn'
  refine ⟨⟨hs.registry.trans ht.registry.symm, ?_, hs.listening.trans ht.listening.symm,
    hnone.1.trans hnone'.1.symm, hnone.2.trans hnone'.2.symm⟩, hn.trans hn'.symm⟩
  rw [hs.settings, ht.settings]

/-- **What does not concern a job does not show.** -/
theorem agree_act (h : s.Tracked env may) {m : Move} (hm : m.job? ≠ some id) :
    s.Agree (s.act m) id := by
  cases hjob : m.job? with
  | none =>
    rw [act_of_unconcerned hjob]
    cases m.offered? with
    | none => exact .refl s id
    | some w => exact agree_register s w id
  | some id' =>
    have hne : id ≠ id' := fun he => hm (hjob.trans (congrArg some he.symm))
    rcases h.changes_act hjob with hsame | ⟨j, es, ch, hc⟩
    · rw [hsame]
      exact .refl s id
    · exact ⟨ch.agree hne, (hc id hne).symm⟩

end Tracked

namespace Agree

variable {env env' : Orchestrator} {may may' : String → Run → Prop}

/-- A move of a job that is not known comes to the same. -/
theorem act_unknown (h : s.Agree t id) (hj : s.orchestrator.job? id = none)
    (hw : s.orchestrator.workflows = t.orchestrator.workflows) (hn : s.courses.get? id = none)
    {m : Move} (hm : m.job? = some id) : (s.act m).Agree (t.act m) id := by
  have hn' := h.course.symm.trans hn
  cases m with
  | register w => cases hm
  | load path text => cases hm
  | start workflowId jobId parameters now =>
    cases hm
    exact h.start hj hn (by rw [hw]) parameters now
  | stop jobId now =>
    cases hm
    exact h.stop now
  | step jobId now =>
    cases hm
    rw [World.act, World.act, hn, hn']
    exact h
  | deliver jobId task e now =>
    cases hm
    rw [World.act, World.act, hn, hn']
    exact h

/-- **Every move comes to the same**, if it does not complete the job or the final report
is wanted in both worlds or in neither. -/
theorem act_both (h : s.Agree t id) (hs : s.Tracked env may) (ht : t.Tracked env' may')
    (hw : s.orchestrator.workflows = t.orchestrator.workflows) (m : Move)
    (hreport : ∀ now, m = .step id now → ∀ c, s.courses.get? id = some c →
      c.run.stage = .completing → ∀ j, s.orchestrator.job? id = some j → j.isTerminal = false →
        s.orchestrator.settings.generateReport = t.orchestrator.settings.generateReport) :
    (s.act m).Agree (t.act m) id := by
  -- Moves of others leave each of the worlds in agreement with what it was.
  by_cases hm : m.job? = some id
  · cases hc : s.courses.get? id with
    | none => exact h.act_unknown (hs.unknown id hc).1 hw hc hm
    | some c => exact h.act hc (hs.scene id c hc).1 hm fun now he => hreport now he c hc
  · exact (hs.agree_act hm).symm.trans (h.trans (ht.agree_act hm))

end Agree
end World
end Runbook
