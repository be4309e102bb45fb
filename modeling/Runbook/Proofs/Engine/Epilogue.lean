/-
# After the completion of a job

When a run has completed its job it may have a final report written.  By then the job has
ended, so no stop touches it, and all that the report can do to it is to be recorded
(`World.Epilogue`):

| what comes of the report | the report of the job | how the run ends |
| --- | --- | --- |
| a value | the value | it hands over the job |
| an error, or nothing within the limit | none | it hands over the job |
| nobody can write it, or none is wanted | none | it hands over the job |
| a panic | none | it hands over nothing, the panic goes on |

Every move of a world keeps to the epilogue (`World.Tracked.epilogue_act`), and three moves
of the job bring it to its end (`World.Epilogue.isOver`).
-/

import Runbook.Engine.Advance
import Runbook.Execution
import Runbook.Proofs.Engine.Operations

namespace Runbook

/-- The value that an attempt has ended with. -/
def AttemptEnd.value? : Option AttemptEnd → Option Json
  | some (.value v) => some v
  | _ => none

/-- Whether the attempt has ended with a panic. -/
def AttemptEnd.isPanic : Option AttemptEnd → Bool
  | some (.panic _) => true
  | _ => false

/-- The job with another final report. -/
def Job.withReport (j : Job) (report : Option Json) : Job := { j with finalReport := report }

/-- The run is about to hand over the job, or has done so. -/
def Stage.HandsOver (stage : Stage) (j : Job) : Prop := stage = .leaving ∨ stage = .ended (.ok j)

theorem Stage.HandsOver.not_takes {stage : Stage} {j : Job} (h : stage.HandsOver j) :
    stage.takesOutcomes = false := by
  rcases h with rfl | rfl <;> rfl

theorem Stage.HandsOver.weight_le {r : Run} {j : Job} (h : r.stage.HandsOver j) :
    r.weight ≤ 1 := by
  rcases h with hst | hst
  · have hone : r.weight = 1 := by rw [Run.weight, hst]
    exact Nat.le_of_eq hone
  · exact Run.weight_le_of_isOver (by rw [Run.isOver, hst]) 1

/-- The final report of a name whose outcome the run can take. -/
def Course.report? (c : Course) (task : String) : Option Prepared :=
  match c.run.stage with
  | .awaitingReport => c.awaited? task
  | _ => none

namespace World

/-- **What follows the completion of a job.**  The course, the job and the ends of its final
report that have come in, after the job was completed as `done`. -/
inductive Epilogue (env : Orchestrator) (done : Job) :
    Course → Job → List (Prepared × Option AttemptEnd) → Prop where
  /-- The report is due. -/
  | due {c : Course} (wanted : env.settings.generateReport) (stage : c.run.stage = .reporting)
      (landed : c.inFlight = []) : Epilogue env done c done []
  /-- The report is being written. -/
  | awaited {c : Course} {worker : Worker} (wanted : env.settings.generateReport)
      (found : env.registry.worker? .report = some worker)
      (stage : c.run.stage = .awaitingReport)
      (flight : c.inFlight = [env.prepareReport worker done]) : Epilogue env done c done []
  /-- No report is wanted, or nobody can write it. -/
  | silent {c : Course}
      (cause : env.settings.generateReport = false ∨ env.registry.worker? .report = none)
      (stage : c.run.stage.HandsOver done) : Epilogue env done c done []
  /-- The report has come to an end. -/
  | written {c : Course} {worker : Worker} {e : Option AttemptEnd}
      (wanted : env.settings.generateReport)
      (found : env.registry.worker? .report = some worker)
      (calm : AttemptEnd.isPanic e = false)
      (stage : c.run.stage.HandsOver (done.withReport (AttemptEnd.value? e))) :
      Epilogue env done c (done.withReport (AttemptEnd.value? e))
        [(env.prepareReport worker done, e)]
  /-- The worker of the report has panicked. -/
  | panicked {c : Course} {worker : Worker} {message : String}
      (wanted : env.settings.generateReport)
      (found : env.registry.worker? .report = some worker)
      (stage : c.run.stage = .panicked message) :
      Epilogue env done c done [(env.prepareReport worker done, some (.panic message))]

/-- The end of a final report that a move hands to the run of a job. -/
def reportEnd? (s : World) (id : String) : Move → Option (Prepared × Option AttemptEnd)
  | .deliver jobId task e _ =>
    if jobId = id then
      ((s.courses.get? id).bind fun c => c.report? task).map fun p => (p, e)
    else none
  | _ => none

/-- The ends of final reports that moves hand to the run of a job, in order. -/
def reportEnds (s : World) (id : String) : List Move → List (Prepared × Option AttemptEnd)
  | [] => []
  | m :: ms => (s.reportEnd? id m).toList ++ (s.act m).reportEnds id ms

/-- A world has a job and the course of its run. -/
structure Has (s : World) (id : String) (c : Course) (j : Job) : Prop where
  course : s.courses.get? id = some c
  jobId : c.run.jobId = id
  job : s.orchestrator.job? id = some j

variable {env : Orchestrator} {s t : World} {id : String} {c : Course} {j done : Job}
  {ends : List (Prepared × Option AttemptEnd)}

/-- Worlds that agree on a job have the same of it. -/
theorem Has.agree (h : s.Has id c j) (ha : s.Agree t id) : t.Has id c j :=
  ⟨ha.course.symm.trans h.course, h.jobId, ha.orchestrator.job.symm.trans h.job⟩

/-- Every course is that of a job. -/
theorem Tracked.exists_has {may : String → Run → Prop} (h : s.Tracked env may)
    (hc : s.courses.get? id = some c) : ∃ j, s.Has id c j := by
  obtain ⟨hid, j, -, hj, -⟩ := h.scene id c hc
  exact ⟨j, hc, hid, hj⟩

/-! ### The moves of a job after its completion -/

/-- A run that waits or is over makes no step. -/
theorem Has.step_of_awaiting (h : s.Has id c j) (rest : c.run.isAwaiting) (now : Instant) :
    (s.act (.step id now)).Has id c j := by
  have hb : c.run.stage.beginsRound c.run.stage = false := by cases c.run.stage <;> rfl
  rw [act, h.course]
  dsimp only
  rw [Run.step, if_pos rest, Course.follow]
  dsimp only
  rw [hb]
  exact ⟨(s.courses.get?_insert id id _).trans (if_pos rfl), h.jobId, h.job⟩

/-- Another run makes its step on the job. -/
theorem Has.act_step (h : s.Has id c j) (moves : c.run.isAwaiting = false) (now : Instant) :
    s.act (.step id now) = ⟨(c.run.stepOn s.orchestrator j now).orchestrator,
      s.courses.insert id (c.follow (c.run.stepOn s.orchestrator j now))⟩ := by
  rw [act, h.course]
  dsimp only
  rw [Run.step, moves, if_neg Bool.false_ne_true, h.jobId, h.job]

/-- The course of the job is replaced. -/
theorem has_insert {o : Orchestrator} {courses : Dict Course} {c' : Course}
    (hid : c'.run.jobId = id) (hj : o.job? id = some j) :
    Has ⟨o, courses.insert id c'⟩ id c' j :=
  ⟨(courses.get?_insert id id c').trans (if_pos rfl), hid, hj⟩

/-- A run that is about to hand over the job does so. -/
theorem Has.step_of_handsOver (h : s.Has id c j) (stage : c.run.stage.HandsOver j)
    (now : Instant) :
    ∃ c', (s.act (.step id now)).Has id c' j ∧ c'.run.stage = .ended (.ok j) := by
  rcases stage with hst | hst
  · have moves : c.run.isAwaiting = false := by rw [Run.isAwaiting, hst]
    rw [h.act_step moves, Run.stepOn, hst]
    exact ⟨_, has_insert h.jobId h.job, rfl⟩
  · exact ⟨c, h.step_of_awaiting (by rw [Run.isAwaiting, hst]) now, hst⟩

/-- A run whose report is due has it begun, or hands over the job. -/
theorem Has.step_of_due (h : s.Has id c j) (hr : s.orchestrator.registry = env.registry)
    (hs : s.orchestrator.settings = env.settings) (wanted : env.settings.generateReport)
    (stage : c.run.stage = .reporting) (landed : c.inFlight = []) (now : Instant) :
    ∃ c', (s.act (.step id now)).Has id c' j ∧ Epilogue env j c' j [] ∧
      c'.run.weight ≤ 2 := by
  have moves : c.run.isAwaiting = false := by rw [Run.isAwaiting, stage]
  rw [h.act_step moves, Run.stepOn, stage]
  dsimp only
  rw [hr]
  cases hw : env.registry.worker? .report with
  | none =>
    exact ⟨_, has_insert h.jobId ((Orchestrator.job?_emit _ _ _).trans h.job),
      .silent (Or.inr hw) (Or.inl rfl), Nat.le_succ 1⟩
  | some worker =>
    refine ⟨_, has_insert h.jobId h.job, .awaited wanted hw rfl ?_, Nat.le_refl 2⟩
    show c.inFlight ++ [_] = _
    rw [landed, List.nil_append,
      Orchestrator.prepareReport_congr (congrArg EngineSettings.withoutReport hs)]

/-- Nothing is delivered to a run that takes no outcome. -/
theorem act_deliver_of_not_takes (h : s.courses.get? id = some c)
    (hst : c.run.stage.takesOutcomes = false) (task : String) (e : Option AttemptEnd)
    (now : Instant) : s.act (.deliver id task e now) = s := by
  rw [act, h]
  dsimp only
  rw [Course.awaited?, hst, if_neg Bool.false_ne_true]

/-- The end of the report is taken up. -/
theorem Has.deliver_of_awaited (h : s.Has id c j) {worker : Worker}
    (wanted : env.settings.generateReport) (found : env.registry.worker? .report = some worker)
    (stage : c.run.stage = .awaitingReport) (flight : c.inFlight = [env.prepareReport worker j])
    (unreported : j.finalReport = none) (e : Option AttemptEnd) (now : Instant) :
    ∃ c' j', (s.act (.deliver id finalReportTask e now)).Has id c' j' ∧
      Epilogue env j c' j' [(env.prepareReport worker j, e)] := by
  have hp : c.awaited? finalReportTask = some (env.prepareReport worker j) := by
    rw [Course.awaited?, stage, flight]
    rfl
  have hsame : j.withReport none = j := by rw [Job.withReport, ← unreported]
  have hid := Orchestrator.id_of_job? h.job
  have htold : ∀ kind event, ((s.orchestrator.countActivity kind now).emit event).job? id
      = some (j.withReport none) := fun kind event =>
    (Orchestrator.job?_emit _ _ _).trans (hsame.symm ▸ h.job)
  rw [act, h.course]
  dsimp only
  rw [hp]
  dsimp only
  rw [Run.deliver, stage]
  dsimp only
  rcases e with _ | v | cause | message
  · exact ⟨_, _, has_insert h.jobId (htold _ _),
      .written (e := none) wanted found rfl (Or.inl rfl)⟩
  · have hjob : (s.orchestrator.countActivity .report now).job? c.run.jobId = some j :=
      h.jobId ▸ h.job
    have hset : ((s.orchestrator.countActivity .report now).setJob c.run.jobId
        (j.withReport (some v))).job? id = some (j.withReport (some v)) :=
      h.jobId ▸ Orchestrator.job?_setJob_self hjob (hid.trans h.jobId.symm)
    dsimp only [Prepared.outcomeOf, Prepared.outcome]
    rw [hjob]
    exact ⟨_, _, has_insert h.jobId ((Orchestrator.job?_emit _ _ _).trans hset),
      .written (e := some (.value v)) wanted found rfl (Or.inl rfl)⟩
  · exact ⟨_, _, has_insert h.jobId (htold _ _),
      .written (e := some (.error cause)) wanted found rfl (Or.inl rfl)⟩
  · exact ⟨_, _, has_insert h.jobId h.job, .panicked wanted found rfl⟩

/-- Only deliveries to the job bring ends of its report. -/
theorem reportEnd?_of_ne {m : Move} (hm : m.job? ≠ some id) : s.reportEnd? id m = none := by
  cases m with
  | deliver jobId task e now => exact if_neg fun he => hm (congrArg some he)
  | _ => rfl

/-- They come only while the report is being written. -/
theorem reportEnd?_of_not_takes (h : s.courses.get? id = some c)
    (hst : c.run.stage.takesOutcomes = false) (task : String) (e : Option AttemptEnd)
    (now : Instant) : s.reportEnd? id (.deliver id task e now) = none := by
  rw [reportEnd?, if_pos rfl, h, Option.bind_some, Course.report?]
  split
  · rename_i hawaiting
    rw [hawaiting] at hst
    cases hst
  · rfl

namespace Epilogue

/-- The job has ended as it was completed. -/
theorem status_eq (h : Epilogue env done c j ends) : j.status = done.status := by
  cases h <;> rfl

/-- Where no report is wanted, the run hands over the job. -/
theorem silent_of_unwanted (h : Epilogue env done c j ends)
    (unwanted : env.settings.generateReport = false) :
    j = done ∧ ends = [] ∧ c.run.stage.HandsOver done := by
  have hcontra : ¬ (env.settings.generateReport : Prop) := by
    rw [unwanted]
    exact Bool.false_ne_true
  cases h with
  | silent cause stage => exact ⟨rfl, rfl, stage⟩
  | due wanted => exact absurd wanted hcontra
  | awaited wanted => exact absurd wanted hcontra
  | written wanted => exact absurd wanted hcontra
  | panicked wanted => exact absurd wanted hcontra

/-- A step of the run.  After it no report is due any more, and if none was being written
either, the run is over. -/
theorem step (h : Epilogue env done c j ends) (hs : s.Has id c j)
    (hr : s.orchestrator.registry = env.registry) (hset : s.orchestrator.settings = env.settings)
    (now : Instant) :
    ∃ c', (s.act (.step id now)).Has id c' j ∧ Epilogue env done c' j ends ∧
      c'.run.weight ≤ 2 ∧ (c.run.weight ≤ 1 → c'.run.isOver) := by
  have hover : ∀ {c' : Course} {result : Except ExecutionError Job},
      c'.run.stage = .ended result → c'.run.weight ≤ 2 ∧ c'.run.isOver := fun {c'} _ hst => by
    have hover : c'.run.isOver := by rw [Run.isOver, hst]
    exact ⟨Run.weight_le_of_isOver hover 2, hover⟩
  cases h with
  | due wanted stage landed =>
    obtain ⟨c', hc', hnext, hweight⟩ := hs.step_of_due hr hset wanted stage landed now
    have hbefore : c.run.weight = 3 := by rw [Run.weight, stage]
    exact ⟨c', hc', hnext, hweight, fun hle => by omega⟩
  | awaited wanted found stage flight =>
    have hsame : c.run.weight = 2 := by rw [Run.weight, stage]
    exact ⟨c, hs.step_of_awaiting (by rw [Run.isAwaiting, stage]) now,
      .awaited wanted found stage flight, Nat.le_of_eq hsame, fun hle => by omega⟩
  | silent cause stage =>
    obtain ⟨c', hc', hended⟩ := hs.step_of_handsOver stage now
    exact ⟨c', hc', .silent cause (Or.inr hended), (hover hended).1, fun _ => (hover hended).2⟩
  | written wanted found calm stage =>
    obtain ⟨c', hc', hended⟩ := hs.step_of_handsOver stage now
    exact ⟨c', hc', .written wanted found calm (Or.inr hended), (hover hended).1,
      fun _ => (hover hended).2⟩
  | panicked wanted found stage =>
    have hover : c.run.isOver := by rw [Run.isOver, stage]
    exact ⟨c, hs.step_of_awaiting (by rw [Run.isAwaiting, stage]) now,
      .panicked wanted found stage, Run.weight_le_of_isOver hover 2, fun _ => hover⟩

/-- A delivery to the run. -/
theorem deliver (h : Epilogue env done c j ends) (hs : s.Has id c j)
    (unreported : done.finalReport = none) (task : String) (e : Option AttemptEnd)
    (now : Instant) :
    ∃ c' j', (s.act (.deliver id task e now)).Has id c' j' ∧
      Epilogue env done c' j' (ends ++ (s.reportEnd? id (.deliver id task e now)).toList) := by
  -- Unless the report is awaited, nothing is taken up and no end comes in.
  have hidle : c.run.stage.takesOutcomes = false →
      ∃ c' j', (s.act (.deliver id task e now)).Has id c' j' ∧
        Epilogue env done c' j' (ends ++ (s.reportEnd? id (.deliver id task e now)).toList) := by
    intro hst
    rw [act_deliver_of_not_takes hs.course hst, reportEnd?_of_not_takes hs.course hst,
      Option.toList_none, List.append_nil]
    exact ⟨c, j, hs, h⟩
  cases h with
  | due wanted stage => exact hidle (by rw [stage]; rfl)
  | silent cause stage => exact hidle stage.not_takes
  | written wanted found calm stage => exact hidle stage.not_takes
  | panicked wanted found stage => exact hidle (by rw [stage]; rfl)
  | @awaited worker wanted found stage flight =>
    have hreport : c.report? task
        = if finalReportTask == task then some (env.prepareReport worker j) else none := by
      rw [Course.report?, stage]
      dsimp only
      rw [Course.awaited?, stage, flight, Stage.takesOutcomes, if_pos rfl]
      exact List.find?_singleton
    -- Nothing but the report is in flight, so any other name is not taken up.
    by_cases ht : finalReportTask = task
    · subst ht
      obtain ⟨c', j', hc', hnext⟩ :=
        hs.deliver_of_awaited wanted found stage flight unreported e now
      refine ⟨c', j', hc', ?_⟩
      rw [reportEnd?, if_pos rfl, hs.course, Option.bind_some, hreport, if_pos (beq_self_eq_true _)]
      exact hnext
    · have hnone : c.awaited? task = none := by
        rw [Course.report?, stage, if_neg fun hb => ht (eq_of_beq hb)] at hreport
        exact hreport
      have hsame : s.act (.deliver id task e now) = s := by
        rw [act, hs.course]
        dsimp only
        rw [hnone]
      rw [hsame, reportEnd?, if_pos rfl, hs.course, Option.bind_some, hreport,
        if_neg fun hb => ht (eq_of_beq hb)]
      exact ⟨c, j, hs, .awaited wanted found stage flight⟩

end Epilogue

/-- **Every move keeps to the epilogue of a completed job.** -/
theorem Tracked.epilogue_act (h : s.Tracked env fun _ _ => True) (hs : s.Has id c j)
    (he : Epilogue env done c j ends) (terminal : done.isTerminal)
    (unreported : done.finalReport = none) (m : Move) :
    ∃ c' j', (s.act m).Has id c' j' ∧
      Epilogue env done c' j' (ends ++ (s.reportEnd? id m).toList) := by
  by_cases hm : m.job? = some id
  · have hsilent : s.reportEnd? id m = none → ends ++ (s.reportEnd? id m).toList = ends :=
      fun hnone => by rw [hnone, Option.toList_none, List.append_nil]
    cases m with
    | register w => cases hm
    | load path text => cases hm
    | start workflowId jobId parameters now =>
      cases hm
      rw [hsilent rfl, World.act, hs.course]
      exact ⟨c, j, hs, he⟩
    | stop jobId now =>
      cases hm
      have hj : j.isTerminal := by
        rw [Job.isTerminal, he.status_eq]
        exact terminal
      rw [hsilent rfl, World.act, Orchestrator.stop_of_terminal hs.job hj]
      exact ⟨c, j, hs, he⟩
    | step jobId now =>
      cases hm
      rw [hsilent rfl]
      obtain ⟨c', hc', hnext, -⟩ := he.step hs h.registry h.settings now
      exact ⟨c', j, hc', hnext⟩
    | deliver jobId task e now =>
      cases hm
      exact he.deliver hs unreported task e now
  · rw [reportEnd?_of_ne hm, Option.toList_none, List.append_nil]
    exact ⟨c, j, hs.agree (h.agree_act hm), he⟩

/-! ### The end of the epilogue -/

namespace Epilogue

/-- Once the report has come to an end, the run is about to be over. -/
theorem weight_le (h : Epilogue env done c j ends) (hends : ends ≠ []) : c.run.weight ≤ 1 := by
  cases h with
  | due wanted stage => exact absurd rfl hends
  | awaited wanted found stage => exact absurd rfl hends
  | silent cause stage => exact absurd rfl hends
  | written wanted found calm stage => exact stage.weight_le
  | panicked wanted found stage =>
    exact Run.weight_le_of_isOver (by rw [Run.isOver, stage]) 1

/-- The delivery of the report's end. -/
theorem deliver_report (h : Epilogue env done c j ends) (hs : s.Has id c j)
    (unreported : done.finalReport = none) (hweight : c.run.weight ≤ 2) (e : Option AttemptEnd)
    (now : Instant) :
    ∃ c' j' ends', (s.act (.deliver id finalReportTask e now)).Has id c' j' ∧
      Epilogue env done c' j' ends' ∧ c'.run.weight ≤ 1 := by
  have hidle : c.run.stage.takesOutcomes = false → c.run.weight ≤ 1 →
      ∃ c' j' ends', (s.act (.deliver id finalReportTask e now)).Has id c' j' ∧
        Epilogue env done c' j' ends' ∧ c'.run.weight ≤ 1 := by
    intro hst hle
    rw [act_deliver_of_not_takes hs.course hst]
    exact ⟨c, j, ends, hs, h, hle⟩
  cases h with
  | due wanted stage =>
    have hbefore : c.run.weight = 3 := by rw [Run.weight, stage]
    omega
  | awaited wanted found stage flight =>
    obtain ⟨c', j', hc', hnext⟩ := hs.deliver_of_awaited wanted found stage flight unreported e now
    exact ⟨c', j', _, hc', hnext, hnext.weight_le (List.cons_ne_nil _ _)⟩
  | silent cause stage => exact hidle stage.not_takes stage.weight_le
  | written wanted found calm stage => exact hidle stage.not_takes stage.weight_le
  | panicked wanted found stage =>
    exact hidle (by rw [stage]; rfl) (Run.weight_le_of_isOver (by rw [Run.isOver, stage]) 1)

end Epilogue

/-- **Three moves end the epilogue**: a step, the delivery of whatever end the report comes
to, and another step. -/
theorem Tracked.isOver_of_epilogue (h : s.Tracked env fun _ _ => True) (hs : s.Has id c j)
    (he : Epilogue env done c j ends) (unreported : done.finalReport = none)
    (e : Option AttemptEnd) (t₁ t₂ t₃ : Instant) :
    ∃ c', (s.play [.step id t₁, .deliver id finalReportTask e t₂, .step id t₃]).courses.get? id
      = some c' ∧ c'.run.isOver := by
  have h₁ := h.act_freely (.step id t₁)
  have h₂ := h₁.act_freely (.deliver id finalReportTask e t₂)
  obtain ⟨c₁, hs₁, he₁, hle₁, -⟩ := he.step hs h.registry h.settings t₁
  obtain ⟨c₂, j₂, ends₂, hs₂, he₂, hle₂⟩ := he₁.deliver_report hs₁ unreported hle₁ e t₂
  obtain ⟨c₃, hs₃, -, -, hover⟩ := he₂.step hs₂ h₂.registry h₂.settings t₃
  exact ⟨c₃, hs₃.course, hover hle₂⟩

end World
end Runbook
