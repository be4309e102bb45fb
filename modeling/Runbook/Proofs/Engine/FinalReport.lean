/-
# The final report and the job

The final report does nothing to a completed job but stand in it (`report_spares_job`).  For
the comparison with a run without the report two worlds go side by side that differ in that
setting alone (`World.Beside`).  Up to the completion of the job the setting is not read, so
they agree on it; the step that completes it is the same in both; and from there on each
runs its epilogue (`World.Tracked.beside_act`).

What the report does not spare is the run.  An error of the worker and a report that takes
too long are told of and the job is handed over, but a panic of the worker is not caught
here, as one in a task is: the run ends with it and hands over nothing
(`panic_escapes_report`).
-/

import Runbook.Proofs.Engine.Closing
import Runbook.Proofs.Engine.Epilogue

namespace Runbook

/-! ### Up to the completion of the job -/

/-- A job is completed by a turn from one stage only. -/
theorem Turn.completes {env : Orchestrator} {s s' : Scene} (h : Turn env s s')
    (hdone : s'.job.status = .completed) :
    s.job.status = .completed ∨ s.stage = .completing ∧ s.job.isTerminal = false := by
  cases h with
  | pass pass => exact Or.inl (pass.frame.whole hdone)
  | succeed stage running => exact Or.inr ⟨stage, running⟩
  | _ => exact Or.inl hdone

namespace Scene

/-- Before its completion a job has no report, and none is due. -/
def Unreported (s : Scene) : Prop :=
  s.job.status ≠ .completed →
    s.job.finalReport = none ∧ s.stage ≠ .reporting ∧ s.stage ≠ .awaitingReport

/-- A pass keeps it. -/
theorem Unreported.pass {env : Orchestrator} {s s' : Scene} (h : s.Unreported)
    (hp : Pass env s s') : s'.Unreported := by
  intro hs'
  have hs : s.job.status ≠ .completed := by
    cases hp with
    | fall stage running => exact Job.not_completed running
    | _ => exact hs'
  obtain ⟨hnone, hdue, hwritten⟩ := h hs
  cases hp with
  | reportBegin stage => exact absurd stage hdue
  | reportDone stage => exact absurd stage hwritten
  | _ => exact ⟨hnone, nofun, nofun⟩

/-- It holds of every scene that is reached. -/
theorem Reached.unreported {env : Orchestrator} {may : Run → Prop} {s : Scene}
    (h : Reached env may s) : s.Unreported := by
  induction h with
  | start valid => exact fun _ => ⟨rfl, nofun, nofun⟩
  | stop before running allowed ih => exact fun _ => ih (Job.not_completed running)
  | turn before turn ih =>
    cases turn with
    | pass pass => exact ih.pass pass
    | succeed stage running => exact fun hs' => absurd rfl hs'
    | @overlook oc e n pending stage result terminal =>
      intro hs'
      refine ⟨(ih hs').1, ?_, ?_⟩ <;> cases oc.continues && e.isContinuable <;> exact nofun
    | _ => exact fun hs' => ⟨(ih hs').1, nofun, nofun⟩

end Scene

namespace World

variable {env env' : Orchestrator} {s t : World} {id : String} {c : Course} {j done : Job}
  {ends : List (Prepared × Option AttemptEnd)}

/-- With the step that completes the job its epilogue begins. -/
theorem Has.step_of_completing (h : s.Has id c j)
    (hs : s.orchestrator.settings = env.settings) (stage : c.run.stage = .completing)
    (running : j.isTerminal = false) (landed : c.inFlight = []) (now : Instant) :
    ∃ c', (s.act (.step id now)).Has id c' (j.endedAs .completed now) ∧
      Epilogue env (j.endedAs .completed now) c' (j.endedAs .completed now) [] := by
  have moves : c.run.isAwaiting = false := by rw [Run.isAwaiting, stage]
  have hid : (j.endedAs .completed now).id = c.run.jobId :=
    (Orchestrator.id_of_job? h.job).trans h.jobId.symm
  have hjob : s.orchestrator.job? c.run.jobId = some j := h.jobId ▸ h.job
  rw [h.act_step moves, Run.stepOn, stage]
  dsimp only
  rw [Job.finish?_of_running running, hs]
  refine ⟨_, has_insert h.jobId ((Orchestrator.job?_emit _ _ _).trans
    (h.jobId ▸ Orchestrator.job?_setJob_self hjob hid)), ?_⟩
  cases hg : env.settings.generateReport with
  | true => exact .due hg rfl landed
  | false => exact .silent (Or.inl hg) (Or.inl rfl)

/-- Two worlds beside each other that may differ in the setting of the report: the job is
the same in both until it is completed, and then each runs its own epilogue. -/
inductive Beside (env env' : Orchestrator) (id : String) (s t : World) :
    List (Prepared × Option AttemptEnd) → Prop where
  | before (agree : s.Agree t id)
      (unfinished : ∀ j, s.orchestrator.job? id = some j → j.status ≠ .completed) :
      Beside env env' id s t []
  | after {done j j' : Job} {c c' : Course} {ends ends' : List (Prepared × Option AttemptEnd)}
      (completed : done.status = .completed) (unreported : done.finalReport = none)
      (here : s.Has id c j) (epilogue : Epilogue env done c j ends)
      (there : t.Has id c' j') (epilogue' : Epilogue env' done c' j' ends') :
      Beside env env' id s t ends

/-- Where no report is being written, none comes to an end. -/
theorem reportEnd?_eq_none (h : ∀ c, s.courses.get? id = some c → c.run.stage ≠ .awaitingReport)
    (m : Move) : s.reportEnd? id m = none := by
  cases m with
  | deliver jobId task e now =>
    rw [reportEnd?]
    split
    · cases hc : s.courses.get? id with
      | none => rfl
      | some c =>
        rw [Option.bind_some, Course.report?]
        split
        · rename_i hst
          exact absurd hst (h c hc)
        · rfl
    · rfl
  | _ => rfl

namespace Tracked

/-- Nothing is in flight where a job is about to be completed. -/
theorem landed (h : s.Tracked env fun _ _ => True) (hs : s.Has id c j)
    (stage : c.run.stage = .completing) : c.inFlight = [] := by
  obtain ⟨-, k, told, -, hreach, -⟩ := h.scene id c hs.course
  have hst : (⟨k, c, told⟩ : Scene).stage = .completing := stage
  have hway := hreach.sound.underWay [] (by rw [hst]; rfl)
  exact (hway.between (by rw [hst]; rfl)).2.2

/-- What holds of a job that is not completed. -/
theorem unreported (h : s.Tracked env fun _ _ => True) (hs : s.Has id c j)
    (unfinished : j.status ≠ .completed) :
    j.finalReport = none ∧ c.run.stage ≠ .reporting ∧ c.run.stage ≠ .awaitingReport := by
  obtain ⟨-, k, told, hk, hreach, -⟩ := h.scene id c hs.course
  cases hk.symm.trans hs.job
  exact hreach.unreported unfinished

/-- A move that completes a job is the step of its run from that stage. -/
theorem completing_of_act (h : s.Tracked env fun _ _ => True) (hs : s.Has id c j)
    (unfinished : j.status ≠ .completed) {m : Move} {j' : Job}
    (hj' : (s.act m).orchestrator.job? id = some j') (hdone : j'.status = .completed) :
    (∃ now, m = .step id now) ∧ c.run.stage = .completing ∧ j.isTerminal = false := by
  obtain ⟨x, hx, hxj⟩ := h.shows_of_job? hs.job
  cases hx.course.symm.trans hs.course
  subst hxj
  have hplace : x.course.run.stage = .completing ∧ x.job.isTerminal = false := by
    obtain ⟨x', hx', hchange⟩ := h.shows_act hx m
    cases hx'.job.symm.trans hj'
    rcases hchange with rfl | hturn | ⟨now, -, -, rfl⟩
    · exact absurd hdone unfinished
    · exact (hturn.completes hdone).resolve_left unfinished
    · cases hdone
  have hchanged : (s.act m).orchestrator.job? id ≠ s.orchestrator.job? id := by
    intro he
    rw [he, hs.job] at hj'
    cases hj'
    exact unfinished hdone
  refine ⟨?_, hplace⟩
  have hown : m.job? = some id := by
    by_contra hm
    exact hchanged (h.agree_act hm).orchestrator.job.symm
  cases m with
  | register w => cases hown
  | load path text => cases hown
  | start workflowId jobId parameters now =>
    cases hown
    exact absurd (by rw [World.act, hs.course]) hchanged
  | stop jobId now =>
    cases hown
    cases (stops_of_running hs.job hplace.2 now).own.symm.trans hj'
    cases hdone
  | step jobId now =>
    cases hown
    exact ⟨now, rfl⟩
  | deliver jobId task e now =>
    cases hown
    refine absurd ?_ hchanged
    rw [act_deliver_of_not_takes hs.course (by rw [hplace.1]; rfl)]

/-- The step that completes the job is the same in both worlds, and the epilogue of each
begins with it. -/
theorem beside_of_completing (hs : s.Tracked env fun _ _ => True)
    (ht : t.Tracked env' fun _ _ => True) (agree : s.Agree t id) (hj : s.Has id c j)
    (stage : c.run.stage = .completing) (running : j.isTerminal = false) (now : Instant) :
    Beside env env' id (s.act (.step id now)) (t.act (.step id now)) [] := by
  have landed := hs.landed hj stage
  have completed : (j.endedAs .completed now).status = .completed := rfl
  have unreported : (j.endedAs .completed now).finalReport = none :=
    (hs.unreported hj (Job.not_completed running)).1
  obtain ⟨_, hhere, hnext⟩ := hj.step_of_completing hs.settings stage running landed now
  obtain ⟨_, hthere, hnext'⟩ :=
    (hj.agree agree).step_of_completing ht.settings stage running landed now
  exact .after completed unreported hhere hnext hthere hnext'

/-- **Every move keeps worlds beside each other.** -/
theorem beside_act (hs : s.Tracked env fun _ _ => True) (ht : t.Tracked env' fun _ _ => True)
    (hw : s.orchestrator.workflows = t.orchestrator.workflows)
    (h : Beside env env' id s t ends) (m : Move) :
    Beside env env' id (s.act m) (t.act m) (ends ++ (s.reportEnd? id m).toList) := by
  cases h with
  | @after done j j' c c' _ _ completed unreported here epilogue there epilogue' =>
    have terminal : done.isTerminal := by rw [Job.isTerminal, completed]; rfl
    obtain ⟨_, _, hhere, hnext⟩ := hs.epilogue_act here epilogue terminal unreported m
    obtain ⟨_, _, hthere, hnext'⟩ := ht.epilogue_act there epilogue' terminal unreported m
    exact .after completed unreported hhere hnext hthere hnext'
  | before agree unfinished =>
    have hsilent : s.reportEnd? id m = none := reportEnd?_eq_none (fun c hc => by
      obtain ⟨j, hj⟩ := hs.exists_has hc
      exact (hs.unreported hj (unfinished j hj.job)).2.2) m
    rw [hsilent, Option.toList_none, List.append_nil]
    -- Only the step that completes the job reads the setting in which the worlds differ.
    by_cases hcompletes : ∃ now c j, m = .step id now ∧ s.Has id c j ∧
        c.run.stage = .completing ∧ j.isTerminal = false
    · obtain ⟨now, c, j, rfl, hj, stage, running⟩ := hcompletes
      exact hs.beside_of_completing ht agree hj stage running now
    · refine .before (agree.act_both hs ht hw m fun now he c hc stage j hj running => ?_)
        fun j' hj' hdone => hcompletes ?_
      · exact absurd ⟨now, c, j, he, ⟨hc, (hs.scene id c hc).1, hj⟩, stage, running⟩ hcompletes
      · cases hc : s.courses.get? id with
        | none =>
          rw [hs.running_of_act hc hj'] at hdone
          cases hdone
        | some c =>
          obtain ⟨j, hj⟩ := hs.exists_has hc
          obtain ⟨⟨now, he⟩, hplace⟩ :=
            hs.completing_of_act hj (unfinished j hj.job) hj' hdone
          exact ⟨now, c, j, he, hj, hplace⟩

/-- All moves keep worlds beside each other. -/
theorem beside_play (hs : s.Tracked env fun _ _ => True) (ht : t.Tracked env' fun _ _ => True)
    (hw : s.orchestrator.workflows = t.orchestrator.workflows)
    (h : Beside env env' id s t ends) (moves : List Move) :
    Beside env env' id (s.play moves) (t.play moves) (ends ++ s.reportEnds id moves) := by
  induction moves generalizing s t ends with
  | nil =>
    rw [reportEnds, List.append_nil]
    exact h
  | cons m ms ih =>
    rw [reportEnds, ← List.append_assoc]
    exact ih (hs.act_freely m) (ht.act_freely m) (hs.workflows_congr ht hw m)
      (hs.beside_act ht hw h m)

end Tracked

/-- The report that the ends leave in the job. -/
def reportOf? (ends : List (Prepared × Option AttemptEnd)) : Option Json :=
  ends.head?.bind fun x => AttemptEnd.value? x.2

namespace Epilogue

/-- The job is as it was completed but for the report. -/
theorem job_eq (h : Epilogue env done c j ends) (unreported : done.finalReport = none) :
    j = done.withReport (reportOf? ends) := by
  have hsame : done = done.withReport none := by rw [Job.withReport, ← unreported]
  cases h with
  | written wanted found calm stage => rfl
  | _ => exact hsame

/-- The report was asked for at most once, with the job as it was completed. -/
theorem ends_eq (h : Epilogue env done c j ends) :
    ends = [] ∨ ∃ worker e, env.registry.worker? .report = some worker ∧
      ends = [(env.prepareReport worker done, e)] := by
  cases h with
  | written wanted found calm stage => exact Or.inr ⟨_, _, found, rfl⟩
  | panicked wanted found stage => exact Or.inr ⟨_, _, found, rfl⟩
  | _ => exact Or.inl rfl

/-- A run that is over has handed over the job, or the worker of the report has panicked. -/
theorem ended (h : Epilogue env done c j ends) (hover : c.run.isOver) :
    c.run.stage = .ended (.ok j) ∨ ∃ p message, ends = [(p, some (.panic message))] ∧
      c.run.stage = .panicked message := by
  have hended : ∀ {k : Job}, c.run.stage.HandsOver k → c.run.stage = .ended (.ok k) := by
    rintro k (hst | hst)
    · rw [Run.isOver, hst] at hover
      cases hover
    · exact hst
  cases h with
  | due wanted stage => rw [Run.isOver, stage] at hover; cases hover
  | awaited wanted found stage => rw [Run.isOver, stage] at hover; cases hover
  | silent cause stage => exact Or.inl (hended stage)
  | written wanted found calm stage => exact Or.inl (hended stage)
  | panicked wanted found stage => exact Or.inr ⟨_, _, rfl, stage⟩

/-- A run that is over has had its report written, if one was wanted and there was somebody
to write it. -/
theorem reported (h : Epilogue env done c j ends) (hover : c.run.isOver)
    (wanted : env.settings.generateReport) {worker : Worker}
    (found : env.registry.worker? .report = some worker) :
    ∃ e, ends = [(env.prepareReport worker done, e)] := by
  cases h with
  | due _ stage => rw [Run.isOver, stage] at hover; cases hover
  | awaited _ _ stage => rw [Run.isOver, stage] at hover; cases hover
  | silent cause =>
    rcases cause with unwanted | missing
    · rw [unwanted] at wanted
      cases wanted
    · rw [missing] at found
      cases found
  | written _ found' =>
    cases found'.symm.trans found
    exact ⟨_, rfl⟩
  | panicked _ found' =>
    cases found'.symm.trans found
    exact ⟨_, rfl⟩

end Epilogue

/-- Beside any world of moves stands one where no report is wanted. -/
theorem beside_of_play (registry : Registry) (settings : EngineSettings) (listening : Bool)
    (moves : List Move) (id : String) :
    Beside { registry, settings, listening }
      { registry, settings := settings.withoutReport, listening } id
      ((initial registry settings listening).play moves)
      ((initial registry settings.withoutReport listening).play moves)
      ((initial registry settings listening).reportEnds id moves) := by
  have hinitial : (initial registry settings listening).Agree
      (initial registry settings.withoutReport listening) id := ⟨⟨rfl, rfl, rfl, rfl, rfl⟩, rfl⟩
  exact (tracked_initial registry settings listening fun _ _ => True).beside_play
    (tracked_initial registry settings.withoutReport listening fun _ _ => True) rfl
    (.before hinitial nofun) moves

/-- **The final report does nothing to a completed job but stand in it.**  Whatever the
worker of the report does, and also if there is none, a job that was completed is the one
that the same history leaves without the report, where the run hands it over, except for
the report itself: that is the value that the worker gave, if it gave one.  The worker is
asked at most once.  A run that is over has handed over the job unless the worker
panicked; and a run that is not yet over is over after a step, the delivery of whatever end
the report comes to, and another step. -/
theorem report_spares_job (registry : Registry) (settings : EngineSettings) (listening : Bool)
    (moves : List Move) (id : String) (j : Job)
    (hj : ((initial registry settings listening).play moves).orchestrator.job? id = some j)
    (hdone : j.status = .completed) :
    ∃ c c' done,
      ((initial registry settings listening).play moves).courses.get? id = some c ∧
      ((initial registry settings.withoutReport listening).play moves).courses.get? id = some c' ∧
      ((initial registry settings.withoutReport listening).play moves).orchestrator.job? id
        = some done ∧
      (c'.run.stage = .leaving ∨ c'.run.stage = .ended (.ok done)) ∧
      done.status = .completed ∧ done.finalReport = none ∧
      j = { done with
        finalReport := reportOf? ((initial registry settings listening).reportEnds id moves) } ∧
      ((initial registry settings listening).reportEnds id moves = [] ∨
        ∃ worker e, registry.worker? .report = some worker ∧
          (initial registry settings listening).reportEnds id moves
            = [(Orchestrator.prepareReport { registry, settings, listening } worker done, e)]) ∧
      (c.run.isOver → c.run.stage = .ended (.ok j) ∨
        ∃ p message, (initial registry settings listening).reportEnds id moves
            = [(p, some (.panic message))] ∧ c.run.stage = .panicked message) ∧
      ∀ e t₁ t₂ t₃, ∃ c₃,
        ((initial registry settings listening).play (moves ++
          [.step id t₁, .deliver id finalReportTask e t₂, .step id t₃])).courses.get? id
            = some c₃ ∧ c₃.run.isOver := by
  have htracked := tracked_of_play registry settings listening moves
  have hbeside := beside_of_play registry settings listening moves id
  generalize (initial registry settings listening).reportEnds id moves = ends at hbeside ⊢
  cases hbeside with
  | before agree unfinished => exact absurd hdone (unfinished j hj)
  | @after done j₁ j' c c' _ _ completed unreported here epilogue there epilogue' =>
    cases here.job.symm.trans hj
    obtain ⟨rfl, -, hhands⟩ := epilogue'.silent_of_unwanted rfl
    refine ⟨c, c', _, here.course, there.course, there.job, hhands, completed, unreported,
      epilogue.job_eq unreported, epilogue.ends_eq, epilogue.ended, fun e t₁ t₂ t₃ => ?_⟩
    rw [play_append]
    exact htracked.isOver_of_epilogue here epilogue unreported e t₁ t₂ t₃

end World

namespace Sample

/-- A worker for the tasks and one for the final report. -/
def reporters : Registry := .ofList [worker, { worker with kind := .report }]

/-- The job is completed, its report is begun and comes to an end. -/
def reported (e : Option AttemptEnd) : List Move :=
  moves (firstRound ++ secondRound ++ [.deliver "job" finalReportTask e ⟨6⟩, step 6])

/-- The world after these moves. -/
def reportedWorld (e : Option AttemptEnd) : World :=
  (World.initial reporters {} true).play (reported e)

end Sample

namespace World

/-- In the sample, the worker of the report gives a value, and the job that is handed over
has it and is otherwise the one without a report. -/
theorem report_spares_job_sample :
    ∃ j done, (Sample.reportedWorld (some (.value (.string "well")))).orchestrator.job? "job"
        = some j ∧
      ((initial Sample.reporters { generateReport := false } true).play
        (Sample.reported (some (.value (.string "well"))))).orchestrator.job? "job" = some done ∧
      j.status = .completed ∧ done.finalReport = none ∧
      j = { done with finalReport := some (.string "well") } := by
  have hjob : ((Sample.reportedWorld (some (.value (.string "well")))).orchestrator.job? "job").map
      (·.status) = some .completed := rfl
  obtain ⟨j, hj, hdone⟩ := Option.map_eq_some_iff.1 hjob
  obtain ⟨c, c', done, -, -, hdone', -, -, hnone, heq, -⟩ :=
    report_spares_job Sample.reporters {} true
      (Sample.reported (some (.value (.string "well")))) "job" j hj hdone
  exact ⟨j, done, hj, hdone', hdone, hnone, heq⟩

/-- **A panic of the worker of the report escapes the run.**  The job is completed, but the
run does not hand it over. -/
theorem panic_escapes_report :
    ∃ c j, (Sample.reportedWorld (some (.panic "boom"))).courses.get? "job" = some c ∧
      (Sample.reportedWorld (some (.panic "boom"))).orchestrator.job? "job" = some j ∧
      j.status = .completed ∧ c.run.stage = .panicked "boom" ∧
      ∀ result, c.run.stage ≠ .ended result := by
  have hcourse : ((Sample.reportedWorld (some (.panic "boom"))).courses.get? "job").map
      (·.run.stage) = some (.panicked "boom") := rfl
  have hjob : ((Sample.reportedWorld (some (.panic "boom"))).orchestrator.job? "job").map
      (·.status) = some .completed := rfl
  obtain ⟨c, hc, hstage⟩ := Option.map_eq_some_iff.1 hcourse
  obtain ⟨j, hj, hdone⟩ := Option.map_eq_some_iff.1 hjob
  exact ⟨c, j, hc, hj, hdone, hstage, fun result hst => by rw [hstage] at hst; cases hst⟩

end World
end Runbook
