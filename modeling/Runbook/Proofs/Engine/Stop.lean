/-
# Where a stop freezes a job

A stop ends the job at once, but its run goes on until it looks at the job again.  At
most stages the run looks before it writes, and then a stop freezes the job
(`Stage.heeds`, `frozen_by_stop`): no later move changes it or tells anything of it,
and the run ends with the stopped job.  Wherever the run waits for tasks is such a
stage.

While the tasks of a round are being started, and between the coming in and the
recording of a result, the run writes without looking (`result_recorded_after_stop`);
and once it has met an error that ends it, it ends with that error.
-/

import Runbook.Proofs.Engine.Account
import Runbook.Proofs.Engine.Shows

namespace Runbook

/-- Whether the run looks at its job before it writes to it again, and takes a job
that was stopped for stopped. -/
def Stage.heeds : Stage → Bool
  | .round _ | .starting [] _ _ | .waiting .. | .completing | .leaving => true
  | .recording oc _ _ => oc.overcome
  | _ => false

/-- What the run has ended with. -/
def Stage.result? : Stage → Option (Except ExecutionError Job)
  | .ended result => some result
  | _ => none

namespace Scene

/-- **Nothing has happened to the job.**  It is as it was in another scene, nothing
was told of it since, no task was started, and the run is on its way to hand it over
or has done so. -/
structure Frozen (s₀ s : Scene) : Prop where
  job : s.job = s₀.job
  told : s.told = s₀.told
  started : s.course.started = s₀.course.started
  stage : s.stage.heeds ∨ s.stage.result? = some (.ok s₀.job)

variable {s₀ s s' : Scene}

/-- The stage changes to another one that heeds a stop. -/
theorem Frozen.enters (h : s₀.Frozen s) (hj : s'.job = s.job) (ht : s'.told = s.told)
    (hs : s'.course.started = s.course.started)
    (hstage : s'.stage.heeds ∨ s'.stage.result? = some (.ok s.job)) : s₀.Frozen s' :=
  ⟨hj.trans h.job, ht.trans h.told, hs.trans h.started, h.job ▸ hstage⟩

/-- Where the run heeds a stop, it does not stay at a stage that does not. -/
theorem Frozen.absurd_stage (h : s₀.Frozen s) {here : Stage} (stage : s.stage = here)
    (hh : here.heeds = false) (hr : here.result? = none) : False := by
  rcases h.stage with hstage | hstage
  · rw [stage, hh] at hstage
    cases hstage
  · rw [stage, hr] at hstage
    cases hstage

/-- **A turn leaves an ended job as it is.** -/
theorem Frozen.turn (h : s₀.Frozen s) (terminal : s₀.job.isTerminal) {env : Orchestrator}
    (ht : Turn env s s') : s₀.Frozen s' := by
  have hnot : s.job.isTerminal ≠ false := by
    rw [h.job, terminal]
    exact Bool.noConfusion
  cases ht with
  | pass pass =>
    cases pass with
    | finish stage | leave stage | await stage | close stage | discard stage
    | succeedLate stage => exact h.enters rfl rfl rfl (Or.inl rfl)
    | depart stage => exact h.enters rfl rfl rfl (Or.inr rfl)
    | fall stage | fallLate stage | reportMissing stage | reportBegin stage | reportPanic stage
    | reportFail stage | reportDone stage => exact (h.absurd_stage stage rfl rfl).elim
  | starve stage left running | reject stage running | begin stage running
  | takeUp stage flight running | succeed stage running => exact absurd running hnot
  | overcome stage result continued running | fail stage result continued running =>
    exact absurd running hnot
  | launch stage | refuse stage | refuseLate stage =>
    exact (h.absurd_stage stage rfl rfl).elim
  | complete stage result =>
    -- The run would write without looking, so a stop here is not heeded.
    refine (h.absurd_stage stage ?_ rfl).elim
    show Outcome.overcome _ = false
    rw [Outcome.overcome, result]
  | @overlook oc e n pending stage result terminal =>
    have hover : oc.overcome = true := by
      by_contra hne
      exact h.absurd_stage stage (Bool.eq_false_iff.2 hne) rfl
    rw [Outcome.overcome, result] at hover
    refine h.enters rfl rfl rfl (Or.inl ?_)
    show (if oc.continues && e.isContinuable then Stage.waiting n pending else _).heeds = true
    rw [if_pos hover]
    rfl

end Scene

namespace World

namespace Tracked

variable {env : Orchestrator} {s : World} {id : String} {x : Scene}

/-- **An ended job that the run takes for ended stays as it is**, whatever moves follow. -/
theorem frozen (h : s.Tracked env fun _ _ => True) {s₀ : Scene} (terminal : s₀.job.isTerminal)
    (hx : s.Shows id x) (hf : s₀.Frozen x) (moves : List Move) :
    ∃ x', (s.play moves).Shows id x' ∧ s₀.Frozen x' := by
  induction moves generalizing s x with
  | nil => exact ⟨x, hx, hf⟩
  | cons m ms ih =>
    obtain ⟨x', hx', hmove⟩ := h.shows_act hx m
    refine ih (h.act_freely m) hx' ?_
    rcases hmove with rfl | hturn | ⟨now, -, running, -⟩
    · exact hf
    · exact hf.turn terminal hturn
    · -- Only a running job can be stopped once more.
      rw [hf.job, terminal] at running
      cases running

end Tracked

/-- **A stop freezes the job where its run heeds it.**  Whatever has been registered,
loaded, started, stopped and answered before, in any order, if a running job is
stopped where its run heeds that: whatever moves follow, the job stays as the stop left
it, nothing is told of it after the stop, no task of it is started, and if its run
ends, it ends with the stopped job. -/
theorem frozen_by_stop (registry : Registry) (settings : EngineSettings) (listening : Bool)
    (before after : List Move) (id : String) (now : Instant) (c : Course) (j : Job)
    (hc : ((initial registry settings listening).play before).courses.get? id = some c)
    (hj : ((initial registry settings listening).play before).orchestrator.job? id = some j)
    (running : j.status = .running) (heeds : c.run.stage.heeds) :
    ∃ c', ((initial registry settings listening).play
          (before ++ .stop id now :: after)).courses.get? id = some c' ∧
      ((initial registry settings listening).play
          (before ++ .stop id now :: after)).orchestrator.job? id
        = some (j.endedAs .stopped now) ∧
      (listening → ((initial registry settings listening).play
          (before ++ .stop id now :: after)).orchestrator.told id
        = ((initial registry settings listening).play before).orchestrator.told id
          ++ [.jobStopped id]) ∧
      c'.started = c.started ∧
      ∀ result, c'.run.stage = .ended result → result = .ok (j.endedAs .stopped now) := by
  have htracked := tracked_of_play registry settings listening before
  have hid := (htracked.scene id c hc).1
  have hterminal := Job.isTerminal_eq_false.2 running
  have hshows : ((initial registry settings listening).play before).Shows id
      ⟨j, c, ((initial registry settings listening).play before).orchestrator.told id⟩ :=
    ⟨hc, hj, fun _ => rfl⟩
  have hstopped := htracked.act_freely (.stop id now)
  have hafter := hstopped.play_freely after
  obtain ⟨x, hx, hfrozen⟩ := hstopped.frozen rfl
    (Tracked.shows_stop hshows hid hterminal now) ⟨rfl, rfl, rfl, Or.inl heeds⟩ after
  have hplay : (initial registry settings listening).play (before ++ .stop id now :: after)
      = (((initial registry settings listening).play before).act (.stop id now)).play after :=
    List.foldl_append
  rw [hplay]
  refine ⟨x.course, hx.course, hx.job.trans (congrArg some hfrozen.job), fun hl => ?_,
    hfrozen.started, fun result hend => ?_⟩
  · have htold := (hx.told (hafter.listening.trans hl)).trans hfrozen.told
    rw [Scene.stop, Scene.id, hid] at htold
    exact htold
  · rcases hfrozen.stage with hstage | hstage
    · have hstage : x.course.run.stage.heeds := hstage
      rw [hend] at hstage
      cases hstage
    · have hstage : x.course.run.stage.result? = some (.ok (j.endedAs .stopped now)) := hstage
      rw [hend] at hstage
      exact Option.some.inj hstage

/-- **Between the coming in and the recording of a result, a stop freezes nothing.**  In
the sample, the job is stopped there, and the next step of its run records the result
and tells of it. -/
theorem result_recorded_after_stop :
    (∃ j, (Sample.world (Sample.firstRound.take 7 ++ [.stop "job" ⟨4⟩])).orchestrator.job? "job"
        = some j ∧ j.status = .stopped ∧ j.results.contains "survey" = false) ∧
      ∃ j, (Sample.world (Sample.firstRound.take 7 ++ [.stop "job" ⟨4⟩, Sample.step 5])
        ).orchestrator.job? "job" = some j ∧ j.status = .stopped ∧
          j.results.contains "survey" = true :=
  ⟨⟨_, rfl, rfl, rfl⟩, ⟨_, rfl, rfl, rfl⟩⟩

end World
end Runbook
