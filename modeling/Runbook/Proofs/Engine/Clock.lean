/-
# When a job ends

A job that is stopped only while its run waits is in a state that the stage of the
run allows (`Stage.allows`): it runs until the run completes it, fails it or finds
it stopped.  Its single values go by that state: the job has an end exactly if it
has ended, an error exactly if it has failed, namely the one that the run has ended
with, and a final report only if it is completed (`Reached.timed`).
-/

import Runbook.Proofs.Engine.Track

namespace Runbook

namespace Job

/-- **The single values go by the status.**  The job has an end exactly if it has
ended, an error exactly if it has failed, and a final report only if it is
completed. -/
structure Dated (j : Job) : Prop where
  endTime : j.endTime.isSome = j.isTerminal
  duration : j.durationMs.isSome = j.isTerminal
  error : j.error.isSome ↔ j.status = .failed
  report : j.finalReport.isSome → j.status = .completed

/-- A running job comes to its end without an error. -/
theorem Dated.ended {j : Job} (h : j.Dated) (running : j.isTerminal = false) (status : JobStatus)
    (hs : status.isTerminal) (hf : status ≠ .failed) (now : Instant) :
    (j.endedAs status now).Dated := by
  have hrun := isTerminal_eq_false.1 running
  refine ⟨hs.symm, hs.symm, ?_, fun hr => ?_⟩
  · constructor
    · intro he
      have hfailed := h.error.1 he
      rw [hrun] at hfailed
      cases hfailed
    · exact fun he => absurd he hf
  · have hdone := h.report hr
    rw [hrun] at hdone
    cases hdone

/-- A running job fails with an error. -/
theorem Dated.failed {j : Job} (h : j.Dated) (running : j.isTerminal = false) (now : Instant)
    (text : String) : Dated { j.endedAs .failed now with error := some text } := by
  refine ⟨rfl, rfl, iff_of_true rfl rfl, fun hr => ?_⟩
  have hdone := h.report hr
  rw [isTerminal_eq_false.1 running] at hdone
  cases hdone

end Job

/-- The states in which a job can be at a stage of its run, if it is stopped only
while the run waits. -/
def Stage.allows : Stage → JobStatus → Prop
  | .waiting (_ + 1) _, status => status = .running ∨ status = .stopped
  | .reporting, status | .awaitingReport, status | .panicked _, status => status = .completed
  | .leaving, status | .ended (.ok _), status => status = .completed ∨ status = .stopped
  | .ended (.error _), status => status = .failed
  | .round _, status | .starting .., status | .waiting 0 _, status | .recording .., status
  | .rejecting .., status | .failing _, status | .completing, status => status = .running

/-- A run that waits for no task or for some has a running job. -/
theorem Stage.allows_waiting {n : Nat} {pending : List Task} {status : JobStatus}
    (h : status = .running) : (waiting n pending).allows status := by
  cases n with
  | zero => exact h
  | succ n => exact Or.inl h

/-- A turn stops no job, and a job that was stopped stays so. -/
theorem Turn.stopped_iff {env : Orchestrator} {s s' : Scene} (h : Turn env s s') :
    s'.job.status = .stopped ↔ s.job.status = .stopped := by
  have hrunning : ∀ {status : JobStatus}, s.job.isTerminal = false → status ≠ .stopped →
      (status = .stopped ↔ s.job.status = .stopped) := fun running hne => by
    refine iff_of_false hne fun hs => ?_
    rw [Job.isTerminal, hs] at running
    cases running
  cases h with
  | pass pass =>
    cases pass with
    | fall stage running => exact hrunning running JobStatus.noConfusion
    | _ => exact Iff.rfl
  | succeed stage running => exact hrunning running JobStatus.noConfusion
  | _ => exact Iff.rfl

namespace Scene

/-- The job is in a state of its stage, its single values go by it, and its error
is the one that the run has ended with. -/
structure Timed (s : Scene) : Prop where
  allowed : s.stage.allows s.job.status
  dated : s.job.Dated
  error : ∀ e, s.stage = .ended (.error e) → s.job.error = some e.message

namespace Timed

variable {s s' : Scene}

/-- The stage changes, the job does not. -/
theorem enters (h : s.Timed) {here : Stage} (stage : s.stage = here)
    (ha : here.allows s.job.status → s'.stage.allows s.job.status)
    (he : ∀ e, s'.stage ≠ .ended (.error e)) (hj : s'.job = s.job) : s'.Timed := by
  refine ⟨?_, ?_, fun e hend => absurd hend (he e)⟩
  · rw [hj]
    exact ha (stage ▸ h.allowed)
  · rw [hj]
    exact h.dated

/-- A job whose stage allows only a running one is running. -/
theorem running (h : s.Timed) {here : Stage} (stage : s.stage = here)
    (ha : here.allows s.job.status → s.job.status = .running) : s.job.isTerminal = false := by
  have hall := h.allowed
  rw [stage] at hall
  exact Job.isTerminal_eq_false.2 (ha hall)

/-- Such a job has not ended. -/
theorem not_terminal (h : s.Timed) {here : Stage} (stage : s.stage = here)
    (ha : here.allows s.job.status → s.job.status = .running) : ¬ s.job.isTerminal := by
  rw [h.running stage ha]
  exact Bool.false_ne_true

/-- Where a run waits or is over, it has not failed, or it has ended with the error
of a failed job. -/
theorem rests (h : s.Timed) (rest : s.course.run.isAwaiting) :
    (s.stage.fate? = none ∧ s.stage.returned = [] ∧ s.job.status ≠ .failed) ∨
      ∃ e, s.stage = .ended (.error e) ∧ s.job.status = .failed := by
  have hall := h.allowed
  rw [Scene.stage] at hall ⊢
  rw [Run.isAwaiting.eq_def] at rest
  split at rest
  · rename_i n pending hst
    rw [hst] at hall ⊢
    refine Or.inl ⟨rfl, rfl, fun hf => ?_⟩
    rcases hall with hall | hall <;> rw [hf] at hall <;> cases hall
  · rename_i hst
    rw [hst] at hall ⊢
    exact Or.inl ⟨rfl, rfl, fun hf => by rw [hf] at hall; cases hall⟩
  · rename_i result hst
    rw [hst] at hall ⊢
    cases result with
    | ok j =>
      refine Or.inl ⟨rfl, rfl, fun hf => ?_⟩
      rcases hall with hall | hall <;> rw [hf] at hall <;> cases hall
    | error e => exact Or.inr ⟨e, rfl, hall⟩
  · rename_i hst
    rw [hst] at hall ⊢
    exact Or.inl ⟨rfl, rfl, fun hf => by rw [hf] at hall; cases hall⟩
  · cases rest

/-- A job whose run is over has ended. -/
theorem ne_running (h : s.Timed) {result : Except ExecutionError Job}
    (stage : s.stage = .ended result) : s.job.status ≠ .running := by
  intro hrun
  have hall := h.allowed
  rw [stage, hrun] at hall
  cases result with
  | ok j => rcases hall with hall | hall <;> cases hall
  | error e => cases hall

/-- A pass keeps it. -/
theorem pass (h : s.Timed) {env : Orchestrator} (hp : Pass env s s') : s'.Timed := by
  cases hp with
  | finish stage => exact h.enters stage (fun ha => ha) nofun rfl
  | leave stage left terminal => exact absurd terminal (h.not_terminal stage fun ha => ha)
  | await stage => exact h.enters stage Stage.allows_waiting nofun rfl
  | close stage => exact h.enters stage (fun ha => ha) nofun rfl
  | discard stage flight terminal =>
    refine h.enters stage (fun ha => ?_) nofun rfl
    rcases ha with hrun | hstop
    · rw [Job.isTerminal_eq_false.2 hrun] at terminal
      cases terminal
    · exact Or.inr hstop
  | fall stage running =>
    refine ⟨rfl, h.dated.failed running _ _, fun e' hend => ?_⟩
    cases hend
    rfl
  | fallLate stage terminal => exact absurd terminal (h.not_terminal stage fun ha => ha)
  | succeedLate stage terminal => exact absurd terminal (h.not_terminal stage fun ha => ha)
  | reportMissing stage missing => exact h.enters stage Or.inl nofun rfl
  | reportBegin stage found => exact h.enters stage (fun ha => ha) nofun rfl
  | reportPanic stage flight => exact h.enters stage (fun ha => ha) nofun rfl
  | reportFail stage flight => exact h.enters stage Or.inl nofun rfl
  | reportDone stage flight =>
    have hdone : s.job.status = .completed := by
      have hall := h.allowed
      rw [stage] at hall
      exact hall
    exact ⟨Or.inl hdone, ⟨h.dated.endTime, h.dated.duration, h.dated.error, fun _ => hdone⟩, nofun⟩
  | depart stage => exact h.enters stage (fun ha => ha) nofun rfl

/-- **A turn keeps it.** -/
theorem turn (h : s.Timed) {env : Orchestrator} (ht : Turn env s s') : s'.Timed := by
  have hd := h.dated
  have hkept : ∀ j : Job, j.status = s.job.status → j.endTime = s.job.endTime →
      j.durationMs = s.job.durationMs → j.error = s.job.error →
      j.finalReport = s.job.finalReport → j.Dated := by
    intro j hs hend hdur herr hrep
    refine ⟨?_, ?_, ?_, ?_⟩
    · rw [hend, Job.isTerminal, hs]
      exact hd.endTime
    · rw [hdur, Job.isTerminal, hs]
      exact hd.duration
    · rw [herr, hs]
      exact hd.error
    · rw [hrep, hs]
      exact hd.report
  cases ht with
  | pass pass => exact h.pass pass
  | starve stage | reject stage | begin stage =>
    exact h.enters stage (fun ha => ha) (fun _ he => by cases he) rfl
  | launch stage =>
    have hrun := Job.isTerminal_eq_false.1 (h.running stage fun ha => ha)
    exact ⟨hrun, hkept _ rfl rfl rfl rfl rfl,
      fun _ he => by cases he⟩
  | takeUp stage flight running =>
    exact ⟨Job.isTerminal_eq_false.1 running, hkept _ rfl rfl rfl rfl rfl,
      fun _ he => by cases he⟩
  | complete stage result =>
    have hrun := Job.isTerminal_eq_false.1 (h.running stage fun ha => ha)
    exact ⟨Stage.allows_waiting hrun, hkept _ rfl rfl rfl rfl rfl,
      fun _ he => by cases he⟩
  | overcome stage result continued running =>
    exact ⟨Stage.allows_waiting (Job.isTerminal_eq_false.1 running), hkept _ rfl rfl rfl rfl rfl,
      fun _ he => by cases he⟩
  | fail stage result continued running | refuse stage running =>
    exact ⟨Job.isTerminal_eq_false.1 running, hkept _ rfl rfl rfl rfl rfl,
      fun _ he => by cases he⟩
  | overlook stage result terminal => exact absurd terminal (h.not_terminal stage fun ha => ha)
  | refuseLate stage terminal => exact absurd terminal (h.not_terminal stage fun ha => ha)
  | succeed stage running =>
    have hdone := hd.ended running .completed rfl (by decide)
    cases env.settings.generateReport with
    | true => exact ⟨rfl, hdone _, fun _ he => by cases he⟩
    | false => exact ⟨Or.inl rfl, hdone _, fun _ he => by cases he⟩

/-- A stop where the run waits keeps it. -/
theorem stops (h : s.Timed) (running : s.job.isTerminal = false) (rest : s.course.run.isAwaiting)
    (now : Instant) : (s.stop now).Timed := by
  have hall := h.allowed
  rw [Job.isTerminal_eq_false.1 running] at hall
  -- Of the stages at which a run waits, only this one allows a running job.
  have hstage : ∃ n pending, s.stage = .waiting (n + 1) pending := by
    rw [Run.isAwaiting.eq_def] at rest
    change s.stage.allows .running at hall
    rw [Scene.stage] at hall ⊢
    split at rest
    · rename_i n pending hst
      exact ⟨n, pending, hst⟩
    · rename_i hst
      rw [hst] at hall
      cases hall
    · rename_i result hst
      rw [hst] at hall
      cases result with
      | ok j => rcases hall with hall | hall <;> cases hall
      | error e => cases hall
    · rename_i hst
      rw [hst] at hall
      cases hall
    · cases rest
  obtain ⟨n, pending, hst⟩ := hstage
  have hst' : (s.stop now).stage = .waiting (n + 1) pending := hst
  refine ⟨?_, h.dated.ended running .stopped rfl JobStatus.noConfusion now, fun e hend => ?_⟩
  · rw [hst']
    exact Or.inr rfl
  · rw [hst'] at hend
    cases hend

end Timed

/-- It holds of every scene that is reached by stops where the run waits. -/
theorem Reached.timed {env : Orchestrator} {s : Scene}
    (h : Reached env (fun r => r.isAwaiting) s) : s.Timed := by
  induction h with
  | start valid => exact ⟨rfl, ⟨rfl, rfl, ⟨nofun, nofun⟩, nofun⟩, nofun⟩
  | turn before turn ih => exact ih.turn turn
  | stop before running rest ih => exact ih.stops running rest _

/-- A job that nobody stops is not stopped. -/
theorem Reached.not_stopped {env : Orchestrator} (h : Reached env (fun _ => False) s) :
    s.job.status ≠ .stopped := by
  induction h with
  | start valid => exact nofun
  | turn before turn ih => exact fun hs => ih (turn.stopped_iff.1 hs)
  | stop before running allowed ih => exact allowed.elim

/-- A job that is not stopped was stopped by nobody. -/
theorem Reached.unstopped {env : Orchestrator} {may : Run → Prop} (h : Reached env may s)
    (hs : s.job.status ≠ .stopped) : Reached env (fun _ => False) s := by
  induction h with
  | start valid => exact .start valid
  | turn before turn ih => exact .turn (ih fun hstopped => hs (turn.stopped_iff.2 hstopped)) turn
  | stop before running allowed ih => exact absurd rfl hs

end Scene
end Runbook
