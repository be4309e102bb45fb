/-
# The last stages of a run

After its rounds a run completes its job, may have a final report written, and hands
over the job.  At these stages the job has ended, wherever it was stopped
(`Scene.Closing`); so the job that a run hands over has ended, whether the run has
gone through all rounds or left them.
-/

import Runbook.Proofs.Engine.Rounds

namespace Runbook

namespace Stage

/-- Whether the rounds are over and the run has met no error on the way. -/
def isClosing : Stage → Bool
  | .reporting | .awaitingReport | .leaving | .ended _ | .panicked _ => true
  | _ => false

/-- Whether the run parts from its job without handing it over. -/
def isParting : Stage → Bool
  | .leaving | .ended (.error _) | .panicked _ => true
  | _ => false

/-- How many final reports may have been begun. -/
def reportsBegun : Stage → Nat
  | .awaitingReport | .leaving | .ended _ | .panicked _ => 1
  | _ => 0

theorem reportsBegun_le (stage : Stage) : stage.reportsBegun ≤ 1 := by
  cases stage with
  | awaitingReport | leaving | ended result | panicked message => exact Nat.le_refl 1
  | _ => exact Nat.zero_le 1

end Stage

namespace Scene

/-- **What holds at the last stages.**  The job has ended, and so has the one that is
handed over; nothing is in flight when the final report is about to begin, and then
the report is. -/
structure Closing (s : Scene) : Prop where
  terminal : s.stage.isClosing → s.job.isTerminal
  handed : ∀ j, s.stage = .ended (.ok j) → j.isTerminal
  landed : s.stage = .reporting → s.course.inFlight = []
  report : s.stage = .awaitingReport → s.course.inFlight ≠ []

namespace Closing

variable {s s' : Scene}

/-- At any other stage it says nothing. -/
theorem before (h : s.stage.isClosing = false) : s.Closing where
  terminal := fun hc => by rw [h] at hc; cases hc
  handed := fun j hst => by rw [hst] at h; cases h
  landed := fun hst => by rw [hst] at h; cases h
  report := fun hst => by rw [hst] at h; cases h

/-- A job that has ended is left, or its run ends without handing it over. -/
theorem after (h : s.stage.isParting) (terminal : s.job.isTerminal) : s.Closing where
  terminal := fun _ => terminal
  handed := fun j hst => by rw [hst] at h; cases h
  landed := fun hst => by rw [hst] at h; cases h
  report := fun hst => by rw [hst] at h; cases h

/-- A pass keeps it. -/
theorem pass (h : s.Closing) {env : Orchestrator} (hp : Pass env s s') : s'.Closing := by
  cases hp with
  | finish stage | await stage | close stage => exact before rfl
  | leave stage left terminal => exact after rfl terminal
  | discard stage flight terminal => exact after rfl terminal
  | succeedLate stage terminal => exact after rfl terminal
  | fall stage running => exact after rfl rfl
  | fallLate stage terminal => exact after rfl terminal
  | reportMissing stage | reportPanic stage | reportFail stage | reportDone stage =>
    exact after rfl (h.terminal (by rw [stage]; rfl))
  | reportBegin stage found =>
    have hended := h.terminal (by rw [stage]; rfl)
    exact ⟨fun _ => hended, nofun, nofun, fun _ => List.append_ne_nil_of_right_ne_nil _ nofun⟩
  | depart stage =>
    have hended := h.terminal (by rw [stage]; rfl)
    refine ⟨fun _ => hended, fun j hst => ?_, nofun, nofun⟩
    cases hst
    exact hended

/-- **A turn keeps it.** -/
theorem turn (h : s.Closing) (hs : s.Sound) {env : Orchestrator} (ht : Turn env s s') :
    s'.Closing := by
  cases ht with
  | pass pass => exact h.pass pass
  | @overlook oc e n pending stage result terminal =>
    refine before ?_
    cases oc.continues && e.isContinuable <;> rfl
  | succeed stage running =>
    have hflight := ((hs.underWay [] (by rw [stage]; rfl)).between (by rw [stage]; rfl)).2.2
    cases env.settings.generateReport with
    | true => exact ⟨fun _ => rfl, nofun, fun _ => hflight, nofun⟩
    | false => exact after rfl rfl
  | _ => exact before rfl

end Closing

/-- It holds of every scene that is reached. -/
theorem Reached.closing {env : Orchestrator} {may : Run → Prop} {s : Scene}
    (h : Reached env may s) : s.Closing := by
  induction h with
  | start valid => exact .before rfl
  | turn before turn ih => exact ih.turn before.sound turn
  | stop before running allowed ih => exact ⟨fun _ => rfl, ih.handed, ih.landed, ih.report⟩

end Scene
end Runbook
