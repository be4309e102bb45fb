/-
# Advancing runs

A run that does not wait makes steps until it does.  What it has still to do has
a weight, which every step and every delivery makes smaller (`weight_step_lt`,
`weight_deliver_lt`), so as many steps as it weighs bring a run to where it waits
or is over (`isAwaiting_advance`).
-/

import Runbook.Engine.Run

namespace Runbook

/-- A round makes as many tasks ready as it was given. -/
theorem Orchestrator.length_prepareAll {o : Orchestrator} {jobId : String} {scope : Scope}
    {ts : List Task} {ps : List Prepared} (h : o.prepareAll jobId scope ts = .ok ps) :
    ps.length = ts.length := by
  induction ts generalizing ps with
  | nil => cases h; rfl
  | cons t ts ih =>
    rw [prepareAll] at h
    split at h
    · cases h
    · cases hs : o.prepareAll jobId scope ts with
      | error e => rw [hs] at h; cases h
      | ok qs =>
        rw [hs] at h
        cases h
        rw [List.length_cons, List.length_cons, ih hs]

/-- The parts of a partition are together as long as the whole. -/
theorem length_partition {p : α → Bool} {xs as bs : List α} (h : xs.partition p = (as, bs)) :
    as.length + bs.length = xs.length := by
  rw [List.partition_eq_filter_filter] at h
  cases h
  induction xs with
  | nil => rfl
  | cons x xs ih => cases hx : p x <;> simp [hx] <;> omega

namespace Run

/-- A bound on the steps that a stage still allows, deliveries counted. -/
def weight (r : Run) : Nat :=
  match r.stage with
  | .round pending => 6 * pending.length + 5
  | .starting ready started pending =>
    6 * pending.length + 7 + 2 * (started + ready.length) + ready.length
  | .waiting inFlight pending => 6 * pending.length + 6 + 2 * inFlight
  | .recording _ inFlight pending => 6 * pending.length + 7 + 2 * inFlight
  | .completing => 4
  | .reporting => 3
  | .rejecting .. | .awaitingReport => 2
  | .failing _ | .leaving => 1
  | .ended _ | .panicked _ => 0

theorem weight_beginRound_lt (r : Run) (o : Orchestrator) (j : Job) (pending : List Task) :
    (r.beginRound o j pending).weight < 6 * pending.length + 5 := by
  rw [beginRound]
  split
  · simp only [enter, weight]
    omega
  · split
    rename_i ready blocked h
    have hl := length_partition h
    split
    · simp only [enter, weight]
      omega
    · rename_i hr
      have hr : ready.length ≠ 0 := fun h0 =>
        hr (List.isEmpty_iff.2 (List.eq_nil_of_length_eq_zero h0))
      split
      · simp only [enter, weight]
        omega
      · rename_i prepared hp
        have := Orchestrator.length_prepareAll hp
        simp only [enter, weight]
        omega

theorem weight_recordOutcome_lt (r : Run) (o : Orchestrator) (j : Job) (outcome : Outcome)
    (inFlight : Nat) (pending : List Task) (now : Instant) :
    (r.recordOutcome o j outcome inFlight pending now).run.weight
      < 6 * pending.length + 7 + 2 * inFlight := by
  rw [recordOutcome]
  split
  · simp only [enter, weight]
    omega
  · dsimp only
    split <;> simp only [enter, weight] <;> omega

theorem weight_stepOn_lt (r : Run) (o : Orchestrator) (j : Job) (now : Instant)
    (h : r.isAwaiting = false) : (r.stepOn o j now).run.weight < r.weight := by
  obtain ⟨jobId, stage⟩ := r
  cases stage with
  | round pending =>
    cases pending with
    | nil => simp [stepOn, enter, weight]
    | cons t ts => exact weight_beginRound_lt ..
  | starting ready started pending =>
    cases ready <;> simp only [stepOn, enter, weight, List.length_cons, List.length_nil] <;> omega
  | waiting inFlight pending =>
    cases inFlight with
    | zero => simp only [stepOn, enter, weight]; omega
    | succ n => cases h
  | recording outcome inFlight pending => exact weight_recordOutcome_lt ..
  | completing =>
    dsimp only [stepOn]
    split
    · simp [enter, weight]
    · cases o.settings.generateReport <;> simp [enter, weight]
  | reporting => dsimp only [stepOn]; split <;> simp [enter, weight]
  | rejecting t e => simp [stepOn, enter, weight]
  | failing e => simp [stepOn, enter, weight]
  | leaving => simp [stepOn, enter, weight]
  | awaitingReport => cases h
  | ended result => cases h
  | panicked message => cases h

theorem weight_pos {r : Run} (h : r.isAwaiting = false) : 0 < r.weight := by
  obtain ⟨jobId, stage⟩ := r
  cases stage with
  | ended result => cases h
  | panicked message => cases h
  | _ => simp only [weight]; omega

/-- Every step of a run that does not wait makes it lighter. -/
theorem weight_step_lt {r : Run} (o : Orchestrator) (now : Instant) (h : r.isAwaiting = false) :
    (r.step o now).run.weight < r.weight := by
  rw [step, h, if_neg Bool.false_ne_true]
  split
  · exact weight_pos h
  · exact weight_stepOn_lt _ _ _ _ h

/-- A run that takes up an outcome it has waited for becomes lighter. -/
theorem weight_deliver_lt {r : Run} (o : Orchestrator) (outcome : Outcome) (now : Instant)
    (h : r.isAwaiting = true) (hr : 0 < r.weight) :
    (r.deliver o outcome now).2.weight < r.weight := by
  obtain ⟨jobId, stage⟩ := r
  cases stage with
  | waiting inFlight pending =>
    cases inFlight with
    | zero => cases h
    | succ n =>
      dsimp only [deliver]
      split
      · simp only [enter, weight]
        omega
      · split <;> simp only [enter, weight] <;> omega
  | awaitingReport =>
    dsimp only [deliver]
    split
    · simp [enter, weight]
    · simp [enter, weight]
    · split <;> simp [enter, weight]
  | ended result => exact absurd hr (by simp [weight])
  | panicked message => exact absurd hr (by simp [weight])
  | _ => cases h

/-- Makes at most the given number of steps, and collects the tasks started. -/
def steps : (fuel : Nat) → Run → Orchestrator → Instant → Orchestrator × Run × List Prepared
  | 0, r, o, _ => (o, r, [])
  | fuel + 1, r, o, now =>
    if r.isAwaiting then (o, r, [])
    else
      let s := r.step o now
      let (o, r, launched) := steps fuel s.run s.orchestrator now
      (o, r, s.launched.toList ++ launched)

/-- Makes steps until the run waits or is over. -/
def advance (r : Run) (o : Orchestrator) (now : Instant) : Orchestrator × Run × List Prepared :=
  steps r.weight r o now

/-- As many steps as the run weighs are enough. -/
theorem isAwaiting_steps (fuel : Nat) (r : Run) (o : Orchestrator) (now : Instant)
    (h : r.weight ≤ fuel) : (steps fuel r o now).2.1.isAwaiting = true := by
  induction fuel generalizing r o with
  | zero =>
    cases hr : r.isAwaiting with
    | true => exact hr
    | false => exact absurd (weight_pos hr) (by omega)
  | succ fuel ih =>
    rw [steps]
    split
    · assumption
    · rename_i hr
      exact ih _ _ (by have := weight_step_lt o now (Bool.not_eq_true _ ▸ hr); omega)

/-- A run that has advanced waits or is over. -/
theorem isAwaiting_advance (r : Run) (o : Orchestrator) (now : Instant) :
    (r.advance o now).2.1.isAwaiting = true :=
  isAwaiting_steps _ r o now (Nat.le_refl _)

end Run
end Runbook
