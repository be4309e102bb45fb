/-
# What advancing leaves as it is

Whatever a run does, the settings stay as they are and no job is lost
(`Orchestrator.Persists`), the run remains that of its job, and what it makes ready
and starts belongs to that job (`Run.Leads`).  A run that starts anything has less
left to do than before (`weight_advance_lt`).
-/

import Runbook.Proofs.Engine.Scene

namespace Runbook

/-- The settings stay as they are, and no job is lost. -/
structure Orchestrator.Persists (o o' : Orchestrator) : Prop where
  settings : o'.settings = o.settings
  jobs : o.jobs.length ≤ o'.jobs.length

namespace Orchestrator

variable {o o' o'' : Orchestrator}

namespace Persists

theorem refl (o : Orchestrator) : o.Persists o := ⟨rfl, Nat.le_refl _⟩

theorem trans (h : o.Persists o') (h' : o'.Persists o'') : o.Persists o'' :=
  ⟨h'.settings.trans h.settings, Nat.le_trans h.jobs h'.jobs⟩

theorem setJob (h : o.Persists o') (id : String) (j : Job) : o.Persists (o'.setJob id j) :=
  ⟨h.settings, by simpa [Orchestrator.setJob] using h.jobs⟩

theorem countActivity (h : o.Persists o') (kind : WorkerKind) (now : Instant) :
    o.Persists (o'.countActivity kind now) :=
  ⟨h.settings, h.jobs⟩

theorem emit (h : o.Persists o') (e : JobEvent) : o.Persists (o'.emit e) := by
  rw [Orchestrator.emit]
  split
  · exact ⟨h.settings, h.jobs⟩
  · exact h

theorem recordFailure (h : o.Persists o') (j : Job) (task : String) (worker : WorkerKind)
    (error : ExecutionError) (continued : Bool) (now : Instant) :
    o.Persists (o'.recordFailure j task worker error continued now) := by
  rw [Orchestrator.recordFailure]
  split
  · exact h
  · exact (h.setJob _ _).emit _

end Persists

/-- Registering a workflow, or refusing to. -/
theorem persists_register (o : Orchestrator) (w : Workflow) : o.Persists (o.register w).2 := by
  rw [register]
  split
  · exact .refl o
  · exact ⟨rfl, Nat.le_refl _⟩

/-- Stopping a job, or refusing to. -/
theorem persists_stop (o : Orchestrator) (id : String) (now : Instant) :
    o.Persists (o.stop id now).2 := by
  rw [stop]
  split
  · exact .refl o
  · split
    · exact .refl o
    · exact ((Persists.refl o).setJob _ _).emit _

end Orchestrator

namespace Run

/-- What is ready belongs to the job of the run. -/
def IsStocked (r : Run) : Prop := ∀ p ∈ r.stage.ready, p.assignment.jobId = r.jobId

/-- A job that is started is one job more, and nothing is ready in its run. -/
theorem of_start {o o' : Orchestrator} {workflowId id : String} {parameters : Dict Json}
    {now : Instant} {r : Run} (h : o.start workflowId id parameters now = (.ok r, o')) :
    o.Persists o' ∧ o'.jobs.length = o.jobs.length + 1 ∧ r.jobId = id ∧ r.IsStocked := by
  rw [Orchestrator.start] at h
  split at h
  · cases h
  · cases h
    refine ⟨.emit ⟨?_, ?_⟩ _, ?_, rfl, fun p hp => absurd hp List.not_mem_nil⟩
    · rfl
    · simp
    · rw [Orchestrator.emit]
      split <;> simp

/-- Where no job is started, nothing has changed. -/
theorem persists_start_error {o o' : Orchestrator} {workflowId id : String}
    {parameters : Dict Json} {now : Instant} {e : ExecutionError}
    (h : o.start workflowId id parameters now = (.error e, o')) : o.Persists o' := by
  rw [Orchestrator.start] at h
  split at h
  · cases h
    exact .refl o
  · cases h

/-- What a run comes to: it is still the run of its job, and what it has made ready and
launched belongs to that job. -/
structure Leads (r : Run) (o : Orchestrator) (r' : Run) (o' : Orchestrator)
    (launched : List Prepared) : Prop where
  orchestrator : o.Persists o'
  jobId : r'.jobId = r.jobId
  stocked : r.IsStocked → r'.IsStocked
  launched : r.IsStocked → ∀ p ∈ launched, p.assignment.jobId = r.jobId

variable {r r' : Run} {o o' : Orchestrator} {now : Instant}

namespace Leads

theorem refl (r : Run) (o : Orchestrator) : Leads r o r o [] :=
  ⟨.refl o, rfl, id, fun _ _ h => absurd h List.not_mem_nil⟩

theorem trans {r'' : Run} {o'' : Orchestrator} {ps qs : List Prepared} (h : Leads r o r' o' ps)
    (h' : Leads r' o' r'' o'' qs) : Leads r o r'' o'' (ps ++ qs) where
  orchestrator := h.orchestrator.trans h'.orchestrator
  jobId := h'.jobId.trans h.jobId
  stocked hs := h'.stocked (h.stocked hs)
  launched hs p hp := by
    rcases List.mem_append.1 hp with hp | hp
    · exact h.launched hs p hp
    · exact (h'.launched (h.stocked hs) p hp).trans h.jobId

/-- The run goes to a stage at which nothing is ready. -/
theorem enter (h : o.Persists o') {stage : Stage} (hnone : stage.ready = []) :
    Leads r o (r.enter stage) o' [] := by
  refine ⟨h, rfl, fun _ p hp => ?_, fun _ p hp => absurd hp List.not_mem_nil⟩
  rw [Run.enter, hnone] at hp
  exact absurd hp List.not_mem_nil

end Leads

/-- What is made ready belongs to the job that it is made ready for. -/
theorem jobId_of_prepareAll {jobId : String} {scope : Scope} {ts : List Task} {ps : List Prepared}
    (h : o.prepareAll jobId scope ts = .ok ps) {p : Prepared} (hp : p ∈ ps) :
    p.assignment.jobId = jobId := by
  obtain ⟨t, -, hprepare⟩ := Orchestrator.exists_of_mem_prepareAll h hp
  rw [Orchestrator.prepare_eq] at hprepare
  split at hprepare
  · cases hprepare
  · split at hprepare
    · cases hprepare
    · split at hprepare
      · cases hprepare
        rfl
      · cases hprepare

/-- What beginning a round comes to. -/
theorem leads_beginRound (r : Run) (o : Orchestrator) (j : Job) (pending : List Task) :
    Leads r o (r.beginRound o j pending) o [] := by
  rw [beginRound]
  split
  · exact .enter (.refl o) rfl
  · split
    split
    · exact .enter (.refl o) rfl
    · split
      · exact .enter (.refl o) rfl
      · rename_i hprepared
        exact ⟨.refl o, rfl, fun _ p hp => jobId_of_prepareAll hprepared hp,
          fun _ p hp => absurd hp List.not_mem_nil⟩

/-- What recording an outcome comes to. -/
theorem leads_recordOutcome (r : Run) (o : Orchestrator) (j : Job) (outcome : Outcome)
    (inFlight : Nat) (pending : List Task) (now : Instant) :
    Leads r o (r.recordOutcome o j outcome inFlight pending now).run
      (r.recordOutcome o j outcome inFlight pending now).orchestrator
      (r.recordOutcome o j outcome inFlight pending now).launched.toList := by
  rw [recordOutcome]
  split
  · exact .enter (((Orchestrator.Persists.refl o).setJob _ _).emit _) rfl
  · dsimp only
    split <;> exact .enter ((Orchestrator.Persists.refl o).recordFailure ..) rfl

/-- What a step of a run comes to. -/
theorem leads_step (r : Run) (o : Orchestrator) (now : Instant) :
    Leads r o (r.step o now).run (r.step o now).orchestrator (r.step o now).launched.toList := by
  have persists := Orchestrator.Persists.refl o
  rw [step]
  split
  · exact .refl r o
  · split
    · exact .enter persists rfl
    · rename_i j hj
      obtain ⟨jobId, stage⟩ := r
      cases stage with
      | round pending =>
        cases pending with
        | nil => exact .enter persists rfl
        | cons t ts => exact leads_beginRound _ o j (t :: ts)
      | starting ready started pending =>
        cases ready with
        | nil => exact .enter persists rfl
        | cons p ready =>
          refine ⟨(persists.setJob _ _).emit _, rfl, fun hs q hq => ?_, fun hs q hq => ?_⟩
          · exact hs q (List.mem_cons_of_mem p hq)
          · obtain rfl := List.mem_singleton.1 hq
            exact hs q List.mem_cons_self
      | waiting inFlight pending =>
        cases inFlight with
        | zero => exact .enter persists rfl
        | succ n => exact .refl _ o
      | recording outcome inFlight pending =>
        exact leads_recordOutcome _ o j outcome inFlight pending now
      | rejecting t e => exact .enter (persists.recordFailure ..) rfl
      | failing e =>
        refine .enter ?_ rfl
        dsimp only [stepOn]
        split
        · exact persists
        · exact (persists.setJob _ _).emit _
      | completing =>
        dsimp only [stepOn]
        split
        · exact .enter persists rfl
        · refine .enter ((persists.setJob _ _).emit _) ?_
          split <;> rfl
      | reporting =>
        dsimp only [stepOn]
        split
        · exact .enter (persists.emit _) rfl
        · refine ⟨persists, rfl, fun _ p hp => absurd hp List.not_mem_nil, fun _ p hp => ?_⟩
          obtain rfl := List.mem_singleton.1 hp
          exact Orchestrator.id_of_job? hj
      | leaving => exact .enter persists rfl
      | awaitingReport => exact .refl _ o
      | ended result => exact .refl _ o
      | panicked message => exact .refl _ o

/-- What a run comes to by making steps. -/
theorem leads_steps (fuel : Nat) (r : Run) (o : Orchestrator) (now : Instant) :
    Leads r o (steps fuel r o now).2.1 (steps fuel r o now).1 (steps fuel r o now).2.2 := by
  induction fuel generalizing r o with
  | zero => exact .refl r o
  | succ fuel ih =>
    rw [steps]
    split
    · exact .refl r o
    · exact (leads_step r o now).trans (ih ..)

/-- What a run comes to by advancing. -/
theorem leads_advance (r : Run) (o : Orchestrator) (now : Instant) :
    Leads r o (r.advance o now).2.1 (r.advance o now).1 (r.advance o now).2.2 :=
  leads_steps r.weight r o now

/-- What a run comes to by taking up an outcome. -/
theorem leads_deliver (r : Run) (o : Orchestrator) (outcome : Outcome) (now : Instant) :
    Leads r o (r.deliver o outcome now).2 (r.deliver o outcome now).1 [] := by
  have persists := Orchestrator.Persists.refl o
  rw [deliver]
  split
  · dsimp only
    split
    · exact .enter (persists.countActivity ..) rfl
    · split
      · exact .enter (persists.countActivity ..) rfl
      · exact .enter ((persists.countActivity ..).setJob _ _) rfl
  · split
    · exact .enter persists rfl
    · exact .enter ((persists.countActivity ..).emit _) rfl
    · dsimp only
      split
      · exact .enter (persists.countActivity ..) rfl
      · exact .enter (((persists.countActivity ..).setJob _ _).emit _) rfl
  · exact .refl r o

/-! ### How much is left to do -/

theorem weight_steps_le (fuel : Nat) (r : Run) (o : Orchestrator) (now : Instant) :
    (steps fuel r o now).2.1.weight ≤ r.weight := by
  induction fuel generalizing r o with
  | zero => exact Nat.le_refl _
  | succ fuel ih =>
    rw [steps]
    split
    · exact Nat.le_refl _
    · rename_i hr
      have hlt := weight_step_lt o now (Bool.eq_false_iff.2 hr)
      exact Nat.le_trans (ih _ _) (Nat.le_of_lt hlt)

theorem weight_deliver_le (r : Run) (o : Orchestrator) (outcome : Outcome) (now : Instant) :
    (r.deliver o outcome now).2.weight ≤ r.weight := by
  by_cases h : r.isAwaiting ∧ 0 < r.weight
  · exact Nat.le_of_lt (weight_deliver_lt o outcome now h.1 h.2)
  · rw [deliver]
    split
    · rename_i hstage
      exact absurd ⟨by rw [isAwaiting, hstage], by simp only [weight, hstage]; omega⟩ h
    · rename_i hstage
      exact absurd ⟨by rw [isAwaiting, hstage], by simp only [weight, hstage]; omega⟩ h
    · exact Nat.le_refl _

/-- A run that waits does not advance. -/
theorem advance_of_isAwaiting (h : r.isAwaiting) (o : Orchestrator) (now : Instant) :
    r.advance o now = (o, r, []) := by
  rw [advance]
  cases r.weight with
  | zero => rfl
  | succ n => rw [steps, if_pos h]

/-- A run that does not wait has less left to do when it has advanced. -/
theorem weight_advance_lt (h : r.isAwaiting = false) (o : Orchestrator) (now : Instant) :
    (r.advance o now).2.1.weight < r.weight := by
  have hpos := weight_pos h
  obtain ⟨n, hn⟩ := Nat.exists_eq_add_of_lt hpos
  rw [advance, hn, steps, if_neg (by simp [h])]
  have hlt := weight_step_lt o now h
  exact Nat.lt_of_le_of_lt (weight_steps_le ..) (by omega)

end Run
end Runbook
