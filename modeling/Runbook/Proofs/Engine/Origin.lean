/-
# Where tasks come from

Whatever a run makes ready, starts or takes up was made from a task of its workflow
(`Prepared.MadeFrom`): it stands for that task, may be attempted again as often as
the task says, and has the limit of the task if limits are kept.  That holds of every
scene that is reached (`Scene.Reached.descended`), so whatever comes in was in flight,
and whatever was in flight is a task.
-/

import Runbook.Proofs.Engine.Rounds

namespace Runbook

/-- What is ready was made from a task. -/
structure Prepared.MadeFrom (p : Prepared) (settings : EngineSettings) (t : Task) : Prop
    extends p.StandsFor t where
  retries : p.retries = t.retries
  limitMs : p.limitMs = if settings.enforceTimeouts then some t.timeoutMs else none

namespace Orchestrator

/-- A task that was made ready was made from the task. -/
theorem madeFrom_of_prepare {o : Orchestrator} {jobId : String} {scope : Scope} {t : Task}
    {p : Prepared} (h : o.prepare jobId scope t = .ok p) : p.MadeFrom o.settings t := by
  have hstands := standsFor_of_prepare h
  rw [prepare_eq] at h
  split at h
  · cases h
  · split at h
    · cases h
    · split at h
      · cases h
        exact ⟨hstands, rfl, rfl⟩
      · cases h

end Orchestrator

namespace Scene

/-- What is ready was made from a task of the workflow. -/
def Makes (env : Orchestrator) (s : Scene) (p : Prepared) : Prop :=
  ∃ t ∈ s.workflow.tasks, p.MadeFrom env.settings t

/-- **All comes from the workflow.**  What is ready or started was made from a task;
what is in flight while the rounds are under way was started; and so was what has come
in, to which the outcome that is not yet recorded belongs. -/
structure Descended (env : Orchestrator) (s : Scene) : Prop where
  ready : ∀ p ∈ s.stage.ready, s.Makes env p
  started : ∀ x ∈ s.course.started, s.Makes env x.2
  inFlight : s.stage.pending? ≠ none → ∀ p ∈ s.course.inFlight, p ∈ s.course.started.map (·.2)
  taken : ∀ x ∈ s.course.taken, x.1 ∈ s.course.started.map (·.2)

namespace Descended

variable {env : Orchestrator} {s s' : Scene}

/-- Nothing is made ready, started or taken up. -/
theorem same (h : s.Descended env) (past : s.course.SamePast s'.course)
    (hready : s'.stage.ready = [] ∨ s'.stage.ready = s.stage.ready)
    (hround : s'.stage.pending? = none ∨
      s.stage.pending? ≠ none ∧ s'.course.inFlight = s.course.inFlight) : s'.Descended env := by
  have hmakes : s'.Makes env = s.Makes env := by
    unfold Makes
    rw [show s'.workflow = s.workflow from past.workflow]
  refine ⟨?_, ?_, fun hp => ?_, ?_⟩
  · rw [hmakes]
    rcases hready with hnone | hsame
    · rw [hnone]
      exact fun p hp => absurd hp List.not_mem_nil
    · rw [hsame]
      exact h.ready
  · rw [hmakes, past.started]
    exact h.started
  · obtain ⟨hwas, hflight⟩ := hround.resolve_left hp
    rw [hflight, past.started]
    exact h.inFlight hwas
  · rw [past.taken, past.started]
    exact h.taken

/-- A pass keeps it. -/
theorem frame (h : s.Descended env) (hf : s.Frame s') : s'.Descended env := by
  rcases hf.round with hnone | hsame
  · refine h.same hf.past (Or.inl ?_) (Or.inl hnone)
    cases hst : s'.stage with
    | starting ready n pending => rw [hst] at hnone; cases hnone
    | _ => rfl
  · refine h.same hf.past (Or.inr hsame.ready) ?_
    by_cases hp : s'.stage.pending? = none
    · exact Or.inl hp
    · exact Or.inr ⟨hsame.pending ▸ hp, hsame.inFlight⟩

/-- The tasks of a round are made ready. -/
theorem begins (h : s.Descended env) (hs : s.Sound) {pending : List Task} {ps : List Prepared}
    (stage : s.stage = .round pending)
    (prepared : env.prepareAll s.id s.scope (s.split pending).1 = .ok ps) :
    Descended env
      { s with course := s.course.beginRound.enter (.starting ps 0 (s.split pending).2) } := by
  have hpending := (hs.underWay pending (by rw [stage]; rfl)).pending
  refine ⟨fun p hp => ?_, h.started, fun _ => h.inFlight (by rw [stage]; exact nofun), h.taken⟩
  obtain ⟨t, ht, hmade⟩ := Orchestrator.exists_of_mem_prepareAll prepared hp
  rw [Scene.split, List.partition_eq_filter_filter] at ht
  have ht : t ∈ pending := (List.mem_filter.1 ht).1
  rw [hpending] at ht
  exact ⟨t, (Workflow.mem_above.1 ht).1, Orchestrator.madeFrom_of_prepare hmade⟩

/-- A task is started. -/
theorem launches (h : s.Descended env) {p : Prepared} {ready : List Prepared} {n : Nat}
    {pending : List Task} (stage : s.stage = .starting (p :: ready) n pending) (j : Job)
    (es : List JobEvent) :
    Descended env
      { job := j
        course := (s.course.startTask p).enter (.starting ready (n + 1) pending)
        told := s.told ++ es } := by
  have hready := h.ready
  rw [stage] at hready
  have hstarted : (s.course.started ++ [(s.course.rounds, p)]).map (·.2)
      = s.course.started.map (·.2) ++ [p] := List.map_append
  refine ⟨fun q hq => hready q (List.mem_cons_of_mem p hq), fun x hx => ?_, fun _ q hq => ?_,
    fun x hx => ?_⟩
  · rcases List.mem_append.1 hx with hx | hx
    · exact h.started x hx
    · rw [List.mem_singleton.1 hx]
      exact hready p List.mem_cons_self
  · show q ∈ (s.course.started ++ [(s.course.rounds, p)]).map (·.2)
    rw [hstarted]
    refine (List.mem_append.1 hq).elim (fun hq => List.mem_append_left _ ?_)
      (List.mem_append_right _)
    exact h.inFlight (by rw [stage]; exact nofun) q hq
  · show x.1 ∈ (s.course.started ++ [(s.course.rounds, p)]).map (·.2)
    rw [hstarted]
    exact List.mem_append_left _ (h.taken x hx)

/-- An outcome comes in. -/
theorem takesUp (h : s.Descended env) {p : Prepared} {e : Option AttemptEnd} {n : Nat}
    {pending : List Task} (stage : s.stage = .waiting (n + 1) pending)
    (flight : p ∈ s.course.inFlight) (j : Job) :
    Descended env
      { s with
        job := j
        course := (s.course.takeUp p e).enter (.recording (p.outcomeOf e) n pending) } := by
  have hflight := h.inFlight (by rw [stage]; exact nofun)
  refine ⟨(fun _ hq => absurd hq List.not_mem_nil), h.started,
    fun _ q hq => hflight q (List.eraseP_subset hq), fun x hx => ?_⟩
  rcases List.mem_append.1 hx with hx | hx
  · exact h.taken x hx
  · rw [List.mem_singleton.1 hx]
    exact hflight p flight

/-- **A turn keeps it.** -/
theorem turn (h : s.Descended env) (hs : s.Sound) (ht : Turn env s s') : s'.Descended env := by
  cases ht with
  | pass pass => exact h.frame pass.frame
  | begin stage running ready prepared => exact h.begins hs stage prepared
  | launch stage => exact h.launches stage _ _
  | takeUp stage flight running => exact h.takesUp stage flight _
  | reject stage =>
    exact ⟨(fun _ hp => absurd hp List.not_mem_nil), h.started, (fun hp => absurd rfl hp), h.taken⟩
  | complete stage | overcome stage =>
    exact h.same ⟨rfl, rfl, rfl, rfl, rfl⟩ (Or.inl rfl)
      (Or.inr ⟨by rw [stage]; exact nofun, rfl⟩)
  | starve stage | fail stage | refuse stage | refuseLate stage =>
    exact h.same ⟨rfl, rfl, rfl, rfl, rfl⟩ (Or.inl rfl) (Or.inl rfl)
  | @overlook oc e n pending stage result terminal =>
    cases oc.continues && e.isContinuable with
    | true =>
      exact h.same ⟨rfl, rfl, rfl, rfl, rfl⟩ (Or.inl rfl)
        (Or.inr ⟨by rw [stage]; exact nofun, rfl⟩)
    | false => exact h.same ⟨rfl, rfl, rfl, rfl, rfl⟩ (Or.inl rfl) (Or.inl rfl)
  | succeed stage running =>
    cases env.settings.generateReport <;>
      exact h.same ⟨rfl, rfl, rfl, rfl, rfl⟩ (Or.inl rfl) (Or.inl rfl)

end Descended

/-- It holds of every scene that is reached. -/
theorem Reached.descended {env : Orchestrator} {may : Run → Prop} {s : Scene}
    (h : Reached env may s) : s.Descended env := by
  induction h with
  | start valid =>
    exact ⟨(fun _ hp => absurd hp List.not_mem_nil), (fun _ hx => absurd hx List.not_mem_nil),
      (fun _ _ hp => absurd hp List.not_mem_nil), fun _ hx => absurd hx List.not_mem_nil⟩
  | turn before turn ih => exact ih.turn before.sound turn
  | stop before running allowed ih => exact ⟨ih.ready, ih.started, ih.inFlight, ih.taken⟩

end Scene
end Runbook
