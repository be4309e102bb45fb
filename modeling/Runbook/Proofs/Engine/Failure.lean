/-
# How a job fails

A job that nobody stops fails for one of two reasons.  A task that is ready cannot be
made ready for its worker (`Scene.Baffled`): from there the run is lost
(`Lost.turn`), and if no outcome is to blame, it is lost by that alone
(`Refused.turn`).  Or an outcome comes in after which the job does not go on
(`Scene.Struck`): then it is the last that comes in, and the record of the job is
settled by the outcomes up to it (`Struck.failed`).

Which outcomes these are is said by the definitions of the tasks alone
(`Outcome.IsFatal`), and what the run does agrees with that (`Sound.isFatal_iff`).
-/

import Runbook.Execution
import Runbook.Proofs.Engine.Origin
import Runbook.Proofs.Engine.Recording

namespace Runbook

namespace Outcome

/-- The failure of a task that itself failed or took too long, and that is defined to
continue and not to be critical. -/
def IsContinued (o : Outcome) (w : Workflow) : Prop :=
  ((∃ cause, o.result = .error (.taskFailed o.task cause)) ∨
      ∃ ms, o.result = .error (.taskTimeout o.task ms)) ∧
    ∃ t ∈ w.tasks, t.name = o.task ∧ t.continueFlag ∧ t.critical = false

/-- Any other failure. -/
def IsFatal (o : Outcome) (w : Workflow) : Prop :=
  (∃ e, o.result = .error e) ∧ ¬ o.IsContinued w

end Outcome

/-- The outcomes that the run has taken up, in order. -/
def Course.handled (c : Course) : List Outcome := c.taken.map fun x => x.1.outcomeOf x.2

/-- **The job has failed by an outcome** that came in after some others.  It has the
results of the others, their failures and this one, and the error of this one. -/
structure Job.FailedBy (j : Job) (before : List Outcome) (o : Outcome) (e : ExecutionError) :
    Prop where
  status : j.status = .failed
  error : j.error = some e.message
  results : ∀ n v, j.results.get? n = some v ↔ ∃ x ∈ before, x.task = n ∧ x.result = .ok v
  failures : ∀ n kind text, (∃ now, j.failures.get? n = some ⟨kind, text, now⟩) ↔
    ∃ x ∈ before ++ [o], x.task = n ∧ x.worker = kind ∧ ∃ e, x.result = .error e ∧ e.message = text

/-- Whether the run goes to its end with an error. -/
def Stage.isLost : Stage → Bool
  | .rejecting .. | .failing _ | .ended (.error _) => true
  | _ => false

/-- All tasks can be made ready if they are made ready together. -/
theorem Orchestrator.exists_prepare_of_prepareAll {o : Orchestrator} {jobId : String}
    {scope : Scope} {ts : List Task} {ps : List Prepared} (h : o.prepareAll jobId scope ts = .ok ps)
    {t : Task} (ht : t ∈ ts) : ∃ p ∈ ps, o.prepare jobId scope t = .ok p := by
  have hall := readied_of_prepareAll h
  clear h
  induction hall with
  | nil => exact absurd ht List.not_mem_nil
  | @cons p u ps us hp hps ih =>
    rcases List.mem_cons.1 ht with rfl | ht
    · exact ⟨p, List.mem_cons_self, hp⟩
    · obtain ⟨q, hq, hready⟩ := ih ht
      exact ⟨q, List.mem_cons_of_mem p hq, hready⟩

/-- **What a run does next between two rounds.**  With no task left it is done; else
none is ready, or one of those that are cannot be made ready, or all can. -/
theorem Turn.of_round {env : Orchestrator} {s s' : Scene} (h : Turn env s s') {pending : List Task}
    (stage : s.stage = .round pending) (running : s.job.isTerminal = false) :
    pending = [] ∨ (s.split pending).1 = [] ∨
      (∃ t e, env.prepareAll s.id s.scope (s.split pending).1 = .error (t, e) ∧
        s' = { s with course := s.course.beginRound.enter (.rejecting t e) }) ∨
      ∃ ps, env.prepareAll s.id s.scope (s.split pending).1 = .ok ps ∧
        s' = { s with
          course := s.course.beginRound.enter (.starting ps 0 (s.split pending).2) } := by
  cases h with
  | pass pass =>
    cases pass with
    | finish st =>
      cases stage.symm.trans st
      exact Or.inl rfl
    | leave st left terminal =>
      rw [running] at terminal
      cases terminal
    | await st | close st | discard st | fall st | fallLate st | succeedLate st
    | reportMissing st | reportBegin st | reportPanic st | reportFail st | reportDone st
    | depart st => cases stage.symm.trans st
  | starve st left running none_ready =>
    cases stage.symm.trans st
    exact Or.inr (Or.inl none_ready)
  | reject st running ready prepared =>
    cases stage.symm.trans st
    exact Or.inr (Or.inr (Or.inl ⟨_, _, prepared, rfl⟩))
  | begin st running ready prepared =>
    cases stage.symm.trans st
    exact Or.inr (Or.inr (Or.inr ⟨_, prepared, rfl⟩))
  | launch st | takeUp st | complete st | overcome st | fail st | overlook st | refuse st
  | refuseLate st | succeed st => cases stage.symm.trans st

/-- A run that is over has no turn. -/
theorem Turn.not_isOver {env : Orchestrator} {s s' : Scene} (h : Turn env s s') :
    s.course.run.isOver = false := by
  have hstage : ∀ {here : Stage}, s.stage = here →
      Run.isOver ⟨s.course.run.jobId, here⟩ = false → s.course.run.isOver = false :=
    fun hst h => by rw [← hst] at h; exact h
  cases h with
  | pass pass =>
    cases pass with
    | finish st | leave st | await st | close st | discard st | fall st | fallLate st
    | succeedLate st | reportMissing st | reportBegin st | reportPanic st | reportFail st
    | reportDone st | depart st => exact hstage st rfl
  | starve st | reject st | begin st | launch st | takeUp st | complete st | overcome st | fail st
  | overlook st | refuse st | refuseLate st | succeed st => exact hstage st rfl

namespace Scene

variable {env : Orchestrator} {s s' : Scene} {outs : List Outcome}

/-! ### Which outcomes are fatal -/

/-- **An outcome that has come in is overcome exactly if it is continued.** -/
theorem Sound.isContinued_iff (hs : s.Sound) (hd : s.Descended env) {o : Outcome}
    (ho : o ∈ s.ends) : o.IsContinued s.workflow ↔ o.overcome := by
  obtain ⟨⟨p, e⟩, hx, rfl⟩ := List.mem_map.1 ho
  obtain ⟨y, hy, hp⟩ := List.mem_map.1 (hd.taken _ hx)
  obtain ⟨t, ht, hfrom⟩ := hd.started y hy
  rw [show y.2 = p from hp] at hfrom
  have hflag : (∃ u ∈ s.workflow.tasks, u.name = p.name ∧ u.continueFlag ∧ u.critical = false) ↔
      p.continues := by
    rw [hfrom.continues, Task.continuesOnFailure, Bool.and_eq_true, Bool.not_eq_true']
    constructor
    · rintro ⟨u, hu, hname, hflags⟩
      rw [hs.wellFormed.eq_of_name hu ht (hname.trans hfrom.name)] at hflags
      exact hflags
    · exact fun hflags => ⟨t, ht, hfrom.name.symm, hflags⟩
  rcases e with _ | v | cause | message
  · have hover : (p.outcomeOf none).overcome = p.continues := Bool.and_true p.continues
    rw [hover, ← hflag]
    exact and_iff_right (Or.inr ⟨_, rfl⟩)
  · exact iff_of_false (fun ⟨herr, _⟩ => by rcases herr with ⟨_, h⟩ | ⟨_, h⟩ <;> cases h) nofun
  · have hover : (p.outcomeOf (some (.error cause))).overcome = p.continues :=
      Bool.and_true p.continues
    rw [hover, ← hflag]
    exact and_iff_right (Or.inl ⟨cause, rfl⟩)
  · exact iff_of_false (fun ⟨herr, _⟩ => by rcases herr with ⟨_, h⟩ | ⟨_, h⟩ <;> cases h) nofun

/-- **An outcome that has come in is fatal exactly if the job does not go on after it.** -/
theorem Sound.isFatal_iff (hs : s.Sound) (hd : s.Descended env) {o : Outcome} (ho : o ∈ s.ends) :
    o.IsFatal s.workflow ↔ o.proceeds = false := by
  rw [Outcome.IsFatal, hs.isContinued_iff hd ho, Outcome.proceeds]
  cases hr : o.result with
  | ok v =>
    refine iff_of_false ?_ fun h => by cases h
    rintro ⟨⟨e, he⟩, -⟩
    cases he
  | error e => exact (and_iff_right ⟨e, rfl⟩).trans (Bool.not_eq_true o.overcome).to_iff

/-! ### Tasks that cannot be made ready -/

/-- A task that is ready cannot be made ready for its worker. -/
def Baffled (env : Orchestrator) (s : Scene) : Prop :=
  ∃ pending, s.stage = .round pending ∧ ∃ t ∈ pending, t.isReady s.job.completedTasks ∧
    ∃ e, env.prepare s.id s.scope t = .error e

/-- What is ready is pending. -/
theorem mem_split {pending : List Task} {t : Task} :
    t ∈ (s.split pending).1 ↔ t ∈ pending ∧ t.isReady s.job.completedTasks := by
  rw [split, List.partition_eq_filter_filter]
  exact List.mem_filter

/-- The run is lost: it has met an error, or it is about to meet one. -/
def Lost (env : Orchestrator) (s : Scene) : Prop := s.Baffled env ∨ s.stage.isLost

/-- A run that is lost ends with an error. -/
theorem Lost.ended (h : s.Lost env) (hover : s.course.run.isOver) :
    ∃ e, s.course.run.stage = .ended (.error e) := by
  obtain hst | ⟨j, hst⟩ | ⟨message, hst⟩ := Run.stage_of_isOver hover
  · exact hst
  all_goals
    rcases h with ⟨pending, hround, -⟩ | hlost
    · cases hst.symm.trans hround
    · rw [Scene.stage, hst] at hlost
      cases hlost

/-- **A run that is lost stays lost.** -/
theorem Lost.turn (h : s.Lost env) (ht : s.Timed) (hturn : Turn env s s') : s'.Lost env := by
  rcases h with ⟨pending, stage, t, hmem, hready, e, herr⟩ | hlost
  · have running := ht.running stage fun ha => ha
    have hsplit := mem_split.2 ⟨hmem, hready⟩
    rcases hturn.of_round stage running with rfl | hnone | ⟨u, e', -, rfl⟩ | ⟨ps, hps, -⟩
    · exact absurd hmem List.not_mem_nil
    · rw [hnone] at hsplit
      exact absurd hsplit List.not_mem_nil
    · exact Or.inr rfl
    · obtain ⟨p, -, hp⟩ := Orchestrator.exists_prepare_of_prepareAll hps hsplit
      rw [herr] at hp
      cases hp
  · cases hturn with
    | pass pass =>
      cases pass with
      | fall st | fallLate st => exact Or.inr rfl
      | finish st | leave st | await st | close st | discard st | succeedLate st
      | reportMissing st | reportBegin st | reportPanic st | reportFail st | reportDone st
      | depart st =>
        rw [st] at hlost
        cases hlost
    | refuse st | refuseLate st => exact Or.inr rfl
    | starve st | reject st | begin st | launch st | takeUp st | complete st | overcome st
    | fail st | overlook st | succeed st =>
      rw [st] at hlost
      cases hlost

/-- The run has met an error for which no outcome is to blame. -/
def Refused (s : Scene) : Prop :=
  s.stage.rejected? ≠ none ∨ s.stage.fate? ≠ none ∧ ∀ o ∈ s.ends, o.proceeds

/-- **A run meets such an error only where a task cannot be made ready.** -/
theorem Refused.of_turn (h : s'.Refused) (hs : s.Sound) (ht : s.Timed) (hk : s.Kept outs)
    (hturn : Turn env s s') : s.Refused ∨ s.Baffled env := by
  cases hturn with
  | pass pass =>
    have hf := pass.frame
    have hends : s'.ends = s.ends := congrArg (List.map _) hf.past.taken
    rcases h with h | ⟨hfate, hall⟩
    · exact absurd hf.rejected h
    · exact Or.inl (Or.inr ⟨hf.fate ▸ hfate, hends ▸ hall⟩)
  | starve stage left running none_ready =>
    exact absurd none_ready (hs.ready_ne_nil stage running left)
  | reject stage running ready prepared =>
    obtain ⟨hmem, herr⟩ := Orchestrator.rejected_of_prepareAll prepared
    obtain ⟨hpending, hready⟩ := mem_split.1 hmem
    exact Or.inr ⟨_, stage, _, hpending, hready, _, herr⟩
  | fail stage result continued running =>
    have hlast := (hk.last hs stage).1
    rcases h with h | ⟨-, hall⟩
    · exact absurd rfl h
    · have hproceeds := hall _ (by
        show _ ∈ s.ends
        rw [hlast]
        exact List.mem_append_right _ List.mem_cons_self)
      rw [(Outcome.proceeds_of_error result).trans continued] at hproceeds
      cases hproceeds
  | overlook stage result terminal => exact absurd terminal (ht.not_terminal stage fun ha => ha)
  | refuse stage | refuseLate stage =>
    exact Or.inl (Or.inl (by rw [stage]; exact nofun))
  | begin stage | launch stage | takeUp stage | complete stage | overcome stage =>
    rcases h with h | ⟨h, -⟩ <;> exact absurd rfl h
  | succeed stage running =>
    revert h
    cases env.settings.generateReport <;> rintro (h | ⟨h, -⟩) <;> exact absurd rfl h

/-! ### Outcomes after which the job does not go on -/

/-- **An outcome has come in after which the job does not go on.**  It is the last one,
and the run is about to record it or has met its error. -/
structure Struck (s : Scene) (before : List Outcome) (o : Outcome) (e : ExecutionError) :
    Prop where
  ends : s.ends = before ++ [o]
  result : o.result = .error e
  strikes : o.proceeds = false
  proceeds : ∀ x ∈ before, x.proceeds
  stage : (∃ n pending, s.stage = .recording o n pending) ∨ s.stage.fate? = some e

/-- **The first outcome after which the job does not go on is the last that comes in.** -/
theorem Kept.struck (h : s.Kept outs) {before after : List Outcome} {o : Outcome}
    (hends : s.ends = before ++ o :: after) (hp : o.proceeds = false) :
    after = [] ∧ ∃ e, s.Struck before o e := by
  -- Only the last of the outcomes does not let the job go on.
  have hlast : ∀ (l : List Outcome) (last : Outcome), (∀ x ∈ l, x.proceeds) →
      s.ends = l ++ [last] → after = [] ∧ before = l ∧ o = last := by
    intro l last hall heq
    rcases List.eq_nil_or_concat after with rfl | ⟨rest, z, rfl⟩
    · obtain ⟨rfl, hone⟩ := List.append_inj' (hends.symm.trans heq) rfl
      cases hone
      exact ⟨rfl, rfl, rfl⟩
    · have hsplit : (before ++ o :: rest) ++ [z] = l ++ [last] := by
        rw [← heq, hends, List.concat_eq_append, List.append_assoc]
        rfl
      obtain ⟨rfl, -⟩ := List.append_inj' hsplit rfl
      have hgo := hall o (List.mem_append_right _ List.mem_cons_self)
      rw [hp] at hgo
      cases hgo
  have hmem : o ∈ s.ends := by
    rw [hends]
    exact List.mem_append_right _ List.mem_cons_self
  cases hf : s.stage.fate? with
  | none =>
    have hin := h.ends hf
    have hall := fun x hx => (h.proceeds hf x hx).1
    cases hst : s.stage with
    | recording oc n pending =>
      rw [hst] at hin
      obtain ⟨hnil, rfl, rfl⟩ := hlast outs oc hall hin
      rw [Outcome.proceeds] at hp
      cases hr : o.result with
      | ok v => rw [hr] at hp; cases hp
      | error e =>
        exact ⟨hnil, e, by rw [hnil] at hends; exact hends, hr,
          (by rw [Outcome.proceeds]; exact hp), hall, Or.inl ⟨n, pending, hst⟩⟩
    | _ =>
      rw [hst] at hin
      have hgo := hall o (by rw [hin] at hmem; exact (List.append_nil outs) ▸ hmem)
      rw [hp] at hgo
      cases hgo
  | some e =>
    obtain ⟨l, last, -, hin | hin, herr, hstrikes, hall⟩ := h.fate e hf
    · have hgo := hall o (hin ▸ hmem)
      rw [hp] at hgo
      cases hgo
    · obtain ⟨hnil, rfl, rfl⟩ := hlast l last hall hin
      exact ⟨hnil, e, hin, herr, hp, hall, Or.inr hf⟩

/-- **A turn keeps it**: nothing more comes in. -/
theorem Struck.turn {before : List Outcome} {o : Outcome} {e : ExecutionError}
    (h : s.Struck before o e) (ht : s.Timed) (hturn : Turn env s s') : s'.Struck before o e := by
  have hmet : ∀ {s'' : Scene}, s''.ends = s.ends → s''.stage.fate? = some e →
      s''.Struck before o e := fun hends hfate =>
    ⟨hends.trans h.ends, h.result, h.strikes, h.proceeds, Or.inr hfate⟩
  have hother : ∀ {here : Stage}, s.stage = here → here.returned = [] → here.fate? = none →
      s'.Struck before o e := fun {here} hst hret hfate => by
    rcases h.stage with ⟨n, pending, hrec⟩ | hsome
    · rw [hst] at hrec
      rw [hrec] at hret
      cases hret
    · rw [hst, hfate] at hsome
      cases hsome
  cases hturn with
  | pass pass =>
    cases pass with
    | fall st | fallLate st =>
      rcases h.stage with ⟨n, pending, hrec⟩ | hsome
      · cases st.symm.trans hrec
      · rw [st] at hsome
        exact hmet rfl hsome
    | finish st | leave st | await st | close st | discard st | succeedLate st | reportMissing st
    | reportBegin st | reportPanic st | reportFail st | reportDone st | depart st =>
      exact hother st rfl rfl
  | complete st result =>
    rcases h.stage with ⟨n, pending, hrec⟩ | hsome
    · cases st.symm.trans hrec
      cases result.symm.trans h.result
    · rw [st] at hsome
      cases hsome
  | overcome st result continued running =>
    rcases h.stage with ⟨n, pending, hrec⟩ | hsome
    · cases st.symm.trans hrec
      cases ((Outcome.proceeds_of_error result).trans continued).symm.trans h.strikes
    · rw [st] at hsome
      cases hsome
  | fail st result continued running =>
    rcases h.stage with ⟨n, pending, hrec⟩ | hsome
    · cases st.symm.trans hrec
      cases result.symm.trans h.result
      exact hmet rfl rfl
    · rw [st] at hsome
      cases hsome
  | overlook st result terminal => exact absurd terminal (ht.not_terminal st fun ha => ha)
  | starve st | reject st | begin st | launch st | takeUp st | refuse st | refuseLate st
  | succeed st => exact hother st rfl rfl

/-- **What has become of the job when its run is over.** -/
theorem Struck.failed {before : List Outcome} {o : Outcome} {e : ExecutionError}
    (h : s.Struck before o e) (ht : s.Timed) (hk : s.Kept outs) (hover : s.course.run.isOver) :
    s.stage = .ended (.error e) ∧ s.job.FailedBy before o e := by
  have hend : s.stage = .ended (.error e) := by
    have hstage := h.stage
    rw [Scene.stage] at hstage ⊢
    obtain ⟨e', hst⟩ | ⟨j, hst⟩ | ⟨message, hst⟩ := Run.stage_of_isOver hover <;>
      rw [hst] at hstage ⊢ <;> rcases hstage with ⟨_, _, hrec⟩ | hfate
    · cases hrec
    · cases hfate
      rfl
    · cases hrec
    · cases hfate
    · cases hrec
    · cases hfate
  have hallowed := ht.allowed
  rw [hend] at hallowed
  obtain ⟨l, last, rfl, hin, -, hstrikes, hall⟩ := hk.fate e (by rw [hend]; rfl)
  have hmem : o ∈ s.ends := by
    rw [h.ends]
    exact List.mem_append_right _ List.mem_cons_self
  have hsame : l ++ [last] = before ++ [o] := by
    rcases hin with hin | hin
    · have hgo := hall o (hin ▸ hmem)
      rw [h.strikes] at hgo
      cases hgo
    · exact hin.symm.trans h.ends
  have hrecords := hk.records
  rw [hsame] at hrecords
  refine ⟨hend, hallowed, ht.error e hend, fun n v => ?_, hrecords.failures⟩
  rw [hrecords.results, exists_mem_concat]
  refine or_iff_left ?_
  rintro ⟨-, hok⟩
  rw [h.result] at hok
  cases hok

/-! ### Outcomes after which the job goes on -/

/-- An outcome that has come in is recorded, unless it is just about to be. -/
theorem Kept.mem_outs (h : s.Kept outs) {o : Outcome} (ho : o ∈ s.ends)
    (hn : ∀ n pending, s.stage ≠ .recording o n pending) : o ∈ outs := by
  cases hf : s.stage.fate? with
  | none =>
    rw [h.ends hf] at ho
    refine (List.mem_append.1 ho).elim (fun ho => ho) fun ho => ?_
    cases hst : s.stage with
    | recording oc n pending =>
      rw [hst] at ho
      exact absurd (List.mem_singleton.1 ho ▸ hst) (hn n pending)
    | _ =>
      rw [hst] at ho
      exact absurd ho List.not_mem_nil
  | some e =>
    obtain ⟨l, last, rfl, hin | hin, -⟩ := h.fate e hf
    · exact List.mem_append_left _ (hin ▸ ho)
    · exact hin ▸ ho

/-- **The task of a failure that was overcome has failed and is completed.** -/
theorem Kept.completed_of_overcome (h : s.Kept outs) {o : Outcome} (ho : o ∈ outs)
    (hover : o.overcome) : o.task ∈ s.job.failedTasks ∧ o.task ∈ s.job.completedTasks :=
  ⟨(h.records.failed _).2 ⟨o, ho, rfl, Outcome.error_of_overcome hover⟩,
    (h.records.completed _).2 ⟨o, ho, rfl, Outcome.proceeds_iff.2 (Or.inr hover)⟩⟩

/-- The run of a job that has failed is over with an error, and only then. -/
theorem Timed.failed_iff (h : s.Timed) (hover : s.course.run.isOver) :
    s.job.status = .failed ↔ ∃ e, s.stage = .ended (.error e) := by
  have hallowed := h.allowed
  rw [Scene.stage] at hallowed ⊢
  obtain ⟨e, hst⟩ | ⟨j, hst⟩ | ⟨message, hst⟩ := Run.stage_of_isOver hover <;>
    rw [hst] at hallowed ⊢
  · exact iff_of_true hallowed ⟨e, rfl⟩
  · refine iff_of_false (fun hf => ?_) ?_
    · rcases hallowed with hd | hd <;> rw [hf] at hd <;> cases hd
    · rintro ⟨e, he⟩
      cases he
  · refine iff_of_false (fun hf => ?_) ?_
    · rw [hf] at hallowed
      cases hallowed
    · rintro ⟨e, he⟩
      cases he

/-- **Unless it fails, a job that nobody stops is completed when its run is over.** -/
theorem Timed.completed (h : s.Timed) (hn : s.job.status ≠ .stopped) (hover : s.course.run.isOver)
    (hf : s.job.status ≠ .failed) : s.job.status = .completed := by
  have hallowed := h.allowed
  rw [Scene.stage] at hallowed
  obtain ⟨e, hst⟩ | ⟨j, hst⟩ | ⟨message, hst⟩ := Run.stage_of_isOver hover <;>
    rw [hst] at hallowed
  · exact absurd hallowed hf
  · exact hallowed.resolve_right hn
  · exact hallowed

/-- All tasks of a completed job were started. -/
theorem Sound.started_of_completed (h : s.Sound) (hd : s.job.status = .completed) {t : Task}
    (ht : t ∈ s.workflow.tasks) : t.name ∈ s.begunNames := by
  obtain ⟨hall, hin⟩ := h.whole hd
  rw [begunNames, hall]
  exact List.mem_map_of_mem (h.wellFormed.mem_schedule_of_depth ht (hin t ht).1)

end Scene
end Runbook
