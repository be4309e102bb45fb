/-
# Runs that go as rehearsed

A run that is not stopped goes as rehearsed, whatever the order in which its tasks
end (`Scene.Reached.rehearsed`), and it ends in one of three ways
(`Scene.Concluded`), of which the rehearsal allows only one.
-/

import Runbook.Execution
import Runbook.Proofs.Engine.Recording
import Runbook.Proofs.Engine.Rehearsal

namespace Runbook

namespace Rehearsal

variable {r : Rehearsal}

/-- The rehearsal is one of this job: of its workflow and its parameters, and with
the ends of attempts that have come in. -/
structure Suits (r : Rehearsal) (s : Scene) : Prop where
  workflow : s.workflow = r.workflow
  parameters : s.job.parameters = r.parameters
  answer : ∀ x ∈ s.course.taken, x.2 = r.answer x.1.assignment.anonymous

/-- What is ready was made ready as rehearsed, from a task of this depth. -/
def Made (r : Rehearsal) (k : Nat) (p : Prepared) : Prop :=
  ∃ t ∈ r.workflow.layer k, r.ready t = .ok p.anonymous

/-- No task of this round is started, because one of them cannot be made ready. -/
def Refuses (r : Rehearsal) (s : Scene) : Prop :=
  s.started = r.workflow.schedule (s.rounds - 1) ∧
    ∃ t ∈ r.workflow.layer s.rounds, ∃ e, r.ready t = .error e

/-- All tasks of this round are started, and after one of them the job does not go on. -/
def Strikes (r : Rehearsal) (s : Scene) : Prop :=
  s.started = r.workflow.schedule s.rounds ∧ ∃ t ∈ r.workflow.layer s.rounds, ¬ r.Proceeds t

/-- A turn leaves the workflow and the parameters alone, and what has come in before
it has come in after it. -/
theorem Suits.of_turn {env : Orchestrator} {s s' : Scene} (ht : Turn env s s')
    (h : r.Suits s') : r.Suits s := by
  obtain ⟨hw, hp, ha⟩ := h
  cases ht with
  | pass pass =>
    have hf := pass.frame
    refine ⟨hf.workflow.symm.trans hw, hf.record.parameters.symm.trans hp, ?_⟩
    rw [← hf.past.taken]
    exact ha
  | takeUp stage flight running =>
    exact ⟨hw, hp, fun x hx => ha x (List.mem_append_left _ hx)⟩
  | _ => exact ⟨hw, hp, ha⟩

end Rehearsal

namespace Scene

/-- **The run has gone as rehearsed so far.**  What is started or ready was made
ready as in the rehearsal; what has come in was started; and the run fails only if
a task of this round is refused or strikes it. -/
structure Rehearsed (r : Rehearsal) (s : Scene) : Prop where
  started : ∀ x ∈ s.course.started, r.Made x.1 x.2
  underWay : s.stage.pending? ≠ none →
    (∀ p ∈ s.stage.ready, r.Made s.rounds p) ∧
      ∀ p ∈ s.course.inFlight, (s.rounds, p) ∈ s.course.started
  taken : ∀ x ∈ s.course.taken, ∃ k, (k, x.1) ∈ s.course.started
  returned : ∀ o ∈ s.stage.returned, ∃ x ∈ s.course.taken,
    (s.rounds, x.1) ∈ s.course.started ∧ o = x.1.outcomeOf x.2
  rejected : s.stage.rejected? ≠ none → r.Refuses s
  fate : s.stage.fate? ≠ none → r.Refuses s ∨ r.Strikes s

variable {s s' : Scene} {r : Rehearsal} {outs : List Outcome}

namespace Rehearsed

/-- **What a task ends with is what it ends with in the rehearsal.** -/
theorem outcome (h : s.Rehearsed r) (hr : r.Suits s) (hw : r.workflow.WellFormed) {o : Outcome}
    (ho : o ∈ s.ends) {t : Task} (ht : t ∈ r.workflow.tasks) (hn : t.name = o.task) :
    r.outcome? t = some o := by
  obtain ⟨x, hx, rfl⟩ := List.mem_map.1 ho
  obtain ⟨k, hk⟩ := h.taken x hx
  obtain ⟨u, hu, hready⟩ := h.started _ hk
  have hname : u.name = t.name := by
    rw [hn, x.1.task_outcomeOf]
    exact (Rehearsal.name_of_ready hready).symm
  obtain rfl := hw.eq_of_name (Workflow.mem_layer.1 hu).1 ht hname
  rw [Rehearsal.outcome?_of_ready hready, Prepared.outcomeOf_anonymous, hr.answer x hx]
  rfl

/-- The job goes on after the tasks that are completed. -/
theorem proceeds (h : s.Rehearsed r) (hr : r.Suits s) (hw : r.workflow.WellFormed)
    (hk : s.Kept outs) {t : Task} (ht : t ∈ r.workflow.tasks)
    (hc : t.name ∈ s.job.completedTasks) : r.Proceeds t := by
  obtain ⟨o, ho, hname, hp⟩ := (hk.records.completed t.name).1 hc
  exact ⟨o, h.outcome hr hw (hk.mem_ends ho hp) ht hname.symm, hp⟩

/-- **Between two rounds the job has the results of the rehearsal.** -/
theorem results_eq (h : s.Rehearsed r) (hr : r.Suits s) (hs : s.Sound) (hk : s.Kept outs)
    {pending : List Task} (stage : s.stage = .round pending) (running : s.job.isTerminal = false) :
    s.job.results = r.results s.rounds := by
  have hway := hs.underWay pending (by rw [stage]; rfl)
  obtain ⟨hout, -⟩ := hway.between (by rw [stage]; rfl)
  have hwell := hs.wellFormed
  have hdone := fun t => hway.completed_iff hout running (t := t)
  rw [hr.workflow] at hwell hdone
  refine Dict.ext_get? fun n => Option.ext fun v => ?_
  rw [hk.records.results, Rehearsal.get?_results hwell]
  constructor
  · rintro ⟨o, ho, rfl, hv⟩
    obtain ⟨t, ht, hname, hle⟩ := hk.named o ho
    rw [hr.workflow] at ht hle
    have hends := hk.mem_ends ho (Outcome.proceeds_of_ok hv)
    exact ⟨t, ht, hle, hname, o, h.outcome hr hwell hends ht hname, hv⟩
  · rintro ⟨t, ht, hle, rfl, o, ho, hv⟩
    obtain ⟨o', ho', hname, hp⟩ := (hk.records.completed _).1 ((hdone t ht).2 hle)
    rw [h.outcome hr hwell (hk.mem_ends ho' hp) ht hname.symm] at ho
    obtain rfl := Option.some.inj ho
    exact ⟨o', ho', hname, hv⟩

/-- Nothing is started and nothing comes in. -/
theorem same (h : s.Rehearsed r) (past : s.course.SamePast s'.course)
    (hround : s'.stage.pending? = none ∨ s.stage.pending? ≠ none ∧
      s'.stage.ready = s.stage.ready ∧ s'.course.inFlight = s.course.inFlight)
    (hreturned : s'.stage.returned = []) (hrejected : s'.stage.rejected? = none)
    (hfate : s'.stage.fate? ≠ none → r.Refuses s ∨ r.Strikes s) : s'.Rehearsed r := by
  have hstarted : s'.started = s.started := congrArg (List.map _) past.started
  have hrounds : s'.rounds = s.rounds := past.rounds
  refine ⟨?_, fun hp => ?_, ?_, ?_, fun hn => absurd hrejected hn, fun hn => ?_⟩
  · rw [past.started]
    exact h.started
  · obtain ⟨hwas, hready, hflight⟩ := hround.resolve_left hp
    rw [hready, hflight, past.started, hrounds]
    exact h.underWay hwas
  · rw [past.taken, past.started]
    exact h.taken
  · rw [hreturned]
    exact fun o ho => absurd ho List.not_mem_nil
  · unfold Rehearsal.Refuses Rehearsal.Strikes
    rw [hstarted, hrounds]
    exact hfate hn

/-- A pass keeps it. -/
theorem frame (h : s.Rehearsed r) (hf : s.Frame s') : s'.Rehearsed r := by
  refine h.same hf.past ?_ hf.returned' hf.rejected fun hn => h.fate (hf.fate ▸ hn)
  rcases hf.round with hnone | hsame
  · exact Or.inl hnone
  · by_cases hp : s'.stage.pending? = none
    · exact Or.inl hp
    · exact Or.inr ⟨hsame.pending ▸ hp, hsame.ready, hsame.inFlight⟩

/-- **A round begins**, and its tasks are made ready as in the rehearsal, or one of
them cannot be. -/
theorem begins (h : s.Rehearsed r) (hr : r.Suits s) (hs : s.Sound) (hk : s.Kept outs)
    {env : Orchestrator} (hc : r.Casts env) {pending : List Task}
    (stage : s.stage = .round pending) (running : s.job.isTerminal = false) :
    s.started = r.workflow.schedule s.rounds ∧ s.course.inFlight = [] ∧
      ∀ t ∈ (s.split pending).1, t ∈ r.workflow.layer (s.rounds + 1) ∧
        (env.prepare s.id s.scope t).map Prepared.anonymous = r.ready t := by
  have hway := hs.underWay pending (by rw [stage]; rfl)
  obtain ⟨-, hstarted, hflight⟩ := hway.between (by rw [stage]; rfl)
  rw [← hr.workflow]
  refine ⟨hstarted, hflight, fun t ht => ?_⟩
  rw [hway.split_eq hs.wellFormed stage running] at ht
  refine ⟨ht, ?_⟩
  obtain ⟨-, hdepth⟩ := Workflow.mem_layer.1 ht
  rw [hr.workflow] at hdepth
  unfold Scene.scope Rehearsal.ready
  rw [hr.parameters, h.results_eq hr hs hk stage running, hc.prepare, hdepth, Nat.add_sub_cancel]

/-- A task is started. -/
theorem launches (h : s.Rehearsed r) {p : Prepared} {ready : List Prepared} {n : Nat}
    {pending : List Task} (stage : s.stage = .starting (p :: ready) n pending) (j : Job)
    (es : List JobEvent) :
    Rehearsed r
      { job := j
        course := (s.course.startTask p).enter (.starting ready (n + 1) pending)
        told := s.told ++ es } := by
  obtain ⟨hready, hflight⟩ := h.underWay (by rw [stage]; exact nofun)
  rw [stage] at hready
  refine ⟨fun x hx => ?_, fun _ => ⟨fun q hq => hready q (List.mem_cons_of_mem p hq), ?_⟩,
    fun x hx => ?_, (fun _ ho => absurd ho List.not_mem_nil), (fun hn => absurd rfl hn),
    fun hn => absurd rfl hn⟩
  · rcases List.mem_append.1 hx with hx | hx
    · exact h.started x hx
    · rw [List.mem_singleton.1 hx]
      exact hready p List.mem_cons_self
  · intro q hq
    rcases List.mem_append.1 hq with hq | hq
    · exact List.mem_append_left _ (hflight q hq)
    · rw [List.mem_singleton.1 hq]
      exact List.mem_append_right _ List.mem_cons_self
  · obtain ⟨k, hk⟩ := h.taken x hx
    exact ⟨k, List.mem_append_left _ hk⟩

/-- An outcome comes in. -/
theorem takesUp (h : s.Rehearsed r) {p : Prepared} {e : Option AttemptEnd} {n : Nat}
    {pending : List Task} (stage : s.stage = .waiting (n + 1) pending)
    (flight : p ∈ s.course.inFlight) (j : Job) :
    Rehearsed r
      { s with
        job := j
        course := (s.course.takeUp p e).enter (.recording (p.outcomeOf e) n pending) } := by
  obtain ⟨-, hflight⟩ := h.underWay (by rw [stage]; exact nofun)
  refine ⟨h.started, fun _ => ⟨(fun _ hq => absurd hq List.not_mem_nil), fun q hq => ?_⟩,
    fun x hx => ?_, fun o ho => ?_, (fun hn => absurd rfl hn), fun hn => absurd rfl hn⟩
  · exact hflight q (List.eraseP_subset hq)
  · rcases List.mem_append.1 hx with hx | hx
    · exact h.taken x hx
    · rw [List.mem_singleton.1 hx]
      exact ⟨s.rounds, hflight p flight⟩
  · rw [List.mem_singleton.1 ho]
    exact ⟨(p, e), List.mem_append_right _ List.mem_cons_self, hflight p flight, rfl⟩

/-- **A failure strikes the round** if the job does not go on after it. -/
theorem strikes (h : s.Rehearsed r) (hr : r.Suits s) (hs : s.Sound) {oc : Outcome} {n : Nat}
    {pending : List Task} (stage : s.stage = .recording oc n pending)
    (hp : oc.proceeds = false) : r.Strikes s := by
  have hway := hs.underWay pending (by rw [stage]; rfl)
  have hstarted := hway.started
  rw [stage, hr.workflow] at hstarted
  obtain ⟨x, hx, hin, rfl⟩ := h.returned oc (by rw [stage]; exact List.mem_cons_self)
  obtain ⟨t, ht, hready⟩ := h.started _ hin
  refine ⟨(List.append_nil _).symm.trans hstarted, t, ht, ?_⟩
  rintro ⟨o, ho, hproceeds⟩
  have hends : x.1.outcomeOf x.2 ∈ s.ends := List.mem_map_of_mem hx
  have hname : t.name = (x.1.outcomeOf x.2).task := by
    rw [x.1.task_outcomeOf]
    exact (Rehearsal.name_of_ready hready).symm
  rw [h.outcome hr (hr.workflow ▸ hs.wellFormed) hends (Workflow.mem_layer.1 ht).1 hname] at ho
  obtain rfl := Option.some.inj ho
  rw [hp] at hproceeds
  cases hproceeds

/-- **A turn keeps it.** -/
theorem turn (h : s.Rehearsed r) {env : Orchestrator} (hc : r.Casts env) (hr : r.Suits s)
    (hs : s.Sound) (hk : s.Kept outs) (ht : s.Timed) (hturn : Turn env s s') :
    s'.Rehearsed r := by
  cases hturn with
  | pass pass => exact h.frame pass.frame
  | starve stage left running none_ready =>
    exact absurd none_ready (hs.ready_ne_nil stage running left)
  | reject stage running ready prepared =>
    obtain ⟨hstarted, hflight, hall⟩ := h.begins hr hs hk hc stage running
    obtain ⟨hmem, herr⟩ := Orchestrator.rejected_of_prepareAll prepared
    obtain ⟨hlayer, hready⟩ := hall _ hmem
    rw [herr] at hready
    refine ⟨h.started, (fun hp => absurd rfl hp), h.taken,
      (fun _ ho => absurd ho List.not_mem_nil), fun _ => ?_, fun hn => absurd rfl hn⟩
    exact ⟨hstarted, _, hlayer, _, hready.symm⟩
  | begin stage running ready prepared =>
    obtain ⟨-, hflight, hall⟩ := h.begins hr hs hk hc stage running
    refine ⟨h.started, fun _ => ⟨fun p hp => ?_, fun p hp => ?_⟩, h.taken,
      (fun _ ho => absurd ho List.not_mem_nil), (fun hn => absurd rfl hn), fun hn => absurd rfl hn⟩
    · obtain ⟨t, ht, hprepared⟩ := Orchestrator.exists_of_mem_prepareAll prepared hp
      obtain ⟨hlayer, hready⟩ := hall t ht
      rw [hprepared] at hready
      exact ⟨t, hlayer, hready.symm⟩
    · have hp : p ∈ s.course.inFlight := hp
      rw [hflight] at hp
      exact absurd hp List.not_mem_nil
  | launch stage => exact h.launches stage _ _
  | takeUp stage flight running => exact h.takesUp stage flight _
  | complete stage result | overcome stage result continued running =>
    exact h.same ⟨rfl, rfl, rfl, rfl, rfl⟩
      (Or.inr ⟨by rw [stage]; exact nofun, by rw [stage]; rfl, rfl⟩) rfl rfl fun hn => absurd rfl hn
  | fail stage result continued running =>
    have hp := (Outcome.proceeds_of_error result).trans continued
    exact h.same ⟨rfl, rfl, rfl, rfl, rfl⟩ (Or.inl rfl) rfl rfl fun _ =>
      Or.inr (h.strikes hr hs stage hp)
  | overlook stage result terminal => exact absurd terminal (ht.not_terminal stage fun ha => ha)
  | refuse stage running | refuseLate stage terminal =>
    exact h.same ⟨rfl, rfl, rfl, rfl, rfl⟩ (Or.inl rfl) rfl rfl fun _ =>
      Or.inl (h.rejected (by rw [stage]; exact nofun))
  | succeed stage running =>
    cases env.settings.generateReport <;>
      exact h.same ⟨rfl, rfl, rfl, rfl, rfl⟩ (Or.inl rfl) rfl rfl fun hn => absurd rfl hn

end Rehearsed

/-- It holds of every scene that is reached without a stop. -/
theorem Reached.rehearsed {env : Orchestrator} (h : Reached env (fun _ => False) s)
    (hc : r.Casts env) (hr : r.Suits s) : s.Rehearsed r := by
  induction h with
  | start valid =>
    exact ⟨(fun _ hx => absurd hx List.not_mem_nil),
      fun _ => ⟨(fun _ hp => absurd hp List.not_mem_nil), fun _ hp => absurd hp List.not_mem_nil⟩,
      (fun _ hx => absurd hx List.not_mem_nil), (fun _ ho => absurd ho List.not_mem_nil),
      (fun hn => absurd rfl hn), fun hn => absurd rfl hn⟩
  | turn before turn ih =>
    have hr := Rehearsal.Suits.of_turn turn hr
    have hrests : Reached env (fun r => r.isAwaiting) _ := before.mono fun _ ha => ha.elim
    obtain ⟨outs, hk⟩ := hrests.kept
    exact (ih hr).turn hc hr before.sound hk hrests.timed turn
  | stop before running allowed ih => exact allowed.elim

/-- **How a run that is over has gone.**  Its job is completed, and all tasks were
started and let it go on; or it has failed in its last round, where a task could not
be made ready or was one after which the job does not go on. -/
inductive Concluded (r : Rehearsal) (s : Scene) : Prop where
  | completed (status : s.job.status = .completed) (fate : s.stage.fate? = none)
      (started : s.started = r.workflow.schedule s.rounds)
      (all : ∀ t ∈ r.workflow.tasks, r.workflow.depth t.name ≤ s.rounds ∧ r.Proceeds t)
  | refused (status : s.job.status = .failed) (refuses : r.Refuses s)
  | struck (status : s.job.status = .failed) (strikes : r.Strikes s)

/-- A run that is over has gone in one of these ways. -/
theorem Rehearsed.concluded (h : s.Rehearsed r) (hr : r.Suits s) (hs : s.Sound)
    (hk : s.Kept outs) (ht : s.Timed) (hn : s.job.status ≠ .stopped)
    (done : s.course.run.isOver) : s.Concluded r := by
  have hdone : s.job.status = .completed → s.stage.fate? = none → s.Concluded r := by
    intro hdone hfate
    obtain ⟨hstarted, hall⟩ := hs.whole hdone
    have hw := hs.wellFormed
    rw [hr.workflow] at hstarted hall hw
    exact .completed hdone hfate hstarted fun t ht =>
      ⟨(hall t ht).1, h.proceeds hr hw hk ht (hall t ht).2⟩
  have hallowed := ht.allowed
  have hfailed := h.fate
  rw [Scene.stage] at hallowed hfailed hdone
  obtain ⟨e, hend⟩ | ⟨j, hend⟩ | ⟨message, hend⟩ := Run.stage_of_isOver done
  · rw [hend] at hallowed hfailed
    exact (hfailed (Option.some_ne_none e)).elim (.refused hallowed) (.struck hallowed)
  · rw [hend] at hallowed hdone
    exact hdone (hallowed.resolve_right hn) rfl
  · rw [hend] at hallowed hdone
    exact hdone hallowed rfl

end Scene
end Runbook
