/-
# Strict references matter at gaps only

Two runs of one job are made by the same deeds, one with strict references and one without.
They are alike (`Workshop.Alike`) up to the first round in which a ready task has a gap
(`Workshop.strict_at_gaps_only`):

| the rounds           | with strict references       | without                                 |
|----------------------|------------------------------|-----------------------------------------|
| before that          | the same                     | the same                                |
| the one with the gap | is refused (`Refused`)       | hands out filled tasks (`Task.Filled`)  |

There they divide (`Workshop.Divided`).  If there is no such round, the runs are alike to
the end.
-/

import Runbook.Proofs.Engine.Setting

namespace Runbook

/-- Only a stage of the rounds has tasks that are ready. -/
theorem Stage.ready_eq_nil {stage : Stage} (h : stage.pending? = none) : stage.ready = [] := by
  cases stage with
  | starting ready n pending => cases h
  | _ => rfl

namespace Scene

/-- **What the round hands out that begins in the scene `x`.**  Of the tasks that are started
in that round, all are among the given ones, and so are those that it has still to start. -/
structure HandsOut (x : Scene) (ps : List Prepared) (y : Scene) : Prop where
  begun : x.course.rounds < y.course.rounds
  ready : y.course.rounds = x.course.rounds + 1 → ∀ p ∈ y.stage.ready, p ∈ ps
  started : ∀ p, (x.course.rounds + 1, p) ∈ y.course.started → p ∈ ps

namespace HandsOut

variable {x y y' : Scene} {ps : List Prepared}

/-- Nothing is made ready or started. -/
theorem same (h : x.HandsOut ps y) (rounds : y'.course.rounds = y.course.rounds)
    (started : y'.course.started = y.course.started) (ready : y'.stage.ready ⊆ y.stage.ready) :
    x.HandsOut ps y' where
  begun := rounds ▸ h.begun
  ready hr p hp := h.ready (rounds ▸ hr) p (ready hp)
  started := started ▸ h.started

/-- Another round begins. -/
theorem later (h : x.HandsOut ps y) (rounds : y'.course.rounds = y.course.rounds + 1)
    (started : y'.course.started = y.course.started) : x.HandsOut ps y' where
  begun := rounds ▸ Nat.lt_succ_of_lt h.begun
  ready hr := absurd h.begun (by omega)
  started := started ▸ h.started

/-- A turn starts only what is ready. -/
theorem turn (h : x.HandsOut ps y) {env : Orchestrator} (ht : Turn env y y') :
    x.HandsOut ps y' := by
  cases ht with
  | pass pass =>
    refine h.same pass.frame.past.rounds pass.frame.past.started ?_
    rcases pass.frame.round with hnone | hsame
    · rw [Stage.ready_eq_nil hnone]
      exact List.nil_subset _
    · rw [hsame.ready]
      exact List.Subset.refl _
  | reject | begin => exact h.later rfl rfl
  | @launch p ready n pending here =>
    have hready : y.stage.ready = p :: ready := congrArg Stage.ready here
    refine ⟨h.begun, fun hr q hq => h.ready hr q ?_, fun q hq => ?_⟩
    · rw [hready]
      exact List.mem_cons_of_mem p hq
    · rcases List.mem_append.1 hq with hq | hq
      · exact h.started q hq
      · -- The task that is started now is one of this round's.
        obtain ⟨hround, rfl⟩ := Prod.mk.inj (List.mem_singleton.1 hq)
        exact h.ready hround.symm q (hready ▸ List.mem_cons_self)
  | @overlook oc e n pending =>
    refine h.same rfl rfl ?_
    show Stage.ready (if oc.continues && e.isContinuable then .waiting n pending else .failing e)
      ⊆ _
    split <;> exact List.nil_subset _
  | succeed =>
    refine h.same rfl rfl ?_
    show Stage.ready (if env.settings.generateReport then .reporting else .leaving) ⊆ _
    split <;> exact List.nil_subset _
  | starve | takeUp | complete | overcome | fail | refuse | refuseLate =>
    exact h.same rfl rfl (List.nil_subset _)

/-- A stop starts nothing. -/
theorem stop (h : x.HandsOut ps y) (now : Instant) : x.HandsOut ps (y.stop now) :=
  h.same rfl rfl (List.Subset.refl _)

end HandsOut

/-- No task is started in a round that has not begun. -/
theorem Sound.notMem_started {x : Scene} (h : x.Sound) {k : Nat} (hk : x.course.rounds < k)
    (p : Prepared) : (k, p) ∉ x.course.started := by
  intro hp
  have hmem : (k, p.name) ∈ x.started := List.mem_map_of_mem hp
  exact absurd (Workflow.mem_schedule (h.inOrder.subset hmem)).1 (Nat.not_le_of_lt hk)

end Scene

namespace Workshop

variable {id : String} {env : Orchestrator} {s t : Workshop} {x : Scene}

/-- **What every turn and every stop keep, all deeds keep.** -/
theorem shows_play {P : Scene → Prop} (hturn : ∀ {y y'}, P y → Turn env y y' → P y')
    (hstop : ∀ {y} now, y.job.isTerminal = false → P y → P (y.stop now))
    (ht : t.world.Tracked env fun _ _ => True) (hx : t.world.Shows id x) (hp : P x)
    (deeds : List Deed) : ∃ y, (t.play id deeds).world.Shows id y ∧ P y := by
  induction deeds generalizing t x with
  | nil => exact ⟨x, hx, hp⟩
  | cons d ds ih =>
    obtain ⟨y, hy, hmove⟩ := shows_act ht hx d
    refine ih (tracked_act ht d) hy ?_
    rcases hmove with rfl | hmove | ⟨now, -, running, rfl⟩
    · exact hp
    · exact hturn hp hmove
    · exact hstop now running hp

/-- **A round hands out its ready tasks only**, as they were when it began. -/
theorem handsOut_of_round (ht : s.world.Tracked env fun _ _ => True) (hx : s.world.Shows id x)
    {pending : List Task} (stage : x.stage = .round pending) (left : pending ≠ [])
    (running : x.job.isTerminal = false) (now : Instant) :
    ∃ ps y, (s.act id (.move (.step id now))).world.Shows id y ∧ x.HandsOut ps y ∧
      ∀ p ∈ ps, ∃ u ∈ x.job.readyOf pending, p.assignment = u.assignment id x.job.scope := by
  obtain ⟨-, j, told, -, hreach, -⟩ := ht.scene id x.course hx.course
  have hbefore : ∀ p, (x.course.rounds + 1, p) ∉ x.course.started :=
    hreach.sound.notMem_started (Nat.lt_succ_self _)
  obtain ⟨hne, -, ⟨-, ps, hassigned, y, hy, hstarts⟩ | ⟨l, u, r, e, -, -, -, hrefuse⟩⟩ :=
    begins_round ht hx stage left running now
  · refine ⟨ps, y, hy, ?_, fun p hp => ?_⟩
    · cases hstarts with
      | @starting l r n blocked split length hstage rounds started =>
        obtain rfl : l = [] := by
          rw [split, List.length_append] at length
          exact List.length_eq_zero_iff.1 (by omega)
        refine ⟨by omega, fun _ p hp => ?_, fun p hp => ?_⟩
        · rw [hstage] at hp
          exact split ▸ hp
        · rw [started, List.map_nil, List.append_nil] at hp
          exact absurd hp (hbefore p)
      | done none_left =>
        rw [List.length_eq_zero_iff.1 none_left] at hassigned
        exact absurd (List.map_eq_nil_iff.1 hassigned.symm) hne
    · have hmem := List.mem_map_of_mem (f := Prepared.assignment) hp
      rw [hassigned] at hmem
      obtain ⟨u, hu, heq⟩ := List.mem_map.1 hmem
      exact ⟨u, hu, heq.symm⟩
  · obtain ⟨y, hy, hrefusing⟩ := hrefuse False
    refine ⟨[], y, hy, ?_, fun p hp => absurd hp List.not_mem_nil⟩
    have hcourse := hrefusing.course
    refine ⟨?_, fun _ p hp => ?_, fun p hp => ?_⟩
    · rw [hcourse]
      exact Nat.lt_succ_self _
    · rw [Scene.stage, hcourse] at hp
      exact hp
    · rw [hcourse] at hp
      exact absurd hp (hbefore p)

/-- **A round with a gap is refused where references have to have values.** -/
theorem refused_of_gap (ht : s.world.Tracked env fun _ _ => True) (hm : s.Manned env id)
    (strict : env.settings.strictReferences) {c : Course} {j : Job} {pending : List Task}
    (h : s.world.AtGap id c j pending) (now : Instant) (after : List Deed) :
    ∃ l u r e, j.readyOf pending = l ++ u :: r ∧
      (∀ v ∈ l, v.IsFit s.world.orchestrator id j.scope) ∧
      u.Hindered s.world.orchestrator id j.scope e ∧
      Refused s id c j (j.readyOf pending) u e after
        (s.play id (.move (.step id now) :: after)) := by
  obtain ⟨hc, stage, hj, running, v, hv, hopen⟩ := h
  have running' := Job.isTerminal_eq_false.2 running
  have hx : s.world.Shows id ⟨j, c, s.world.orchestrator.told id⟩ := ⟨hc, hj, fun _ => rfl⟩
  have left : pending ≠ [] := List.ne_nil_of_mem (List.mem_filter.1 hv).1
  obtain ⟨hid, k, told, hk, hreach, -⟩ := ht.scene id c hc
  obtain rfl : j = k := Option.some.inj (hj.symm.trans hk)
  have hsplit : (Scene.split ⟨j, c, told⟩ pending).1 = j.readyOf pending :=
    j.partition_isReady pending
  obtain ⟨-, -, ⟨hfit, -⟩ | ⟨l, u, r, e, hready, hl, hu, hrefuse⟩⟩ :=
    begins_round ht hx stage left running' now
  · exact absurd hopen (Scope.unresolved_eq_nil_iff.1 ((hfit v hv).resolves (ht.settings ▸ strict)))
  · obtain ⟨y, hy, hrefusing⟩ := hrefuse (¬ Unstopped id after)
    refine ⟨l, u, r, e, hready, hl, hu, ?_⟩
    refine refused_play (tracked_act ht _) (hm.act ht _) hy hrefusing (Orchestrator.id_of_job? hj)
      hid running' (fun w hw => ?_) (notMem_currentTasks ht hx stage running') ?_ fun _ => rfl
    · exact (hreach.sound.notMem_begunNames_of_ready stage running' (hsplit ▸ hw)).2
    · exact ((hreach.sound.underWay pending (congrArg Stage.pending? stage)).between
        (congrArg Stage.isBetween stage)).2.2

/-- **The job has failed for good then**, unless it was stopped before two more steps of its
run. -/
theorem failed_of_gap (ht : s.world.Tracked env fun _ _ => True) (hm : s.Manned env id)
    (strict : env.settings.strictReferences) {c : Course} {j : Job} {pending : List Task}
    (h : s.world.AtGap id c j pending) (now : Instant) {pre : List Deed} (hpre : Unstopped id pre)
    (hsteps : 2 ≤ steps id pre) (post : List Deed) :
    ∃ k, (s.play id (.move (.step id now) :: (pre ++ post))).world.orchestrator.job? id = some k ∧
      k.status = .failed := by
  obtain ⟨_, u, _, e, -, -, -, hrefused⟩ := refused_of_gap ht hm strict h now pre
  obtain ⟨htracked, -⟩ := manned_play ht hm (.move (.step id now) :: pre)
  obtain ⟨c', hc', -, -, -, -, -, hended⟩ := hrefused.course
  obtain ⟨k, hk, -, -, -, -, hstopped, hfailed⟩ := hrefused.job
  have hdown : k.status = .failed := by
    obtain ⟨_, _, rfl, -⟩ := hfailed (fun hs => hstopped hs hpre) hsteps
    rfl
  have hx : (s.play id (.move (.step id now) :: pre)).world.Shows id ⟨k, c', _⟩ :=
    ⟨hc', hk, fun _ => rfl⟩
  have hover : c'.run.isOver := by rw [Run.isOver, hended hsteps]
  -- A run that is over makes no turn, and a job that has failed cannot be stopped.
  obtain ⟨y, hy, -, hstatus⟩ := shows_play
    (P := fun y => y.course.run.isOver ∧ y.job.status = .failed)
    (fun hp hturn => absurd hp.1 (by rw [hturn.not_isOver]; exact Bool.false_ne_true))
    (fun now running hp => by
      rw [Job.isTerminal_eq_false.1 running] at hp
      cases hp.2)
    htracked hx ⟨hover, hdown⟩ post
  exact ⟨y.job, by rw [← List.cons_append, play_append]; exact hy.job, hstatus⟩

/-- **A round with a gap hands out filled tasks**, if it hands out any. -/
theorem filled_of_gap (ht : s.world.Tracked env fun _ _ => True) (hm : s.Manned env id)
    {c : Course} {j : Job} {pending : List Task} (h : s.world.AtGap id c j pending) (now : Instant)
    (after : List Deed) :
    ∃ c', (s.play id (.move (.step id now) :: after)).course? id = some c' ∧
      ((s.play id (.move (.step id now) :: after)).tasks.map (·.prepared)).Perm
        (c'.started.map (·.2)) ∧
      ∀ p, (c.rounds + 1, p) ∈ c'.started → ∃ u ∈ j.readyOf pending,
        p.assignment = u.assignment id j.scope ∧ u.Filled j.scope p.assignment.parameters := by
  obtain ⟨hc, stage, hj, running, v, hv, -⟩ := h
  have hx : s.world.Shows id ⟨j, c, s.world.orchestrator.told id⟩ := ⟨hc, hj, fun _ => rfl⟩
  obtain ⟨ps, y, hy, hhands, hassigned⟩ := handsOut_of_round ht hx stage
    (List.ne_nil_of_mem (List.mem_filter.1 hv).1) (Job.isTerminal_eq_false.2 running) now
  obtain ⟨z, hz, hhands⟩ := shows_play (fun hp ht => hp.turn ht) (fun now _ hp => hp.stop now)
    (tracked_act ht _) hy hhands after
  have hmanned := (manned_play ht hm (.move (.step id now) :: after)).2
  refine ⟨z.course, hz.course, (hmanned.serves z.course hz.course).tasks, fun p hp => ?_⟩
  obtain ⟨u, hu, heq⟩ := hassigned p (hhands.started p hp)
  exact ⟨u, hu, heq, heq ▸ Scope.filled_values j.scope u⟩

/-! ### Two runs -/

/-- The workshops are alike: the second one is the first one without strict references, as
far as the job is concerned. -/
structure Alike (s t : Workshop) (id : String) : Prop where
  world : (s.world.withStrict false).Agree t.world id
  workflows : s.world.orchestrator.workflows = t.world.orchestrator.workflows
  efforts : s.efforts = t.efforts
  done : s.done = t.done

/-- The deeds begin no round with a gap. -/
def Clear (id : String) (s : Workshop) (deeds : List Deed) : Prop :=
  ∀ pre now post, deeds = pre ++ .move (.step id now) :: post →
    ∀ c j pending, ¬ (s.play id pre).world.AtGap id c j pending

theorem Clear.of_prefix {deeds pre : List Deed} (h : Clear id s deeds) (hpre : pre <+: deeds) :
    Clear id s pre := by
  obtain ⟨post, rfl⟩ := hpre
  rintro front now rest rfl
  exact h front now (rest ++ post) (by rw [List.append_assoc, List.cons_append])

theorem Clear.tail {d : Deed} {deeds : List Deed} (h : Clear id s (d :: deeds)) :
    Clear id (s.act id d) deeds :=
  fun pre now post heq => h (d :: pre) now post (by rw [heq, List.cons_append])

/-- **Deeds either begin no round with a gap, or there is a first that does.** -/
theorem clear_or_first_gap (id : String) (s : Workshop) (deeds : List Deed) :
    Clear id s deeds ∨ ∃ before now after c j pending,
      deeds = before ++ .move (.step id now) :: after ∧ Clear id s before ∧
        (s.play id before).world.AtGap id c j pending := by
  induction deeds generalizing s with
  | nil => exact Or.inl fun pre now post heq => absurd heq.symm (by simp)
  | cons d ds ih =>
    have hnil : Clear id s [] := fun pre now post heq => absurd heq.symm (by simp)
    by_cases hgap : ∃ now c j pending, d = .move (.step id now) ∧ s.world.AtGap id c j pending
    · obtain ⟨now, c, j, pending, rfl, hgap⟩ := hgap
      exact Or.inr ⟨[], now, ds, c, j, pending, rfl, hnil, hgap⟩
    · have hcons : ∀ {rest}, Clear id (s.act id d) rest → Clear id s (d :: rest) := by
        rintro rest hrest (_ | ⟨d', pre⟩) now post heq c j pending hat
        · exact hgap ⟨now, c, j, pending, (List.cons.inj heq).1, hat⟩
        · obtain ⟨rfl, rfl⟩ := List.cons.inj heq
          exact hrest pre now post rfl c j pending hat
      rcases ih (s.act id d) with hclear | ⟨before, now, after, c, j, pending, rfl, hclear, hat⟩
      · exact Or.inl (hcons hclear)
      · exact Or.inr ⟨d :: before, now, after, c, j, pending, rfl, hcons hclear, hat⟩

namespace Alike

variable {registry : Registry} {settings : EngineSettings} {listening : Bool}

theorem course (h : s.Alike t id) : s.course? id = t.course? id := h.world.course

/-- The same is ripe in both. -/
theorem ripe (h : s.Alike t id) (task : String) : s.ripe? id task = t.ripe? id task := by
  have hcourse : s.world.courses.get? id = t.world.courses.get? id := h.course
  rw [ripe?, ripe?, hcourse, h.efforts]

/-- A move that begins no round with a gap launches the same in both. -/
theorem launches (h : s.Alike t id)
    (hs : s.world.Tracked { registry, settings, listening } fun _ _ => True)
    (ht : t.world.Tracked { registry, settings := settings.withStrict false, listening }
      fun _ _ => True) {m : Move}
    (hgap : ∀ now, m = .step id now → ∀ c j pending, ¬ s.world.AtGap id c j pending) :
    Workshop.launches id s.world m = Workshop.launches id t.world m := by
  by_cases hown : ∃ now c, m = .step id now ∧ s.world.courses.get? id = some c
  · obtain ⟨now, c, rfl, hc⟩ := hown
    rw [launches_step hc, launches_step (h.course.symm.trans hc),
      h.world.launched_withStrict hs ht hc (hgap now rfl c) now]
  · have hnone : ∀ now, m = .step id now → s.world.courses.get? id = none := fun now he =>
      Option.eq_none_iff_forall_ne_some.2 fun c hc => hown ⟨now, c, he, hc⟩
    rw [launches_eq_nil hnone, launches_eq_nil fun now he => h.course.symm.trans (hnone now he)]

/-- **A deed that begins no round with a gap does the same in both.** -/
theorem act (h : s.Alike t id)
    (hs : s.world.Tracked { registry, settings, listening } fun _ _ => True)
    (ht : t.world.Tracked { registry, settings := settings.withStrict false, listening }
      fun _ _ => True)
    {d : Deed}
    (hgap : ∀ now, d = .move (.step id now) → ∀ c j pending, ¬ s.world.AtGap id c j pending) :
    (s.act id d).Alike (t.act id d) id := by
  have hwork : ∀ g task, Alike { s with efforts := alter task g s.efforts }
      { t with efforts := alter task g t.efforts } id := fun g task =>
    ⟨h.world, h.workflows, congrArg (alter task g) h.efforts, h.done⟩
  cases d with
  | begin task => exact hwork Effort.begin task
  | finish task e => exact hwork (Effort.conclude (some e)) task
  | expire task => exact hwork Effort.expire task
  | take task now =>
    rw [Workshop.act, Workshop.act, ← h.ripe task]
    cases s.ripe? id task with
    | none => exact h
    | some y =>
      exact ⟨h.world.act_withStrict hs ht h.workflows _ fun _ he => Move.noConfusion he,
        hs.workflows_congr ht h.workflows _, congrArg (List.eraseP _) h.efforts,
        congrArg (· ++ [y.1]) h.done⟩
  | move m =>
    by_cases hm : ∃ task e now, m = .deliver id task e now
    · obtain ⟨task, e, now, rfl⟩ := hm
      rw [Workshop.act, Workshop.act, if_pos rfl, if_pos rfl]
      exact h
    · have hm : ∀ task e now, m ≠ .deliver id task e now := fun task e now he =>
        hm ⟨task, e, now, he⟩
      have hgap : ∀ now, m = .step id now → ∀ c j pending, ¬ s.world.AtGap id c j pending :=
        fun now he => hgap now (congrArg Deed.move he)
      rw [act_move hm, act_move hm]
      exact ⟨h.world.act_withStrict hs ht h.workflows m hgap, hs.workflows_congr ht h.workflows m,
        congrArg₂ (· ++ ·) h.efforts (h.launches hs ht hgap), h.done⟩

/-- **So do all deeds of which none begins a round with a gap.** -/
theorem play (h : s.Alike t id)
    (hs : s.world.Tracked { registry, settings, listening } fun _ _ => True)
    (ht : t.world.Tracked { registry, settings := settings.withStrict false, listening }
      fun _ _ => True)
    {deeds : List Deed}
    (hclear : Clear id s deeds) : (s.play id deeds).Alike (t.play id deeds) id := by
  induction deeds generalizing s t with
  | nil => exact h
  | cons d ds ih =>
    exact ih (h.act hs ht fun now he => hclear [] now ds (by rw [he]; rfl)) (tracked_act hs d)
      (tracked_act ht d) hclear.tail

/-- A gap of the one is a gap of the other. -/
theorem atGap (h : s.Alike t id) {c : Course} {j : Job} {pending : List Task}
    (hgap : s.world.AtGap id c j pending) : t.world.AtGap id c j pending where
  course := h.course.symm.trans hgap.course
  stage := hgap.stage
  job := h.world.orchestrator.job.symm.trans hgap.job
  running := hgap.running
  gap := hgap.gap

end Alike

section

variable (registry : Registry) (settings : EngineSettings) (listening : Bool) (id : String)

/-- The workshop that some deeds lead to, with strict references or without. -/
def under (strict : Bool) (deeds : List Deed) : Workshop :=
  (initial registry (settings.withStrict strict) listening).play id deeds

/-- Runs that begin no round with a gap are alike throughout. -/
theorem alike_of_clear {deeds pre : List Deed}
    (h : Clear id (under registry settings listening id true []) deeds) (hpre : pre <+: deeds) :
    (under registry settings listening id true pre).Alike
      (under registry settings listening id false pre) id := by
  have hinitial : (under registry settings listening id true []).Alike
      (under registry settings listening id false []) id :=
    ⟨⟨⟨rfl, rfl, rfl, rfl, rfl⟩, rfl⟩, rfl, rfl, rfl⟩
  exact hinitial.play
    (World.tracked_initial registry (settings.withStrict true) listening fun _ _ => True)
    (World.tracked_initial registry (settings.withStrict false) listening fun _ _ => True)
    (h.of_prefix hpre)

/-- **The runs divide at a round with a gap.**  The workshop `s` has the job `j` and the course
`c` before the round, and `after` the step that begins it come deeds that lead to `t` with
strict references and to `t'` without.  In `t` the round is refused for the first of its
ready tasks that is hindered, and the job has failed for good, unless it was stopped before
two more steps of its run.  In `t'`, whatever has come of it, the attempts are those at what
was started, and each task that was started in the round is a ready one with the values that
its references had when the round began, and null for its gaps. -/
structure Divided (s : Workshop) (id : String) (c : Course) (j : Job) (pending : List Task)
    (after : List Deed) (t t' : Workshop) : Prop where
  refused : ∃ l u r e, j.readyOf pending = l ++ u :: r ∧
    (∀ v ∈ l, v.IsFit s.world.orchestrator id j.scope) ∧
    u.Hindered s.world.orchestrator id j.scope e ∧
    Refused s id c j (j.readyOf pending) u e after t
  failed : ∀ pre post, after = pre ++ post → Unstopped id pre → 2 ≤ steps id pre →
    ∃ k, t.world.orchestrator.job? id = some k ∧ k.status = .failed
  filled : ∃ c', t'.course? id = some c' ∧
    (t'.tasks.map (·.prepared)).Perm (c'.started.map (·.2)) ∧
    ∀ p, (c.rounds + 1, p) ∈ c'.started → ∃ u ∈ j.readyOf pending,
      p.assignment = u.assignment id j.scope ∧ u.Filled j.scope p.assignment.parameters

/-- **Strict references matter at gaps only.**  Whatever is registered, started, stopped,
attempted and taken up, in any order, the run with strict references and the run without
are alike after each deed, if no round of the job begins with a gap.  Otherwise they are so
up to the first round that does, and there they divide. -/
theorem strict_at_gaps_only (deeds : List Deed) :
    (Clear id (under registry settings listening id true []) deeds ∧
      ∀ pre, pre <+: deeds → (under registry settings listening id true pre).Alike
        (under registry settings listening id false pre) id) ∨
    ∃ before now after c j pending, deeds = before ++ .move (.step id now) :: after ∧
      Clear id (under registry settings listening id true []) before ∧
      (∀ pre, pre <+: before → (under registry settings listening id true pre).Alike
        (under registry settings listening id false pre) id) ∧
      (under registry settings listening id true before).world.AtGap id c j pending ∧
      Divided (under registry settings listening id true before) id c j pending after
        (under registry settings listening id true deeds)
        (under registry settings listening id false deeds) := by
  rcases clear_or_first_gap id (under registry settings listening id true []) deeds with
    hclear | ⟨before, now, after, c, j, pending, rfl, hclear, hgap⟩
  · exact Or.inl ⟨hclear, fun pre => alike_of_clear registry settings listening id hclear⟩
  · have halike := fun pre => @alike_of_clear registry settings listening id before pre hclear
    have hrest : ∀ strict rest, under registry settings listening id strict (before ++ rest)
        = (under registry settings listening id strict before).play id rest :=
      fun _ rest => play_append id _ before rest
    obtain ⟨htracked, hmanned⟩ :=
      manned_of_play registry (settings.withStrict true) listening id before
    obtain ⟨htracked', hmanned'⟩ :=
      manned_of_play registry (settings.withStrict false) listening id before
    refine Or.inr ⟨before, now, after, c, j, pending, rfl, hclear, halike, hgap, ?_⟩
    rw [hrest, hrest]
    refine ⟨refused_of_gap htracked hmanned rfl hgap now after, ?_,
      filled_of_gap htracked' hmanned' ((halike before List.prefix_rfl).atGap hgap) now after⟩
    rintro pre post rfl hpre hsteps
    exact failed_of_gap htracked hmanned rfl hgap now hpre hsteps post

end

end Workshop

namespace Sample

/-- The second of two tasks refers to the whole result of the first one, to a part of it and
to a parameter of the job. -/
def patchy : Workflow :=
  { id := "patchy", name := "Patchy"
    tasks := [task "survey" [],
      { task "summary" ["survey"] with
        parameters := .ofList [("depth", .literal "2"), ("host", .reference "survey.host"),
          ("scope", .reference "job.scope"), ("whole", .reference "survey")] }] }

/-- The first task comes to null, and then its workers are at rest. -/
def vague : List Deed :=
  [.move (.register patchy),
    .move (.start "patchy" "job" (.ofList [("scope", .string "full")]) ⟨0⟩),
    .move (step 1), .move (step 1), .move (step 1),
    .begin "survey", .finish "survey" (.value .null), .take "survey" ⟨2⟩,
    .move (step 3), .move (step 3), .move (step 3), .move (step 3)]

/-- The result of the first task is null and no part of it has a value: without strict
references both are null for the second task. -/
example : ((Workshop.under (.ofList [worker]) {} true "job" false vague).course? "job").map
    (fun c => c.started.map fun x => (x.1, x.2.assignment.parameters.entries)) =
      some [(1, []), (2, [("depth", .string "2"), ("host", .null), ("scope", .string "full"),
        ("whole", .null)])] := rfl

/-- With strict references, the second task is not started. -/
example : ((Workshop.under (.ofList [worker]) {} true "job" true vague).course? "job").map
    (fun c => (c.started.map fun x => (x.1, x.2.name), c.run.stage)) =
      some ([(1, "survey")], .failing (.unresolvedReference "summary" "survey.host")) := rfl

end Sample
end Runbook
