/-
# The policy for partial failures

What becomes of a job whose tasks fail in part.  Over all graphs and all orders in which
attempts begin, end and are taken up, one rule decides (`Workshop.Policy`): the job fails
exactly if a task that is ready cannot be made ready for its worker, or an outcome is
taken up that is fatal by the definition of its task.  The first fatal outcome is the last
one that is taken up.  The run returns its error, and what the tasks still in flight come
to is never heard of (`FailsWith`).

The turns that lead there are in `Runbook.Proofs.Engine.Failure`; here they are carried
along the deeds of a workshop in which nobody stops the job (`kept_play`).
-/

import Runbook.Proofs.Engine.Failure
import Runbook.Proofs.Engine.Shows
import Runbook.Proofs.Engine.Workshop

namespace Runbook

namespace Run

variable {r : Run} {o : Orchestrator} {j : Job}

/-- The run that has taken up a fatal outcome records it and fails. -/
theorem step_recording (hj : o.job? r.jobId = some j) {oc : Outcome} {n : Nat}
    {pending : List Task} {e : ExecutionError} (hst : r.stage = .recording oc n pending)
    (hr : oc.result = .error e) (hp : oc.proceeds = false) (now : Instant) :
    (r.step o now).run = r.enter (.failing e) := by
  rw [Outcome.proceeds_of_error hr] at hp
  rw [step, isAwaiting, hst, if_neg Bool.false_ne_true, hj]
  dsimp only
  rw [stepOn, hst]
  dsimp only
  rw [recordOutcome, hr]
  dsimp only
  rw [hp, if_neg Bool.false_ne_true]

/-- The run that fails ends with its error. -/
theorem step_failing (hj : o.job? r.jobId = some j) {e : ExecutionError}
    (hst : r.stage = .failing e) (now : Instant) :
    (r.step o now).run = r.enter (.ended (.error e)) := by
  rw [step, isAwaiting, hst, if_neg Bool.false_ne_true, hj]
  dsimp only
  rw [stepOn, hst]

end Run

namespace Workshop

/-- None of the deeds stops the job. -/
def Unstopped (id : String) (deeds : List Deed) : Prop := ∀ now, .move (.stop id now) ∉ deeds

/-- A task of the job is ready, but cannot be made ready for its worker. -/
def Baffled (id : String) (s : Workshop) : Prop :=
  ∃ c j pending, s.course? id = some c ∧ s.world.orchestrator.job? id = some j ∧
    c.run.stage = .round pending ∧ ∃ t ∈ pending, t.isReady j.completedTasks ∧
      ∃ e, s.world.orchestrator.prepare id ⟨j.parameters, j.results⟩ t = .error e

/-- **The run fails with an outcome** that it has taken up after some others.  No other is
taken up: what attempts come to changes nothing in the world any more.  Its own steps
bring the run to its end, and then it has ended with the error of the outcome, and the job
has failed by it. -/
structure FailsWith (id : String) (s : Workshop) (before : List Outcome) (o : Outcome)
    (e : ExecutionError) : Prop where
  course : ∃ c, s.course? id = some c ∧ c.handled = before ++ [o] ∧
    (c.run.isOver → c.run.stage = .ended (.error e) ∧
      ∃ j, s.world.orchestrator.job? id = some j ∧ j.FailedBy before o e)
  siblings : ∀ d : Deed, (∀ m, d ≠ .move m) → (s.act id d).world = s.world
  returns : ∀ a b, ∃ c, (s.play id [.move (.step id a), .move (.step id b)]).course? id = some c ∧
    c.run.stage = .ended (.error e)

/-- **The policy for partial failures**, after some deeds have led from one workshop to
another.
* `verdict`: when the run is over, its job has failed exactly if a ready task could not be
  made ready for its worker or a fatal outcome was taken up.
* `first`: a fatal outcome is the last one taken up and no other was fatal before; the run
  fails with it whatever deeds follow, and nothing changes for the job or is told of it
  once the run is over.
* `panic`: what a panicking attempt comes to is fatal.
* `continued`: a task with a failure that is continued has failed and is completed.
* `dispatched`: between two rounds, a task whose dependencies are completed and that was
  not started before is among the tasks of the next round.
* `whole`: unless the job has failed, all of its tasks were started. -/
structure Policy (start : Workshop) (id : String) (deeds : List Deed) (c : Course) (j : Job) :
    Prop where
  verdict : c.run.isOver → (j.status = .failed ↔
    (∃ pre post, deeds = pre ++ post ∧ (start.play id pre).Baffled id) ∨
      ∃ o ∈ c.handled, o.IsFatal c.workflow)
  first : ∀ before o after, c.handled = before ++ o :: after → o.IsFatal c.workflow →
    after = [] ∧ (∀ x ∈ before, ¬ x.IsFatal c.workflow) ∧
      ∃ e, o.result = .error e ∧ ∀ more, Unstopped id more →
        (start.play id (deeds ++ more)).FailsWith id before o e ∧
        (c.run.isOver →
          (start.play id (deeds ++ more)).world.orchestrator.job? id = some j ∧
          ((start.play id deeds).world.orchestrator.listening →
            (start.play id (deeds ++ more)).world.orchestrator.told id
              = (start.play id deeds).world.orchestrator.told id))
  panic : ∀ x ∈ c.taken, ∀ text, x.2 = some (.panic text) →
    (x.1.outcomeOf x.2).IsFatal c.workflow
  continued : ∀ o ∈ c.handled, o.IsContinued c.workflow →
    (∀ n pending, c.run.stage ≠ .recording o n pending) →
      o.task ∈ j.failedTasks ∧ o.task ∈ j.completedTasks
  dispatched : ∀ pending, c.run.stage = .round pending → ∀ t ∈ c.workflow.tasks,
    t.isReady j.completedTasks → t.name ∉ c.started.map (·.2.name) → ∀ now,
      ∃ c', ((start.play id deeds).act id (.move (.step id now))).course? id = some c' ∧
        ((∃ u e, c'.run.stage = .rejecting u e) ∨
          ∃ ps blocked, c'.run.stage = .starting ps 0 blocked ∧ ∃ p ∈ ps, p.name = t.name)
  whole : c.run.isOver → j.status ≠ .failed → ∀ t ∈ c.workflow.tasks,
    t.name ∈ c.started.map (·.2.name)

/-! ### Turns along deeds -/

variable {id : String} {env : Orchestrator} {s : Workshop} {x : Scene}

/-- The world is one in which this job is not stopped. -/
def Spares (env : Orchestrator) (id : String) (s : Workshop) : Prop :=
  s.world.Tracked env fun i _ => i ≠ id

/-- What the workshop shows of the job is reached without a stop. -/
structure Views (env : Orchestrator) (id : String) (s : Workshop) (x : Scene) : Prop where
  shows : s.world.Shows id x
  reached : Scene.Reached env (fun _ => False) x

/-- A job that has been started is viewed. -/
theorem Spares.exists_views (h : s.Spares env id) {c : Course} (hc : s.course? id = some c) :
    ∃ x, s.Views env id x ∧ x.course = c := by
  obtain ⟨-, j, told, hj, hreach, htold⟩ := h.scene id c hc
  exact ⟨⟨j, c, told⟩, ⟨⟨hc, hj, fun hl => htold (h.listening ▸ hl)⟩,
    hreach.mono fun _ ha => ha rfl⟩, rfl⟩

/-- Deeds that do not stop the job spare it. -/
theorem Spares.act (h : s.Spares env id) {d : Deed} (hd : ∀ now, d ≠ .move (.stop id now)) :
    (s.act id d).Spares env id := by
  rw [Spares]
  rcases world_act id s d with hsame | ⟨m, hm, hstop⟩
  · rw [hsame]
    exact h
  · rw [hm]
    refine World.Tracked.act h m fun jobId now he _ _ hid => ?_
    exact hd now (by rw [hstop jobId now he, he, hid])

theorem Spares.play (h : s.Spares env id) {deeds : List Deed} (hd : Unstopped id deeds) :
    (s.play id deeds).Spares env id := by
  induction deeds generalizing s with
  | nil => exact h
  | cons d ds ih =>
    exact ih (h.act fun now he => hd now (he ▸ List.mem_cons_self))
      fun now hin => hd now (List.mem_cons_of_mem d hin)

/-- **Such a deed is a turn of the job, or nothing.** -/
theorem Views.act (hx : s.Views env id x) (h : s.Spares env id) {d : Deed}
    (hd : ∀ now, d ≠ .move (.stop id now)) :
    ∃ x', (s.act id d).Views env id x' ∧ (x' = x ∨ Turn env x x') := by
  rcases world_act id s d with hsame | ⟨m, hm, hstop⟩
  · exact ⟨x, ⟨by rw [hsame]; exact hx.shows, hx.reached⟩, Or.inl rfl⟩
  · obtain ⟨x', hx', rfl | hturn | ⟨now, he, -⟩⟩ := World.Tracked.shows_act h hx.shows m
    · exact ⟨_, ⟨by rw [hm]; exact hx', hx.reached⟩, Or.inl rfl⟩
    · exact ⟨x', ⟨by rw [hm]; exact hx', hx.reached.turn hturn⟩, Or.inr hturn⟩
    · exact absurd (by rw [hstop id now he, he]) (hd now)

/-- **What every turn keeps, deeds that do not stop the job keep.** -/
theorem Views.kept_play {P : Scene → Prop}
    (hP : ∀ {x x'}, Scene.Reached env (fun _ => False) x → P x → Turn env x x' → P x')
    (hx : s.Views env id x) (h : s.Spares env id) (p : P x) {deeds : List Deed}
    (hd : Unstopped id deeds) : ∃ x', (s.play id deeds).Views env id x' ∧ P x' := by
  induction deeds generalizing s x with
  | nil => exact ⟨x, hx, p⟩
  | cons d ds ih =>
    have hfirst : ∀ now, d ≠ .move (.stop id now) := fun now he =>
      hd now (he ▸ List.mem_cons_self)
    obtain ⟨x', hx', hturn⟩ := hx.act h hfirst
    refine ih hx' (h.act hfirst) ?_ fun now hin => hd now (List.mem_cons_of_mem d hin)
    rcases hturn with rfl | hturn
    · exact p
    · exact hP hx.reached p hturn

/-- Two views of one job have the same course. -/
theorem Views.course_eq {x' : Scene} (hx : s.Views env id x) (hx' : s.Views env id x') :
    x.course = x'.course :=
  Option.some.inj (hx.shows.course.symm.trans hx'.shows.course)

/-- Where a workshop is baffled, so is what it shows of the job. -/
theorem Views.baffled_iff (hx : s.Views env id x) (h : s.Spares env id) :
    s.Baffled id ↔ x.Baffled env := by
  have hid : x.id = id := (h.scene id x.course hx.shows.course).1
  have hprepare : ∀ scope t, s.world.orchestrator.prepare id scope t = env.prepare x.id scope t :=
    fun scope t => hid ▸ Orchestrator.prepare_congr h.registry
      (congrArg EngineSettings.withoutReport h.settings) id scope t
  constructor
  · rintro ⟨c, j, pending, hc, hj, hst, t, ht, hready, e, herr⟩
    cases hc.symm.trans hx.shows.course
    cases hj.symm.trans hx.shows.job
    exact ⟨pending, hst, t, ht, hready, e, (hprepare _ t).symm.trans herr⟩
  · rintro ⟨pending, hst, t, ht, hready, e, herr⟩
    exact ⟨x.course, x.job, pending, hx.shows.course, hx.shows.job, hst, t, ht, hready, e,
      (hprepare _ t).trans herr⟩

/-- A run that has just been started has met no error. -/
theorem Views.not_refused_of_start (hx : s.Views env id x) {d : Deed} {t : Workshop}
    (ht : t.act id d = s) (hn : t.course? id = none) : ¬ x.Refused := by
  have hfresh : ∀ w pending, x.course = { workflow := w, run := ⟨id, .round pending⟩ } →
      ¬ x.Refused := fun w pending hc hr => by
    rw [Scene.Refused, Scene.stage, hc] at hr
    rcases hr with hr | ⟨hr, -⟩ <;> exact hr rfl
  have hsome := hx.shows.course
  rw [← ht] at hsome
  rcases world_act id t d with hsame | ⟨m, hm, -⟩
  · rw [hsame] at hsome
    cases hn.symm.trans hsome
  · rw [hm] at hsome
    rcases World.courses_act (fun _ _ => hn) (fun _ _ _ _ => hn) (m := m) with
      hsame | ⟨-, w, pending, hstart⟩
    · cases (hsame.trans hn).symm.trans hsome
    · exact hfresh w pending (Option.some.inj (hsome.symm.trans hstart))

/-- **A run that has met an error for which no outcome is to blame was baffled.** -/
theorem exists_baffled (h : s.Spares env id) {deeds : List Deed} (hd : Unstopped id deeds)
    (hs : ∀ y, s.Views env id y → ¬ y.Refused) (hx : (s.play id deeds).Views env id x)
    (hr : x.Refused) : ∃ pre post, deeds = pre ++ post ∧ (s.play id pre).Baffled id := by
  induction deeds generalizing s with
  | nil => exact absurd hr (hs x hx)
  | cons d ds ih =>
    have hfirst : ∀ now, d ≠ .move (.stop id now) := fun now he =>
      hd now (he ▸ List.mem_cons_self)
    by_cases hnext : ∀ y, (s.act id d).Views env id y → ¬ y.Refused
    · obtain ⟨pre, post, rfl, hb⟩ :=
        ih (h.act hfirst) (fun now hin => hd now (List.mem_cons_of_mem d hin)) hnext hx
      exact ⟨d :: pre, post, rfl, hb⟩
    · -- With the first deed the run has met the error.
      push Not at hnext
      obtain ⟨y', hy', hr'⟩ := hnext
      cases hc : s.course? id with
      | none => exact absurd hr' (hy'.not_refused_of_start rfl hc)
      | some c =>
        obtain ⟨y, hy, -⟩ := h.exists_views hc
        obtain ⟨z, hz, hturn⟩ := hy.act h hfirst
        have hrz : z.Refused := by
          rw [Scene.Refused, Scene.stage, Scene.ends, hz.course_eq hy']
          exact hr'
        rcases hturn with rfl | hturn
        · exact absurd hrz (hs _ hy)
        · have hrests : Scene.Reached env (fun r => r.isAwaiting) y :=
            hy.reached.mono fun _ ha => ha.elim
          obtain ⟨outs, hk⟩ := hrests.kept
          rcases hrz.of_turn hrests.sound hrests.timed hk hturn with hwas | hb
          · exact absurd hwas (hs y hy)
          · exact ⟨[], d :: ds, rfl, (hy.baffled_iff h).2 hb⟩

/-! ### Failing with an outcome -/

/-- Where the run takes no outcomes, only moves change the world. -/
theorem world_act_of_not_takes {c : Course} (hc : s.course? id = some c)
    (hn : c.run.stage.takesOutcomes = false) {d : Deed} (hd : ∀ m, d ≠ .move m) :
    (s.act id d).world = s.world := by
  cases d with
  | move m => exact absurd rfl (hd m)
  | begin task | finish task e | expire task => rfl
  | take task now =>
    cases hripe : s.ripe? id task with
    | none => rw [act, hripe]
    | some y =>
      obtain ⟨c', p, hc', hp, -⟩ := of_ripe? hripe
      cases hc.symm.trans hc'
      rw [Course.awaited?, hn, if_neg Bool.false_ne_true] at hp
      cases hp

variable {before : List Outcome} {o : Outcome} {e : ExecutionError}

/-- A struck run takes no outcomes. -/
theorem not_takes_of_struck (h : x.Struck before o e) : x.stage.takesOutcomes = false := by
  rcases h.stage with ⟨n, pending, hst⟩ | hfate
  · rw [hst]
    rfl
  · cases hst : x.stage with
    | waiting n pending => rw [hst] at hfate; cases hfate
    | awaitingReport => rw [hst] at hfate; cases hfate
    | _ => rfl

/-- A step of a struck run brings it nearer to its end with the error. -/
theorem Views.step_of_struck (hx : s.Views env id x) (h : s.Spares env id)
    (hs : x.Struck before o e) (now : Instant) :
    ∃ x', (s.act id (.move (.step id now))).Views env id x' ∧ x'.Struck before o e ∧
      x'.stage.fate? = some e ∧ (x.stage.fate? = some e → x'.stage = .ended (.error e)) := by
  have hc : s.course? id = some x.course := hx.shows.course
  have hj : s.world.orchestrator.job? x.course.run.jobId = some x.job :=
    (h.scene id x.course hc).1 ▸ hx.shows.job
  have hfirst : ∀ jobNow, Deed.move (.step id now) ≠ .move (.stop id jobNow) := nofun
  obtain ⟨x', hx', hturn⟩ := hx.act h hfirst
  have hrests : Scene.Reached env (fun r => r.isAwaiting) x := hx.reached.mono fun _ ha => ha.elim
  have hstruck : x'.Struck before o e := by
    rcases hturn with rfl | hturn
    · exact hs
    · exact hs.turn hrests.timed hturn
  have hrun : x'.course.run = (x.course.run.step s.world.orchestrator now).run := by
    rw [Option.some.inj (hx'.shows.course.symm.trans (course?_step hc now)), Course.follow]
    split <;> rfl
  refine ⟨x', hx', hstruck, ?_⟩
  rw [Scene.stage, hrun]
  rcases hs.stage with ⟨n, pending, hst⟩ | hfate
  · rw [Run.step_recording hj hst hs.result hs.strikes]
    exact ⟨rfl, fun hf => by rw [hst] at hf; cases hf⟩
  · have hend : (x.course.run.step s.world.orchestrator now).run.stage = .ended (.error e) := by
      cases hst : x.stage with
      | failing e' =>
        rw [hst] at hfate
        cases hfate
        rw [Run.step_failing hj hst]
        rfl
      | ended result =>
        rw [hst] at hfate
        have hw : x.course.run.isAwaiting = true := by
          rw [Run.isAwaiting, show x.course.run.stage = .ended result from hst]
        rw [Run.step, hw, if_pos rfl]
        cases result with
        | ok j => cases hfate
        | error e' => cases hfate; exact hst
      | _ => rw [hst] at hfate; cases hfate
    rw [hend]
    exact ⟨rfl, fun _ => rfl⟩

/-- **A struck run fails with its outcome.** -/
theorem Views.failsWith (hx : s.Views env id x) (h : s.Spares env id)
    (hs : x.Struck before o e) : s.FailsWith id before o e where
  course := by
    have hrests : Scene.Reached env (fun r => r.isAwaiting) x :=
      hx.reached.mono fun _ ha => ha.elim
    obtain ⟨outs, hk⟩ := hrests.kept
    refine ⟨x.course, hx.shows.course, hs.ends, fun hover => ?_⟩
    obtain ⟨hend, hfailed⟩ := hs.failed hrests.timed hk hover
    exact ⟨hend, x.job, hx.shows.job, hfailed⟩
  siblings := fun _ hd => world_act_of_not_takes hx.shows.course (not_takes_of_struck hs) hd
  returns := fun a b => by
    obtain ⟨y, hy, hsy, hfate, -⟩ := hx.step_of_struck h hs a
    obtain ⟨z, hz, -, -, hend⟩ := hy.step_of_struck (h.act nofun) hsy b
    exact ⟨z.course, hz.shows.course, hend hfate⟩

/-! ### Dependents -/

/-- **A task whose dependencies are completed is among the tasks of the next round.** -/
theorem Views.dispatched (hx : s.Views env id x) (h : s.Spares env id) {pending : List Task}
    (stage : x.stage = .round pending) {t : Task} (ht : t ∈ x.workflow.tasks)
    (ready : t.isReady x.job.completedTasks) (new : t.name ∉ x.begunNames) (now : Instant) :
    ∃ c', (s.act id (.move (.step id now))).course? id = some c' ∧
      ((∃ u e, c'.run.stage = .rejecting u e) ∨
        ∃ ps blocked, c'.run.stage = .starting ps 0 blocked ∧ ∃ p ∈ ps, p.name = t.name) := by
  have hrests : Scene.Reached env (fun r => r.isAwaiting) x := hx.reached.mono fun _ ha => ha.elim
  have hs := hrests.sound
  have hway := hs.underWay pending (by rw [stage]; rfl)
  obtain ⟨-, hstarted, -⟩ := hway.between (by rw [stage]; rfl)
  have hpending : t ∈ pending := by
    rw [hway.pending]
    refine Workflow.mem_above.2 ⟨ht, Nat.lt_of_not_le fun hle => new ?_⟩
    rw [Scene.begunNames, hstarted]
    exact List.mem_map_of_mem (hs.wellFormed.mem_schedule_of_depth ht hle)
  have hsplit := Scene.mem_split.2 ⟨hpending, ready⟩
  have hc : s.course? id = some x.course := hx.shows.course
  obtain ⟨x', hx', rfl | hturn⟩ := hx.act h (d := .move (.step id now)) fun _ he => by cases he
  · -- The step of a run between two rounds changes it.
    have hcourse := Option.some.inj (hx'.shows.course.symm.trans (course?_step hc now))
    have hwaits : x'.course.run.isAwaiting = false := by
      rw [Run.isAwaiting, show x'.course.run.stage = .round pending from stage]
    have hlt := Course.weight_follow_lt hwaits s.world.orchestrator now
    rw [← hcourse] at hlt
    exact absurd hlt (Nat.lt_irrefl _)
  · refine ⟨x'.course, hx'.shows.course, ?_⟩
    have running := hrests.timed.running stage fun ha => ha
    rcases hturn.of_round stage running with rfl | hnone | ⟨u, e, -, rfl⟩ | ⟨ps, hps, rfl⟩
    · exact absurd hpending List.not_mem_nil
    · rw [hnone] at hsplit
      exact absurd hsplit List.not_mem_nil
    · exact Or.inl ⟨u, e, rfl⟩
    · obtain ⟨p, hp, hprepared⟩ := Orchestrator.exists_prepare_of_prepareAll hps hsplit
      exact Or.inr ⟨ps, _, rfl, p, hp, (Orchestrator.standsFor_of_prepare hprepared).name⟩

/-! ### The policy -/

/-- Nothing happens any more to a job whose run is over. -/
theorem Views.play_of_over (hx : s.Views env id x) (h : s.Spares env id)
    (hover : x.course.run.isOver) {more : List Deed} (hm : Unstopped id more) :
    (s.play id more).Views env id x := by
  obtain ⟨y, hy, rfl⟩ := hx.kept_play (P := fun y => y = x)
    (fun _ he ht => by
      subst he
      rw [ht.not_isOver] at hover
      cases hover) h rfl hm
  exact hy

/-- **Why a job fails that nobody stops.** -/
theorem failed_iff {start : Workshop} {deeds : List Deed} (h : start.Spares env id)
    (hn : start.course? id = none) (hd : Unstopped id deeds)
    (hx : (start.play id deeds).Views env id x) (hover : x.course.run.isOver) :
    x.job.status = .failed ↔
      (∃ pre post, deeds = pre ++ post ∧ (start.play id pre).Baffled id) ∨
        ∃ o ∈ x.ends, o.proceeds = false := by
  have hrests : Scene.Reached env (fun r => r.isAwaiting) x := hx.reached.mono fun _ ha => ha.elim
  obtain ⟨outs, hk⟩ := hrests.kept
  rw [hrests.timed.failed_iff hover]
  constructor
  · rintro ⟨e, hend⟩
    by_cases hall : ∀ o ∈ x.ends, o.proceeds
    · refine Or.inl (exists_baffled h hd (fun y hy => ?_) hx
        (Or.inr ⟨by rw [hend]; exact nofun, hall⟩))
      cases hn.symm.trans hy.shows.course
    · push Not at hall
      obtain ⟨o, ho, hnot⟩ := hall
      exact Or.inr ⟨o, ho, Bool.eq_false_iff.2 hnot⟩
  · rintro (⟨pre, post, rfl, hb⟩ | ⟨o, ho, hnot⟩)
    · have hpre : Unstopped id pre := fun now hin => hd now (List.mem_append_left _ hin)
      have hpost : Unstopped id post := fun now hin => hd now (List.mem_append_right _ hin)
      have hspares := h.play hpre
      obtain ⟨c, hc⟩ : ∃ c, (start.play id pre).course? id = some c := by
        obtain ⟨c, -, -, hc, -⟩ := hb
        exact ⟨c, hc⟩
      obtain ⟨y, hy, -⟩ := hspares.exists_views hc
      obtain ⟨z, hz, hlost⟩ := hy.kept_play (P := Scene.Lost env)
        (fun hr hl ht => hl.turn (hr.mono fun _ ha => ha.elim).timed ht) hspares
        (Or.inl ((hy.baffled_iff hspares).1 hb)) hpost
      rw [play_append] at hx
      rw [hx.course_eq hz] at hover
      rw [Scene.stage, hx.course_eq hz]
      exact hlost.ended hover
    · obtain ⟨before, after, hends⟩ := List.append_of_mem ho
      obtain ⟨-, e, hs⟩ := hk.struck hends hnot
      exact ⟨e, (hs.failed hrests.timed hk hover).1⟩

/-- **Partial failures are handled by one rule.**  Whatever has been registered, loaded,
started and answered, in any order, with other jobs stopped at will: as long as nobody
stops the job, its run keeps to the policy. -/
theorem keeps_policy (registry : Registry) (settings : EngineSettings) (listening : Bool)
    (id : String) (deeds : List Deed) (unstopped : Unstopped id deeds) (c : Course)
    (hc : ((initial registry settings listening).play id deeds).course? id = some c) :
    ∃ j, ((initial registry settings listening).play id deeds).world.orchestrator.job? id = some j ∧
      Policy (initial registry settings listening) id deeds c j := by
  have hstart : (initial registry settings listening).Spares { registry, settings, listening } id :=
    World.tracked_initial registry settings listening _
  have hspares := hstart.play unstopped
  obtain ⟨x, hx, rfl⟩ := hspares.exists_views hc
  have hrests : Scene.Reached { registry, settings, listening } (fun r => r.isAwaiting) x :=
    hx.reached.mono fun _ ha => ha.elim
  obtain ⟨outs, hk⟩ := hrests.kept
  have hs := hrests.sound
  have ht := hrests.timed
  have hdescended := hrests.descended
  have hfatal : ∀ o ∈ x.ends, o.IsFatal x.workflow ↔ o.proceeds = false :=
    fun o ho => hs.isFatal_iff hdescended ho
  refine ⟨x.job, hx.shows.job, fun hover => ?_, fun before o after hends hf => ?_,
    fun y hy text hpanic => ?_, fun o ho hcontinued hn => ?_, fun pending stage t htask => ?_,
    fun hover hf t htask => ?_⟩
  · rw [failed_iff hstart rfl unstopped hx hover]
    exact or_congr_right (exists_congr fun o => and_congr_right fun ho => (hfatal o ho).symm)
  · have hmem : o ∈ x.ends := by
      rw [show x.ends = before ++ o :: after from hends]
      exact List.mem_append_right _ List.mem_cons_self
    obtain ⟨hnil, e, hstruck⟩ := hk.struck hends ((hfatal o hmem).1 hf)
    refine ⟨hnil, fun y hy hfy => ?_, e, hstruck.result, fun more hmore => ?_⟩
    · have hin : y ∈ x.ends := by
        rw [hstruck.ends]
        exact List.mem_append_left _ hy
      have hgo := hstruck.proceeds y hy
      rw [(hfatal y hin).1 hfy] at hgo
      cases hgo
    · rw [play_append]
      obtain ⟨z, hz, hsz⟩ := hx.kept_play (P := fun y => y.Struck before o e)
        (fun hr hsy hturn => hsy.turn (hr.mono fun _ ha => ha.elim).timed hturn) hspares hstruck
        hmore
      refine ⟨hz.failsWith (hspares.play hmore) hsz, fun hover => ?_⟩
      have hlast := hx.play_of_over hspares hover hmore
      refine ⟨hlast.shows.job, fun hl => ?_⟩
      have hl' := (hspares.play hmore).listening.trans (hspares.listening.symm.trans hl)
      rw [hlast.shows.told hl', hx.shows.told hl]
  · have hin : y.1.outcomeOf y.2 ∈ x.ends := List.mem_map_of_mem hy
    rw [hpanic] at hin ⊢
    exact (hfatal _ hin).2 rfl
  · have hover := (hs.isContinued_iff hdescended ho).1 hcontinued
    exact hk.completed_of_overcome (hk.mem_outs ho hn) hover
  · intro hready hnew now
    refine hx.dispatched hspares stage htask hready ?_ now
    rw [Scene.begunNames, Scene.started, List.map_map]
    exact hnew
  · have hstarted :=
      hs.started_of_completed (ht.completed hx.reached.not_stopped hover hf) htask
    rw [Scene.begunNames, Scene.started, List.map_map] at hstarted
    exact hstarted

end Workshop

namespace Sample

/-- Two tasks are in flight.  The one that may fail does so, then the other one panics. -/
def mishap : List Deed :=
  [.move (.register workflow), .move (.start "sample" "job" .empty ⟨0⟩), .move (step 1),
    .move (step 1), .move (step 1), .move (step 1), .begin "survey", .begin "probe",
    .finish "probe" (.error (.failed "no signal")), .take "probe" ⟨2⟩, .move (step 2),
    .finish "survey" (.panic "lost"), .take "survey" ⟨3⟩, .move (step 3), .move (step 3)]

/-- The workshop before that. -/
def empty : Workshop := .initial (.ofList [worker]) {} true

end Sample

namespace Workshop

/-- In the sample, the job fails by the panic and not by the failure before it. -/
theorem keeps_policy_sample :
    ∃ c j, (Sample.empty.play "job" Sample.mishap).course? "job" = some c ∧
      (Sample.empty.play "job" Sample.mishap).world.orchestrator.job? "job" = some j ∧
      c.run.isOver ∧ j.status = .failed ∧ "probe" ∈ j.completedTasks ∧
      Policy Sample.empty "job" Sample.mishap c j := by
  have hover : ((Sample.empty.play "job" Sample.mishap).course? "job").map (·.run.isOver)
      = some true := rfl
  have hstatus : ((Sample.empty.play "job" Sample.mishap).world.orchestrator.job? "job").map
      (fun j => (j.status, j.completedTasks.names)) = some (.failed, ["probe"]) := rfl
  have hunstopped : Unstopped "job" Sample.mishap := fun now hin => by
    simp [Sample.mishap, Sample.step] at hin
  obtain ⟨c, hc, hdone⟩ := Option.map_eq_some_iff.1 hover
  obtain ⟨j, hj, hpolicy⟩ :=
    keeps_policy (.ofList [Sample.worker]) {} true "job" Sample.mishap hunstopped c hc
  obtain ⟨k, hk, hfailed⟩ := Option.map_eq_some_iff.1 hstatus
  cases hj.symm.trans hk
  obtain ⟨hstatus, hnames⟩ := Prod.mk.inj hfailed
  refine ⟨c, j, hc, hj, hdone, hstatus, ?_, hpolicy⟩
  show "probe" ∈ j.completedTasks.names
  rw [hnames]
  exact List.mem_singleton_self _

end Workshop
end Runbook
