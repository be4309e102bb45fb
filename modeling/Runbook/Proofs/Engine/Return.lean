/-
# Every run ends

However workers behave, whether their attempts hang, fail, panic or flap, the run of a
job ends if attempts are cut off at their limits.  Two things make sure of that.  What
is still to do for a job has a measure that no deed enlarges and every deed that stirs
the job makes smaller: first the weight of the run, then what can still be done about
the attempts (`act_weight`).  And as long as the run is not over, something stirs the
job that is not up to its workers (`exists_stirs`): a step, the beginning of an attempt
that is due, the end of one at its limit, or the taking up of what one came to.

So a schedule that does not idle forever while there is such a deed (`Tireless`) brings
the run to its end (`every_run_ends`).  Nothing is asked of the workers.
-/

import Mathlib.Data.Prod.Lex
import Runbook.Execution
import Runbook.Proofs.Engine.Calls

namespace Runbook

/-- A run that is not over makes a step or waits for outcomes. -/
theorem Run.takesOutcomes_of_isAwaiting {r : Run} (h : r.isAwaiting) (hover : r.isOver = false) :
    r.stage.takesOutcomes := by
  obtain ⟨jobId, stage⟩ := r
  cases stage with
  | waiting n pending =>
    cases n with
    | zero => cases h
    | succ n => rfl
  | awaitingReport => rfl
  | ended result => cases hover
  | panicked message => cases hover
  | _ => cases h

/-- A run that takes outcomes waits, and there is something to do for it. -/
theorem Run.weight_pos_of_takesOutcomes {r : Run} (h : r.stage.takesOutcomes) :
    r.isAwaiting ∧ 0 < r.weight := by
  rw [isAwaiting, weight]
  rcases Stage.of_takesOutcomes h with ⟨n, pending, hst⟩ | hst <;> rw [hst]
  · exact ⟨rfl, by dsimp only; omega⟩
  · exact ⟨rfl, Nat.succ_pos 1⟩

/-- A step of a run that waits or is over does not change its course. -/
theorem Course.follow_of_isAwaiting {c : Course} (h : c.run.isAwaiting) (o : Orchestrator)
    (now : Instant) : c.follow (c.run.step o now) = c := by
  have hb : c.run.stage.beginsRound c.run.stage = false := by cases c.run.stage <;> rfl
  rw [Run.step, h, if_pos rfl, Course.follow]
  dsimp only
  rw [hb]
  rfl

/-- A delivery that the run awaits makes it lighter. -/
theorem Course.weight_receive_lt {c : Course} {task : String} {p : Prepared}
    (h : c.awaited? task = some p) (o : Orchestrator) (e : Option AttemptEnd) (now : Instant) :
    (c.receive p e (c.run.deliver o (p.outcomeOf e) now).2).run.weight < c.run.weight := by
  rw [awaited?] at h
  split at h
  · rename_i takes
    obtain ⟨hwaits, hpos⟩ := Run.weight_pos_of_takesOutcomes takes
    exact Run.weight_deliver_lt o _ now hwaits hpos
  · cases h

namespace Workshop

variable {id : String} {env : Orchestrator} {s : Workshop} {c : Course}

/-- What can still be done about some efforts. -/
def rest (as : List Effort) : ℕ := (as.map Effort.rest).sum

/-- What a change to one effort makes of what can be done about all. -/
theorem rest_alter {g : Effort → Effort} (hg : ∀ a : Effort, a.Leads (g a)) (task : String)
    (as : List Effort) : alter task g as = as ∨ rest (alter task g as) < rest as := by
  induction as with
  | nil => exact Or.inl rfl
  | cons a as ih =>
    rw [alter]
    split
    · rcases (hg a).rest with he | hlt
      · exact Or.inl (by rw [he])
      · exact Or.inr (Nat.add_lt_add_right hlt _)
    · rcases ih with he | hlt
      · exact Or.inl (by rw [he])
      · exact Or.inr (Nat.add_lt_add_left hlt _)

/-- **What a deed makes of what is still to do.**  Once a run has been started, it gets
lighter, or it stays as it is and less can be done about its efforts, or nothing
happens to it. -/
theorem act_weight (hc : s.course? id = some c) (d : Deed) :
    ∃ c', (s.act id d).course? id = some c' ∧
      (c'.run.weight < c.run.weight ∨ c' = c ∧
        ((s.act id d).efforts = s.efforts ∨ rest (s.act id d).efforts < rest s.efforts)) := by
  have hcourse : s.world.courses.get? id = some c := hc
  cases d with
  | begin task => exact ⟨c, hc, Or.inr ⟨rfl, rest_alter Effort.leads_begin task s.efforts⟩⟩
  | finish task e =>
    exact ⟨c, hc, Or.inr ⟨rfl, rest_alter (fun a => a.leads_conclude (some e)) task s.efforts⟩⟩
  | expire task => exact ⟨c, hc, Or.inr ⟨rfl, rest_alter Effort.leads_expire task s.efforts⟩⟩
  | take task now =>
    cases hripe : s.ripe? id task with
    | none =>
      rw [act, hripe]
      exact ⟨c, hc, Or.inr ⟨rfl, Or.inl rfl⟩⟩
    | some x =>
      obtain ⟨c₁, p, hc₁, hp, -, -⟩ := of_ripe? hripe
      cases hc.symm.trans hc₁
      exact ⟨_, course?_take hc hp hripe now, Or.inl (Course.weight_receive_lt hp _ _ now)⟩
  | move m =>
    by_cases hstep : ∃ now, m = .step id now
    · obtain ⟨now, rfl⟩ := hstep
      refine ⟨_, course?_step hc now, ?_⟩
      cases hw : c.run.isAwaiting with
      | false => exact Or.inl (Course.weight_follow_lt hw _ now)
      | true =>
        refine Or.inr ⟨Course.follow_of_isAwaiting hw _ now, Or.inl ?_⟩
        rw [act_step, launches_step hcourse, Run.step, hw, if_pos rfl]
        exact List.append_nil _
    · by_cases hdeliver : ∃ task e now, m = .deliver id task e now
      · obtain ⟨task, e, now, rfl⟩ := hdeliver
        rw [act, if_pos rfl]
        exact ⟨c, hc, Or.inr ⟨rfl, Or.inl rfl⟩⟩
      · have hstep : ∀ now, m = .step id now → s.world.courses.get? id = none :=
          fun now he => absurd ⟨now, he⟩ hstep
        have hdeliver : ∀ task e now, m ≠ .deliver id task e now :=
          fun task e now he => hdeliver ⟨task, e, now, he⟩
        rw [act_move hdeliver, launches_eq_nil hstep, List.append_nil]
        rcases World.courses_act hstep fun task e now he => absurd he (hdeliver task e now) with
          hsame | ⟨hnone, -⟩
        · exact ⟨c, hsame.trans hc, Or.inr ⟨rfl, Or.inl rfl⟩⟩
        · rw [hcourse] at hnone
          cases hnone

/-- A run that is over stays as it is. -/
theorem over_act (hc : s.course? id = some c) (hover : c.run.isOver) (d : Deed) :
    (s.act id d).course? id = some c := by
  obtain ⟨c', hc', hlt | ⟨rfl, -⟩⟩ := act_weight hc d
  · rw [Run.weight_of_isOver hover] at hlt
    exact absurd hlt (Nat.not_lt_zero _)
  · exact hc'

theorem over_play (hc : s.course? id = some c) (hover : c.run.isOver) (deeds : List Deed) :
    (s.play id deeds).course? id = some c := by
  induction deeds generalizing s with
  | nil => exact hc
  | cons d ds ih => exact ih (over_act hc hover d)

/-- **The deed stirs the job**: its course or its efforts are no longer what they were. -/
def Stirs (id : String) (s : Workshop) (d : Deed) : Prop :=
  (s.act id d).course? id ≠ s.course? id ∨ (s.act id d).efforts ≠ s.efforts

/-- What is still to do for a job. -/
def toil (c : Course) (as : List Effort) : ℕ ×ₗ ℕ := toLex (c.run.weight, rest as)

/-- A deed that stirs the job leaves less to do, any other as much. -/
theorem act_toil (hc : s.course? id = some c) (d : Deed) :
    ∃ c', (s.act id d).course? id = some c' ∧ toil c' (s.act id d).efforts ≤ toil c s.efforts ∧
      (s.Stirs id d ↔ toil c' (s.act id d).efforts < toil c s.efforts) := by
  obtain ⟨c', hc', hmade⟩ := act_weight hc d
  have hless : toil c' (s.act id d).efforts < toil c s.efforts ∨
      c' = c ∧ (s.act id d).efforts = s.efforts := by
    rcases hmade with hlt | ⟨rfl, he | hlt⟩
    · exact Or.inl (Prod.Lex.toLex_lt_toLex.2 (Or.inl hlt))
    · exact Or.inr ⟨rfl, he⟩
    · exact Or.inl (Prod.Lex.toLex_lt_toLex.2 (Or.inr ⟨rfl, hlt⟩))
  refine ⟨c', hc', ?_, fun hstirs => ?_, fun hlt => ?_⟩
  · rcases hless with hlt | ⟨rfl, he⟩
    · exact hlt.le
    · rw [he]
  · refine hless.resolve_right fun ⟨hsame, he⟩ => ?_
    rcases hstirs with hne | hne
    · exact hne (hc'.trans (hsame ▸ hc.symm))
    · exact hne he
  · by_contra hnot
    rw [Stirs, not_or, not_not, not_not] at hnot
    obtain ⟨hsame, he⟩ := hnot
    rw [hc', hc] at hsame
    rw [Option.some.inj hsame, he] at hlt
    exact lt_irrefl _ hlt

/-- Where the limits of tasks are kept, every effort has one. -/
theorem Serves.limited (h : s.Serves env c) (enforced : env.settings.enforceTimeouts) {j : Job}
    {told : List JobEvent} (hd : Scene.Descended env ⟨j, c, told⟩) {a : Effort}
    (ha : a ∈ s.efforts) : a.prepared.limitMs.isSome := by
  have hall : a ∈ s.all := List.mem_append_right _ ha
  cases hr : a.report with
  | true =>
    obtain ⟨worker, k, hp⟩ := h.report a (List.mem_filter.2 ⟨hall, beq_iff_eq.2 hr⟩)
    rw [hp, Orchestrator.prepareReport, if_pos enforced]
    rfl
  | false =>
    have htask : a ∈ s.tasks := List.mem_filter.2 ⟨hall, beq_iff_eq.2 hr⟩
    obtain ⟨x, hx, hp⟩ := List.mem_map.1 (h.tasks.mem_iff.1 (List.mem_map_of_mem htask))
    obtain ⟨t, -, hfrom⟩ := hd.started x hx
    rw [← hp, hfrom.limitMs, if_pos enforced]
    rfl

/-- What can be done about the first effort alone. -/
theorem rest_alter_head {a : Effort} {as : List Effort} {g : Effort → Effort}
    (h : (g a).rest < a.rest) : rest (alter a.name g (a :: as)) < rest (a :: as) := by
  rw [alter, beq_self_eq_true, if_pos rfl]
  exact Nat.add_lt_add_right h _

/-- **As long as the run is not over, something stirs the job that is not up to its
workers.** -/
theorem exists_stirs (hm : s.Manned env id) (ht : s.world.Tracked env fun _ _ => True)
    (enforced : env.settings.enforceTimeouts) (hc : s.course? id = some c)
    (hover : c.run.isOver = false) : ∃ d : Deed, d.isWorkers = false ∧ s.Stirs id d := by
  obtain ⟨-, j, told, -, hreach, -⟩ := ht.scene id c hc
  have hserves := hm.serves c hc
  have hcourse : s.world.courses.get? id = some c := hc
  have lighter : ∀ {d c'}, (s.act id d).course? id = some c' →
      c'.run.weight < c.run.weight → s.Stirs id d := fun {d c'} hc' hlt => by
    refine Or.inl fun hsame => ?_
    cases hc'.symm.trans (hsame.trans hc)
    exact lt_irrefl _ hlt
  have fewer : ∀ {d}, rest (s.act id d).efforts < rest s.efforts → s.Stirs id d :=
    fun {d} hlt => Or.inr fun hsame => lt_irrefl _ (hsame ▸ hlt)
  cases hw : c.run.isAwaiting with
  | false =>
    -- The run makes a step of its own.
    exact ⟨.move (.step id ⟨0⟩), rfl,
      lighter (course?_step hc ⟨0⟩) (Course.weight_follow_lt hw _ _)⟩
  | true =>
    -- The run waits, so something is in flight, and its first effort goes on.
    have takes := Run.takesOutcomes_of_isAwaiting hw hover
    have hflight : c.inFlight ≠ [] := by
      rcases Stage.of_takesOutcomes takes with ⟨n, pending, hst⟩ | hst
      · have hcount := (hreach.sound.underWay pending (by rw [Scene.stage, hst]; rfl)).count
        rw [Scene.stage, hst] at hcount
        exact List.ne_nil_of_length_pos (hcount ▸ Nat.succ_pos n)
      · exact hreach.closing.report hst
    have hflown := hserves.flight
    cases hefforts : s.efforts with
    | nil =>
      rw [hefforts] at hflown
      exact absurd hflown.symm hflight
    | cons a as =>
      have hfirst : a ∈ s.efforts := by rw [hefforts]; exact List.mem_cons_self
      cases hst : a.standing with
      | due =>
        refine ⟨.begin a.name, rfl, fewer ?_⟩
        rw [act, hefforts]
        exact rest_alter_head (Effort.rest_begin_lt hst)
      | underWay =>
        refine ⟨.expire a.name, rfl, fewer ?_⟩
        rw [act, hefforts]
        exact rest_alter_head
          (Effort.rest_expire_lt hst (hserves.limited enforced hreach.descended hfirst))
      | ended e =>
        have hp : c.awaited? a.name = some a.prepared := by
          rw [Course.awaited?, takes, if_pos rfl, ← hflown, hefforts, List.map_cons]
          exact List.find?_cons_of_pos (beq_self_eq_true a.prepared.name)
        have ha : s.efforts.find? (fun b => b.name == a.name) = some a := by
          rw [hefforts]
          exact List.find?_cons_of_pos (beq_self_eq_true a.name)
        exact ⟨.take a.name ⟨0⟩, rfl,
          lighter (course?_take hc hp (ripe?_eq hc hp ha hst) ⟨0⟩)
            (Course.weight_receive_lt hp _ _ _)⟩

/-! ### Schedules -/

/-- The workshop after the first deeds of a schedule. -/
def after (id : String) (s : Workshop) (σ : ℕ → Deed) : ℕ → Workshop
  | 0 => s
  | n + 1 => (after id s σ n).act id (σ n)

/-- **The schedule does not idle.**  Whenever there is a deed that stirs the job and is
not up to its workers, sooner or later some deed stirs it. -/
def Tireless (id : String) (s : Workshop) (σ : ℕ → Deed) : Prop :=
  ∀ n, (∃ d : Deed, d.isWorkers = false ∧ (s.after id σ n).Stirs id d) →
    ∃ m ≥ n, (s.after id σ m).Stirs id (σ m)

variable {σ : ℕ → Deed}

/-- Deeds keep a world tracked. -/
theorem tracked_after (ht : s.world.Tracked env fun _ _ => True) (n : ℕ) :
    (s.after id σ n).world.Tracked env fun _ _ => True := by
  induction n with
  | zero => exact ht
  | succ n ih => exact tracked_act ih (σ n)

/-- Deeds keep a workshop manned. -/
theorem manned_after (ht : s.world.Tracked env fun _ _ => True) (h : s.Manned env id) (n : ℕ) :
    (s.after id σ n).Manned env id := by
  induction n with
  | zero => exact h
  | succ n ih => exact ih.act (tracked_after ht n) (σ n)

/-- As time goes by, there is never more to do for a job that has been started. -/
theorem toil_after {n : ℕ} (hc : (s.after id σ n).course? id = some c) {m : ℕ} (h : n ≤ m) :
    ∃ c', (s.after id σ m).course? id = some c' ∧
      toil c' (s.after id σ m).efforts ≤ toil c (s.after id σ n).efforts := by
  induction m, h using Nat.le_induction with
  | base => exact ⟨c, hc, le_rfl⟩
  | succ m h ih =>
    obtain ⟨c', hc', hle⟩ := ih
    obtain ⟨c'', hc'', hle', -⟩ := act_toil hc' (σ m)
    exact ⟨c'', hc'', hle'.trans hle⟩

/-- A run that is over stays as it is. -/
theorem over_after {n : ℕ} (hc : (s.after id σ n).course? id = some c) (hover : c.run.isOver)
    {m : ℕ} (h : n ≤ m) : (s.after id σ m).course? id = some c := by
  induction m, h using Nat.le_induction with
  | base => exact hc
  | succ m h ih => exact over_act ih hover (σ m)

/-- **A tireless schedule brings the run to its end.** -/
theorem exists_over (ht : s.world.Tracked env fun _ _ => True) (hm : s.Manned env id)
    (enforced : env.settings.enforceTimeouts) (tireless : s.Tireless id σ) {n : ℕ}
    (hc : (s.after id σ n).course? id = some c) :
    ∃ N ≥ n, ∃ c', (s.after id σ N).course? id = some c' ∧ c'.run.isOver := by
  -- By induction on what is still to do: a deed that stirs the job comes, and leaves less.
  generalize hx : toil c (s.after id σ n).efforts = x
  induction x using WellFoundedLT.induction generalizing n c with
  | ind x ih =>
    cases hover : c.run.isOver with
    | true => exact ⟨n, le_rfl, c, hc, hover⟩
    | false =>
      obtain ⟨m, hnm, hstirs⟩ :=
        tireless n (exists_stirs (manned_after ht hm n) (tracked_after ht n) enforced hc hover)
      obtain ⟨c₁, hc₁, hle⟩ := toil_after hc hnm
      obtain ⟨c₂, hc₂, -, hiff⟩ := act_toil hc₁ (σ m)
      have hc₂ : (s.after id σ (m + 1)).course? id = some c₂ := hc₂
      have hlt : toil c₂ (s.after id σ (m + 1)).efforts < x :=
        (hiff.1 hstirs).trans_le (hx ▸ hle)
      obtain ⟨N, hN, c', hc', hover'⟩ := ih _ hlt hc₂ rfl
      exact ⟨N, by omega, c', hc', hover'⟩

/-- A schedule after which nothing is left to do is tireless. -/
theorem tireless_of_done {L : ℕ} (stirs : (s.after id σ L).Stirs id (σ L))
    (hc : (s.after id σ (L + 1)).course? id = some c) (hover : c.run.isOver)
    (he : (s.after id σ (L + 1)).efforts = []) : s.Tireless id σ := by
  rintro n ⟨d, -, hd⟩
  rcases Nat.lt_or_ge L n with hlt | hle
  · exfalso
    have hzero : toil c (s.after id σ (L + 1)).efforts = toLex (0, 0) := by
      rw [toil, Run.weight_of_isOver hover, he]
      rfl
    obtain ⟨c', hc', hle⟩ := toil_after hc hlt
    obtain ⟨c'', hc'', -, hiff⟩ := act_toil hc' d
    have hlt := (hiff.1 hd).trans_le (hle.trans_eq hzero)
    rcases Prod.Lex.toLex_lt_toLex.1 hlt with hlt | ⟨-, hlt⟩
    · exact Nat.not_lt_zero _ hlt
    · exact Nat.not_lt_zero _ hlt
  · exact ⟨L, hle, stirs⟩

/-- **Every run ends.**  Whatever has been registered, loaded, started, stopped and
answered, in any order, and however the attempts at its tasks end or do not end: if
limits are kept, a schedule that does not idle brings the run of every job that has been
started to its end, and it stays there.  Then its job has ended, and so has the one that
is handed over, if one is; a run that panics does so by the panic of its final report.
At all times no worker has been called too often. -/
theorem every_run_ends (registry : Registry) (settings : EngineSettings) (listening : Bool)
    (enforced : settings.enforceTimeouts) (id : String) (σ : ℕ → Deed)
    (tireless : (initial registry settings listening).Tireless id σ) (k : ℕ) (c : Course)
    (started : ((initial registry settings listening).after id σ k).course? id = some c) :
    (∀ n c', ((initial registry settings listening).after id σ n).course? id = some c' →
      ((initial registry settings listening).after id σ n).Bounded c'.workflow) ∧
    ∃ N c' j, (∀ n ≥ N,
        ((initial registry settings listening).after id σ n).course? id = some c') ∧
      ((initial registry settings listening).after id σ N).world.orchestrator.job? id = some j ∧
      j.isTerminal ∧
      ((∃ e, c'.run.stage = .ended (.error e)) ∨
        (∃ j', c'.run.stage = .ended (.ok j') ∧ j'.isTerminal) ∨
        ∃ message, c'.run.stage = .panicked message ∧
          ∃ a ∈ ((initial registry settings listening).after id σ N).reports,
            ∃ text, a.standing = .ended (some (.panic text))) := by
  have ht : (initial registry settings listening).world.Tracked
      { registry, settings, listening } fun _ _ => True :=
    World.tracked_initial registry settings listening _
  have hm : (initial registry settings listening).Manned { registry, settings, listening } id :=
    ⟨fun _ => ⟨rfl, rfl⟩, fun _ h => by cases h⟩
  refine ⟨fun n c' hc' => ?_, ?_⟩
  · obtain ⟨-, j, told, -, hreach, -⟩ := (tracked_after ht n).scene id c' hc'
    exact ((manned_after ht hm n).serves c' hc').bounded hreach.sound hreach.descended
  · obtain ⟨N, -, c', hc', hover⟩ := exists_over ht hm enforced tireless started
    obtain ⟨-, j, told, hj, hreach, -⟩ := (tracked_after ht N).scene id c' hc'
    have hserves := (manned_after ht hm N).serves c' hc'
    have hclosing := hreach.closing
    refine ⟨N, c', j, fun n hn => over_after hc' hover hn, hj, ?_⟩
    obtain ⟨e, hst⟩ | ⟨j', hst⟩ | ⟨message, hst⟩ := Run.stage_of_isOver hover
    · exact ⟨hclosing.terminal (by rw [Scene.stage, hst]; rfl), Or.inl ⟨e, hst⟩⟩
    · exact ⟨hclosing.terminal (by rw [Scene.stage, hst]; rfl),
        Or.inr (Or.inl ⟨j', hst, hclosing.handed j' hst⟩)⟩
    · refine ⟨hclosing.terminal (by rw [Scene.stage, hst]; rfl), Or.inr (Or.inr ⟨message, hst, ?_⟩)⟩
      obtain ⟨a, ha, hreport, text, hend⟩ := hserves.panicked message hst
      exact ⟨a, List.mem_filter.2 ⟨List.mem_append_left _ ha, beq_iff_eq.2 hreport⟩, text, hend⟩

end Workshop

namespace Sample

/-- One task that may be attempted twice. -/
def patient : Workflow :=
  { id := "patient", name := "Patient", tasks := [{ task "survey" [] with retries := 1 }] }

/-- The workshop of a job with a worker for its task and one for its report. -/
def shop : Workshop := .initial (.ofList [worker, { worker with kind := .report }]) {} true

/-- The first attempt at the task hangs and is cut off, the second gives a value, and the
final report hangs and is cut off. -/
def deeds : List Deed :=
  [.move (.register patient), .move (.start "patient" "job" .empty ⟨0⟩), .move (step 1),
    .move (step 1), .move (step 1), .begin "survey", .expire "survey", .begin "survey",
    .finish "survey" (.value .null), .take "survey" ⟨2⟩, .move (step 2), .move (step 2),
    .move (step 2), .move (step 2), .move (step 2), .begin finalReportTask,
    .expire finalReportTask, .take finalReportTask ⟨3⟩, .move (step 3)]

/-- These deeds, and then nothing more. -/
def schedule (n : ℕ) : Deed := deeds.getD n (.begin "")

end Sample

namespace Workshop

/-- In the sample, three calls are made, and the run ends although two of them hang. -/
theorem every_run_ends_sample :
    calls (Sample.shop.after "job" Sample.schedule 19).all = 3 ∧
      ∃ N j, (Sample.shop.after "job" Sample.schedule N).world.orchestrator.job? "job" = some j ∧
        j.isTerminal := by
  have hbefore : ((Sample.shop.after "job" Sample.schedule 18).course? "job").map (·.run.isOver)
      = some false := rfl
  have hafter : ((Sample.shop.after "job" Sample.schedule 19).course? "job").map (·.run.isOver)
      = some true := rfl
  obtain ⟨c, hc, hover⟩ := Option.map_eq_some_iff.1 hafter
  have hstirs : (Sample.shop.after "job" Sample.schedule 18).Stirs "job" (Sample.schedule 18) := by
    refine Or.inl fun hsame => ?_
    rw [← hsame] at hbefore
    cases hbefore.symm.trans hafter
  obtain ⟨-, N, c', j, -, hj, hterminal, -⟩ :=
    every_run_ends (.ofList [Sample.worker, { Sample.worker with kind := .report }]) {} true rfl
      "job" Sample.schedule (tireless_of_done hstirs hc hover rfl) 19 c hc
  exact ⟨rfl, N, j, hj, hterminal⟩

end Workshop
end Runbook
