/-
# Every job runs by turns

Each step and each delivery of a run is a turn of its own job (`advances_step`,
`advances_deliver`) and leaves the others alone.  So in whatever order the moves of
a world come, every job of it is in a scene that turns and stops lead to
(`reached_of_play`), and what is kept by turns and stops holds of all jobs of all
histories.
-/

import Runbook.Proofs.Engine.Jobs
import Runbook.Proofs.Engine.Scene

namespace Runbook

/-- A stage that takes outcomes waits for tasks or for the final report. -/
theorem Stage.of_takesOutcomes {stage : Stage} (h : stage.takesOutcomes) :
    (∃ n pending, stage = .waiting (n + 1) pending) ∨ stage = .awaitingReport := by
  rw [takesOutcomes.eq_def] at h
  split at h
  · rename_i n pending
    exact Or.inl ⟨n, pending, rfl⟩
  · exact Or.inr rfl
  · cases h

namespace Run

/-- What a step or a delivery comes to: the job changes, events are told of it,
and the course takes at most one turn. -/
def Advances (env o o' : Orchestrator) (j : Job) (c c' : Course) (told : List JobEvent) : Prop :=
  ∃ j' es, o.Changes o' c.run.jobId j' es ∧
    ((j' = j ∧ c' = c ∧ es = []) ∨ Turn env ⟨j, c, told⟩ ⟨j', c', told ++ es⟩)

variable {env o : Orchestrator} {c : Course} {j : Job}

/-- A turn that leaves the job as it is and tells nothing. -/
theorem Advances.quiet {c' : Course} {told : List JobEvent} (hj : o.job? c.run.jobId = some j)
    (h : Turn env ⟨j, c, told⟩ ⟨j, c', told⟩) : Advances env o o j c c' told :=
  ⟨j, [], .refl hj, Or.inr (by rw [List.append_nil]; exact h)⟩

/-- A turn that gives the job another state and tells an event. -/
theorem Advances.loud {c' : Course} {told : List JobEvent} {j' : Job} {e : JobEvent}
    (hj : o.job? c.run.jobId = some j) (hid : j'.id = c.run.jobId) (he : e.jobId = c.run.jobId)
    (h : Turn env ⟨j, c, told⟩ ⟨j', c', told ++ [e]⟩) :
    Advances env o ((o.setJob c.run.jobId j').emit e) j c c' told :=
  ⟨j', [e], ((Orchestrator.Changes.refl hj).setJob hid).emit he, Or.inr h⟩

/-- The step that begins a round. -/
theorem advances_beginRound (hr : o.registry = env.registry) (hs : o.settings = env.settings)
    (hj : o.job? c.run.jobId = some j) {t : Task} {ts : List Task}
    (hst : c.run.stage = .round (t :: ts)) (told : List JobEvent) :
    Advances env o o j c
      (c.follow { orchestrator := o, run := c.run.beginRound o j (t :: ts) }) told := by
  rw [beginRound]
  split
  · rename_i ht
    rw [Course.follow, hst]
    exact .quiet hj (.pass (.leave hst (List.cons_ne_nil t ts) ht))
  · rename_i ht
    have hrun : j.isTerminal = false := Bool.eq_false_iff.2 ht
    split
    rename_i ready blocked hsplit
    have hready : ((⟨j, c, told⟩ : Scene).split (t :: ts)).1 = ready := by
      rw [Scene.split, hsplit]
    have hblocked : ((⟨j, c, told⟩ : Scene).split (t :: ts)).2 = blocked := by
      rw [Scene.split, hsplit]
    split
    · rename_i he
      rw [Course.follow, hst, ← hblocked]
      exact .quiet hj (.starve hst (List.cons_ne_nil t ts) hrun
        (hready.trans (List.isEmpty_iff.1 he)))
    · rename_i hne
      have hne' : ((⟨j, c, told⟩ : Scene).split (t :: ts)).1 ≠ [] := by
        rw [hready]
        exact fun h => hne (List.isEmpty_iff.2 h)
      rw [Orchestrator.prepareAll_congr hr (congrArg EngineSettings.withoutReport hs)]
      split
      · rename_i u e hp
        rw [Course.follow, hst]
        exact .quiet hj (.reject hst hrun hne' (hready ▸ hp))
      · rename_i ps hp
        rw [Course.follow, hst, ← hblocked]
        exact .quiet hj (.begin hst hrun hne' (hready ▸ hp))

/-- The step that records an outcome. -/
theorem advances_recordOutcome (hj : o.job? c.run.jobId = some j) {oc : Outcome} {n : Nat}
    {pending : List Task} (hst : c.run.stage = .recording oc n pending) (now : Instant)
    (told : List JobEvent) :
    Advances env o (c.run.recordOutcome o j oc n pending now).orchestrator j c
      (c.follow (c.run.recordOutcome o j oc n pending now)) told := by
  have hid := Orchestrator.id_of_job? hj
  rw [recordOutcome]
  split
  · rename_i v hv
    rw [Course.follow, hst]
    exact .loud hj hid rfl (.complete hst hv)
  · rename_i e he
    dsimp only
    rw [Course.follow, hst]
    dsimp only
    rw [Orchestrator.recordFailure]
    cases ht : j.isTerminal with
    | true =>
      have hturn : Turn env ⟨j, c, told⟩ _ := .overlook hst he ht
      rw [if_pos rfl]
      cases hc : oc.continues && e.isContinuable with
      | true => rw [hc] at hturn; exact .quiet hj hturn
      | false => rw [hc] at hturn; exact .quiet hj hturn
    | false =>
      rw [if_neg Bool.false_ne_true, hid]
      cases hc : oc.continues && e.isContinuable with
      | true => exact .loud hj hid rfl (.overcome hst he hc ht)
      | false => exact .loud hj hid rfl (.fail hst he hc ht)

/-- The step that records a task that could not be made ready. -/
theorem advances_reject (hj : o.job? c.run.jobId = some j) {t : Task} {e : ExecutionError}
    (hst : c.run.stage = .rejecting t e) (now : Instant) (told : List JobEvent) :
    Advances env o (c.run.stepOn o j now).orchestrator j c (c.follow (c.run.stepOn o j now))
      told := by
  have hid := Orchestrator.id_of_job? hj
  rw [stepOn, hst]
  dsimp only
  rw [Course.follow, hst, Orchestrator.recordFailure]
  cases ht : j.isTerminal with
  | true => exact .quiet hj (.refuseLate hst ht)
  | false =>
    rw [if_neg Bool.false_ne_true, hid]
    exact .loud hj hid rfl (.refuse hst ht)

/-- The step with which the job fails. -/
theorem advances_fail (hj : o.job? c.run.jobId = some j) {e : ExecutionError}
    (hst : c.run.stage = .failing e) (now : Instant) (told : List JobEvent) :
    Advances env o (c.run.stepOn o j now).orchestrator j c (c.follow (c.run.stepOn o j now))
      told := by
  have hid := Orchestrator.id_of_job? hj
  rw [stepOn, hst]
  dsimp only
  rw [Course.follow, hst]
  cases ht : j.isTerminal with
  | true =>
    rw [Job.finish?_of_terminal ht]
    exact .quiet hj (.pass (.fallLate hst ht))
  | false =>
    rw [Job.finish?_of_running ht]
    exact .loud hj hid rfl (.pass (.fall hst ht))

/-- The step with which the job is completed. -/
theorem advances_complete (hs : o.settings = env.settings) (hj : o.job? c.run.jobId = some j)
    (hst : c.run.stage = .completing) (now : Instant) (told : List JobEvent) :
    Advances env o (c.run.stepOn o j now).orchestrator j c (c.follow (c.run.stepOn o j now))
      told := by
  have hid := Orchestrator.id_of_job? hj
  rw [stepOn, hst]
  dsimp only
  rw [Course.follow, hst]
  cases ht : j.isTerminal with
  | true =>
    rw [Job.finish?_of_terminal ht]
    exact .quiet hj (.pass (.succeedLate hst ht))
  | false =>
    have hturn : Turn env ⟨j, c, told⟩ _ := @Turn.succeed env ⟨j, c, told⟩ now hst ht
    rw [Job.finish?_of_running ht, hs]
    cases hg : env.settings.generateReport with
    | true => rw [hg] at hturn; exact .loud hj hid rfl hturn
    | false => rw [hg] at hturn; exact .loud hj hid rfl hturn

/-- The step that begins the final report. -/
theorem advances_report (hr : o.registry = env.registry) (hs : o.settings = env.settings)
    (hj : o.job? c.run.jobId = some j) (hst : c.run.stage = .reporting) (now : Instant)
    (told : List JobEvent) :
    Advances env o (c.run.stepOn o j now).orchestrator j c (c.follow (c.run.stepOn o j now))
      told := by
  rw [stepOn, hst]
  dsimp only
  rw [Course.follow, hst, hr]
  split
  · rename_i hn
    exact ⟨j, _, (Orchestrator.Changes.refl hj).emit rfl, Or.inr (.pass (.reportMissing hst hn))⟩
  · rename_i worker hn
    rw [Orchestrator.prepareReport_congr (congrArg EngineSettings.withoutReport hs)]
    exact .quiet hj (.pass (.reportBegin hst hn))

/-- **A step of a run is a turn of its job**, or nothing if the run waits. -/
theorem advances_step (hr : o.registry = env.registry) (hs : o.settings = env.settings)
    (hj : o.job? c.run.jobId = some j) (now : Instant) (told : List JobEvent) :
    Advances env o (c.run.step o now).orchestrator j c (c.follow (c.run.step o now)) told := by
  have hid := Orchestrator.id_of_job? hj
  cases hw : c.run.isAwaiting with
  | true =>
    rw [step, hw, if_pos rfl, Course.follow]
    refine ⟨j, [], .refl hj, Or.inl ⟨rfl, ?_, rfl⟩⟩
    have hb : c.run.stage.beginsRound c.run.stage = false := by cases c.run.stage <;> rfl
    dsimp only
    rw [hb]
    rfl
  | false =>
    rw [step, hw, if_neg Bool.false_ne_true, hj]
    dsimp only
    cases hst : c.run.stage with
    | rejecting t e => exact advances_reject hj hst now told
    | failing e => exact advances_fail hj hst now told
    | completing => exact advances_complete hs hj hst now told
    | reporting => exact advances_report hr hs hj hst now told
    | round pending =>
      rw [stepOn, hst]
      cases pending with
      | nil =>
        rw [Course.follow, hst]
        exact .quiet hj (.pass (.finish hst))
      | cons t ts => exact advances_beginRound hr hs hj hst told
    | starting ready n pending =>
      rw [stepOn, hst]
      cases ready with
      | nil =>
        rw [Course.follow, hst]
        exact .quiet hj (.pass (.await hst))
      | cons p ready =>
        rw [Course.follow, hst]
        exact .loud hj hid rfl (.launch hst)
    | recording oc n pending =>
      rw [stepOn, hst]
      exact advances_recordOutcome hj hst now told
    | leaving =>
      rw [stepOn, hst, Course.follow, hst]
      exact .quiet hj (.pass (.depart hst))
    | waiting n pending =>
      cases n with
      | zero =>
        rw [stepOn, hst, Course.follow, hst]
        exact .quiet hj (.pass (.close hst))
      | succ n =>
        rw [isAwaiting, hst] at hw
        cases hw
    | awaitingReport | ended result | panicked message =>
      rw [isAwaiting, hst] at hw
      cases hw

/-- **A delivery to a run is a turn of its job.** -/
theorem advances_deliver (hj : o.job? c.run.jobId = some j) {task : String} {p : Prepared}
    (hp : c.awaited? task = some p) (e : Option AttemptEnd) (now : Instant)
    (told : List JobEvent) :
    Advances env o (c.run.deliver o (p.outcomeOf e) now).1 j c
      (c.receive p e (c.run.deliver o (p.outcomeOf e) now).2) told := by
  have hid := Orchestrator.id_of_job? hj
  have hcount : ∀ kind, (o.countActivity kind now).job? c.run.jobId = some j := fun _ => hj
  rw [Course.awaited?] at hp
  split at hp
  · rename_i htakes
    have hmem : p ∈ c.inFlight := List.mem_of_find?_eq_some hp
    rcases Stage.of_takesOutcomes htakes with ⟨n, pending, hst⟩ | hst
    · rw [deliver, hst]
      dsimp only
      rw [hcount]
      dsimp only
      cases ht : j.isTerminal with
      | true =>
        rw [if_pos rfl]
        exact ⟨j, [], (Orchestrator.Changes.refl hj).countActivity _ now,
          Or.inr (by rw [List.append_nil]; exact .pass (.discard hst hmem ht))⟩
      | false =>
        rw [if_neg Bool.false_ne_true, p.task_outcomeOf e]
        exact ⟨j.endTask p.name, [],
          ((Orchestrator.Changes.refl hj).countActivity _ now).setJob hid,
          Or.inr (by rw [List.append_nil]; exact .takeUp hst hmem ht)⟩
    · rw [deliver, hst]
      dsimp only
      split
      · exact .quiet hj (.pass (.reportPanic hst hmem))
      · exact ⟨j, _, ((Orchestrator.Changes.refl hj).countActivity _ now).emit rfl,
          Or.inr (.pass (.reportFail hst hmem))⟩
      · rename_i report _
        have hid' : ({ j with finalReport := some report } : Job).id = c.run.jobId := hid
        rw [hcount]
        exact ⟨_, _, (((Orchestrator.Changes.refl hj).countActivity _ now).setJob hid').emit rfl,
          Or.inr (.pass (.reportDone hst hmem))⟩
  · cases hp

end Run

namespace World

/-- A world whose jobs are all in scenes that turns and stops lead to, with the
workers and settings of `env`. -/
structure Tracked (env : Orchestrator) (may : String → Run → Prop) (s : World) : Prop where
  registry : s.orchestrator.registry = env.registry
  settings : s.orchestrator.settings = env.settings
  listening : s.orchestrator.listening = env.listening
  valid : ∀ id w, s.orchestrator.workflows.get? id = some w → w.validate.valid
  unknown : ∀ id, s.courses.get? id = none →
    s.orchestrator.job? id = none ∧ s.orchestrator.told id = []
  scene : ∀ id c, s.courses.get? id = some c → c.run.jobId = id ∧
    ∃ j told, s.orchestrator.job? id = some j ∧ Scene.Reached env (may id) ⟨j, c, told⟩ ∧
      (env.listening → s.orchestrator.told id = told)

namespace Tracked

variable {env : Orchestrator} {may : String → Run → Prop} {s : World}

/-- A job changes to a scene that is reached. -/
theorem changed (h : s.Tracked env may) {o' : Orchestrator} {courses : Dict Course} {id : String}
    {j : Job} {es : List JobEvent} {c : Course} (ch : s.orchestrator.Changes o' id j es)
    (hc : ∀ id', courses.get? id' = if id' = id then some c else s.courses.get? id')
    (hid : c.run.jobId = id) {told : List JobEvent}
    (hreach : Scene.Reached env (may id) ⟨j, c, told⟩)
    (htold : env.listening → o'.told id = told) : Tracked env may ⟨o', courses⟩ := by
  refine ⟨ch.registry.trans h.registry, ch.settings.trans h.settings,
    ch.listening.trans h.listening, fun id' w hw => ?_, fun id' hn => ?_, fun id' c' hs => ?_⟩
  · exact h.valid id' w (by rw [← ch.workflows]; exact hw)
  · rw [hc] at hn
    split at hn
    · cases hn
    · rename_i hne
      exact ⟨(ch.others id' hne).trans (h.unknown id' hn).1,
        (ch.told_of_ne hne).trans (h.unknown id' hn).2⟩
  · rw [hc] at hs
    split at hs
    · rename_i he
      cases hs
      subst he
      exact ⟨hid, j, told, ch.job, hreach, htold⟩
    · rename_i hne
      obtain ⟨hid', j', told', hj', hreach', htold'⟩ := h.scene id' c' hs
      exact ⟨hid', j', told', (ch.others id' hne).trans hj', hreach',
        fun hl => (ch.told_of_ne hne).trans (htold' hl)⟩

/-- The run of a job advances. -/
theorem advanced (h : s.Tracked env may) {id : String} {c c' : Course} {o' : Orchestrator}
    (hc : s.courses.get? id = some c)
    (hadv : ∀ j told, s.orchestrator.job? c.run.jobId = some j →
      Run.Advances env s.orchestrator o' j c c' told) :
    Tracked env may ⟨o', s.courses.insert id c'⟩ := by
  obtain ⟨hid, j, told, hj, hreach, htold⟩ := h.scene id c hc
  obtain ⟨j', es, ch, hturn⟩ := hadv j told (hid ▸ hj)
  rw [hid] at ch
  have hgrow : env.listening → o'.told id = told ++ es := fun hl => by
    rw [ch.told_self (h.listening ▸ hl), htold hl]
  rcases hturn with ⟨rfl, rfl, rfl⟩ | hturn
  · exact h.changed ch (fun id' => s.courses.get?_insert id id' c') hid
      (by rw [List.append_nil]; exact hreach) hgrow
  · exact h.changed ch (fun id' => s.courses.get?_insert id id' c') (hturn.id_eq.trans hid)
      (hreach.turn hturn) hgrow

/-- Registering a workflow leaves the jobs alone. -/
theorem register (h : s.Tracked env may) (w : Workflow) : (s.register w).Tracked env may := by
  rcases s.register_cases w with ⟨hv, hact⟩ | hact
  · rw [hact]
    refine ⟨h.registry, h.settings, h.listening, fun id v hw => ?_, h.unknown, h.scene⟩
    have hw : (s.orchestrator.workflows.insert w.id w).get? id = some v := hw
    rw [Dict.get?_insert] at hw
    split at hw
    · cases hw
      exact hv
    · exact h.valid id v hw
  · rw [hact]
    exact h

/-- **A move keeps a world tracked.** -/
theorem act (h : s.Tracked env may) (m : Move)
    (hm : ∀ id now, m = .stop id now → ∀ c, s.courses.get? id = some c → may id c.run) :
    (s.act m).Tracked env may := by
  cases m with
  | register w => exact h.register w
  | load path text =>
    cases text with
    | error detail => exact h
    | ok text => exact h.register _
  | start workflowId jobId parameters now =>
    rcases s.start_cases workflowId jobId parameters now with ⟨w, o, hc, hw, ho, hact⟩ | hact
    · rw [hact]
      obtain ⟨v, hv, -, ch⟩ := Orchestrator.changes_of_start (h.unknown jobId hc).1 ho
      cases hw.symm.trans hv
      refine h.changed ch (fun id' => s.courses.get?_insert jobId id' _) rfl
        (.start (h.valid workflowId w hw)) fun hl => ?_
      rw [ch.told_self (h.listening ▸ hl), (h.unknown jobId hc).2]
      rfl
    · rw [hact]
      exact h
  | stop jobId now =>
    rcases s.stop_cases jobId now with ⟨j', o, ho, hact⟩ | hact
    · rw [hact]
      obtain ⟨j, hj, hrun, rfl, ch⟩ := Orchestrator.changes_of_stop ho
      cases hc : s.courses.get? jobId with
      | none => rw [(h.unknown jobId hc).1] at hj; cases hj
      | some c =>
        obtain ⟨hid, k, told, hk, hreach, htold⟩ := h.scene jobId c hc
        have he : k = j := by rw [hj] at hk; exact (Option.some.inj hk).symm
        subst he
        refine h.changed ch (fun id' => ?_) hid
          (hreach.stop hrun (hm jobId now rfl c hc)) fun hl => ?_
        · split
          · rename_i he
            rw [he, hc]
          · rfl
        · rw [ch.told_self (h.listening ▸ hl), htold hl, Scene.id, hid]
    · rw [hact]
      exact h
  | step jobId now =>
    rw [World.act]
    split
    · exact h
    · rename_i c hc
      exact h.advanced hc fun j told hj => Run.advances_step h.registry h.settings hj now told
  | deliver jobId task e now =>
    rw [World.act]
    split
    · exact h
    · rename_i c hc
      split
      · exact h
      · rename_i p hp
        exact h.advanced hc fun j told hj => Run.advances_deliver hj hp e now told

/-- **What a move of one job changes**: nothing, or that job and its course. -/
theorem changes_act (h : s.Tracked env may) {m : Move} {id : String} (hm : m.job? = some id) :
    s.act m = s ∨ ∃ j es, s.orchestrator.Changes (s.act m).orchestrator id j es ∧
      ∀ id', id' ≠ id → (s.act m).courses.get? id' = s.courses.get? id' := by
  have hinsert : ∀ {c' : Course}, ∀ id', id' ≠ id →
      (s.courses.insert id c').get? id' = s.courses.get? id' := fun {c'} id' hne =>
    (s.courses.get?_insert id id' c').trans (if_neg hne)
  cases m with
  | register w => cases hm
  | load path text => cases hm
  | start workflowId jobId parameters now =>
    cases hm
    rcases s.start_cases workflowId id parameters now with ⟨w, o, hc, -, ho, hact⟩ | hact
    · rw [hact]
      obtain ⟨v, -, -, ch⟩ := Orchestrator.changes_of_start (h.unknown id hc).1 ho
      exact Or.inr ⟨_, _, ch, hinsert⟩
    · exact Or.inl hact
  | stop jobId now =>
    cases hm
    rcases s.stop_cases id now with ⟨j', o, ho, hact⟩ | hact
    · rw [hact]
      obtain ⟨j, -, -, -, ch⟩ := Orchestrator.changes_of_stop ho
      exact Or.inr ⟨_, _, ch, fun _ _ => rfl⟩
    · exact Or.inl hact
  | step jobId now =>
    cases hm
    rw [World.act]
    split
    · exact Or.inl rfl
    · rename_i c hc
      obtain ⟨hid, j, told, hj, -⟩ := h.scene id c hc
      obtain ⟨j', es, ch, -⟩ := Run.advances_step h.registry h.settings (hid ▸ hj) now told
      exact Or.inr ⟨j', es, hid ▸ ch, hinsert⟩
  | deliver jobId task e now =>
    cases hm
    rw [World.act]
    split
    · exact Or.inl rfl
    · rename_i c hc
      split
      · exact Or.inl rfl
      · rename_i p hp
        obtain ⟨hid, j, told, hj, -⟩ := h.scene id c hc
        obtain ⟨j', es, ch, -⟩ :=
          @Run.advances_deliver env _ _ _ (hid ▸ hj) _ _ hp e now told
        exact Or.inr ⟨j', es, hid ▸ ch, hinsert⟩

end Tracked

/-- A world in which nothing has happened is tracked. -/
theorem tracked_initial (registry : Registry) (settings : EngineSettings) (listening : Bool)
    (may : String → Run → Prop) :
    (initial registry settings listening).Tracked { registry, settings, listening } may where
  registry := rfl
  settings := rfl
  listening := rfl
  valid := fun _ _ h => by cases h
  unknown := fun _ _ => ⟨rfl, rfl⟩
  scene := fun _ _ h => by cases h

/-- Moves keep a world tracked. -/
theorem Tracked.play {env : Orchestrator} {may : String → Run → Prop} {s : World}
    (h : s.Tracked env may) (moves : List Move) (hm : ∀ id, s.StopsOnly (may id) id moves) :
    (s.play moves).Tracked env may := by
  induction moves generalizing s with
  | nil => exact h
  | cons m ms ih =>
    exact ih (h.act m fun id => (stopsOnly_cons.1 (hm id)).1) fun id => (stopsOnly_cons.1 (hm id)).2

/-- Where jobs may be stopped anywhere, every move keeps a world tracked. -/
theorem Tracked.act_freely {env : Orchestrator} {s : World} (h : s.Tracked env fun _ _ => True)
    (m : Move) : (s.act m).Tracked env fun _ _ => True :=
  h.act m fun _ _ _ _ _ => trivial

theorem Tracked.play_freely {env : Orchestrator} {s : World} (h : s.Tracked env fun _ _ => True)
    (moves : List Move) : (s.play moves).Tracked env fun _ _ => True :=
  h.play moves fun _ _ _ _ _ _ _ => trivial

/-- The world of any history is tracked. -/
theorem tracked_of_play (registry : Registry) (settings : EngineSettings) (listening : Bool)
    (moves : List Move) :
    ((initial registry settings listening).play moves).Tracked
      { registry, settings, listening } fun _ _ => True :=
  (tracked_initial registry settings listening fun _ _ => True).play_freely moves

/-- **All jobs of all histories are in scenes that turns and stops lead to.** -/
theorem reached_of_play {registry : Registry} {settings : EngineSettings} {listening : Bool}
    {moves : List Move} {id : String} {c : Course} (may : Run → Prop)
    (hm : (initial registry settings listening).StopsOnly may id moves)
    (h : ((initial registry settings listening).play moves).courses.get? id = some c) :
    c.run.jobId = id ∧ ∃ j told,
      ((initial registry settings listening).play moves).orchestrator.job? id = some j ∧
      Scene.Reached { registry, settings, listening } may ⟨j, c, told⟩ ∧
      (listening →
        ((initial registry settings listening).play moves).orchestrator.told id = told) := by
  have htracked := (tracked_initial registry settings listening fun i r => i = id → may r).play
    moves fun i pre now post heq c hc he => hm pre now post (he ▸ heq) c (he ▸ hc)
  obtain ⟨hid, j, told, hj, hreach, htold⟩ := htracked.scene id c h
  exact ⟨hid, j, told, hj, hreach.mono fun r hr => hr rfl, htold⟩

end World
end Runbook
