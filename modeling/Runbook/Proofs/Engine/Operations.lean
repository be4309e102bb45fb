/-
# What operations change

An operation that is refused changes nothing at all (`World.act_of_refusal`).  One that
is accepted changes what it names and leaves the rest: a workflow that is registered or
loaded is entered under its own identifier (`World.Enters`), and a stop ends one job that
runs (`World.Stops`).  So in every world that moves lead to, the workflows stand under
their own identifiers and are valid (`World.Entries`), and no job is ever lost
(`World.Tracked.kept`).
-/

import Runbook.Proofs.Engine.Shows

namespace Runbook

/-- The job was started with the same parameters, on the same workflow, at the same
instant. -/
structure Job.SameOrigin (j j' : Job) : Prop where
  id : j'.id = j.id
  workflowId : j'.workflowId = j.workflowId
  workflowName : j'.workflowName = j.workflowName
  parameters : j'.parameters = j.parameters
  startTime : j'.startTime = j.startTime

namespace Job.SameOrigin

theorem refl (j : Job) : j.SameOrigin j := ⟨rfl, rfl, rfl, rfl, rfl⟩

theorem trans {j j' j'' : Job} (h : j.SameOrigin j') (h' : j'.SameOrigin j'') :
    j.SameOrigin j'' where
  id := h'.id.trans h.id
  workflowId := h'.workflowId.trans h.workflowId
  workflowName := h'.workflowName.trans h.workflowName
  parameters := h'.parameters.trans h.parameters
  startTime := h'.startTime.trans h.startTime

end Job.SameOrigin

/-- No turn touches the origin of its job. -/
theorem Turn.sameOrigin {env : Orchestrator} {s s' : Scene} (h : Turn env s s') :
    s.job.SameOrigin s'.job := by
  cases h with
  | pass pass => cases pass <;> exact ⟨rfl, rfl, rfl, rfl, rfl⟩
  | _ => exact ⟨rfl, rfl, rfl, rfl, rfl⟩

theorem Orchestrator.activity_emit (o : Orchestrator) (e : JobEvent) :
    (o.emit e).activity = o.activity := by
  rw [emit]
  split <;> rfl

/-- Why an operation is refused. -/
inductive Refusal where
  | workflow (error : WorkflowError)
  | execution (error : ExecutionError)

/-- The refusal in an answer. -/
def Refusal.of? {ε α : Type} (form : ε → Refusal) : Except ε α → Option Refusal
  | .ok _ => none
  | .error e => some (form e)

namespace World

/-- The error that a move is answered with, if it is an operation that is refused. -/
def refusal? (s : World) : Move → Option Refusal
  | .register w => Refusal.of? .workflow (s.orchestrator.register w).1
  | .load path text => Refusal.of? .workflow (s.orchestrator.load (Workflow.ofFile path text)).1
  | .start workflowId jobId parameters now =>
    Refusal.of? .execution (s.orchestrator.start workflowId jobId parameters now).1
  | .stop jobId now => Refusal.of? .execution (s.orchestrator.stop jobId now).1
  | .step .. | .deliver .. => none

/-- From `s` to `t` only the entry of a workflow under its own identifier changes. -/
structure Enters (s : World) (w : Workflow) (t : World) : Prop where
  own : t.orchestrator.workflows.get? w.id = some w
  others : ∀ id, id ≠ w.id →
    t.orchestrator.workflows.get? id = s.orchestrator.workflows.get? id
  jobs : t.orchestrator.jobs = s.orchestrator.jobs
  activity : t.orchestrator.activity = s.orchestrator.activity
  events : t.orchestrator.events = s.orchestrator.events
  courses : t.courses = s.courses

/-- From `s` to `t` only the job `j` of an identifier changes: its status, the instant of
its end and its duration.  One event is told. -/
structure Stops (s : World) (id : String) (now : Instant) (j : Job) (t : World) : Prop where
  own : t.orchestrator.job? id = some
    { j with status := .stopped, endTime := some now, durationMs := some (now.since j.startTime) }
  others : ∀ id', id' ≠ id → t.orchestrator.job? id' = s.orchestrator.job? id'
  workflows : t.orchestrator.workflows = s.orchestrator.workflows
  activity : t.orchestrator.activity = s.orchestrator.activity
  events : t.orchestrator.events
    = s.orchestrator.events ++ if s.orchestrator.listening then [.jobStopped id] else []
  courses : t.courses = s.courses

variable {s : World}

/-! ### What is refused -/

/-- A file is loaded as its workflow is registered. -/
theorem refusal?_load_ok {path : String} {text : List Char} :
    s.refusal? (.load path (.ok text))
      = s.refusal? (.register (.parseAs (Path.stem? path) text)) := by
  rw [refusal?, refusal?, Workflow.ofFile, Orchestrator.load]
  cases s.orchestrator.register (.parseAs (Path.stem? path) text) with
  | mk registered o => cases registered <;> rfl

/-- What is refused changes nothing. -/
theorem act_of_refusal {m : Move} {r : Refusal} (h : s.refusal? m = some r) : s.act m = s := by
  have hregister : ∀ w, s.refusal? (.register w) = some r → s.register w = s := by
    intro w hw
    by_cases hv : w.validate.valid
    · rw [refusal?, Orchestrator.register_of_valid hv] at hw
      cases hw
    · rw [register, Orchestrator.register_of_not_valid hv]
  cases m with
  | register w => exact hregister w h
  | load path text =>
    cases text with
    | error detail => rfl
    | ok text =>
      rw [refusal?_load_ok] at h
      rw [act_load_ok]
      exact hregister _ h
  | start workflowId jobId parameters now =>
    rcases s.start_cases workflowId jobId parameters now with ⟨w, o, -, -, ho, -⟩ | hact
    · rw [refusal?, ho] at h
      cases h
    · exact hact
  | stop jobId now =>
    rcases s.stop_cases jobId now with ⟨j, o, ho, -⟩ | hact
    · rw [refusal?, ho] at h
      cases h
    · exact hact
  | step jobId now => cases h
  | deliver jobId task e now => cases h

/-- A workflow is registered exactly if it is valid. -/
theorem refusal?_register {w : Workflow} :
    s.refusal? (.register w) = none ↔ w.validate.valid := by
  rw [refusal?]
  by_cases hv : w.validate.valid
  · rw [Orchestrator.register_of_valid hv]
    exact iff_of_true rfl hv
  · rw [Orchestrator.register_of_not_valid hv]
    exact iff_of_false nofun hv

/-- A file is loaded exactly if it can be read and its workflow is valid. -/
theorem refusal?_load {path : String} {text : Except String (List Char)} :
    s.refusal? (.load path text) = none ↔
      ∃ t, text = .ok t ∧ (Workflow.parseAs (Path.stem? path) t).validate.valid := by
  cases text with
  | error detail => exact iff_of_false nofun fun ⟨_, h, _⟩ => by cases h
  | ok t =>
    rw [refusal?_load_ok, refusal?_register]
    refine ⟨fun hv => ⟨t, rfl, hv⟩, ?_⟩
    rintro ⟨t', ht, hv⟩
    cases ht
    exact hv

/-- A job can be started exactly on a registered workflow. -/
theorem refusal?_start {workflowId jobId : String} {parameters : Dict Json} {now : Instant} :
    s.refusal? (.start workflowId jobId parameters now) = none ↔
      ∃ w, s.orchestrator.workflows.get? workflowId = some w := by
  rw [refusal?, Orchestrator.start]
  cases s.orchestrator.workflows.get? workflowId with
  | none =>
    refine iff_of_false (Option.some_ne_none _) ?_
    rintro ⟨w, hw⟩
    cases hw
  | some w => exact iff_of_true rfl ⟨w, rfl⟩

/-- A stop succeeds exactly on a job that is there and runs. -/
theorem refusal?_stop {id : String} {now : Instant} :
    s.refusal? (.stop id now) = none ↔
      ∃ j, s.orchestrator.job? id = some j ∧ j.status = .running := by
  rw [refusal?]
  cases hj : s.orchestrator.job? id with
  | none =>
    rw [Orchestrator.stop, hj]
    refine iff_of_false (Option.some_ne_none _) ?_
    rintro ⟨j, hj, -⟩
    cases hj
  | some j =>
    cases ht : j.isTerminal with
    | false =>
      rw [Orchestrator.stop_of_running hj ht]
      exact iff_of_true rfl ⟨j, rfl, Job.isTerminal_eq_false.1 ht⟩
    | true =>
      rw [Orchestrator.stop_of_terminal hj ht]
      refine iff_of_false (Option.some_ne_none _) ?_
      rintro ⟨k, hk, hrun⟩
      cases hk
      rw [Job.isTerminal_eq_false.2 hrun] at ht
      cases ht

/-! ### What is accepted -/

/-- A valid workflow is entered. -/
theorem enters_of_valid {w : Workflow} (h : w.validate.valid) : s.Enters w (s.register w) := by
  rw [register, Orchestrator.register_of_valid h]
  have hget : ∀ id, (s.orchestrator.workflows.insert w.id w).get? id
      = if id = w.id then some w else s.orchestrator.workflows.get? id := fun id =>
    s.orchestrator.workflows.get?_insert w.id id w
  exact ⟨(hget w.id).trans (if_pos rfl), fun id hne => (hget id).trans (if_neg hne), rfl, rfl,
    rfl, rfl⟩

/-- A running job is stopped. -/
theorem stops_of_running {id : String} {j : Job} (hj : s.orchestrator.job? id = some j)
    (running : j.isTerminal = false) (now : Instant) :
    s.Stops id now j (s.act (.stop id now)) := by
  have hstop := Orchestrator.stop_of_running hj running now
  obtain ⟨k, hk, -, hended, ch⟩ := Orchestrator.changes_of_stop hstop
  rw [act, hstop]
  exact ⟨ch.job, ch.others, ch.workflows, Orchestrator.activity_emit _ _, ch.events, rfl⟩

/-! ### How a course begins -/

section Start

variable {id : String} {c : Course}

/-- The course of a job that has just been started. -/
theorem course_of_start {workflowId : String} {w : Workflow} (hn : s.courses.get? id = none)
    (hw : s.orchestrator.workflows.get? workflowId = some w) (parameters : Dict Json)
    (now : Instant) : (s.act (.start workflowId id parameters now)).courses.get? id
      = some { workflow := w, run := ⟨id, .round w.tasks⟩ } := by
  rw [act, hn, hw, Orchestrator.start, hw]
  exact (Dict.get?_insert _ id id _).trans (if_pos rfl)

/-- Of the moves of a job only its start gives it a course. -/
theorem start_of_act {m : Move} (hn : s.courses.get? id = none)
    (hc : (s.act m).courses.get? id = some c) (hm : m.job? = some id) :
    ∃ workflowId parameters now, m = .start workflowId id parameters now ∧
      s.orchestrator.workflows.get? workflowId = some c.workflow := by
  have hsame : (s.act m).courses ≠ s.courses := fun he => by rw [he, hn] at hc; cases hc
  cases m with
  | register w => cases hm
  | load path text => cases hm
  | start workflowId jobId parameters now =>
    cases hm
    cases hw : s.orchestrator.workflows.get? workflowId with
    | none => exact absurd (by rw [act, hn, Orchestrator.start_of_unknown hw]) hsame
    | some w =>
      cases (course_of_start hn hw parameters now).symm.trans hc
      exact ⟨workflowId, parameters, now, rfl, hw⟩
  | stop jobId now =>
    exact absurd rfl hsame
  | step jobId now =>
    cases hm
    exact absurd (by rw [act, hn]) hsame
  | deliver jobId task e now =>
    cases hm
    exact absurd (by rw [act, hn]) hsame

end Start

/-! ### What all moves keep -/

/-- Every registered workflow stands under its own identifier and is valid. -/
def Entries (s : World) : Prop :=
  ∀ id w, s.orchestrator.workflows.get? id = some w → w.id = id ∧ w.validate.valid

/-- Registering keeps the entries. -/
theorem Entries.register (h : s.Entries) (w : Workflow) : (s.register w).Entries := by
  by_cases hv : w.validate.valid
  · have henters := @enters_of_valid s w hv
    intro id v hget
    by_cases hid : id = w.id
    · rw [hid, henters.own] at hget
      cases hget
      exact ⟨hid.symm, hv⟩
    · rw [henters.others id hid] at hget
      exact h id v hget
  · rw [World.register, Orchestrator.register_of_not_valid hv]
    exact h

namespace Tracked

variable {env : Orchestrator} {may : String → Run → Prop} {id : String} {c : Course}

/-- A move of a job leaves the registered workflows alone. -/
theorem workflows_act (h : s.Tracked env may) {m : Move} {id : String} (hm : m.job? = some id) :
    (s.act m).orchestrator.workflows = s.orchestrator.workflows := by
  rcases h.changes_act hm with hsame | ⟨j, es, ch, -⟩
  · rw [hsame]
  · exact ch.workflows

/-- What moves do to the registered workflows depends on these alone. -/
theorem workflows_congr {env' : Orchestrator} {t : World} (hs : s.Tracked env may)
    (ht : t.Tracked env' may) (hw : s.orchestrator.workflows = t.orchestrator.workflows)
    (m : Move) : (s.act m).orchestrator.workflows = (t.act m).orchestrator.workflows := by
  have hregister : ∀ w, (s.register w).orchestrator.workflows
      = (t.register w).orchestrator.workflows := by
    intro w
    rw [World.register, World.register]
    by_cases hv : w.validate.valid
    · rw [Orchestrator.register_of_valid hv, Orchestrator.register_of_valid hv, hw]
    · rw [Orchestrator.register_of_not_valid hv, Orchestrator.register_of_not_valid hv]
      exact hw
  cases hm : m.job? with
  | some id => rw [hs.workflows_act hm, ht.workflows_act hm, hw]
  | none =>
    rw [act_of_unconcerned hm, act_of_unconcerned hm]
    cases m.offered? with
    | none => exact hw
    | some w => exact hregister w

/-- Every move keeps the entries. -/
theorem entries_act (h : s.Tracked env may) (he : s.Entries) (m : Move) : (s.act m).Entries := by
  cases hm : m.job? with
  | some id =>
    unfold Entries
    rw [h.workflows_act hm]
    exact he
  | none =>
    rw [act_of_unconcerned hm]
    cases m.offered? with
    | none => exact he
    | some w => exact he.register w

/-- All moves keep the entries. -/
theorem entries_play (h : s.Tracked env fun _ _ => True) (he : s.Entries) (moves : List Move) :
    (s.play moves).Entries := by
  induction moves generalizing s with
  | nil => exact he
  | cons m ms ih => exact ih (h.act_freely m) (h.entries_act he m)

/-- A known job is shown. -/
theorem shows_of_job? (h : s.Tracked env may) {id : String} {j : Job}
    (hj : s.orchestrator.job? id = some j) : ∃ x, s.Shows id x ∧ x.job = j := by
  cases hc : s.courses.get? id with
  | none => rw [(h.unknown id hc).1] at hj; cases hj
  | some c => exact ⟨⟨j, c, s.orchestrator.told id⟩, ⟨hc, hj, fun _ => rfl⟩, rfl⟩

/-- The course of a job stays, on the same workflow. -/
theorem course_act (h : s.Tracked env fun _ _ => True) (hc : s.courses.get? id = some c)
    (m : Move) : ∃ c', (s.act m).courses.get? id = some c' ∧ c'.workflow = c.workflow := by
  obtain ⟨-, j, told, hj, -, htold⟩ := h.scene id c hc
  obtain ⟨x', hx', hchange⟩ :=
    h.shows_act (x := ⟨j, c, told⟩) ⟨hc, hj, fun hl => htold (h.listening ▸ hl)⟩ m
  refine ⟨x'.course, hx'.course, ?_⟩
  rcases hchange with rfl | hturn | ⟨now, -, -, rfl⟩
  · rfl
  · exact hturn.workflow_eq
  · rfl

/-- The course of a job stays through all moves. -/
theorem course_play (h : s.Tracked env fun _ _ => True) (hc : s.courses.get? id = some c)
    (moves : List Move) :
    ∃ c', (s.play moves).courses.get? id = some c' ∧ c'.workflow = c.workflow := by
  induction moves generalizing s c with
  | nil => exact ⟨c, hc, rfl⟩
  | cons m ms ih =>
    obtain ⟨c', hc', hworkflow⟩ := h.course_act hc m
    obtain ⟨c'', hc'', hrest⟩ := ih (h.act_freely m) hc'
    exact ⟨c'', hc'', hrest.trans hworkflow⟩

/-- A move that makes a job known starts it. -/
theorem running_of_act (h : s.Tracked env fun _ _ => True) (hn : s.courses.get? id = none)
    {m : Move} {j : Job} (hj : (s.act m).orchestrator.job? id = some j) : j.status = .running := by
  obtain ⟨x, hx, hxj⟩ := (h.act_freely m).shows_of_job? hj
  have hown : m.job? = some id := by
    by_contra hm
    rw [← (h.agree_act hm).orchestrator.job, (h.unknown id hn).1] at hj
    cases hj
  obtain ⟨workflowId, parameters, now, rfl, hw⟩ := start_of_act hn hx.course hown
  have ho : ∃ o, s.orchestrator.start workflowId id parameters now
      = (.ok ⟨id, .round x.course.workflow.tasks⟩, o) :=
    ⟨_, by rw [Orchestrator.start, hw]⟩
  obtain ⟨o, ho⟩ := ho
  obtain ⟨v, -, -, ch⟩ := Orchestrator.changes_of_start (h.unknown id hn).1 ho
  rw [World.act, hn, ho, hw] at hj
  cases ch.job.symm.trans hj
  rfl

/-- No job is lost, and none changes its origin. -/
theorem kept (h : s.Tracked env fun _ _ => True) {id : String} {j : Job}
    (hj : s.orchestrator.job? id = some j) (moves : List Move) :
    ∃ j', (s.play moves).orchestrator.job? id = some j' ∧ j.SameOrigin j' := by
  induction moves generalizing s j with
  | nil => exact ⟨j, hj, .refl j⟩
  | cons m ms ih =>
    obtain ⟨x, hx, rfl⟩ := h.shows_of_job? hj
    obtain ⟨x', hx', hchange⟩ := h.shows_act hx m
    have horigin : x.job.SameOrigin x'.job := by
      rcases hchange with rfl | hturn | ⟨now, -, -, rfl⟩
      · exact .refl _
      · exact hturn.sameOrigin
      · exact ⟨rfl, rfl, rfl, rfl, rfl⟩
    obtain ⟨j', hj', hrest⟩ := ih (h.act_freely m) hx'.job
    exact ⟨j', hj', horigin.trans hrest⟩

end Tracked

/-- **What operations do in a world.**  What is refused changes nothing, and each is
refused exactly on its own condition.  What is accepted changes one entry or one job.
All entries are in order, and all jobs stay. -/
structure Orderly (s : World) : Prop where
  refused : ∀ m r, s.refusal? m = some r → s.act m = s
  register_iff : ∀ w, s.refusal? (.register w) = none ↔ w.validate.valid
  load_iff : ∀ path text, s.refusal? (.load path text) = none ↔
    ∃ t, text = .ok t ∧ (Workflow.parseAs (Path.stem? path) t).validate.valid
  start_iff : ∀ workflowId jobId parameters now,
    s.refusal? (.start workflowId jobId parameters now) = none ↔
      ∃ w, s.orchestrator.workflows.get? workflowId = some w
  stop_iff : ∀ id now, s.refusal? (.stop id now) = none ↔
    ∃ j, s.orchestrator.job? id = some j ∧ j.status = .running
  registers : ∀ w, s.refusal? (.register w) = none → s.Enters w (s.act (.register w))
  loads : ∀ path t, s.refusal? (.load path (.ok t)) = none →
    s.Enters (.parseAs (Path.stem? path) t) (s.act (.load path (.ok t)))
  stops : ∀ id now j, s.orchestrator.job? id = some j → j.status = .running →
    s.Stops id now j (s.act (.stop id now))
  entries : ∀ id w, s.orchestrator.workflows.get? id = some w → w.id = id ∧ w.validate.valid
  jobs : ∀ id j, s.orchestrator.job? id = some j → ∀ moves,
    ∃ j', (s.play moves).orchestrator.job? id = some j' ∧ j.SameOrigin j'

/-- **Operations are orderly in every world that moves lead to.**  A workflow that is not
valid, a file that cannot be read or holds none that is valid, an unknown workflow, an
unknown job and one that does not run are refused, and then nothing changes; a workflow
that is accepted changes the entry of its own identifier alone, and a stop the status,
the end and the duration of its own job; every entry stands under its own identifier and
is valid; and no job is ever removed. -/
theorem orderly_of_play (registry : Registry) (settings : EngineSettings) (listening : Bool)
    (moves : List Move) : ((initial registry settings listening).play moves).Orderly := by
  have htracked := tracked_of_play registry settings listening moves
  have hentries := (tracked_initial registry settings listening fun _ _ => True).entries_play
    (fun _ _ h => by cases h) moves
  exact {
    refused := fun _ _ => act_of_refusal
    register_iff := fun _ => refusal?_register
    load_iff := fun _ _ => refusal?_load
    start_iff := fun _ _ _ _ => refusal?_start
    stop_iff := fun _ _ => refusal?_stop
    registers := fun _ h => enters_of_valid (refusal?_register.1 h)
    loads := fun path t h => by
      obtain ⟨t', ht, hv⟩ := refusal?_load.1 h
      cases ht
      rw [act_load_ok]
      exact enters_of_valid hv
    stops := fun _ now _ hj hrun => stops_of_running hj (Job.isTerminal_eq_false.2 hrun) now
    entries := hentries
    jobs := fun _ _ hj more => htracked.kept hj more }

end World
end Runbook
