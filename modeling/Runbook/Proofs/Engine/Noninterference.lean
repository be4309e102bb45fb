/-
# Jobs do not interfere

All jobs of an orchestrator share its workflows, its workers, its settings and the channel
of its events, and their runs come in between each other at every step.  Yet each job runs
as if it were alone (`runs_as_alone`): on the workflow that was registered when it was
started, whatever is registered in its place later, with the outcomes that are delivered
to it and the stops that are its own.  From its start on the world of all jobs and the
world of this one agree on it (`Tracked.agree_play`): its own moves do the same in both,
and those of others do not show.
-/

import Runbook.Proofs.Engine.Operations

namespace Runbook
namespace World

/-- The world of one job: its workflow is registered, the job is started, and of some moves
those follow that concern it. -/
def alone (registry : Registry) (settings : EngineSettings) (listening : Bool) (w : Workflow)
    (workflowId id : String) (parameters : Dict Json) (now : Instant) (moves : List Move) : World :=
  (initial registry settings listening).play
    (.register w :: .start workflowId id parameters now ::
      moves.filter fun m => m.job? == some id)

variable {s t : World} {id : String} {c : Course}

namespace Tracked

variable {env : Orchestrator}

/-- A course begins with the start of its job on the workflow that is registered there. -/
theorem start_of_course (h : s.Tracked env fun _ _ => True) (hn : s.courses.get? id = none)
    {moves : List Move} (hc : (s.play moves).courses.get? id = some c) :
    ∃ before workflowId parameters now after,
      moves = before ++ .start workflowId id parameters now :: after ∧
        (s.play before).courses.get? id = none ∧
        (s.play before).orchestrator.workflows.get? workflowId = some c.workflow := by
  induction moves generalizing s with
  | nil => rw [World.play, List.foldl_nil, hn] at hc; cases hc
  | cons m ms ih =>
    have h' := h.act_freely m
    -- The first move after which there is a course is the start of the job.
    cases hact : (s.act m).courses.get? id with
    | none =>
      obtain ⟨before, workflowId, parameters, now, after, rfl, hbefore, hw⟩ := ih h' hact hc
      exact ⟨m :: before, workflowId, parameters, now, after, rfl, hbefore, hw⟩
    | some c' =>
      obtain ⟨workflowId, parameters, now, rfl, hw⟩ := start_of_act hn hact (by
        by_contra hm
        rw [← (h.agree_act hm).course, hn] at hact
        cases hact)
      obtain ⟨c'', hc'', hworkflow⟩ := h'.course_play hact ms
      cases hc''.symm.trans hc
      rw [← hworkflow] at hw
      exact ⟨[], workflowId, parameters, now, ms, rfl, hn, hw⟩

/-- **Moves keep worlds in agreement on a job**, if in the one all of them are made and in
the other those that concern the job. -/
theorem agree_play (hs : s.Tracked env fun _ _ => True) (ht : t.Tracked env fun _ _ => True)
    (h : s.Agree t id) (hc : s.courses.get? id = some c) (moves : List Move) :
    (s.play moves).Agree (t.play (moves.filter fun m => m.job? == some id)) id := by
  induction moves generalizing s t c with
  | nil => exact h
  | cons m ms ih =>
    obtain ⟨c', hc', -⟩ := hs.course_act hc m
    have hs' := hs.act_freely m
    -- An own move is made in both worlds; any other one leaves this one in agreement with itself.
    by_cases hm : m.job? = some id
    · rw [List.filter_cons, if_pos (beq_iff_eq.2 hm)]
      refine ih hs' (ht.act_freely m) ?_ hc'
      exact h.act hc (hs.scene id c hc).1 hm fun _ _ _ _ _ _ => by
        rw [hs.settings, ht.settings]
    · rw [List.filter_cons, if_neg fun hb => hm (eq_of_beq hb)]
      exact ih hs' ht ((hs.agree_act hm).symm.trans h) hc'

/-- Where no other job was started, all events are those of the one. -/
theorem events_eq_told (h : s.Tracked env fun _ _ => True)
    (hothers : ∀ id', id' ≠ id → s.courses.get? id' = none) :
    s.orchestrator.events = s.orchestrator.told id := by
  rw [Orchestrator.told, eq_comm, List.filter_eq_self]
  intro e he
  rw [beq_iff_eq]
  by_contra hne
  have htold : e ∈ s.orchestrator.told e.jobId := List.mem_filter.2 ⟨he, beq_self_eq_true _⟩
  rw [(h.unknown e.jobId (hothers e.jobId hne)).2] at htold
  cases htold

end Tracked

section Alone

variable (registry : Registry) (settings : EngineSettings) (listening : Bool) (w : Workflow)
  (workflowId id : String) (parameters : Dict Json) (now : Instant) (moves : List Move)

theorem tracked_alone :
    (alone registry settings listening w workflowId id parameters now moves).Tracked
      { registry, settings, listening } fun _ _ => True :=
  tracked_of_play registry settings listening _

/-- Nobody else has a course in the world of one job. -/
theorem courses_alone {id' : String} (hne : id' ≠ id) :
    (alone registry settings listening w workflowId id parameters now moves).courses.get? id'
      = none := by
  by_contra hsome
  obtain ⟨c, hc⟩ := Option.ne_none_iff_exists'.1 hsome
  obtain ⟨before, key, values, t, after, hmoves, -⟩ :=
    (tracked_initial registry settings listening fun _ _ => True).start_of_course rfl hc
  have hin : Move.start key id' values t ∈ before ++ .start key id' values t :: after :=
    List.mem_append_right before List.mem_cons_self
  rw [← hmoves] at hin
  rcases List.mem_cons.1 hin with heq | hin
  · cases heq
  · rcases List.mem_cons.1 hin with heq | hin
    · cases heq
      exact hne rfl
    · have hown := (List.mem_filter.1 hin).2
      rw [beq_iff_eq, Move.job?, Option.some.injEq] at hown
      exact hne hown

/-- **From its start on, a job is the same in a world of many and in its own.** -/
theorem agree_alone {s : World} (hs : s.Tracked { registry, settings, listening } fun _ _ => True)
    (hn : s.courses.get? id = none) (hid : w.id = workflowId) (hvalid : w.validate.valid)
    (hw : s.orchestrator.workflows.get? workflowId = some w) :
    ((s.act (.start workflowId id parameters now)).play moves).Agree
      (alone registry settings listening w workflowId id parameters now moves) id := by
  have htracked := (tracked_initial registry settings listening fun _ _ => True).register w
  have henters := @enters_of_valid (initial registry settings listening) w hvalid
  have hn' : ((initial registry settings listening).register w).courses.get? id = none := by
    rw [henters.courses]
    rfl
  have hregistered := henters.own
  rw [hid, ← hw] at hregistered
  have hstarted := (hs.agree_of_unknown htracked hn hn').start (hs.unknown id hn).1 hn
    hregistered.symm parameters now
  rw [alone, play_cons, play_cons]
  exact (hs.act_freely _).agree_play (htracked.act_freely _) hstarted
    (course_of_start hn hw parameters now) moves

end Alone

/-- **Jobs do not interfere.**  In whatever order the moves of all jobs come, and whatever
is registered meanwhile, each job runs as it does in the world where it is alone: it is
started on the workflow that was registered under the identifier at that point, and of all
moves after that only those that concern it are made, its own stops among them, with the
same outcomes at the same instants.  The job, the course of its run and the events that are
told of it are the same there, and nothing else is. -/
theorem runs_as_alone (registry : Registry) (settings : EngineSettings) (listening : Bool)
    (moves : List Move) (id : String) (c : Course)
    (h : ((initial registry settings listening).play moves).courses.get? id = some c) :
    ∃ before workflowId parameters now after j,
      moves = before ++ .start workflowId id parameters now :: after ∧
      ((initial registry settings listening).play before).courses.get? id = none ∧
      ((initial registry settings listening).play before).orchestrator.workflows.get? workflowId
        = some c.workflow ∧
      ((initial registry settings listening).play moves).orchestrator.job? id = some j ∧
      (alone registry settings listening c.workflow workflowId id parameters now after
        ).orchestrator.job? id = some j ∧
      (alone registry settings listening c.workflow workflowId id parameters now after
        ).courses.get? id = some c ∧
      (alone registry settings listening c.workflow workflowId id parameters now after
        ).orchestrator.events
          = ((initial registry settings listening).play moves).orchestrator.told id ∧
      ∀ id', id' ≠ id →
        (alone registry settings listening c.workflow workflowId id parameters now after
          ).orchestrator.job? id' = none := by
  have hinitial := tracked_initial registry settings listening fun _ _ => True
  obtain ⟨-, j, -, hj, -⟩ := (hinitial.play_freely moves).scene id c h
  obtain ⟨before, workflowId, parameters, now, after, rfl, hn, hw⟩ :=
    hinitial.start_of_course rfl h
  have hbefore := hinitial.play_freely before
  obtain ⟨hid, hvalid⟩ := hinitial.entries_play (fun _ _ h => by cases h) before _ _ hw
  have hagree := agree_alone registry settings listening c.workflow workflowId id parameters now
    after hbefore hn hid hvalid hw
  have halone :=
    tracked_alone registry settings listening c.workflow workflowId id parameters now after
  have hothers : ∀ id', id' ≠ id → _ := fun id' =>
    @courses_alone registry settings listening c.workflow workflowId id parameters now after id'
  rw [← play_cons, ← play_append] at hagree
  refine ⟨before, workflowId, parameters, now, after, j, rfl, hn, hw, hj,
    hagree.orchestrator.job.symm.trans hj, hagree.course.symm.trans h, ?_, fun id' hne => ?_⟩
  · rw [halone.events_eq_told hothers]
    exact hagree.orchestrator.told.symm
  · exact (halone.unknown id' (hothers id' hne)).1

end World

namespace Sample

/-- Another job is started beside the first and stopped on its way, and the workflow of
both is replaced by another one while they run. -/
def interleaved : List Move :=
  [step 1, .start "sample" "other" .empty ⟨1⟩, step 1, .step "other" ⟨1⟩,
    .register { workflow with tasks := [task "survey" []] }, step 1, .step "other" ⟨2⟩,
    .stop "other" ⟨2⟩, step 1, .deliver "job" "probe" none ⟨2⟩, step 2, .step "other" ⟨2⟩,
    .deliver "job" "survey" (some (.value .null)) ⟨3⟩, step 3, step 3] ++ secondRound

end Sample

namespace World

/-- In the sample, the job is completed on all three tasks as if it were alone, although
another one was stopped and the workflow now has one task. -/
theorem runs_as_alone_sample :
    ∃ c j workflowId parameters now after,
      (Sample.world Sample.interleaved).courses.get? "job" = some c ∧
      c.workflow = Sample.workflow ∧
      ((Sample.world Sample.interleaved).orchestrator.workflows.get? "sample").map
        (·.tasks.length) = some 1 ∧
      ((Sample.world Sample.interleaved).orchestrator.job? "other").map (·.status)
        = some .stopped ∧
      (Sample.world Sample.interleaved).orchestrator.job? "job" = some j ∧
      j.status = .completed ∧
      (alone (.ofList [Sample.worker]) {} true c.workflow workflowId "job" parameters now after
        ).orchestrator.job? "job" = some j ∧
      (alone (.ofList [Sample.worker]) {} true c.workflow workflowId "job" parameters now after
        ).orchestrator.events = (Sample.world Sample.interleaved).orchestrator.told "job" := by
  have hcourse : ((Sample.world Sample.interleaved).courses.get? "job").map (·.workflow)
      = some Sample.workflow := rfl
  have hjob : ((Sample.world Sample.interleaved).orchestrator.job? "job").map (·.status)
      = some .completed := rfl
  obtain ⟨c, hc, hworkflow⟩ := Option.map_eq_some_iff.1 hcourse
  obtain ⟨before, workflowId, parameters, now, after, j, -, -, -, hj, halone, -, hevents, -⟩ :=
    runs_as_alone (.ofList [Sample.worker]) {} true (Sample.moves Sample.interleaved) "job" c hc
  have hj : (Sample.world Sample.interleaved).orchestrator.job? "job" = some j := hj
  rw [hj, Option.map_some, Option.some.injEq] at hjob
  exact ⟨c, j, workflowId, parameters, now, after, hc, hworkflow, rfl, rfl, hj, hjob, halone,
    hevents⟩

end World
end Runbook
