/-
# Dispatch by depth

The rounds as they show from outside.  A listener is told of the start of every
task once, in the order of the schedule, and of no start before the outcomes of
all tasks that lie less deep (`Workflow.Barrier`).  `dispatched_by_depth` is the
whole account of what a run starts, and when, and in which order.
-/

import Runbook.Proofs.Engine.Rounds

namespace Runbook

namespace JobEvent

/-- The task that the event tells has started. -/
def starts? : JobEvent → Option String
  | .taskStarted _ task _ => some task
  | _ => none

/-- The task that the event tells is completed: it has given a result, or it has
failed and the job goes on in spite of that. -/
def settles? : JobEvent → Option String
  | .taskCompleted _ task _ _ => some task
  | .taskFailed _ task _ _ true => some task
  | _ => none

end JobEvent

/-- **Rounds are barriers.**  Before the start of a task is told, all tasks that
lie less deep have been told of as started and as completed. -/
def Workflow.Barrier (w : Workflow) (told : List JobEvent) : Prop :=
  ∀ pre e post n, told = pre ++ e :: post → e.starts? = some n →
    ∀ t ∈ w.tasks, w.depth t.name < w.depth n →
      t.name ∈ pre.filterMap JobEvent.starts? ∧ t.name ∈ pre.filterMap JobEvent.settles?

/-- A barrier goes on if the next start comes after all that lies less deep. -/
theorem Workflow.Barrier.append {w : Workflow} {told : List JobEvent} {e : JobEvent}
    (h : w.Barrier told)
    (he : ∀ n, e.starts? = some n → ∀ t ∈ w.tasks, w.depth t.name < w.depth n →
      t.name ∈ told.filterMap JobEvent.starts? ∧ t.name ∈ told.filterMap JobEvent.settles?) :
    w.Barrier (told ++ [e]) := by
  intro pre e' post n heq hstart
  rcases List.eq_nil_or_concat post with rfl | ⟨post, last, rfl⟩
  · obtain ⟨rfl, hlast⟩ := List.append_inj' heq rfl
    cases hlast
    exact he n hstart
  · have hsplit : told ++ [e] = (pre ++ e' :: post) ++ [last] := by
      rw [heq, List.concat_eq_append, List.append_assoc]
      rfl
    obtain ⟨hpre, -⟩ := List.append_inj' hsplit rfl
    exact h pre e' post n hpre hstart

namespace Scene

/-- What is told goes along with what happens. -/
structure Announced (s : Scene) : Prop where
  started : s.told.filterMap JobEvent.starts? = s.started.map (·.2)
  settled : ∀ n ∈ s.job.completedTasks, n ∈ s.told.filterMap JobEvent.settles?
  barrier : s.workflow.Barrier s.told

namespace Announced

variable {s s' : Scene}

/-- Nothing is told. -/
theorem silent (h : s.Announced) (hw : s'.workflow = s.workflow) (hs : s'.started = s.started)
    (ht : s'.told = s.told) (hc : s'.job.completedTasks = s.job.completedTasks) :
    s'.Announced := by
  refine ⟨?_, ?_, ?_⟩
  · rw [ht, hs]
    exact h.started
  · rw [ht, hc]
    exact h.settled
  · rw [ht, hw]
    exact h.barrier

/-- An event is told that is not the start of a task; if a task is completed, the
event tells of that. -/
theorem tells (h : s.Announced) (hw : s'.workflow = s.workflow) (hs : s'.started = s.started)
    {e : JobEvent} (ht : s'.told = s.told ++ [e]) (he : e.starts? = none)
    (hc : ∀ n ∈ s'.job.completedTasks, n ∈ s.job.completedTasks ∨ e.settles? = some n) :
    s'.Announced := by
  refine ⟨?_, fun n hn => ?_, ?_⟩
  · rw [ht, hs, List.filterMap_append, h.started, List.filterMap_cons_none he, List.filterMap_nil,
      List.append_nil]
  · rw [ht, List.filterMap_append, List.mem_append]
    rcases hc n hn with hn | hn
    · exact Or.inl (h.settled n hn)
    · exact Or.inr (List.mem_filterMap.2 ⟨e, List.mem_singleton_self e, hn⟩)
  · rw [ht, hw]
    exact h.barrier.append fun n hn => by rw [he] at hn; cases hn

/-- The start of a task is told. -/
theorem launches (h : s.Announced) (hs : s.Sound) {p : Prepared} {ready : List Prepared} {n : Nat}
    {pending : List Task} (stage : s.stage = .starting (p :: ready) n pending) :
    Announced
      { job := s.job.startTask p.name
        course := (s.course.startTask p).enter (.starting ready (n + 1) pending)
        told := s.told ++ [.taskStarted s.id p.name p.assignment.worker] } := by
  have hway := hs.underWay pending (by rw [stage]; rfl)
  refine ⟨?_, fun m hm => ?_, h.barrier.append fun m hm t ht hlt => ?_⟩
  · have hstarted := h.started
    show (s.told ++ [_]).filterMap _ = ((s.course.started ++ [_]).map _).map _
    rw [List.filterMap_append, hstarted, List.map_append, List.map_append]
    rfl
  · exact List.mem_filterMap.2 <| by
      obtain ⟨e, he, hsettles⟩ := List.mem_filterMap.1 (h.settled m hm)
      exact ⟨e, List.mem_append_left _ he, hsettles⟩
  · cases hm
    obtain ⟨u, hu, hname⟩ := hway.layer p.name <| by
      rw [outstanding, stage]
      exact List.mem_append_right _ List.mem_cons_self
    have hdepth := (Workflow.mem_layer.1 hu).2
    rw [hname] at hdepth
    have hbefore : s.workflow.depth t.name < s.rounds := by omega
    refine ⟨?_, h.settled _ (hs.settled t ht hbefore)⟩
    have hmem : (s.workflow.depth t.name, t.name) ∈ s.started :=
      hs.begun.subset (hs.wellFormed.mem_schedule_of_depth ht (by omega))
    rw [h.started]
    exact List.mem_map_of_mem hmem

/-- A pass keeps it. -/
theorem pass (h : s.Announced) {env : Orchestrator} (hp : Pass env s s') : s'.Announced := by
  cases hp with
  | fall stage | reportMissing stage | reportFail stage | reportDone stage =>
    exact h.tells rfl rfl rfl rfl fun n hn => Or.inl hn
  | _ => exact h.silent rfl rfl rfl rfl

/-- **A turn keeps it.** -/
theorem turn (h : s.Announced) (hs : s.Sound) {env : Orchestrator} (ht : Turn env s s') :
    s'.Announced := by
  cases ht with
  | pass pass => exact h.pass pass
  | launch stage => exact h.launches hs stage
  | complete stage | overcome stage =>
    refine h.tells rfl rfl rfl rfl fun n hn => ?_
    rcases NameSet.mem_insert.1 hn with rfl | hn
    · exact Or.inr rfl
    · exact Or.inl hn
  | fail stage | refuse stage | succeed stage =>
    exact h.tells rfl rfl rfl rfl fun n hn => Or.inl hn
  | starve stage | reject stage | begin stage | takeUp stage | overlook stage | refuseLate stage =>
    exact h.silent rfl rfl rfl rfl

end Announced

/-- **It holds of every scene that is reached.** -/
theorem Reached.announced {env : Orchestrator} {may : Run → Prop} {s : Scene}
    (h : Reached env may s) : s.Announced := by
  induction h with
  | start valid =>
    have hnone : ∀ w : Workflow, w.Barrier [] := fun w pre _ _ _ heq => by
      cases pre <;> cases heq
    exact ⟨rfl, fun n hn => absurd hn (NameSet.notMem_empty n),
      (hnone _).append fun n hn => by cases hn⟩
  | turn before turn ih => exact ih.turn before.sound turn
  | stop before running rest ih => exact ih.tells rfl rfl rfl rfl fun n hn => Or.inl hn

end Scene

namespace World

/-- **A run dispatches its tasks by depth.**  Whatever has been registered, loaded,
started, stopped and answered, in any order: no task is started twice; a task is
started in the round of its depth; in each round the tasks are started in the order
of their definition; the tasks that lie less deep than the last round are started
and completed; and a listener is told of no start before the starts and the outcomes
of all tasks that lie less deep.  Of a job that is completed, all tasks have been
started and the completed tasks are exactly the tasks of the workflow. -/
theorem dispatched_by_depth (registry : Registry) (settings : EngineSettings) (listening : Bool)
    (moves : List Move) (id : String) (c : Course)
    (h : ((initial registry settings listening).play moves).courses.get? id = some c) :
    ∃ j, ((initial registry settings listening).play moves).orchestrator.job? id = some j ∧
      (∀ t ∈ c.workflow.tasks,
        c.workflow.depth t.name = greatest c.workflow.depth t.dependencies.names + 1) ∧
      (c.started.map (·.2.name)).Nodup ∧
      (∀ x ∈ c.started, x.1 ≤ c.rounds ∧
        ∃ t ∈ c.workflow.tasks, t.name = x.2.name ∧ c.workflow.depth t.name = x.1) ∧
      (∀ k, ((c.started.filter fun x => x.1 = k).map (·.2.name))
        <+: (c.workflow.layer k).map (·.name)) ∧
      (∀ t ∈ c.workflow.tasks, c.workflow.depth t.name < c.rounds →
        t.name ∈ c.started.map (·.2.name) ∧ t.name ∈ j.completedTasks) ∧
      (j.status = .completed →
        (∀ t ∈ c.workflow.tasks, t.name ∈ c.started.map (·.2.name)) ∧
          ∀ n, n ∈ j.completedTasks ↔ ∃ t ∈ c.workflow.tasks, t.name = n) ∧
      (listening →
        (((initial registry settings listening).play moves).orchestrator.told id).filterMap
            JobEvent.starts? = c.started.map (·.2.name) ∧
          c.workflow.Barrier
            (((initial registry settings listening).play moves).orchestrator.told id)) := by
  obtain ⟨-, j, told, hj, hreach, htold⟩ :=
    reached_of_play (fun _ => True) (fun _ _ _ _ _ _ => trivial) h
  have hs : Scene.Sound ⟨j, c, told⟩ := hreach.sound
  have hw : c.workflow.WellFormed := hs.wellFormed
  have hstarted : Scene.started ⟨j, c, told⟩ = c.started.map fun x => (x.1, x.2.name) := rfl
  have hnames : (Scene.started ⟨j, c, told⟩).map (·.2) = c.started.map (·.2.name) := by
    rw [hstarted, List.map_map]
    rfl
  have hmem : ∀ t ∈ c.workflow.tasks, ∀ k, c.workflow.schedule k <+: Scene.started ⟨j, c, told⟩ →
      c.workflow.depth t.name ≤ k → t.name ∈ c.started.map (·.2.name) := fun t ht k hk hle => by
    rw [← hnames]
    exact List.mem_map_of_mem (hk.subset (hw.mem_schedule_of_depth ht hle))
  refine ⟨j, hj, fun t ht => hw.depth_eq ht, ?_, fun x hx => ?_, fun k => ?_, fun t ht hlt => ?_,
    fun hdone => ?_, fun hl => ?_⟩
  · rw [← hnames]
    exact (hw.nodup_schedule c.rounds).sublist (hs.inOrder.sublist.map _)
  · have hx : (x.1, x.2.name) ∈ Scene.started ⟨j, c, told⟩ := List.mem_map.2 ⟨x, hx, rfl⟩
    obtain ⟨hle, t, ht, hname, hdepth⟩ := Workflow.mem_schedule (hs.inOrder.subset hx)
    exact ⟨hle, t, ht, hname, hdepth⟩
  · have hround := (hs.inOrder.filter fun x => x.1 = k).trans (Workflow.filter_schedule k _)
    have hmap := hround.map (·.2)
    rw [hstarted, List.filter_map, List.map_map, List.map_map] at hmap
    exact hmap
  · exact ⟨hmem t ht _ hs.begun (Nat.le_sub_one_of_lt hlt), hs.settled t ht hlt⟩
  · obtain ⟨hall, hin⟩ := hs.whole hdone
    have hprefix : c.workflow.schedule c.rounds <+: Scene.started ⟨j, c, told⟩ :=
      ⟨[], (List.append_nil _).trans hall.symm⟩
    refine ⟨fun t ht => hmem t ht c.rounds hprefix (hin t ht).1, fun n => ?_⟩
    constructor
    · exact hs.named n
    · rintro ⟨t, ht, rfl⟩
      exact (hin t ht).2
  · rw [htold hl]
    exact ⟨hreach.announced.started.trans hnames, hreach.announced.barrier⟩

/-- In the sample, three tasks are dispatched in two rounds, and the job is completed. -/
theorem dispatched_by_depth_sample :
    ∃ c j, (Sample.world (Sample.firstRound ++ Sample.secondRound)).courses.get? "job" = some c ∧
      (Sample.world (Sample.firstRound ++ Sample.secondRound)).orchestrator.job? "job" = some j ∧
      c.started.map (fun x => (x.1, x.2.name)) = [(1, "survey"), (1, "probe"), (2, "summary")] ∧
      (c.started.map (·.2.name)).Nodup ∧
      (∀ n, n ∈ j.completedTasks ↔ ∃ t ∈ c.workflow.tasks, t.name = n) ∧
      c.workflow.Barrier
        ((Sample.world (Sample.firstRound ++ Sample.secondRound)).orchestrator.told "job") := by
  have hstarted :
      ((Sample.world (Sample.firstRound ++ Sample.secondRound)).courses.get? "job").map
        (fun c => c.started.map fun x => (x.1, x.2.name))
      = some [(1, "survey"), (1, "probe"), (2, "summary")] := rfl
  have hstatus :
      ((Sample.world (Sample.firstRound ++ Sample.secondRound)).orchestrator.job? "job").map
        (·.status) = some .completed := rfl
  obtain ⟨c, hc, hlist⟩ := Option.map_eq_some_iff.1 hstarted
  obtain ⟨j, hj, -, hnodup, -, -, -, hwhole, htold⟩ :=
    dispatched_by_depth (.ofList [Sample.worker]) {} true
      (Sample.moves (Sample.firstRound ++ Sample.secondRound)) "job" c hc
  obtain ⟨k, hk, hdone⟩ := Option.map_eq_some_iff.1 hstatus
  cases hj.symm.trans hk
  exact ⟨c, j, hc, hj, hlist, hnodup, (hwhole hdone).2, (htold rfl).2⟩

end World
end Runbook
