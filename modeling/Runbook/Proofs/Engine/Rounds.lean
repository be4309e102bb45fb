/-
# Rounds

A run goes through its workflow depth by depth.  What it starts is a beginning of
the schedule of its workflow, and what is kept of that at every stage is
`Scene.Sound`.  The heart of it is that while the rounds are under way, the
completed tasks are those of the depths so far but for the ones that are still out
(`Scene.UnderWay`), so that the tasks which are ready next are those of the next
depth (`split_eq`).
-/

import Mathlib.Data.List.Perm.Basic
import Runbook.Proofs.Engine.Track
import Runbook.Proofs.Workflow.Depth

namespace Runbook

namespace Scene

/-- **The rounds are under way.**  What is pending lies deeper than the rounds so
far; what is started and what is ready make up the schedule; what is still out
belongs to this round; and of the depths so far, all else is completed. -/
structure UnderWay (s : Scene) (pending : List Task) : Prop where
  pending : pending = s.workflow.above s.rounds
  started : s.started ++ s.stage.ready.map (fun p => (s.rounds, p.name))
    = s.workflow.schedule s.rounds
  count : s.stage.count = s.course.inFlight.length
  nodup : s.outstanding.Nodup
  layer : ∀ n ∈ s.outstanding, ∃ t ∈ s.workflow.layer s.rounds, t.name = n
  completed : s.job.isTerminal = false → ∀ t ∈ s.workflow.tasks,
    t.name ∈ s.job.completedTasks ↔ s.workflow.depth t.name ≤ s.rounds ∧ t.name ∉ s.outstanding

/-- **What is kept at every stage.**  What is started is a beginning of the
schedule; the depths before the last round are started and completed throughout;
and an error that the run has met is about one of its tasks. -/
structure Sound (s : Scene) : Prop where
  wellFormed : s.workflow.WellFormed
  reached : s.rounds = 0 ∨ ∃ t ∈ s.workflow.tasks, s.workflow.depth t.name = s.rounds
  begun : s.workflow.schedule (s.rounds - 1) <+: s.started
  inOrder : s.started <+: s.workflow.schedule s.rounds
  settled : ∀ t ∈ s.workflow.tasks, s.workflow.depth t.name < s.rounds →
    t.name ∈ s.job.completedTasks
  named : ∀ n ∈ s.job.completedTasks, ∃ t ∈ s.workflow.tasks, t.name = n
  underWay : ∀ pending, s.stage.pending? = some pending → s.UnderWay pending
  error : ∀ e, s.stage.error? = some e → e.task? ≠ none
  whole : s.job.status = .completed → s.started = s.workflow.schedule s.rounds ∧
    ∀ t ∈ s.workflow.tasks, s.workflow.depth t.name ≤ s.rounds ∧ t.name ∈ s.job.completedTasks

variable {s s' : Scene}

namespace UnderWay

variable {pending : List Task}

/-- Only the place of the tasks changes: what is started or ready, what is out and
what is completed stay the same. -/
theorem moved (h : s.UnderWay pending) (hw : s'.workflow = s.workflow)
    (hr : s'.rounds = s.rounds)
    (hs : s'.started ++ s'.stage.ready.map (fun p => (s.rounds, p.name))
      = s.started ++ s.stage.ready.map (fun p => (s.rounds, p.name)))
    (hn : s'.stage.count = s'.course.inFlight.length)
    (ho : s'.outstanding.Perm s.outstanding)
    (hc : s'.job.isTerminal = false →
      s.job.isTerminal = false ∧ s'.job.completedTasks = s.job.completedTasks) :
    s'.UnderWay pending := by
  refine ⟨?_, ?_, hn, ?_, fun n hmem => ?_, fun hrun t ht => ?_⟩
  · rw [hw, hr]
    exact h.pending
  · rw [hw, hr, hs]
    exact h.started
  · exact ho.nodup_iff.2 h.nodup
  · rw [hw, hr]
    exact h.layer n (ho.mem_iff.1 hmem)
  · obtain ⟨hrun', hsame⟩ := hc hrun
    rw [hw] at ht ⊢
    rw [hr, hsame, ho.mem_iff]
    exact h.completed hrun' t ht

/-- One task that was out is recorded as completed. -/
theorem recorded (h : s.UnderWay pending) (hw : s'.workflow = s.workflow)
    (hr : s'.rounds = s.rounds)
    (hs : s'.started ++ s'.stage.ready.map (fun p => (s.rounds, p.name))
      = s.started ++ s.stage.ready.map (fun p => (s.rounds, p.name)))
    (hn : s'.stage.count = s'.course.inFlight.length) {n : String}
    (ho : s.outstanding = n :: s'.outstanding)
    (hc : s'.job.isTerminal = false →
      s.job.isTerminal = false ∧ s'.job.completedTasks = s.job.completedTasks.insert n) :
    s'.UnderWay pending := by
  have hnodup := h.nodup
  rw [ho, List.nodup_cons] at hnodup
  refine ⟨?_, ?_, hn, hnodup.2, fun m hmem => ?_, fun hrun t ht => ?_⟩
  · rw [hw, hr]
    exact h.pending
  · rw [hw, hr, hs]
    exact h.started
  · rw [hw, hr]
    exact h.layer m (by rw [ho]; exact List.mem_cons_of_mem n hmem)
  · obtain ⟨hrun', hsame⟩ := hc hrun
    rw [hw] at ht ⊢
    have hiff := h.completed hrun' t ht
    rw [ho, List.mem_cons, not_or] at hiff
    rw [hr, hsame, NameSet.mem_insert, hiff]
    constructor
    · rintro (rfl | ⟨hle, -, hout⟩)
      · obtain ⟨u, hu, hname⟩ := h.layer t.name (by rw [ho]; exact List.mem_cons_self)
        obtain ⟨-, hdepth⟩ := Workflow.mem_layer.1 hu
        rw [hname] at hdepth
        exact ⟨Nat.le_of_eq hdepth, hnodup.1⟩
      · exact ⟨hle, hout⟩
    · rintro ⟨hle, hout⟩
      by_cases he : t.name = n
      · exact Or.inl he
      · exact Or.inr ⟨hle, he, hout⟩

/-- Between two rounds nothing is out, and all depths so far are started. -/
theorem between (h : s.UnderWay pending) (hb : s.stage.isBetween) :
    s.outstanding = [] ∧ s.started = s.workflow.schedule s.rounds ∧ s.course.inFlight = [] := by
  obtain ⟨hready, hreturned, hcount⟩ := Stage.of_isBetween hb
  have hstarted := h.started
  have hlen := h.count
  rw [hready, List.map_nil, List.append_nil] at hstarted
  rw [hcount] at hlen
  have hflight : s.course.inFlight = [] := List.length_eq_zero_iff.1 hlen.symm
  refine ⟨?_, hstarted, hflight⟩
  rw [outstanding, hready, hreturned, hflight]
  rfl

/-- Between two rounds exactly the depths so far are completed. -/
theorem completed_iff (h : s.UnderWay pending) (ho : s.outstanding = [])
    (running : s.job.isTerminal = false) {t : Task} (ht : t ∈ s.workflow.tasks) :
    t.name ∈ s.job.completedTasks ↔ s.workflow.depth t.name ≤ s.rounds := by
  rw [h.completed running t ht, ho]
  exact and_iff_left List.not_mem_nil

/-- **The tasks that are ready for a round are those of the next depth.** -/
theorem split_eq (h : s.UnderWay pending) (hw : s.workflow.WellFormed)
    (stage : s.stage = .round pending) (running : s.job.isTerminal = false) :
    s.split pending
      = (s.workflow.layer (s.rounds + 1), s.workflow.above (s.rounds + 1)) := by
  obtain ⟨ho, -⟩ := h.between (by rw [stage]; rfl)
  rw [Scene.split, h.pending]
  exact hw.partition_above fun t ht => h.completed_iff ho running ht

/-- **A round with tasks left has one that is ready.** -/
theorem ready_ne_nil (h : s.UnderWay pending) (hw : s.workflow.WellFormed)
    (stage : s.stage = .round pending) (running : s.job.isTerminal = false)
    (left : pending ≠ []) : (s.split pending).1 ≠ [] := by
  rw [h.split_eq hw stage running]
  obtain ⟨t, ht⟩ := List.exists_mem_of_ne_nil pending left
  rw [h.pending] at ht
  obtain ⟨hmem, hdepth⟩ := Workflow.mem_above.1 ht
  exact hw.layer_ne_nil hmem hdepth

/-- **The next round is under way** with all tasks of its depth ready, and with them
out, exactly the depths before it are completed. -/
theorem begins (h : s.UnderWay pending) (hw : s.workflow.WellFormed)
    (stage : s.stage = .round pending) (running : s.job.isTerminal = false)
    {ps : List Prepared} (hnames : ps.map (·.name) = (s.split pending).1.map (·.name)) :
    UnderWay { s with course := s.course.beginRound.enter (.starting ps 0 (s.split pending).2) }
      (s.split pending).2 := by
  obtain ⟨ho, hall, hflight⟩ := h.between (by rw [stage]; rfl)
  have hsplit := h.split_eq hw stage running
  rw [hsplit] at hnames
  have hout : outstanding
      { s with course := s.course.beginRound.enter (.starting ps 0 (s.split pending).2) }
      = (s.workflow.layer (s.rounds + 1)).map (·.name) := by
    rw [← hnames]
    exact congrArg (· ++ ps.map (·.name)) (congrArg (List.map (·.name)) hflight)
  refine ⟨?_, ?_, (congrArg List.length hflight).symm, ?_, fun n hn => ?_, fun _ t ht => ?_⟩
  · rw [hsplit]
    rfl
  · have hkeys : ps.map (fun p => (s.rounds + 1, p.name))
        = (s.workflow.layer (s.rounds + 1)).map fun t => (s.rounds + 1, t.name) := by
      have := congrArg (List.map fun n => (s.rounds + 1, n)) hnames
      rwa [List.map_map, List.map_map] at this
    show s.started ++ ps.map (fun p => (s.rounds + 1, p.name))
      = s.workflow.schedule s.rounds ++ _
    rw [hall, hkeys]
    rfl
  · rw [hout]
    exact hw.nodup_layer (s.rounds + 1)
  · rw [hout] at hn
    exact List.mem_map.1 hn
  · have hlayer : t.name ∈ (s.workflow.layer (s.rounds + 1)).map (·.name) ↔
        s.workflow.depth t.name = s.rounds + 1 := by
      rw [List.mem_map]
      constructor
      · rintro ⟨u, hu, hname⟩
        rw [← hname]
        exact (Workflow.mem_layer.1 hu).2
      · exact fun hdepth => ⟨t, Workflow.mem_layer.2 ⟨ht, hdepth⟩, rfl⟩
    rw [hout, hlayer]
    show t.name ∈ s.job.completedTasks ↔ s.workflow.depth t.name ≤ s.rounds + 1 ∧ _
    rw [h.completed_iff ho running ht]
    omega

end UnderWay

/-- Nothing has happened that concerns the rounds. -/
structure SameRounds (s s' : Scene) : Prop where
  workflow : s'.workflow = s.workflow
  rounds : s'.rounds = s.rounds
  started : s'.started = s.started
  completed : s'.job.completedTasks = s.job.completedTasks
  status : s'.job.status = .completed → s.job.status = .completed

namespace Sound

/-- The run goes on without starting, completing or beginning anything. -/
theorem same (h : s.Sound) (hs : s.SameRounds s')
    (hu : ∀ pending, s'.stage.pending? = some pending → s'.UnderWay pending)
    (he : ∀ e, s'.stage.error? = some e → e.task? ≠ none) : s'.Sound := by
  obtain ⟨hw, hr, hst, hc, hd⟩ := hs
  refine ⟨?_, ?_, ?_, ?_, ?_, ?_, hu, he, fun hdone => ?_⟩
  · rw [hw]
    exact h.wellFormed
  · rw [hw, hr]
    exact h.reached
  · rw [hw, hr, hst]
    exact h.begun
  · rw [hw, hr, hst]
    exact h.inOrder
  · rw [hw, hr, hc]
    exact h.settled
  · rw [hw, hc]
    exact h.named
  · rw [hw, hr, hst, hc]
    exact h.whole (hd hdone)

/-- The run leaves its rounds. -/
theorem leaves (h : s.Sound) (hs : s.SameRounds s') (hp : s'.stage.pending? = none)
    (he : ∀ e, s'.stage.error? = some e → e.task? ≠ none) : s'.Sound :=
  h.same hs (fun pending hu => by rw [hp] at hu; cases hu) he

/-- A pass keeps it. -/
theorem frame (h : s.Sound) (hf : s.Frame s') : s'.Sound := by
  refine h.same ⟨hf.workflow, hf.past.rounds, hf.started, hf.record.completed, hf.whole⟩
    (fun pending hu => ?_) fun e he => h.error e (hf.error e he)
  rcases hf.round with hnone | ⟨hp, hready, hcount, hflight, hstatus⟩
  · rw [hnone] at hu
    cases hu
  · have hway := h.underWay pending (hp.symm.trans hu)
    refine hway.moved hf.workflow hf.past.rounds ?_ ?_ (List.Perm.of_eq ?_) fun hrun => ⟨?_, ?_⟩
    · rw [hf.started, hready]
    · rw [hcount, hflight]
      exact hway.count
    · rw [outstanding, outstanding, hf.returned, hf.returned', hready, hflight]
    · rw [Job.isTerminal, hstatus] at hrun
      exact hrun
    · exact hf.record.completed

/-- One task that was out is completed. -/
theorem completes (h : s.Sound) (hw : s'.workflow = s.workflow) (hr : s'.rounds = s.rounds)
    (hs : s'.started = s.started) {n : String}
    (hn : ∃ t ∈ s.workflow.layer s.rounds, t.name = n)
    (hc : s'.job.completedTasks = s.job.completedTasks.insert n)
    (hd : s'.job.status = .completed → s.job.status = .completed)
    (hu : ∀ pending, s'.stage.pending? = some pending → s'.UnderWay pending)
    (he : ∀ e, s'.stage.error? = some e → e.task? ≠ none) : s'.Sound := by
  refine ⟨?_, ?_, ?_, ?_, fun t ht hlt => ?_, fun m hm => ?_, hu, he, fun hdone => ?_⟩
  · rw [hw]
    exact h.wellFormed
  · rw [hw, hr]
    exact h.reached
  · rw [hw, hr, hs]
    exact h.begun
  · rw [hw, hr, hs]
    exact h.inOrder
  · rw [hw, hr] at hlt
    rw [hw] at ht
    rw [hc]
    exact NameSet.mem_insert.2 (Or.inr (h.settled t ht hlt))
  · rw [hc] at hm
    rw [hw]
    rcases NameSet.mem_insert.1 hm with rfl | hm
    · obtain ⟨t, ht, rfl⟩ := hn
      exact ⟨t, (Workflow.mem_layer.1 ht).1, rfl⟩
    · exact h.named m hm
  · obtain ⟨hall, hin⟩ := h.whole (hd hdone)
    rw [hw, hr, hs, hc]
    exact ⟨hall, fun t ht => ⟨(hin t ht).1, NameSet.mem_insert.2 (Or.inr (hin t ht).2)⟩⟩

/-- **A round begins.**  All depths before it are started and completed. -/
theorem nextRound (h : s.Sound) {pending : List Task} (stage : s.stage = .round pending)
    (running : s.job.isTerminal = false) (ready : (s.split pending).1 ≠ []) {next : Stage}
    (hu : ∀ pending, next.pending? = some pending →
      UnderWay { s with course := s.course.beginRound.enter next } pending)
    (he : ∀ e, next.error? = some e → e.task? ≠ none) :
    Sound { s with course := s.course.beginRound.enter next } := by
  have hway := h.underWay pending (by rw [stage]; rfl)
  obtain ⟨ho, hall, -⟩ := hway.between (by rw [stage]; rfl)
  rw [hway.split_eq h.wellFormed stage running] at ready
  obtain ⟨t, ht⟩ := List.exists_mem_of_ne_nil _ ready
  obtain ⟨hmem, hdepth⟩ := Workflow.mem_layer.1 ht
  refine ⟨h.wellFormed, Or.inr ⟨t, hmem, hdepth⟩, ?_, ?_, fun t ht hlt => ?_, h.named, hu, he,
    fun hdone => ?_⟩
  · exact ⟨[], (List.append_nil _).trans hall.symm⟩
  · show s.started <+: s.workflow.schedule (s.rounds + 1)
    rw [hall]
    exact Workflow.schedule_prefix (Nat.le_succ _)
  · exact (hway.completed_iff ho running ht).2 (Nat.le_of_lt_succ hlt)
  · exact absurd hdone (Job.not_completed running)

/-- All tasks of a round are ready. -/
theorem begins (h : s.Sound) {env : Orchestrator} {pending : List Task} {ps : List Prepared}
    (stage : s.stage = .round pending) (running : s.job.isTerminal = false)
    (ready : (s.split pending).1 ≠ [])
    (prepared : env.prepareAll s.id s.scope (s.split pending).1 = .ok ps) :
    Sound { s with course := s.course.beginRound.enter (.starting ps 0 (s.split pending).2) } := by
  have hway := h.underWay pending (by rw [stage]; rfl)
  refine h.nextRound stage running ready (fun _ hu => ?_) fun _ he => by cases he
  cases hu
  exact hway.begins h.wellFormed stage running (Orchestrator.map_name_of_prepareAll prepared)

/-- A task is started. -/
theorem launches (h : s.Sound) {p : Prepared} {ready : List Prepared} {n : Nat}
    {pending : List Task} (stage : s.stage = .starting (p :: ready) n pending)
    (es : List JobEvent) :
    Sound
      { job := s.job.startTask p.name
        course := (s.course.startTask p).enter (.starting ready (n + 1) pending)
        told := s.told ++ es } := by
  have hway := h.underWay pending (by rw [stage]; rfl)
  have hstarted := hway.started
  rw [stage] at hstarted
  have hkeys : (s.course.started ++ [(s.course.rounds, p)]).map (fun x => (x.1, x.2.name))
      = s.started ++ [(s.rounds, p.name)] := List.map_append
  have hsame : (s.course.started ++ [(s.course.rounds, p)]).map (fun x => (x.1, x.2.name))
      ++ ready.map (fun p => (s.rounds, p.name)) = s.workflow.schedule s.rounds := by
    rw [hkeys, List.append_assoc]
    exact hstarted
  refine ⟨h.wellFormed, h.reached, ?_, ?_, h.settled, h.named, fun _ hu => ?_,
    (fun _ he => by cases he), fun hdone => ?_⟩
  · refine h.begun.trans ?_
    show s.started <+: (s.course.started ++ [(s.course.rounds, p)]).map _
    rw [hkeys]
    exact List.prefix_append _ _
  · exact ⟨_, hsame⟩
  · cases hu
    refine hway.moved rfl rfl ?_ ?_ ?_ fun hrun => ⟨hrun, rfl⟩
    · rw [hway.started]
      exact hsame
    · have hcount := hway.count
      rw [stage] at hcount
      show n + 1 = (s.course.inFlight ++ [p]).length
      rw [List.length_append, ← hcount]
      rfl
    · refine List.Perm.of_eq ?_
      rw [outstanding, outstanding, stage]
      show (s.course.inFlight ++ [p]).map _ ++ ready.map _ = s.course.inFlight.map _ ++ _
      rw [List.map_append, List.append_assoc]
      rfl
  · obtain ⟨hall, -⟩ := h.whole hdone
    rw [hall] at hstarted
    have hlen := congrArg List.length hstarted
    rw [List.length_append, List.length_map] at hlen
    change _ + (ready.length + 1) = _ at hlen
    omega

/-- An outcome comes in. -/
theorem takesUp (h : s.Sound) {p : Prepared} {e : Option AttemptEnd} {n : Nat}
    {pending : List Task} (stage : s.stage = .waiting (n + 1) pending)
    (flight : p ∈ s.course.inFlight) :
    Sound
      { s with
        job := s.job.endTask p.name
        course := (s.course.takeUp p e).enter (.recording (p.outcomeOf e) n pending) } := by
  have hway := h.underWay pending (by rw [stage]; rfl)
  refine h.same ⟨rfl, rfl, rfl, rfl, fun hd => hd⟩ (fun _ hu => ?_) fun err he => ?_
  · cases hu
    refine hway.moved rfl rfl ?_ ?_ ?_ fun hrun => ⟨hrun, rfl⟩
    · rw [stage]
      rfl
    · have hcount := hway.count
      have hland := Course.length_land flight
      rw [stage] at hcount
      change n + 1 = _ at hcount
      show n = (s.course.land p).inFlight.length
      omega
    · have hland := s.course.map_name_land p
      rw [outstanding, outstanding, stage]
      show ((p.outcomeOf e).task :: ((s.course.land p).inFlight.map _ ++ [])).Perm
        (s.course.inFlight.map _ ++ [])
      rw [List.append_nil, List.append_nil, hland, p.task_outcomeOf]
      exact (List.perm_cons_erase (List.mem_map_of_mem flight)).symm
  · rw [Prepared.task?_of_outcomeOf (Stage.error?_recording.1 he)]
    exact Option.some_ne_none _

/-- A task that was out is recorded as completed, and the run waits again. -/
theorem records (h : s.Sound) {oc : Outcome} {n : Nat} {pending : List Task}
    (stage : s.stage = .recording oc n pending) {j : Job} {es : List JobEvent}
    (hc : j.completedTasks = s.job.completedTasks.insert oc.task)
    (hd : j.status = s.job.status) :
    Sound { job := j, course := s.course.enter (.waiting n pending), told := s.told ++ es } := by
  have hway := h.underWay pending (by rw [stage]; rfl)
  have hcount := hway.count
  rw [stage] at hcount
  have ho : s.outstanding = oc.task :: (s.course.inFlight.map (·.name) ++ []) := by
    rw [outstanding, stage]
    rfl
  refine h.completes rfl rfl rfl (hway.layer oc.task (by rw [ho]; exact List.mem_cons_self)) hc
    (fun hdone => hd ▸ hdone) (fun _ hu => ?_) fun _ he => by cases he
  cases hu
  refine hway.recorded rfl rfl (by rw [stage]; rfl) hcount ho fun hrun => ⟨?_, hc⟩
  rw [Job.isTerminal, hd] at hrun
  exact hrun

/-- A failure is not recorded, because the job has ended. -/
theorem overlooks (h : s.Sound) {oc : Outcome} {e : ExecutionError} {n : Nat}
    {pending : List Task} (stage : s.stage = .recording oc n pending)
    (result : oc.result = .error e) (terminal : s.job.isTerminal) {continued : Bool} :
    (s.enter (if continued then .waiting n pending else .failing e)).Sound := by
  have hway := h.underWay pending (by rw [stage]; rfl)
  cases continued with
  | true =>
    refine h.same ⟨rfl, rfl, rfl, rfl, fun hd => hd⟩ (fun _ hu => ?_) fun _ he => by cases he
    cases hu
    have hcount := hway.count
    rw [stage] at hcount
    have ho : s.outstanding = oc.task :: (s.course.inFlight.map (·.name) ++ []) := by
      rw [outstanding, stage]
      rfl
    refine hway.recorded rfl rfl (by rw [stage]; rfl) hcount ho fun hrun => ?_
    have hrun : s.job.isTerminal = false := hrun
    rw [terminal] at hrun
    cases hrun
  | false =>
    refine h.leaves ⟨rfl, rfl, rfl, rfl, fun hd => hd⟩ rfl fun _ he => ?_
    cases he
    exact h.error _ (by rw [stage]; exact Stage.error?_recording.2 result)

/-- The job is completed, and all of its tasks are. -/
theorem succeeds (h : s.Sound) (stage : s.stage = .completing)
    (running : s.job.isTerminal = false) {now : Instant} {es : List JobEvent} {report : Bool} :
    Sound
      { job := s.job.endedAs .completed now
        course := s.course.enter (if report then .reporting else .leaving)
        told := s.told ++ es } := by
  have hway := h.underWay [] (by rw [stage]; rfl)
  obtain ⟨ho, hall, -⟩ := hway.between (by rw [stage]; rfl)
  have hnext : (if report then Stage.reporting else .leaving).pending? = none ∧
      (if report then Stage.reporting else .leaving).error? = none := by
    cases report <;> exact ⟨rfl, rfl⟩
  refine ⟨h.wellFormed, h.reached, h.begun, h.inOrder, h.settled, h.named, fun _ hu => ?_,
    fun _ he => ?_, fun _ => ⟨hall, fun t ht => ?_⟩⟩
  · exact absurd (hnext.1.symm.trans hu) nofun
  · exact absurd (hnext.2.symm.trans he) nofun
  · have hle : s.workflow.depth t.name ≤ s.rounds := by
      by_contra hlt
      have hleft : t ∈ s.workflow.above s.rounds :=
        Workflow.mem_above.2 ⟨ht, Nat.lt_of_not_le hlt⟩
      rw [← hway.pending] at hleft
      exact absurd hleft List.not_mem_nil
    exact ⟨hle, (hway.completed_iff ho running ht).2 hle⟩

/-- A round with tasks left has one that is ready. -/
theorem ready_ne_nil (h : s.Sound) {pending : List Task} (stage : s.stage = .round pending)
    (running : s.job.isTerminal = false) (left : pending ≠ []) : (s.split pending).1 ≠ [] :=
  (h.underWay pending (by rw [stage]; rfl)).ready_ne_nil h.wellFormed stage running left

/-- **A turn keeps it.** -/
theorem turn (h : s.Sound) {env : Orchestrator} (ht : Turn env s s') : s'.Sound := by
  cases ht with
  | pass pass => exact h.frame pass.frame
  | starve stage left running none_ready =>
    exact absurd none_ready (h.ready_ne_nil stage running left)
  | reject stage running ready prepared =>
    refine h.nextRound stage running ready (fun _ hu => by cases hu) fun _ he => ?_
    cases he
    rw [(Orchestrator.error_of_prepare (Orchestrator.rejected_of_prepareAll prepared).2).1]
    exact Option.some_ne_none _
  | begin stage running ready prepared => exact h.begins stage running ready prepared
  | launch stage => exact h.launches stage _
  | takeUp stage flight running => exact h.takesUp stage flight
  | complete stage result => exact h.records stage rfl rfl
  | overcome stage result continued running => exact h.records stage rfl rfl
  | fail stage result continued running =>
    refine h.leaves ⟨rfl, rfl, rfl, rfl, fun hd => hd⟩ rfl fun _ he => ?_
    cases he
    exact h.error _ (by rw [stage]; exact Stage.error?_recording.2 result)
  | overlook stage result terminal => exact h.overlooks stage result terminal
  | refuse stage running =>
    refine h.leaves ⟨rfl, rfl, rfl, rfl, fun hd => hd⟩ rfl fun _ he => ?_
    cases he
    exact h.error _ (by rw [stage]; rfl)
  | refuseLate stage terminal =>
    refine h.leaves ⟨rfl, rfl, rfl, rfl, fun hd => hd⟩ rfl fun _ he => ?_
    cases he
    exact h.error _ (by rw [stage]; rfl)
  | succeed stage running => exact h.succeeds stage running

/-- A stop keeps it. -/
theorem stops (h : s.Sound) (now : Instant) : (s.stop now).Sound := by
  refine h.same ⟨rfl, rfl, rfl, rfl, fun hd => by cases hd⟩ (fun pending hu => ?_) h.error
  have hway := h.underWay pending hu
  exact hway.moved rfl rfl rfl hway.count (List.Perm.refl _) fun hrun => by cases hrun

/-- It holds of a job that has just been started. -/
theorem starts {w : Workflow} (valid : w.validate.valid) (id : String) (parameters : Dict Json)
    (now : Instant) : (Scene.start w id parameters now).Sound := by
  have hw := Workflow.wellFormed_of_valid valid
  refine ⟨hw, Or.inl rfl, List.prefix_rfl, List.prefix_rfl, fun _ _ hlt => ?_, fun n hn => ?_,
    fun _ hu => ?_, (fun _ he => by cases he), fun hd => by cases hd⟩
  · exact absurd hlt (Nat.not_lt_zero _)
  · exact absurd hn (NameSet.notMem_empty n)
  · cases hu
    refine ⟨hw.above_zero.symm, rfl, rfl, List.nodup_nil, fun _ hn => ?_, fun _ t ht => ?_⟩
    · exact absurd hn List.not_mem_nil
    · have hpos := hw.depth_pos ht
      constructor
      · exact fun hn => absurd hn (NameSet.notMem_empty t.name)
      · exact fun hle => absurd hpos (Nat.not_lt.2 hle.1)

end Sound

/-- **It holds of every scene that is reached.** -/
theorem Reached.sound {env : Orchestrator} {may : Run → Prop} (h : Reached env may s) :
    s.Sound := by
  induction h with
  | start valid => exact Sound.starts valid _ _ _
  | turn before turn ih => exact ih.turn turn
  | stop before running rest ih => exact ih.stops _

end Scene

namespace World

/-- **A run makes progress.**  Whatever has been registered, loaded, started,
stopped and answered, in any order: whenever a run is about to begin a round, its
job is running and tasks are left, one of them is ready.  So it begins no more
rounds than there are tasks, and it does not end with the error that no dependency
can be met, nor with one about a job that is unknown or in the wrong state. -/
theorem progress (registry : Registry) (settings : EngineSettings) (listening : Bool)
    (moves : List Move) (id : String) (c : Course)
    (h : ((initial registry settings listening).play moves).courses.get? id = some c) :
    ∃ j, ((initial registry settings listening).play moves).orchestrator.job? id = some j ∧
      (∀ pending, c.run.stage = .round pending → pending ≠ [] → j.status = .running →
        ∃ t ∈ pending, t.isReady j.completedTasks) ∧
      c.rounds ≤ c.workflow.tasks.length ∧
      ∀ e, c.run.stage = .ended (.error e) →
        (∀ names, e ≠ .unresolvedDependency names) ∧ (∀ id, e ≠ .jobNotFound id) ∧
          ∀ id status, e ≠ .invalidJobState id status := by
  obtain ⟨-, j, told, hj, hreach, -⟩ :=
    reached_of_play (fun _ => True) (fun _ _ _ _ _ _ => trivial) h
  have hs : Scene.Sound ⟨j, c, told⟩ := hreach.sound
  refine ⟨j, hj, fun pending stage left hrun => ?_, ?_, fun e stage => ?_⟩
  · have hne := hs.ready_ne_nil stage (Job.isTerminal_eq_false.2 hrun) left
    obtain ⟨t, ht⟩ := List.exists_mem_of_ne_nil _ hne
    rw [Scene.split, List.partition_eq_filter_filter] at ht
    exact ⟨t, (List.mem_filter.1 ht).1, (List.mem_filter.1 ht).2⟩
  · rcases hs.reached with hzero | ⟨t, ht, hdepth⟩
    · have hzero : c.rounds = 0 := hzero
      omega
    · have hdepth : c.workflow.depth t.name = c.rounds := hdepth
      rw [← hdepth]
      exact hs.wellFormed.depth_le_length t.name
  · have herr := hs.error e (congrArg Stage.error? stage)
    refine ⟨fun names he => ?_, fun id he => ?_, fun id status he => ?_⟩ <;>
    · rw [he] at herr
      exact herr rfl

/-- In the sample, the second round is about to begin with a task that is ready. -/
theorem progress_sample :
    ∃ c j, (Sample.world Sample.firstRound).courses.get? "job" = some c ∧
      (Sample.world Sample.firstRound).orchestrator.job? "job" = some j ∧
      (∃ t ∈ [Sample.task "summary" ["survey", "probe"]], t.isReady j.completedTasks) ∧
      c.rounds ≤ c.workflow.tasks.length := by
  have hstage : ((Sample.world Sample.firstRound).courses.get? "job").map (·.run.stage)
      = some (.round [Sample.task "summary" ["survey", "probe"]]) := rfl
  have hstatus : ((Sample.world Sample.firstRound).orchestrator.job? "job").map (·.status)
      = some .running := rfl
  obtain ⟨c, hc, hround⟩ := Option.map_eq_some_iff.1 hstage
  obtain ⟨j, hj, hready, hle, -⟩ :=
    progress (.ofList [Sample.worker]) {} true (Sample.moves Sample.firstRound) "job" c hc
  obtain ⟨k, hk, hrun⟩ := Option.map_eq_some_iff.1 hstatus
  cases hj.symm.trans hk
  exact ⟨c, j, hc, hj, hready _ hround nofun hrun, hle⟩

end World
end Runbook
