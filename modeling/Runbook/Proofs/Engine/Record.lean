/-
# The record of a job

A job gives an account of the outcomes that are recorded (`Scene.Kept`).  For jobs
that are stopped only while their runs wait, what follows for their record is
`Job.Coherent`, and `record_of_job` says that it holds at every place where a run
waits or is over, in all histories.
-/

import Runbook.Proofs.Engine.Recording

namespace Runbook

/-- **The record of a job agrees with itself**, with its workflow, and with what its
run has taken up.  The tasks with a failure are the failed tasks and have no result;
the completed tasks are those with a result and those whose failure was overcome; no
current task is among them.  Unless the job has failed, all failures were overcome;
if it has, all but one were, and that one has the error of the job, which the run has
ended with.  A completed job has completed all tasks.  The single values go by the
status. -/
structure Job.Coherent (j : Job) (c : Course) : Prop where
  failures : ∀ n, j.failures.contains n ↔ n ∈ j.failedTasks
  results : ∀ n, j.results.contains n → n ∉ j.failedTasks
  completed : ∀ n, n ∈ j.completedTasks ↔
    j.results.contains n ∨ ∃ x ∈ c.taken, x.1.name = n ∧ (x.1.outcomeOf x.2).overcome
  continued : ∀ x ∈ c.taken, (x.1.outcomeOf x.2).overcome → x.1.name ∈ j.failedTasks
  current : ∀ n ∈ j.currentTasks, n ∉ j.completedTasks ∧ n ∉ j.failedTasks
  named : ∀ n, (j.failures.contains n ∨ j.results.contains n ∨ n ∈ j.completedTasks ∨
    n ∈ j.failedTasks ∨ n ∈ j.currentTasks) → ∃ t ∈ c.workflow.tasks, t.name = n
  overcome : j.status ≠ .failed → ∀ n ∈ j.failedTasks, n ∈ j.completedTasks
  failed : j.status = .failed → ∃ t failure e, c.run.stage = .ended (.error e) ∧
    (∀ n, n ∈ j.failedTasks ∧ n ∉ j.completedTasks ↔ n = t) ∧
    j.failures.get? t = some failure ∧ failure.error = e.message ∧ j.error = some e.message
  whole : j.status = .completed → (∀ n, n ∉ j.currentTasks) ∧
    ∀ n, n ∈ j.completedTasks ↔ ∃ t ∈ c.workflow.tasks, t.name = n
  endTime : j.endTime.isSome ↔ j.status ≠ .running
  duration : j.durationMs.isSome ↔ j.status ≠ .running
  error : j.error.isSome ↔ j.status = .failed
  report : j.finalReport.isSome → j.status = .completed

/-- The job has failed by a task of this depth, one that has failed and is not
completed. -/
def Job.FailedIn (j : Job) (w : Workflow) (k : Nat) : Prop :=
  ∃ t ∈ w.layer k, t.name ∈ j.failedTasks ∧ t.name ∉ j.completedTasks

namespace Scene

variable {s : Scene} {outs : List Outcome}

/-- The failures that were overcome are recorded once they are not about to be. -/
theorem Kept.overcome_iff (h : s.Kept outs) (hret : s.stage.returned = [])
    {o : Outcome} : (o ∈ s.ends ∧ o.overcome) ↔ (o ∈ outs ∧ o.overcome) := by
  cases hf : s.stage.fate? with
  | none => rw [h.ends hf, hret, List.append_nil]
  | some e =>
    obtain ⟨l, last, rfl, hends, herr, hproceeds, -⟩ := h.fate e hf
    have hnot : ¬ last.overcome := fun ho => by
      rw [Outcome.proceeds_iff.2 (Or.inr ho)] at hproceeds
      cases hproceeds
    rcases hends with hends | hends
    · rw [hends, List.mem_append, List.mem_singleton, or_and_right]
      refine (or_iff_left ?_).symm
      rintro ⟨rfl, ho⟩
      exact hnot ho
    · rw [hends]

/-- If the job goes on after all outcomes, all failures were overcome. -/
theorem Kept.completed_of_failed (h : s.Kept outs) (hp : ∀ o ∈ outs, o.proceeds) {n : String}
    (hn : n ∈ s.job.failedTasks) : n ∈ s.job.completedTasks := by
  obtain ⟨o, ho, hname, -⟩ := (h.records.failed n).1 hn
  exact (h.records.completed n).2 ⟨o, ho, hname, hp o ho⟩

/-- Two outcomes of one task are the same. -/
theorem Kept.eq_of_task (h : s.Kept outs) {a b : Outcome} (ha : a ∈ outs) (hb : b ∈ outs)
    (he : a.task = b.task) : a = b :=
  List.inj_on_of_nodup_map h.nodup ha hb he

/-- A job has failed by one task, whose failure was not overcome. -/
theorem Kept.failure (h : s.Kept outs) (ht : s.Timed) (rest : s.course.run.isAwaiting)
    (hst : s.job.status = .failed) :
    ∃ t failure e, s.course.run.stage = .ended (.error e) ∧
      (∀ n, n ∈ s.job.failedTasks ∧ n ∉ s.job.completedTasks ↔ n = t) ∧
      s.job.failures.get? t = some failure ∧ failure.error = e.message ∧
      s.job.error = some e.message := by
  rcases ht.rests rest with ⟨-, -, hne⟩ | ⟨e, hend, -⟩
  · exact absurd hst hne
  obtain ⟨l, o, rfl, -, herr, hproceeds, hall⟩ := h.fate e (by rw [hend]; rfl)
  have hlast : o ∈ l ++ [o] := List.mem_append_right _ List.mem_cons_self
  obtain ⟨now, hfailure⟩ :=
    (h.records.failures o.task o.worker e.message).2 ⟨o, hlast, rfl, rfl, e, herr, rfl⟩
  refine ⟨o.task, _, e, hend, fun n => ⟨fun hn => ?_, ?_⟩, hfailure, rfl, ht.error e hend⟩
  · obtain ⟨x, hx, hname, -⟩ := (h.records.failed n).1 hn.1
    rcases List.mem_append.1 hx with hx' | hx'
    · exact absurd ((h.records.completed n).2 ⟨x, hx, hname, hall x hx'⟩) hn.2
    · rw [← hname, List.mem_singleton.1 hx']
  · rintro rfl
    refine ⟨(h.records.failed _).2 ⟨o, hlast, rfl, e, herr⟩, fun hc => ?_⟩
    obtain ⟨x, hx, hname, hx'⟩ := (h.records.completed _).1 hc
    rw [h.eq_of_task hx hlast hname, hproceeds] at hx'
    cases hx'

/-- **A job fails in its last round**: all tasks that lie less deep are completed. -/
theorem Kept.failedIn (h : s.Kept outs) (hs : s.Sound) (ht : s.Timed)
    (rest : s.course.run.isAwaiting) (hst : s.job.status = .failed) :
    s.job.FailedIn s.workflow s.rounds := by
  obtain ⟨n, -, -, -, hiff, -⟩ := h.failure ht rest hst
  obtain ⟨hfailed, hnot⟩ := (hiff n).2 rfl
  obtain ⟨o, ho, rfl, -⟩ := (h.records.failed n).1 hfailed
  obtain ⟨t, htask, hname, hle⟩ := h.named o ho
  rw [← hname] at hfailed hnot
  have hge : ¬ s.workflow.depth t.name < s.rounds := fun hlt => hnot (hs.settled t htask hlt)
  exact ⟨t, Workflow.mem_layer.2 ⟨htask, by omega⟩, hfailed, hnot⟩

/-- No task has both a result and a failure. -/
theorem Kept.results_disjoint (h : s.Kept outs) {n : String} (hn : s.job.results.contains n) :
    n ∉ s.job.failedTasks := by
  intro hfailed
  obtain ⟨a, ha, rfl, v, hok⟩ := h.records.contains_results.1 hn
  obtain ⟨b, hb, htask, e, herr⟩ := (h.records.failed _).1 hfailed
  rw [h.eq_of_task hb ha htask, hok] at herr
  cases herr

/-- The completed tasks are those with a result and those whose failure was overcome. -/
theorem Kept.completed_iff (h : s.Kept outs) (hret : s.stage.returned = []) {n : String} :
    n ∈ s.job.completedTasks ↔ s.job.results.contains n ∨
      ∃ x ∈ s.course.taken, x.1.name = n ∧ (x.1.outcomeOf x.2).overcome := by
  rw [h.records.completed, h.records.contains_results]
  constructor
  · rintro ⟨o, ho, hname, hproceeds⟩
    rcases Outcome.proceeds_iff.1 hproceeds with hok | hover
    · exact Or.inl ⟨o, ho, hname, hok⟩
    · obtain ⟨x, hx, rfl⟩ := List.mem_map.1 ((h.overcome_iff hret).2 ⟨ho, hover⟩).1
      exact Or.inr ⟨x, hx, (x.1.task_outcomeOf x.2).symm.trans hname, hover⟩
  · rintro (⟨o, ho, hname, hok⟩ | ⟨x, hx, hname, hover⟩)
    · exact ⟨o, ho, hname, Outcome.proceeds_iff.2 (Or.inl hok)⟩
    · have ho := ((h.overcome_iff hret).1 ⟨List.mem_map_of_mem hx, hover⟩).1
      exact ⟨_, ho, (x.1.task_outcomeOf x.2).trans hname, Outcome.proceeds_iff.2 (Or.inr hover)⟩

/-- Whatever the record names is a task. -/
theorem Kept.named_of_recorded (h : s.Kept outs) (hs : s.Sound) {n : String}
    (hn : s.job.failures.contains n ∨ s.job.results.contains n ∨ n ∈ s.job.completedTasks ∨
      n ∈ s.job.failedTasks ∨ n ∈ s.job.currentTasks) :
    ∃ t ∈ s.workflow.tasks, t.name = n := by
  have hfailed : n ∈ s.job.failedTasks → ∃ t ∈ s.workflow.tasks, t.name = n := by
    intro hn
    obtain ⟨o, ho, rfl, -⟩ := (h.records.failed n).1 hn
    obtain ⟨t, ht, hname, -⟩ := h.named o ho
    exact ⟨t, ht, hname⟩
  rcases hn with hn | hn | hn | hn | hn
  · exact hfailed (h.records.contains_failures.1 hn)
  · obtain ⟨o, ho, rfl, -⟩ := h.records.contains_results.1 hn
    obtain ⟨t, ht, hname, -⟩ := h.named o ho
    exact ⟨t, ht, hname⟩
  · exact hs.named n hn
  · exact hfailed hn
  · obtain ⟨t, ht, hname, -⟩ := hs.reaches_of_begun (h.current n hn)
    exact ⟨t, ht, hname⟩

/-- **Where a run waits or is over, the record of its job is coherent.** -/
theorem Kept.coherent (h : s.Kept outs) (hs : s.Sound) (ht : s.Timed)
    (rest : s.course.run.isAwaiting) : s.job.Coherent s.course := by
  have hret : s.stage.returned = [] := by
    rcases ht.rests rest with ⟨-, hret, -⟩ | ⟨e, hend, -⟩
    · exact hret
    · rw [hend]; rfl
  have hterminal : s.job.isTerminal ↔ s.job.status ≠ .running := by
    rw [Ne, ← Job.isTerminal_eq_false, Bool.not_eq_false]
  refine ⟨fun _ => h.records.contains_failures, fun _ => h.results_disjoint,
    fun _ => h.completed_iff hret, fun x hx ho => ?_, fun n hn => ⟨fun hc => ?_, fun hf => ?_⟩,
    fun _ => h.named_of_recorded hs, fun hst n hn => ?_, h.failure ht rest,
    fun hd => ⟨h.idle hd, fun n => ⟨hs.named n, ?_⟩⟩, ?_, ?_, ht.dated.error, ht.dated.report⟩
  · have hout := ((h.overcome_iff hret).1 ⟨List.mem_map_of_mem hx, ho⟩).1
    exact (h.records.failed _).2 ⟨_, hout, x.1.task_outcomeOf x.2, Outcome.error_of_overcome ho⟩
  · obtain ⟨o, ho, rfl, -⟩ := (h.records.completed n).1 hc
    exact h.apart o (List.mem_append_left _ ho) hn
  · obtain ⟨o, ho, rfl, -⟩ := (h.records.failed n).1 hf
    exact h.apart o (List.mem_append_left _ ho) hn
  · rcases ht.rests rest with ⟨hnone, -, -⟩ | ⟨e, -, hfailed⟩
    · exact h.completed_of_failed (fun o ho => (h.proceeds hnone o ho).1) hn
    · exact absurd hfailed hst
  · rintro ⟨t, htask, rfl⟩
    exact ((hs.whole hd).2 t htask).2
  · rw [ht.dated.endTime, hterminal]
  · rw [ht.dated.duration, hterminal]

end Scene

namespace World

/-- **The record of every job is kept.**  Whatever has been registered, loaded,
started and answered, in any order, if the job is stopped only where its run waits
or is over: wherever its run waits or is over, the record of the job is coherent. -/
theorem record_of_job (registry : Registry) (settings : EngineSettings) (listening : Bool)
    (moves : List Move) (id : String) (c : Course)
    (hstops : (initial registry settings listening).StopsOnly (fun r => r.isAwaiting) id moves)
    (h : ((initial registry settings listening).play moves).courses.get? id = some c)
    (rest : c.run.isAwaiting) :
    ∃ j, ((initial registry settings listening).play moves).orchestrator.job? id = some j ∧
      j.Coherent c := by
  obtain ⟨-, j, told, hj, hreach, -⟩ := reached_of_play (fun r => r.isAwaiting) hstops h
  obtain ⟨outs, hk⟩ := hreach.kept
  exact ⟨j, hj, hk.coherent hreach.sound hreach.timed rest⟩

/-- In the sample, the job is stopped after one task has failed and while another is
in flight. -/
theorem record_of_job_sample :
    ∃ c j, (Sample.world Sample.stopped).courses.get? "job" = some c ∧
      (Sample.world Sample.stopped).orchestrator.job? "job" = some j ∧ c.run.isAwaiting ∧
      j.status = .stopped ∧ j.Coherent c := by
  have hrest : ((Sample.world Sample.stopped).courses.get? "job").map (·.run.isAwaiting)
      = some true := rfl
  have hbefore : ((Sample.world (Sample.stopped.take 6)).courses.get? "job").map
      (·.run.isAwaiting) = some true := rfl
  have hstatus : ((Sample.world Sample.stopped).orchestrator.job? "job").map (·.status)
      = some .stopped := rfl
  have hstops : (initial (.ofList [Sample.worker]) {} true).StopsOnly (fun r => r.isAwaiting) "job"
      (Sample.moves Sample.stopped) := by
    iterate 8 refine stopsOnly_cons.2 ⟨nofun, ?_⟩
    refine stopsOnly_cons.2 ⟨fun _ _ c hc => ?_, stopsOnly_nil _ _ _⟩
    obtain ⟨d, hd, hwaits⟩ := Option.map_eq_some_iff.1 hbefore
    cases hc.symm.trans hd
    exact hwaits
  obtain ⟨c, hc, hwaits⟩ := Option.map_eq_some_iff.1 hrest
  obtain ⟨j, hj, hcoherent⟩ :=
    record_of_job (.ofList [Sample.worker]) {} true (Sample.moves Sample.stopped) "job" c hstops hc
      hwaits
  obtain ⟨k, hk, hstopped⟩ := Option.map_eq_some_iff.1 hstatus
  cases hj.symm.trans hk
  exact ⟨c, j, hc, hj, hwaits, hstopped, hcoherent⟩

end World
end Runbook
