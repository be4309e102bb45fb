/-
# What the final report says of a completed job

In the record of a completed job every task has either a result or a failure
(`Job.Coherent.tasks`).  The final report is begun with that record as its parameters, so
the report that the bundled worker writes gives the same account of the job
(`Json.AccountsFor`, `report_accounts`).
-/

import Runbook.Proofs.Engine.FinalReport
import Runbook.Proofs.Engine.Performance
import Runbook.Proofs.Engine.Record
import Runbook.Proofs.Worker.Report

namespace Runbook

/-- **A report gives account of a completed job** of a workflow.  It counts the results and
the failures, which together are as many as the tasks, since every task has exactly one of
the two; it lists the completed tasks, which are all, and the failed ones in ascending order;
and it has the results of the job and its failures with their workers and texts. -/
structure Json.AccountsFor (report : Json) (j : Job) (w : Workflow) : Prop where
  succeeded : report.summary? "tasks_succeeded" = some (.ofNat j.results.size)
  failed : report.summary? "tasks_failed" = some (.ofNat j.failures.size)
  together : j.results.size + j.failures.size = w.tasks.length
  tasks : (j.results.keys ++ j.failures.keys).Perm (w.tasks.map (·.name))
  completedTasks : ∃ names, report.summary? "completed_tasks" = some (.ofStrings names) ∧
    names.Pairwise (· < ·) ∧ ∀ n, n ∈ names ↔ ∃ t ∈ w.tasks, t.name = n
  failedTasks : ∃ names, report.summary? "failed_tasks" = some (.ofStrings names) ∧
    names.Pairwise (· < ·) ∧ ∀ n, n ∈ names ↔ n ∈ j.failedTasks
  results : report.field? "results" = some (.ofValues j.results)
  failures : ∃ failures : Dict Json, report.field? "failures" = some (.ofValues failures) ∧
    failures.keys = j.failures.keys ∧
    ∀ n f, j.failures.get? n = some f → ∃ v, failures.get? n = some v ∧
      v.field? "worker" = some (.string f.worker.word) ∧
      v.field? "error" = some (.string f.error)

/-- **Every task of a completed job has either a result or a failure.** -/
theorem Job.Coherent.tasks {j : Job} {c : Course} (h : j.Coherent c)
    (completed : j.status = .completed) (hn : (c.workflow.tasks.map (·.name)).Nodup) :
    (j.results.keys ++ j.failures.keys).Perm (c.workflow.tasks.map (·.name)) := by
  have hapart : ∀ n ∈ j.results.keys, n ∉ j.failures.keys := fun n hr hf =>
    h.results n (Dict.mem_keys.1 hr) ((h.failures n).1 (Dict.mem_keys.1 hf))
  have hnodup : (j.results.keys ++ j.failures.keys).Nodup :=
    List.nodup_append.2 ⟨j.results.nodup_keys, j.failures.nodup_keys,
      fun a ha b hb hab => hapart a ha (hab ▸ hb)⟩
  refine (List.perm_ext_iff_of_nodup hnodup hn).2 fun n => ?_
  rw [List.mem_append, Dict.mem_keys, Dict.mem_keys, h.failures, List.mem_map,
    ← (h.whole completed).2 n]
  constructor
  · rintro (hr | hf)
    · exact (h.completed n).2 (Or.inl hr)
    · exact h.overcome (by rw [completed]; exact nofun) n hf
  · intro hc
    rcases (h.completed n).1 hc with hr | ⟨x, hx, rfl, ho⟩
    · exact Or.inl hr
    · exact Or.inr (h.continued x hx ho)

/-- The failure as the final report is given it. -/
def TaskFailure.given (f : TaskFailure) : Json :=
  .ofFields
    [("worker", .string f.worker.word), ("error", .string f.error),
     ("timestamp", .string f.timestamp.text)]

/-- **What the final report is given of the job.** -/
theorem parameter?_finalReport (j : Job) :
    (finalReport j).parameter? "results" = some (.ofValues j.results) ∧
      (finalReport j).parameter? "failures" = some (.ofValues (j.failures.map TaskFailure.given)) ∧
      (finalReport j).parameter? "completed_tasks" = some (.ofStrings j.completedTasks.names) ∧
      (finalReport j).parameter? "failed_tasks" = some (.ofStrings j.failedTasks.names) := by
  have hget : ∀ k, (finalReport j).parameters.get? k = _ := Dict.get?_ofList _
  refine ⟨?_, ?_, ?_, ?_⟩ <;> rw [Assignment.parameter?, hget] <;> rfl

/-- What is said of the final report's assignment is an account of the job. -/
theorem Job.Coherent.accountsFor {j : Job} {c : Course} {report : Json} (h : j.Coherent c)
    (completed : j.status = .completed) (hn : (c.workflow.tasks.map (·.name)).Nodup)
    (renders : ReportWorker.Renders (Runbook.finalReport j) report) :
    report.AccountsFor j c.workflow := by
  obtain ⟨hresults, hfailures, hcompleted, hfailed⟩ := parameter?_finalReport j
  obtain ⟨hsize, hsize', hall, hsome, hgood, hbad⟩ := renders
  rw [ReportWorker.objectParameter_eq hresults] at hsize hgood
  rw [ReportWorker.objectParameter_eq hfailures] at hsize' hbad
  rw [ReportWorker.parameterOrNull_eq hcompleted] at hall
  rw [ReportWorker.parameterOrNull_eq hfailed] at hsome
  rw [Dict.size_map] at hsize'
  have htasks := h.tasks completed hn
  refine ⟨hsize, hsize', ?_, htasks, ⟨_, hall, j.completedTasks.ascending, (h.whole completed).2⟩,
    ⟨_, hsome, j.failedTasks.ascending, fun n => Iff.rfl⟩, hgood,
    ⟨_, hbad, Dict.keys_map _ _, fun n f hget => ?_⟩⟩
  · have hlength := htasks.length_eq
    rwa [List.length_append, List.length_map, Dict.length_keys, Dict.length_keys] at hlength
  · refine ⟨f.given, ?_, Json.field?_ofFields _ _, Json.field?_ofFields _ _⟩
    rw [Dict.get?_map, hget, Option.map_some]

/-- The end of a started task is what its worker comes to at the first attempt, with an
inference service that answers every request. -/
def Prepared.Answered (p : Prepared) (e : Option AttemptEnd) : Prop :=
  ∃ performer : Performer Id, performer.Answers ∧
    e = some ((p.worker.attempt p.assignment 1).perform performer)

namespace World

/-- The record of a completed job is coherent wherever its run waits or is over, since it was
never stopped. -/
theorem Tracked.coherent_of_completed {env : Orchestrator} {s : World} {id : String} {c : Course}
    {j : Job} (h : s.Tracked env fun _ _ => True) (hc : s.courses.get? id = some c)
    (hj : s.orchestrator.job? id = some j) (completed : j.status = .completed)
    (rest : c.run.isAwaiting) : j.Coherent c ∧ (c.workflow.tasks.map (·.name)).Nodup := by
  obtain ⟨-, k, told, hk, hreach, -⟩ := h.scene id c hc
  cases hk.symm.trans hj
  have hfree : Scene.Reached env (fun r => r.isAwaiting) ⟨j, c, told⟩ :=
    (hreach.unstopped (by rw [completed]; exact nofun)).mono fun _ hnever => hnever.elim
  obtain ⟨outs, hkept⟩ := hfree.kept
  exact ⟨hkept.coherent hfree.sound hfree.timed rest, hfree.sound.wellFormed.nodup⟩

/-- **The final report accounts for all tasks.**  Whatever has been registered, loaded,
started, stopped and answered, in any order, if reports are wanted and the bundled worker
writes them, with an inference service that answers or without one: when the run of a
completed job is over, it has handed over the job, and the job has a final report that
gives account of it. -/
theorem report_accounts (registry : Registry) (settings : EngineSettings) (listening : Bool)
    (moves : List Move) (id : String) (c : Course) (j : Job) (narrated : Bool)
    (wanted : settings.generateReport)
    (reporter : registry.worker? .report = some (reportWorker narrated))
    (answered : ∀ x ∈ (initial registry settings listening).reportEnds id moves,
      x.1.Answered x.2)
    (hc : ((initial registry settings listening).play moves).courses.get? id = some c)
    (hj : ((initial registry settings listening).play moves).orchestrator.job? id = some j)
    (completed : j.status = .completed) (finished : c.run.isOver) :
    c.run.stage = .ended (.ok j) ∧
      ∃ report, j.finalReport = some report ∧ report.AccountsFor j c.workflow := by
  obtain ⟨hcoherent, hnodup⟩ := (tracked_of_play registry settings listening moves
    ).coherent_of_completed hc hj completed (Run.isAwaiting_of_isOver finished)
  have hbeside := beside_of_play registry settings listening moves id
  generalize (initial registry settings listening).reportEnds id moves = ends at hbeside answered
  cases hbeside with
  | before agree unfinished => exact absurd completed (unfinished j hj)
  | @after done j₁ j' c₁ c' _ _ _ unreported here epilogue there epilogue' =>
    cases here.job.symm.trans hj
    cases here.course.symm.trans hc
    obtain ⟨e, rfl⟩ := epilogue.reported finished wanted reporter
    obtain ⟨performer, hanswers, he⟩ := answered _ List.mem_cons_self
    obtain ⟨report, hreport, renders⟩ :=
      ReportWorker.renders_of_perform hanswers narrated (finalReport done) 1
    obtain rfl : e = some (.value report) := he.trans (congrArg some hreport)
    -- The report was begun with the job as it was completed, which only lacks the report.
    obtain rfl : j = done.withReport (some report) := epilogue.job_eq unreported
    refine ⟨?_, report, rfl, hcoherent.accountsFor completed hnodup renders⟩
    rcases epilogue.ended finished with hended | ⟨p, message, hpanic, -⟩
    · exact hended
    · cases hpanic

end World

namespace Sample

/-- A worker for the tasks, and the bundled one for reports. -/
def bureau : Registry := .ofList [worker, reportWorker true]

/-- The inference service answers everything with the same words. -/
def clerk : Performer Id where
  hang := pure (.error (.failed ""))
  wait _ := pure ()
  stop _ := pure ()
  ask _ := pure (.ok (.string "in short"))
  load _ := pure none
  now := pure ⟨6⟩

/-- The final report is in flight. -/
def dictated : Option Prepared :=
  let s := (World.initial bureau {} true).play (moves (firstRound ++ secondRound))
  (s.courses.get? "job").bind fun c => c.inFlight.head?

/-- The report that its worker comes to. -/
def account : Option AttemptEnd :=
  dictated.map fun p => (p.worker.attempt p.assignment 1).perform clerk

end Sample

namespace World

/-- In the sample, one of the three tasks has failed and the job went on. -/
theorem report_accounts_sample :
    ∃ c j report, ((initial Sample.bureau {} true).play
        (Sample.reported Sample.account)).courses.get? "job" = some c ∧
      c.run.stage = .ended (.ok j) ∧ j.failures.keys = ["probe"] ∧ j.finalReport = some report ∧
      report.AccountsFor j c.workflow := by
  have hends : (initial Sample.bureau {} true).reportEnds "job" (Sample.reported Sample.account)
      = (Sample.dictated.map fun p => (p, Sample.account)).toList := rfl
  have hcourse : (((initial Sample.bureau {} true).play
      (Sample.reported Sample.account)).courses.get? "job").map (·.run.isOver) = some true := rfl
  have hjob : (((initial Sample.bureau {} true).play
      (Sample.reported Sample.account)).orchestrator.job? "job").map
        (fun j => (j.status, j.failures.keys)) = some (.completed, ["probe"]) := rfl
  have hanswered : ∀ x ∈ (initial Sample.bureau {} true).reportEnds "job"
      (Sample.reported Sample.account), x.1.Answered x.2 := fun x hx => by
    rw [hends, Option.mem_toList, Option.map_eq_some_iff] at hx
    obtain ⟨p, hp, rfl⟩ := hx
    exact ⟨Sample.clerk, fun request => ⟨_, rfl⟩, by rw [Sample.account, hp, Option.map_some]⟩
  obtain ⟨c, hc, finished⟩ := Option.map_eq_some_iff.1 hcourse
  obtain ⟨j, hj, hrecord⟩ := Option.map_eq_some_iff.1 hjob
  obtain ⟨completed, hfailures⟩ := Prod.mk.injEq _ _ _ _ ▸ hrecord
  obtain ⟨hended, report, hreport, haccount⟩ :=
    report_accounts Sample.bureau {} true (Sample.reported Sample.account) "job" c j true rfl rfl
      hanswered hc hj completed finished
  exact ⟨c, j, report, hc, hended, hfailures, hreport, haccount⟩

end World
end Runbook
