/-
# Replaying the events of a job

A listener does not see the jobs, only what is told of them.  `JobView.replay` is
what it can make of that: it starts with a fresh record and changes it with every
event.  The steps of a run write the job and tell the event in one, so the replay
keeps up with the job (`Scene.Retold`), and where the run waits or is over it is the
job, as far as events speak of it (`replay_of_job`).

Only the current tasks go ahead of the events: a task is no longer current when its
outcome comes in (`Scene.Behind`), and that is told when the outcome is recorded
(`Scene.Prompt`).
-/

import Runbook.Proofs.Dictionary
import Runbook.Proofs.Engine.Recording

namespace Runbook

/-- What events speak of in the record of a job: all but its names, its parameters
and the times. -/
structure JobView where
  status : JobStatus := .running
  currentTasks : NameSet := .empty
  completedTasks : NameSet := .empty
  failedTasks : NameSet := .empty
  results : Dict Json := .empty
  failures : Dict (WorkerKind × String) := .empty
  error : Option String := none
  finalReport : Option Json := none

/-- The job as events speak of it. -/
def Job.view (j : Job) : JobView where
  status := j.status
  currentTasks := j.currentTasks
  completedTasks := j.completedTasks
  failedTasks := j.failedTasks
  results := j.results
  failures := j.failures.map fun f => (f.worker, f.error)
  error := j.error
  finalReport := j.finalReport

namespace JobView

/-- What an event changes. -/
def hear (v : JobView) : JobEvent → JobView
  | .taskStarted _ task _ => { v with currentTasks := v.currentTasks.insert task }
  | .taskCompleted _ task _ result =>
    { v with
      currentTasks := v.currentTasks.erase task
      completedTasks := v.completedTasks.insert task
      results := v.results.insert task result }
  | .taskFailed _ task worker error continued =>
    { v with
      currentTasks := v.currentTasks.erase task
      failedTasks := v.failedTasks.insert task
      failures := v.failures.insert task (worker, error)
      completedTasks := if continued then v.completedTasks.insert task else v.completedTasks }
  | .jobCompleted .. => { v with status := .completed }
  | .jobFailed _ error => { v with status := .failed, error := some error }
  | .jobStopped _ => { v with status := .stopped }
  | .reportGenerated _ report => { v with finalReport := some report }
  | .jobStarted .. | .reportFailed .. => v

/-- What a listener makes of the events so far. -/
def replay (told : List JobEvent) : JobView := told.foldl hear {}

theorem replay_concat (told : List JobEvent) (e : JobEvent) :
    replay (told ++ [e]) = (replay told).hear e :=
  List.foldl_append

/-- The view without the current tasks. -/
def lasting (v : JobView) : JobView := { v with currentTasks := .empty }

/-- What an event changes besides the current tasks does not depend on them. -/
theorem lasting_hear (v : JobView) (e : JobEvent) :
    (v.hear e).lasting = (v.lasting.hear e).lasting := by
  cases e <;> rfl

/-- Views with the same current tasks that are otherwise the same are the same. -/
theorem eq_of_lasting {v w : JobView} (h : v.lasting = w.lasting)
    (hc : v.currentTasks = w.currentTasks) : v = w := by
  obtain ⟨_, _, _, _, _, _, _, _⟩ := v
  obtain ⟨_, _, _, _, _, _, _, _⟩ := w
  cases hc
  cases h
  rfl

end JobView

/-- A failure shows in the view as the event tells of it. -/
theorem Job.lasting_failTask (j : Job) (id task : String) (worker : WorkerKind) (text : String)
    (now : Instant) (continued : Bool) :
    (j.failTask task ⟨worker, text, now⟩ continued).view.lasting
      = (j.view.hear (.taskFailed id task worker text continued)).lasting :=
  congrArg
    (fun failures =>
      { (j.view.hear (.taskFailed id task worker text continued)).lasting with failures })
    (j.failures.map_insert (fun f => (f.worker, f.error)) task ⟨worker, text, now⟩)

/-- A run that waits or is over holds no outcome that is still to be recorded. -/
theorem Run.returned_of_isAwaiting {r : Run} (h : r.isAwaiting) : r.stage.returned = [] := by
  obtain ⟨id, stage⟩ := r
  cases stage with
  | recording oc n pending => cases h
  | _ => rfl

namespace Scene

/-- What a listener makes of what it was told. -/
def heard (s : Scene) : JobView := .replay s.told

/-- **What lasts is told when it is written.**  The replay is the job but for the
current tasks; those of the replay have been started, and a task that could not be
made ready is not among them. -/
structure Retold (s : Scene) : Prop where
  lasting : s.heard.lasting = s.job.view.lasting
  begun : ∀ n ∈ s.heard.currentTasks, n ∈ s.begunNames
  rejected : ∀ t, s.stage.rejected? = some t → t.name ∉ s.begunNames

/-- The tasks whose outcomes have come in. -/
def takenNames (s : Scene) : List String := s.course.taken.map (·.1.name)

/-- **A task is no longer current when its outcome comes in**, which is told later: the
current tasks of the job are those of the replay but for the ones whose outcomes have
come in. -/
structure Behind (s : Scene) : Prop where
  taken : ∀ n ∈ s.takenNames, n ∈ s.begunNames
  returned : ∀ o ∈ s.stage.returned, o.task ∈ s.takenNames
  current : ∀ n, n ∈ s.job.currentTasks ↔ n ∈ s.heard.currentTasks ∧ n ∉ s.takenNames

/-- **All outcomes are told of in time**: one that has come in and is not told of is
about to be recorded, and while there is one, the job has not ended. -/
structure Prompt (s : Scene) : Prop where
  running : s.stage.returned ≠ [] → s.job.isTerminal = false
  told : ∀ n ∈ s.heard.currentTasks, n ∈ s.takenNames → n ∈ s.stage.returned.map (·.task)

variable {s s' : Scene}

/-- Nothing new is told. -/
theorem heard_of_silent (h : s'.told = s.told) : s'.heard = s.heard := by
  rw [heard, h, heard]

/-- An event is told. -/
theorem heard_of_told {e : JobEvent} (h : s'.told = s.told ++ [e]) :
    s'.heard = s.heard.hear e := by
  rw [heard, h, JobView.replay_concat, heard]

namespace Retold

/-- Nothing is told and nothing that lasts is written. -/
theorem silent (h : s.Retold) (ht : s'.told = s.told)
    (hj : s'.job.view.lasting = s.job.view.lasting) (hb : s'.begunNames = s.begunNames)
    (hr : ∀ t, s'.stage.rejected? = some t → t.name ∉ s.begunNames) : s'.Retold := by
  refine ⟨?_, ?_, ?_⟩
  · rw [heard_of_silent ht, h.lasting, hj]
  · rw [heard_of_silent ht, hb]
    exact h.begun
  · rw [hb]
    exact hr

/-- An event is told of what is written. -/
theorem tells (h : s.Retold) {e : JobEvent} (ht : s'.told = s.told ++ [e])
    (hj : s'.job.view.lasting = (s.job.view.hear e).lasting)
    (hb : ∀ n ∈ (s.heard.hear e).currentTasks, n ∈ s'.begunNames)
    (hr : s'.stage.rejected? = none) : s'.Retold := by
  refine ⟨?_, ?_, fun t hrej => ?_⟩
  · calc s'.heard.lasting = (s.heard.lasting.hear e).lasting := by
          rw [heard_of_told ht, JobView.lasting_hear]
      _ = (s.job.view.hear e).lasting := by rw [h.lasting, ← JobView.lasting_hear]
      _ = s'.job.view.lasting := hj.symm
  · rw [heard_of_told ht]
    exact hb
  · rw [hr] at hrej
    cases hrej

/-- The tasks that are current in the replay after one has ended were current before. -/
theorem begun_of_erase (h : s.Retold) (task : String) :
    ∀ n ∈ s.heard.currentTasks.erase task, n ∈ s.begunNames :=
  fun n hn => h.begun n (NameSet.mem_erase.1 hn).1

/-- A task is started, and its start is told. -/
theorem launches (h : s.Retold) {p : Prepared} {ready : List Prepared} {n : Nat}
    {pending : List Task} {id : String} {worker : WorkerKind} :
    Retold
      { job := s.job.startTask p.name
        course := (s.course.startTask p).enter (.starting ready (n + 1) pending)
        told := s.told ++ [.taskStarted id p.name worker] } := by
  refine h.tells rfl rfl (fun m hm => ?_) rfl
  rw [begunNames_of_started rfl]
  rcases NameSet.mem_insert.1 hm with rfl | hm
  · exact List.mem_append_right _ List.mem_cons_self
  · exact List.mem_append_left _ (h.begun m hm)

/-- A pass keeps it. -/
theorem pass (h : s.Retold) {env : Orchestrator} (hp : Pass env s s') : s'.Retold := by
  have hnone := hp.frame.rejected
  cases hp with
  | fall stage | reportMissing stage | reportFail stage | reportDone stage =>
    exact h.tells rfl rfl h.begun hnone
  | _ => exact h.silent rfl rfl rfl fun t ht => by rw [hnone] at ht; cases ht

/-- **A turn keeps it.** -/
theorem turn (h : s.Retold) (hs : s.Sound) {env : Orchestrator} (ht : Turn env s s') :
    s'.Retold := by
  cases ht with
  | pass pass => exact h.pass pass
  | reject stage running ready prepared =>
    refine h.silent rfl rfl rfl fun t ht => ?_
    cases ht
    exact (hs.notMem_begunNames_of_ready stage running
      (Orchestrator.rejected_of_prepareAll prepared).1).2
  | launch stage => exact h.launches
  | complete stage => exact h.tells rfl rfl (h.begun_of_erase _) rfl
  | overcome stage | fail stage | refuse stage =>
    exact h.tells rfl (Job.lasting_failTask ..) (h.begun_of_erase _) rfl
  | succeed stage running =>
    refine h.tells rfl rfl h.begun ?_
    cases env.settings.generateReport <;> rfl
  | @overlook oc e n pending stage result terminal =>
    refine h.silent rfl rfl rfl fun t ht => ?_
    cases hc : oc.continues && e.isContinuable <;> rw [hc] at ht <;> cases ht
  | starve stage | begin stage | takeUp stage | refuseLate stage =>
    exact h.silent rfl rfl rfl fun t ht => by cases ht

end Retold

/-- **It holds of every scene that is reached.** -/
theorem Reached.retold {env : Orchestrator} {may : Run → Prop} (h : Reached env may s) :
    s.Retold := by
  induction h with
  | start valid =>
    refine ⟨rfl, fun n hn => ?_, fun t ht => by cases ht⟩
    have hn : n ∈ NameSet.empty := hn
    exact absurd hn (NameSet.notMem_empty n)
  | turn before turn ih => exact ih.turn before.sound turn
  | stop before running allowed ih =>
    refine ⟨?_, ?_, ih.rejected⟩
    · rw [heard_of_told rfl, JobView.lasting_hear, ih.lasting]
      rfl
    · rw [heard_of_told rfl]
      exact ih.begun

/-- A run that waits for tasks has started them. -/
theorem Sound.mem_begunNames_of_flight (h : s.Sound) {n : Nat} {pending : List Task}
    (stage : s.stage = .waiting n pending) {p : Prepared} (flight : p ∈ s.course.inFlight) :
    p.name ∈ s.begunNames := by
  have hway := h.underWay pending (by rw [stage]; rfl)
  have hall := hway.started
  rw [stage] at hall
  have hall : s.started = s.workflow.schedule s.rounds := (List.append_nil _).symm.trans hall
  obtain ⟨t, ht, hname⟩ := hway.layer p.name <| by
    rw [outstanding, stage]
    exact List.mem_append_left _ (List.mem_map_of_mem flight)
  obtain ⟨hmem, hdepth⟩ := Workflow.mem_layer.1 ht
  rw [begunNames, hall, ← hname]
  exact List.mem_map_of_mem (h.wellFormed.mem_schedule_of_depth hmem (Nat.le_of_eq hdepth))

/-- With an outcome taken up, its task is among those whose outcomes have come in. -/
theorem takenNames_takeUp (j : Job) (p : Prepared) (e : Option AttemptEnd) (stage : Stage)
    (told : List JobEvent) :
    takenNames ⟨j, (s.course.takeUp p e).enter stage, told⟩ = s.takenNames ++ [p.name] :=
  List.map_append

namespace Behind

/-- Nothing is started, taken up or about to be recorded. -/
theorem same (h : s.Behind) (ht : s'.course.taken = s.course.taken)
    (hb : s'.begunNames = s.begunNames) (hj : s'.job.currentTasks = s.job.currentTasks)
    (hh : s'.heard.currentTasks = s.heard.currentTasks) (hret : s'.stage.returned = []) :
    s'.Behind := by
  have hnames : s'.takenNames = s.takenNames := by rw [takenNames, ht, takenNames]
  refine ⟨?_, ?_, ?_⟩
  · rw [hnames, hb]
    exact h.taken
  · rw [hret]
    exact fun o ho => absurd ho List.not_mem_nil
  · rw [hnames, hj, hh]
    exact h.current

/-- A task is started, which was not started before. -/
theorem launches (h : s.Behind) (hs : s.Sound) {p : Prepared} {ready : List Prepared} {n : Nat}
    {pending : List Task} (stage : s.stage = .starting (p :: ready) n pending) {id : String}
    {worker : WorkerKind} :
    Behind
      { job := s.job.startTask p.name
        course := (s.course.startTask p).enter (.starting ready (n + 1) pending)
        told := s.told ++ [.taskStarted id p.name worker] } := by
  have hnew := hs.notMem_begunNames stage
  refine ⟨fun m hm => ?_, fun o ho => absurd ho List.not_mem_nil, fun m => ?_⟩
  · rw [begunNames_of_started rfl]
    exact List.mem_append_left _ (h.taken m hm)
  · rw [heard_of_told rfl]
    show m ∈ s.job.currentTasks.insert p.name ↔
      m ∈ s.heard.currentTasks.insert p.name ∧ m ∉ s.takenNames
    rw [NameSet.mem_insert, NameSet.mem_insert, h.current, or_and_right]
    refine or_congr_left (and_iff_left_of_imp ?_).symm
    rintro rfl htaken
    exact hnew (h.taken _ htaken)

/-- An outcome comes in. -/
theorem takesUp (h : s.Behind) (hs : s.Sound) {p : Prepared} {e : Option AttemptEnd} {n : Nat}
    {pending : List Task} (stage : s.stage = .waiting (n + 1) pending)
    (flight : p ∈ s.course.inFlight) :
    Behind
      { s with
        job := s.job.endTask p.name
        course := (s.course.takeUp p e).enter (.recording (p.outcomeOf e) n pending) } := by
  refine ⟨fun m hm => ?_, fun o ho => ?_, fun m => ?_⟩
  · rw [takenNames_takeUp] at hm
    rcases List.mem_append.1 hm with hm | hm
    · exact h.taken m hm
    · rw [List.mem_singleton.1 hm]
      exact hs.mem_begunNames_of_flight stage flight
  · rw [List.mem_singleton.1 ho, p.task_outcomeOf, takenNames_takeUp]
    exact List.mem_append_right _ List.mem_cons_self
  · rw [takenNames_takeUp, List.mem_append, List.mem_singleton, not_or]
    show m ∈ s.job.currentTasks.erase p.name ↔ m ∈ s.heard.currentTasks ∧ _
    rw [NameSet.mem_erase, h.current, and_assoc]

/-- The outcome that had come in is told of. -/
theorem records (h : s.Behind) {oc : Outcome} {n : Nat} {pending : List Task}
    (stage : s.stage = .recording oc n pending) (ht : s'.course.taken = s.course.taken)
    (hb : s'.begunNames = s.begunNames) (hj : s'.job.currentTasks = s.job.currentTasks)
    (hh : s'.heard.currentTasks = s.heard.currentTasks.erase oc.task)
    (hret : s'.stage.returned = []) : s'.Behind := by
  have hnames : s'.takenNames = s.takenNames := by rw [takenNames, ht, takenNames]
  have htaken : oc.task ∈ s.takenNames := h.returned oc (by rw [stage]; exact List.mem_cons_self)
  refine ⟨?_, ?_, fun m => ?_⟩
  · rw [hnames, hb]
    exact h.taken
  · rw [hret]
    exact fun o ho => absurd ho List.not_mem_nil
  · rw [hnames, hj, hh, NameSet.mem_erase, h.current, and_assoc]
    refine and_congr_right fun _ => (and_iff_right_of_imp ?_).symm
    rintro hm rfl
    exact hm htaken

/-- A pass keeps it. -/
theorem pass (h : s.Behind) {env : Orchestrator} (hp : Pass env s s') : s'.Behind := by
  have hf := hp.frame
  refine h.same hf.past.taken (by rw [begunNames, hf.started, begunNames]) hf.record.current ?_
    hf.returned'
  cases hp with
  | fall stage | reportMissing stage | reportFail stage | reportDone stage =>
    rw [heard_of_told rfl]
    rfl
  | _ => rfl

/-- **A turn keeps it.** -/
theorem turn (h : s.Behind) (hs : s.Sound) (hr : s.Retold) {env : Orchestrator}
    (ht : Turn env s s') : s'.Behind := by
  cases ht with
  | pass pass => exact h.pass pass
  | starve stage | reject stage | begin stage | refuseLate stage =>
    exact h.same rfl rfl rfl rfl rfl
  | launch stage => exact h.launches hs stage
  | takeUp stage flight running => exact h.takesUp hs stage flight
  | complete stage | overcome stage | fail stage =>
    refine h.records stage rfl rfl rfl ?_ rfl
    rw [heard_of_told rfl]
    rfl
  | @overlook oc e n pending stage result terminal =>
    -- The failure is not told, so for the listener its task stays current.
    refine h.same rfl rfl rfl rfl ?_
    show (if oc.continues && e.isContinuable then Stage.waiting n pending
      else .failing e).returned = []
    split <;> rfl
  | @refuse t e now stage running =>
    refine h.same rfl rfl rfl (NameSet.ext_mem fun m => ?_) rfl
    rw [heard_of_told rfl]
    show m ∈ s.heard.currentTasks.erase t.name ↔ m ∈ s.heard.currentTasks
    rw [NameSet.mem_erase]
    refine and_iff_left_of_imp fun hm => ?_
    rintro rfl
    exact hr.rejected t (by rw [stage]; rfl) (hr.begun _ hm)
  | succeed stage =>
    refine h.same rfl rfl rfl ?_ (by cases env.settings.generateReport <;> rfl)
    rw [heard_of_told rfl]
    rfl

end Behind

/-- **It holds of every scene that is reached.** -/
theorem Reached.behind {env : Orchestrator} {may : Run → Prop} (h : Reached env may s) :
    s.Behind := by
  induction h with
  | start valid =>
    refine ⟨fun n hn => absurd hn List.not_mem_nil, fun o ho => absurd ho List.not_mem_nil,
      fun n => iff_of_false (NameSet.notMem_empty n) fun hn => ?_⟩
    exact NameSet.notMem_empty n hn.1
  | turn before turn ih => exact ih.turn before.sound before.retold turn
  | stop before running allowed ih =>
    refine ⟨ih.taken, ih.returned, ?_⟩
    rw [heard_of_told rfl]
    exact ih.current

namespace Prompt

/-- Without an outcome that is about to be recorded, the current tasks are those of the
replay. -/
theorem current_eq (h : s.Prompt) (hb : s.Behind) (hret : s.stage.returned = []) :
    s.heard.currentTasks = s.job.currentTasks := by
  refine NameSet.ext_mem fun n => ?_
  rw [hb.current]
  refine (and_iff_left_of_imp fun hn htaken => ?_).symm
  have hin := h.told n hn htaken
  rw [hret] at hin
  exact List.not_mem_nil hin

/-- Nothing is started or taken up, and nothing is about to be recorded. -/
theorem same (h : s.Prompt) (hret : s.stage.returned = []) (hret' : s'.stage.returned = [])
    (ht : s'.course.taken = s.course.taken)
    (hh : ∀ n ∈ s'.heard.currentTasks, n ∈ s.heard.currentTasks) : s'.Prompt := by
  refine ⟨fun hne => absurd hret' hne, fun n hn htaken => ?_⟩
  rw [takenNames, ht] at htaken
  rw [hret', ← hret]
  exact h.told n (hh n hn) htaken

/-- The outcome that had come in is told of. -/
theorem records (h : s.Prompt) {oc : Outcome} {n : Nat} {pending : List Task}
    (stage : s.stage = .recording oc n pending) (ht : s'.course.taken = s.course.taken)
    (hh : s'.heard.currentTasks = s.heard.currentTasks.erase oc.task)
    (hret : s'.stage.returned = []) : s'.Prompt := by
  refine ⟨fun hne => absurd hret hne, fun m hm htaken => ?_⟩
  rw [hh] at hm
  rw [takenNames, ht] at htaken
  obtain ⟨hm, hne⟩ := NameSet.mem_erase.1 hm
  have hin := h.told m hm htaken
  rw [stage] at hin
  exact absurd (List.mem_singleton.1 hin) hne

/-- A pass keeps it. -/
theorem pass (h : s.Prompt) {env : Orchestrator} (hp : Pass env s s') : s'.Prompt := by
  have hf := hp.frame
  refine h.same hf.returned hf.returned' hf.past.taken fun n hn => ?_
  cases hp with
  | fall stage | reportMissing stage | reportFail stage | reportDone stage =>
    rw [heard_of_told rfl] at hn
    exact hn
  | _ => exact hn

/-- **A turn keeps it.** -/
theorem turn (h : s.Prompt) (hs : s.Sound) (hb : s.Behind) {env : Orchestrator}
    (ht : Turn env s s') : s'.Prompt := by
  cases ht with
  | pass pass => exact h.pass pass
  | starve stage | reject stage | begin stage | refuseLate stage =>
    exact h.same (by rw [stage]; rfl) rfl rfl fun n hn => hn
  | @launch p ready n pending stage =>
    refine ⟨fun hne => absurd rfl hne, fun m hm htaken => ?_⟩
    rw [heard_of_told rfl] at hm
    rcases NameSet.mem_insert.1 hm with rfl | hm
    · exact absurd (hb.taken _ htaken) (hs.notMem_begunNames stage)
    · have hin := h.told m hm htaken
      rw [stage] at hin
      exact hin
  | @takeUp p e n pending stage flight running =>
    refine ⟨fun _ => running, fun m hm htaken => ?_⟩
    rw [takenNames_takeUp] at htaken
    show m ∈ [(p.outcomeOf e).task]
    rw [p.task_outcomeOf]
    rcases List.mem_append.1 htaken with htaken | htaken
    · have hin := h.told m hm htaken
      rw [stage] at hin
      exact absurd hin List.not_mem_nil
    · exact htaken
  | complete stage | overcome stage | fail stage =>
    refine h.records stage rfl ?_ rfl
    rw [heard_of_told rfl]
    rfl
  | overlook stage result terminal =>
    -- Here a failure would go untold, but the job cannot have ended while it was held.
    have hrun := h.running (by rw [stage]; exact List.cons_ne_nil _ _)
    rw [terminal] at hrun
    cases hrun
  | refuse stage =>
    refine h.same (by rw [stage]; rfl) rfl rfl fun m hm => ?_
    rw [heard_of_told rfl] at hm
    exact (NameSet.mem_erase.1 hm).1
  | succeed stage =>
    refine h.same (by rw [stage]; rfl) (by cases env.settings.generateReport <;> rfl) rfl
      fun m hm => ?_
    rw [heard_of_told rfl] at hm
    exact hm

end Prompt

/-- **It holds of every scene that is reached** by stops where no outcome is held. -/
theorem Reached.prompt {env : Orchestrator}
    (h : Reached env (fun r => r.stage.returned = []) s) : s.Prompt := by
  induction h with
  | start valid => exact ⟨fun hne => absurd rfl hne, fun n _ hn => absurd hn List.not_mem_nil⟩
  | turn before turn ih => exact ih.turn before.sound before.behind turn
  | stop before running allowed ih =>
    refine ih.same allowed allowed rfl fun n hn => ?_
    rw [heard_of_told rfl] at hn
    exact hn

end Scene

namespace World

/-- **The replay is the job.**  Whatever has been registered, loaded, started, stopped
and answered, in any order: what a listener makes of the events of a job is the job,
except that a task whose outcome has come in may still be current for the listener.
Wherever the run holds no outcome that is still to be recorded, as where it waits or is
over, there is no such task either, unless the job was stopped while the run held one. -/
theorem replay_of_job (registry : Registry) (settings : EngineSettings) (moves : List Move)
    (id : String) (c : Course)
    (h : ((initial registry settings true).play moves).courses.get? id = some c) :
    ∃ j, ((initial registry settings true).play moves).orchestrator.job? id = some j ∧
      (JobView.replay
          (((initial registry settings true).play moves).orchestrator.told id)).lasting
        = j.view.lasting ∧
      (∀ n, n ∈ j.currentTasks ↔
        n ∈ (JobView.replay
          (((initial registry settings true).play moves).orchestrator.told id)).currentTasks ∧
        n ∉ c.taken.map (·.1.name)) ∧
      ((initial registry settings true).StopsOnly (fun r => r.stage.returned = []) id moves →
        c.run.stage.returned = [] →
        JobView.replay (((initial registry settings true).play moves).orchestrator.told id)
          = j.view) := by
  obtain ⟨-, j, told, hj, hreach, htold⟩ :=
    reached_of_play (fun _ => True) (fun _ _ _ _ _ _ => trivial) h
  rw [htold rfl]
  refine ⟨j, hj, hreach.retold.lasting, hreach.behind.current, fun hstops hret => ?_⟩
  obtain ⟨-, j', told', hj', hreach', htold'⟩ := reached_of_play _ hstops h
  cases hj.symm.trans hj'
  cases (htold rfl).symm.trans (htold' rfl)
  exact JobView.eq_of_lasting hreach.retold.lasting
    (hreach'.prompt.current_eq hreach.behind hret)

/-- In the sample, a job is stopped while one of its tasks is in flight, and the replay
has that task as current. -/
theorem replay_of_job_sample :
    ∃ j, (Sample.world Sample.stopped).orchestrator.job? "job" = some j ∧
      JobView.replay ((Sample.world Sample.stopped).orchestrator.told "job") = j.view ∧
      "survey" ∈ j.currentTasks ∧ j.status = .stopped := by
  have hrest : ((Sample.world Sample.stopped).courses.get? "job").map (·.run.isAwaiting)
      = some true := rfl
  have hbefore : ((Sample.world (Sample.stopped.take 6)).courses.get? "job").map
      (·.run.isAwaiting) = some true := rfl
  have hjob : ((Sample.world Sample.stopped).orchestrator.job? "job").map
      (fun j => (j.currentTasks.names, j.status)) = some (["survey"], .stopped) := rfl
  have hstops : (initial (.ofList [Sample.worker]) {} true).StopsOnly
      (fun r => r.stage.returned = []) "job" (Sample.moves Sample.stopped) := by
    iterate 8 refine stopsOnly_cons.2 ⟨nofun, ?_⟩
    refine stopsOnly_cons.2 ⟨fun _ _ c hc => ?_, stopsOnly_nil _ _ _⟩
    obtain ⟨d, hd, hwaits⟩ := Option.map_eq_some_iff.1 hbefore
    cases hc.symm.trans hd
    exact Run.returned_of_isAwaiting hwaits
  obtain ⟨c, hc, hwaits⟩ := Option.map_eq_some_iff.1 hrest
  obtain ⟨j, hj, -, -, hreplay⟩ :=
    replay_of_job (.ofList [Sample.worker]) {} (Sample.moves Sample.stopped) "job" c hc
  obtain ⟨k, hk, hrecord⟩ := Option.map_eq_some_iff.1 hjob
  cases hj.symm.trans hk
  obtain ⟨hnames, hstatus⟩ := Prod.mk.inj hrecord
  refine ⟨j, hj, hreplay hstops (Run.returned_of_isAwaiting hwaits), ?_, hstatus⟩
  show "survey" ∈ j.currentTasks.names
  rw [hnames]
  exact List.mem_cons_self

end World
end Runbook
