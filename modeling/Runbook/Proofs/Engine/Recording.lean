/-
# How outcomes are recorded

What a job gives an account of comes from the tasks that have been started, is what
has come in, and lets the job go on unless its run fails (`Scene.Kept`).  That is
kept by every turn, and by stops where the run waits (`Scene.Reached.kept`).
-/

import Runbook.Proofs.Engine.Account
import Runbook.Proofs.Engine.Clock
import Runbook.Proofs.Engine.Rounds

namespace Runbook

namespace Scene

/-- The outcomes that have come in. -/
def ends (s : Scene) : List Outcome := s.course.taken.map fun x => x.1.outcomeOf x.2

/-- The names of the tasks that have been started. -/
def begunNames (s : Scene) : List String := s.started.map (·.2)

/-- A task of the rounds so far has this name. -/
def Reaches (s : Scene) (n : String) : Prop :=
  ∃ t ∈ s.workflow.tasks, t.name = n ∧ s.workflow.depth t.name ≤ s.rounds

/-- While the rounds are under way, every task that has been started has come in or
is in flight, and the current tasks are among those in flight. -/
structure Aloft (s : Scene) : Prop where
  all : (s.ends.map (·.task) ++ s.course.inFlight.map (·.name)).Perm s.begunNames
  current : ∀ n ∈ s.job.currentTasks, n ∈ s.course.inFlight.map (·.name)

/-- **What the job gives an account of.**  The outcomes that it has recorded are of
different tasks that have been started and are no longer current; they are the ones
that have come in; and the job goes on after all of them, but for the last if the run
fails, which is then the one that it fails with. -/
structure Kept (s : Scene) (outs : List Outcome) : Prop where
  records : s.job.Records outs
  nodup : (outs.map (·.task)).Nodup
  named : ∀ o ∈ outs, s.Reaches o.task
  apart : ∀ o ∈ outs ++ s.stage.returned, o.task ∉ s.job.currentTasks
  current : ∀ n ∈ s.job.currentTasks, n ∈ s.begunNames
  aloft : s.stage.pending? ≠ none → s.Aloft
  ends : s.stage.fate? = none → s.ends = outs ++ s.stage.returned
  proceeds : s.stage.fate? = none → ∀ o ∈ outs, o.proceeds ∧ o.task ∈ s.begunNames
  fate : ∀ e, s.stage.fate? = some e → ∃ l o, outs = l ++ [o] ∧ (s.ends = l ∨ s.ends = l ++ [o]) ∧
    o.result = .error e ∧ o.proceeds = false ∧ ∀ x ∈ l, x.proceeds
  rejected : ∀ t, s.stage.rejected? = some t →
    t ∈ s.workflow.layer s.rounds ∧ t.name ∉ s.begunNames
  idle : s.job.status = .completed → ∀ n, n ∉ s.job.currentTasks

variable {s s' : Scene}

/-- No task is started twice. -/
theorem Sound.nodup_begunNames (h : s.Sound) : s.begunNames.Nodup :=
  (h.wellFormed.nodup_schedule s.rounds).sublist (h.inOrder.sublist.map _)

/-- A task more has been started. -/
theorem begunNames_of_started {p : Prepared}
    (h : s'.course.started = s.course.started ++ [(s.course.rounds, p)]) :
    s'.begunNames = s.begunNames ++ [p.name] := by
  rw [begunNames, started, h, List.map_append, List.map_append]
  rfl

/-- What is started is a task of the rounds so far. -/
theorem Sound.reaches_of_begun (h : s.Sound) {n : String} (hn : n ∈ s.begunNames) :
    s.Reaches n := by
  obtain ⟨x, hx, rfl⟩ := List.mem_map.1 hn
  obtain ⟨hle, t, ht, hname, hdepth⟩ := Workflow.mem_schedule (h.inOrder.subset hx)
  exact ⟨t, ht, hname, hdepth ▸ hle⟩

/-- What is ready has not been started. -/
theorem Sound.notMem_begunNames (h : s.Sound) {p : Prepared} {ready : List Prepared} {n : Nat}
    {pending : List Task} (stage : s.stage = .starting (p :: ready) n pending) :
    p.name ∉ s.begunNames := by
  have hstarted := (h.underWay pending (by rw [stage]; rfl)).started
  have hnodup := h.wellFormed.nodup_schedule s.rounds
  rw [← hstarted, stage, List.map_append, List.nodup_append] at hnodup
  intro hin
  exact hnodup.2.2 _ hin p.name List.mem_cons_self rfl

/-- What is ready for a round is of its depth and has not been started. -/
theorem Sound.notMem_begunNames_of_ready (h : s.Sound) {pending : List Task}
    (stage : s.stage = .round pending) (running : s.job.isTerminal = false) {t : Task}
    (ht : t ∈ (s.split pending).1) :
    t ∈ s.workflow.layer (s.rounds + 1) ∧ t.name ∉ s.begunNames := by
  have hway := h.underWay pending (by rw [stage]; rfl)
  rw [hway.split_eq h.wellFormed stage running] at ht
  refine ⟨ht, fun hbegan => ?_⟩
  obtain ⟨-, hdepth⟩ := Workflow.mem_layer.1 ht
  obtain ⟨u, -, hname, hle⟩ := h.reaches_of_begun hbegan
  rw [hname, hdepth] at hle
  omega

namespace Kept

variable {outs : List Outcome}

/-- A pass keeps it. -/
theorem frame (h : s.Kept outs) (hf : s.Frame s') : s'.Kept outs := by
  have hends : s'.ends = s.ends := congrArg (List.map _) hf.past.taken
  have hbegun : s'.begunNames = s.begunNames := congrArg (List.map _) hf.started
  refine ⟨h.records.congr hf.record.results hf.record.failures hf.record.failed
    hf.record.completed, h.nodup, ?_, ?_, ?_, fun hp => ?_, fun hn => ?_, fun hn => ?_,
    fun e he => ?_, fun t ht => ?_, fun hd => ?_⟩
  · unfold Reaches
    rw [hf.workflow, show s'.rounds = s.rounds from hf.past.rounds]
    exact h.named
  · rw [hf.returned', ← hf.returned, hf.record.current]
    exact h.apart
  · rw [hf.record.current, hbegun]
    exact h.current
  · rcases hf.round with hnone | hsame
    · exact absurd hnone hp
    · obtain ⟨hall, hcurrent⟩ := h.aloft (hsame.pending ▸ hp)
      refine ⟨?_, ?_⟩
      · rw [hends, hsame.inFlight, hbegun]
        exact hall
      · rw [hf.record.current, hsame.inFlight]
        exact hcurrent
  · rw [hends, hf.returned', ← hf.returned]
    exact h.ends (hf.fate ▸ hn)
  · rw [hbegun]
    exact h.proceeds (hf.fate ▸ hn)
  · rw [hends]
    exact h.fate e (hf.fate ▸ he)
  · rw [hf.rejected] at ht
    cases ht
  · rw [hf.record.current]
    exact h.idle (hf.whole hd)

/-- A round begins, whether or not its tasks can be made ready. -/
theorem begins (h : s.Kept outs) {pending : List Task} (stage : s.stage = .round pending)
    {next : Stage} (hreturned : next.returned = []) (hfate : next.fate? = none)
    (hrejected : ∀ t, next.rejected? = some t →
      t ∈ s.workflow.layer (s.rounds + 1) ∧ t.name ∉ s.begunNames) :
    Kept { s with course := s.course.beginRound.enter next } outs := by
  have hnone : s.stage.fate? = none := by rw [stage]; rfl
  have hret : s.stage.returned = [] := by rw [stage]; rfl
  have hpending : s.stage.pending? ≠ none := by rw [stage]; exact nofun
  have haloft := h.aloft hpending
  have hends := h.ends hnone
  have hapart := h.apart
  rw [hret] at hends hapart
  refine ⟨h.records, h.nodup, fun o ho => ?_, ?_, h.current,
    fun _ => ⟨haloft.all, haloft.current⟩, fun _ => ?_, fun _ => h.proceeds hnone,
    fun e he => ?_, hrejected, h.idle⟩
  · obtain ⟨t, ht, hname, hle⟩ := h.named o ho
    exact ⟨t, ht, hname, Nat.le_succ_of_le hle⟩
  · show ∀ o ∈ outs ++ next.returned, _
    rw [hreturned]
    exact hapart
  · show s.ends = outs ++ next.returned
    rw [hreturned]
    exact hends
  · have he : next.fate? = some e := he
    rw [hfate] at he
    cases he

/-- A task is started that was not started before. -/
theorem launches (h : s.Kept outs) (hs : s.Sound) {p : Prepared} {ready : List Prepared} {n : Nat}
    {pending : List Task} (stage : s.stage = .starting (p :: ready) n pending)
    (running : s.job.isTerminal = false) (es : List JobEvent) :
    Kept
      { job := s.job.startTask p.name
        course := (s.course.startTask p).enter (.starting ready (n + 1) pending)
        told := s.told ++ es } outs := by
  have hnone : s.stage.fate? = none := by rw [stage]; rfl
  have hret : s.stage.returned = [] := by rw [stage]; rfl
  obtain ⟨hall, hcurrent⟩ := h.aloft (by rw [stage]; exact nofun)
  have hnew := hs.notMem_begunNames stage
  have hbegun : begunNames
      { job := s.job.startTask p.name
        course := (s.course.startTask p).enter (.starting ready (n + 1) pending)
        told := s.told ++ es } = s.begunNames ++ [p.name] := begunNames_of_started rfl
  have hflight : (s.course.inFlight ++ [p]).map (·.name)
      = s.course.inFlight.map (·.name) ++ [p.name] := List.map_append
  refine ⟨h.records.congr rfl rfl rfl rfl, h.nodup, h.named, fun o ho => ?_, fun m hm => ?_,
    fun _ => ⟨?_, fun m hm => ?_⟩, fun _ => ?_, fun _ o ho => ?_, (fun _ he => by cases he),
    (fun _ ht => by cases ht), fun hd => ?_⟩
  · have ho : o ∈ outs ++ [] := ho
    rw [List.append_nil] at ho
    intro hin
    rcases NameSet.mem_insert.1 hin with he | hin
    · exact hnew (he ▸ (h.proceeds hnone o ho).2)
    · exact h.apart o (List.mem_append_left _ ho) hin
  · rw [hbegun, List.mem_append, List.mem_singleton]
    exact (NameSet.mem_insert.1 hm).elim Or.inr fun hin => Or.inl (h.current m hin)
  · rw [hbegun]
    show (s.ends.map _ ++ (s.course.inFlight ++ [p]).map _).Perm _
    rw [hflight, ← List.append_assoc]
    exact hall.append_right [p.name]
  · show m ∈ (s.course.inFlight ++ [p]).map _
    rw [hflight, List.mem_append, List.mem_singleton]
    exact (NameSet.mem_insert.1 hm).elim Or.inr fun hin => Or.inl (hcurrent m hin)
  · have hends := h.ends hnone
    rw [hret] at hends
    exact hends
  · obtain ⟨hproceeds, hbegan⟩ := h.proceeds hnone o ho
    rw [hbegun]
    exact ⟨hproceeds, List.mem_append_left _ hbegan⟩
  · exact absurd hd (Job.not_completed running)

/-- An outcome comes in. -/
theorem takesUp (h : s.Kept outs) {p : Prepared} {e : Option AttemptEnd} {n : Nat}
    {pending : List Task} (stage : s.stage = .waiting (n + 1) pending)
    (flight : p ∈ s.course.inFlight) (running : s.job.isTerminal = false) :
    Kept
      { s with
        job := s.job.endTask p.name
        course := (s.course.takeUp p e).enter (.recording (p.outcomeOf e) n pending) } outs := by
  have hnone : s.stage.fate? = none := by rw [stage]; rfl
  have hret : s.stage.returned = [] := by rw [stage]; rfl
  obtain ⟨hall, hcurrent⟩ := h.aloft (by rw [stage]; exact nofun)
  have hends := h.ends hnone
  rw [hret, List.append_nil] at hends
  have htaken : (s.course.taken ++ [(p, e)]).map (fun x => x.1.outcomeOf x.2)
      = s.ends ++ [p.outcomeOf e] := List.map_append
  have hland := s.course.map_name_land p
  have hmem : p.name ∈ s.course.inFlight.map (·.name) := List.mem_map_of_mem flight
  refine ⟨h.records.congr rfl rfl rfl rfl, h.nodup, h.named, fun o ho => ?_, fun m hm => ?_,
    fun _ => ⟨?_, fun m hm => ?_⟩, fun _ => ?_, fun _ => h.proceeds hnone,
    (fun _ he => by cases he), (fun _ ht => by cases ht), fun hd => ?_⟩
  · intro hin
    obtain ⟨hin, hne⟩ := NameSet.mem_erase.1 hin
    rcases List.mem_append.1 ho with ho | ho
    · exact h.apart o (List.mem_append_left _ ho) hin
    · rw [List.mem_singleton.1 ho, p.task_outcomeOf] at hne
      exact hne rfl
  · exact h.current m (NameSet.mem_erase.1 hm).1
  · show (((s.course.taken ++ [(p, e)]).map _).map _ ++ (s.course.land p).inFlight.map _).Perm
      s.begunNames
    rw [htaken, hland, List.map_append, List.append_assoc]
    refine (List.Perm.append_left _ ?_).trans hall
    rw [List.map_singleton, p.task_outcomeOf]
    exact (List.perm_cons_erase hmem).symm
  · obtain ⟨hin, hne⟩ := NameSet.mem_erase.1 hm
    show m ∈ (s.course.land p).inFlight.map _
    rw [hland]
    exact (List.mem_erase_of_ne hne).2 (hcurrent m hin)
  · show (s.course.taken ++ [(p, e)]).map _ = outs ++ [p.outcomeOf e]
    rw [htaken, hends]
  · exact absurd hd (Job.not_completed running)

/-- With the outcome of another task, the outcomes are still of different tasks. -/
theorem nodup_concat (h : s.Kept outs) {o : Outcome} (hn : o.task ∉ outs.map (·.task)) :
    ((outs ++ [o]).map (·.task)).Nodup := by
  rw [List.map_append, List.nodup_append]
  refine ⟨h.nodup, List.nodup_singleton _, fun a ha b hb hab => hn ?_⟩
  have hb : b = o.task := List.mem_singleton.1 hb
  rw [← hb, ← hab]
  exact ha

/-- The outcome that has come in last is of a task of its own. -/
theorem last (h : s.Kept outs) (hs : s.Sound) {oc : Outcome} {n : Nat} {pending : List Task}
    (stage : s.stage = .recording oc n pending) :
    s.ends = outs ++ [oc] ∧ oc.task ∉ outs.map (·.task) ∧ oc.task ∈ s.begunNames := by
  have hends := h.ends (by rw [stage]; rfl)
  rw [stage] at hends
  have hends : s.ends = outs ++ [oc] := hends
  have hall := (h.aloft (by rw [stage]; exact nofun)).all
  rw [hends] at hall
  have hnodup := hall.nodup_iff.2 hs.nodup_begunNames
  rw [List.nodup_append, List.map_append, List.nodup_append] at hnodup
  refine ⟨hends, fun hin => hnodup.1.2.2 _ hin oc.task List.mem_cons_self rfl,
    hall.subset (List.mem_append_left _ ?_)⟩
  rw [List.map_append]
  exact List.mem_append_right _ List.mem_cons_self

/-- The outcome is recorded, and the job goes on. -/
theorem recordsLast (h : s.Kept outs) (hs : s.Sound) {oc : Outcome} {n : Nat}
    {pending : List Task} (stage : s.stage = .recording oc n pending) (hproceeds : oc.proceeds)
    {j : Job} (hj : j.Records (outs ++ [oc])) (hc : j.currentTasks = s.job.currentTasks)
    (hst : j.status = s.job.status) (es : List JobEvent) :
    Kept { job := j, course := s.course.enter (.waiting n pending), told := s.told ++ es }
      (outs ++ [oc]) := by
  obtain ⟨hends, hnew, hbegan⟩ := h.last hs stage
  have hnone : s.stage.fate? = none := by rw [stage]; rfl
  obtain ⟨hall, hcurrent⟩ := h.aloft (by rw [stage]; exact nofun)
  have hapart := h.apart
  rw [stage] at hapart
  refine ⟨hj, h.nodup_concat hnew, fun o ho => ?_, fun o ho => ?_, fun m hm => ?_,
    fun _ => ⟨hall, fun m hm => ?_⟩, fun _ => ?_, fun _ o ho => ?_,
    (fun _ he => by cases he), (fun _ ht => by cases ht), fun hd => ?_⟩
  · rcases List.mem_append.1 ho with ho | ho
    · exact h.named o ho
    · rw [List.mem_singleton.1 ho]
      exact hs.reaches_of_begun hbegan
  · have ho : o ∈ (outs ++ [oc]) ++ [] := ho
    rw [List.append_nil] at ho
    show o.task ∉ j.currentTasks
    rw [hc]
    exact hapart o ho
  · exact h.current m (hc ▸ hm)
  · exact hcurrent m (hc ▸ hm)
  · exact hends.trans (List.append_nil _).symm
  · rcases List.mem_append.1 ho with ho | ho
    · exact h.proceeds hnone o ho
    · rw [List.mem_singleton.1 ho]
      exact ⟨hproceeds, hbegan⟩
  · show ∀ m, m ∉ j.currentTasks
    rw [hc]
    exact h.idle (hst ▸ hd)

/-- The outcome is recorded, and the run fails with its error. -/
theorem fails (h : s.Kept outs) (hs : s.Sound) {oc : Outcome} {e : ExecutionError} {n : Nat}
    {pending : List Task} (stage : s.stage = .recording oc n pending)
    (result : oc.result = .error e) (hproceeds : oc.proceeds = false) {j : Job}
    (hj : j.Records (outs ++ [oc])) (hc : j.currentTasks = s.job.currentTasks)
    (hst : j.status = s.job.status) (es : List JobEvent) :
    Kept { job := j, course := s.course.enter (.failing e), told := s.told ++ es }
      (outs ++ [oc]) := by
  obtain ⟨hends, hnew, hbegan⟩ := h.last hs stage
  have hnone : s.stage.fate? = none := by rw [stage]; rfl
  have hapart := h.apart
  rw [stage] at hapart
  refine ⟨hj, h.nodup_concat hnew, fun o ho => ?_, fun o ho => ?_, fun m hm => ?_, fun hp => ?_,
    (fun hn => by cases hn), (fun hn => by cases hn), fun e' he => ?_, (fun _ ht => by cases ht),
    fun hd => ?_⟩
  · rcases List.mem_append.1 ho with ho | ho
    · exact h.named o ho
    · rw [List.mem_singleton.1 ho]
      exact hs.reaches_of_begun hbegan
  · have ho : o ∈ (outs ++ [oc]) ++ [] := ho
    rw [List.append_nil] at ho
    show o.task ∉ j.currentTasks
    rw [hc]
    exact hapart o ho
  · exact h.current m (hc ▸ hm)
  · exact absurd rfl hp
  · cases he
    exact ⟨outs, oc, rfl, Or.inr hends, result, hproceeds, fun x hx => (h.proceeds hnone x hx).1⟩
  · show ∀ m, m ∉ j.currentTasks
    rw [hc]
    exact h.idle (hst ▸ hd)

/-- The task that cannot be made ready is recorded as failed. -/
theorem refuses (h : s.Kept outs) {t : Task} {e : ExecutionError}
    (stage : s.stage = .rejecting t e) (now : Instant) (es : List JobEvent) :
    Kept
      { job := s.job.failTask t.name ⟨t.worker, e.message, now⟩ false
        course := s.course.enter (.failing e)
        told := s.told ++ es } (outs ++ [⟨t.name, t.worker, false, .error e⟩]) := by
  have hnone : s.stage.fate? = none := by rw [stage]; rfl
  obtain ⟨ht, hnew⟩ := h.rejected t (by rw [stage]; rfl)
  have hfresh : t.name ∉ outs.map (·.task) := fun hin => by
    obtain ⟨o, ho, hname⟩ := List.mem_map.1 hin
    exact hnew (hname ▸ (h.proceeds hnone o ho).2)
  have hends := h.ends hnone
  have hapart := h.apart
  rw [stage] at hends hapart
  refine ⟨?_, h.nodup_concat hfresh, fun o ho => ?_, fun o ho => ?_, h.current, fun hp => ?_,
    (fun hn => by cases hn), (fun hn => by cases hn), fun e' he => ?_, (fun _ hr => by cases hr),
    h.idle⟩
  · exact h.records.fail (o := ⟨t.name, t.worker, false, .error e⟩) hfresh rfl now rfl
  · rcases List.mem_append.1 ho with ho | ho
    · exact h.named o ho
    · rw [List.mem_singleton.1 ho]
      obtain ⟨htask, hdepth⟩ := Workflow.mem_layer.1 ht
      exact ⟨t, htask, rfl, Nat.le_of_eq hdepth⟩
  · have ho : o ∈ (outs ++ [_]) ++ [] := ho
    rw [List.append_nil] at ho
    rcases List.mem_append.1 ho with ho | ho
    · exact hapart o (List.mem_append_left _ ho)
    · rw [List.mem_singleton.1 ho]
      exact fun hin => hnew (h.current _ hin)
  · exact absurd rfl hp
  · cases he
    refine ⟨outs, _, rfl, Or.inl ?_, rfl, rfl, fun x hx => (h.proceeds hnone x hx).1⟩
    exact hends.trans (List.append_nil _)

/-- The job is completed, and nothing is current any more. -/
theorem succeeds (h : s.Kept outs) (hs : s.Sound) (stage : s.stage = .completing) (now : Instant)
    (es : List JobEvent) (report : Bool) :
    Kept
      { job := s.job.endedAs .completed now
        course := s.course.enter (if report then .reporting else .leaving)
        told := s.told ++ es } outs := by
  have hnext : ∀ r : Bool, (if r then Stage.reporting else .leaving).returned = [] ∧
      (if r then Stage.reporting else .leaving).pending? = none ∧
      (if r then Stage.reporting else .leaving).fate? = none ∧
      (if r then Stage.reporting else .leaving).rejected? = none := fun r => by
    cases r <;> exact ⟨rfl, rfl, rfl, rfl⟩
  obtain ⟨hreturned, hpending, hfate, hrejected⟩ := hnext report
  have hnone : s.stage.fate? = none := by rw [stage]; rfl
  obtain ⟨-, -, hflight⟩ := (hs.underWay [] (by rw [stage]; rfl)).between (by rw [stage]; rfl)
  have hcurrent := (h.aloft (by rw [stage]; exact nofun)).current
  rw [hflight] at hcurrent
  have hends := h.ends hnone
  have hapart := h.apart
  rw [stage] at hends hapart
  refine ⟨h.records.congr rfl rfl rfl rfl, h.nodup, h.named, ?_, h.current,
    fun hp => absurd hpending hp, fun _ => ?_, fun _ => h.proceeds hnone,
    fun e he => absurd (hfate.symm.trans he) nofun,
    fun t ht => absurd (hrejected.symm.trans ht) nofun, fun _ m hm => ?_⟩
  · show ∀ o ∈ outs ++ (if report then Stage.reporting else .leaving).returned, _
    rw [hreturned]
    exact hapart
  · show s.ends = outs ++ (if report then Stage.reporting else .leaving).returned
    rw [hreturned]
    exact hends
  · exact absurd (hcurrent m hm) List.not_mem_nil

/-- A stop keeps it. -/
theorem stops (h : s.Kept outs) (now : Instant) : (s.stop now).Kept outs :=
  ⟨h.records.congr rfl rfl rfl rfl, h.nodup, h.named, h.apart, h.current,
    fun hp => ⟨(h.aloft hp).all, (h.aloft hp).current⟩, h.ends, h.proceeds, h.fate, h.rejected,
    fun hd => by cases hd⟩

/-- It holds of a job that has just been started. -/
theorem starts (w : Workflow) (id : String) (parameters : Dict Json) (now : Instant) :
    (Scene.start w id parameters now).Kept [] := by
  have hnone : ∀ n, n ∉ (Scene.start w id parameters now).job.currentTasks :=
    fun n hn => NameSet.notMem_empty n hn
  refine ⟨⟨fun n v => ?_, fun n kind text => ?_, fun n => ?_, fun n => ?_⟩, List.nodup_nil,
    (fun o ho => absurd ho List.not_mem_nil), (fun o ho => absurd ho List.not_mem_nil),
    fun n hn => absurd hn (hnone n), fun _ => ⟨.nil, fun n hn => absurd hn (hnone n)⟩, fun _ => rfl,
    (fun _ o ho => absurd ho List.not_mem_nil), (fun e he => by cases he),
    (fun t ht => by cases ht), fun hd => by cases hd⟩
  · exact iff_of_false nofun fun ⟨o, ho, _⟩ => absurd ho List.not_mem_nil
  · exact iff_of_false nofun fun ⟨o, ho, _⟩ => absurd ho List.not_mem_nil
  · exact iff_of_false (NameSet.notMem_empty n) fun ⟨o, ho, _⟩ => absurd ho List.not_mem_nil
  · exact iff_of_false (NameSet.notMem_empty n) fun ⟨o, ho, _⟩ => absurd ho List.not_mem_nil

/-- **A turn keeps it**, with one outcome more if one is recorded. -/
theorem turn (h : s.Kept outs) (hs : s.Sound) (ht : s.Timed) {env : Orchestrator}
    (hturn : Turn env s s') : ∃ outs', s'.Kept outs' := by
  cases hturn with
  | pass pass => exact ⟨outs, h.frame pass.frame⟩
  | starve stage left running none_ready =>
    exact absurd none_ready (hs.ready_ne_nil stage running left)
  | reject stage running ready prepared =>
    refine ⟨outs, h.begins stage rfl rfl fun t ht => ?_⟩
    cases ht
    exact hs.notMem_begunNames_of_ready stage running
      (Orchestrator.rejected_of_prepareAll prepared).1
  | begin stage running ready prepared =>
    exact ⟨outs, h.begins stage rfl rfl fun t ht => by cases ht⟩
  | launch stage =>
    exact ⟨outs, h.launches hs stage (ht.running stage fun ha => ha) _⟩
  | takeUp stage flight running => exact ⟨outs, h.takesUp stage flight running⟩
  | complete stage result =>
    have hnew := (h.last hs stage).2.1
    exact ⟨_, h.recordsLast hs stage (Outcome.proceeds_of_ok result)
      (h.records.complete hnew result) rfl rfl _⟩
  | overcome stage result continued running =>
    have hnew := (h.last hs stage).2.1
    have hproceeds := (Outcome.proceeds_of_error result).trans continued
    exact ⟨_, h.recordsLast hs stage hproceeds (h.records.fail hnew result _ hproceeds) rfl rfl _⟩
  | fail stage result continued running =>
    have hnew := (h.last hs stage).2.1
    have hproceeds := (Outcome.proceeds_of_error result).trans continued
    exact ⟨_, h.fails hs stage result hproceeds (h.records.fail hnew result _ hproceeds) rfl rfl _⟩
  | overlook stage result terminal => exact absurd terminal (ht.not_terminal stage fun ha => ha)
  | refuse stage running => exact ⟨_, h.refuses stage _ _⟩
  | refuseLate stage terminal => exact absurd terminal (ht.not_terminal stage fun ha => ha)
  | succeed stage running => exact ⟨outs, h.succeeds hs stage _ _ _⟩

end Kept

/-- It holds of every scene that is reached by stops where the run waits. -/
theorem Reached.kept {env : Orchestrator} (h : Reached env (fun r => r.isAwaiting) s) :
    ∃ outs, s.Kept outs := by
  induction h with
  | start valid => exact ⟨[], Kept.starts _ _ _ _⟩
  | turn before turn ih =>
    obtain ⟨outs, hk⟩ := ih
    exact hk.turn before.sound before.timed turn
  | stop before running rest ih =>
    obtain ⟨outs, hk⟩ := ih
    exact ⟨outs, hk.stops _⟩

/-- An outcome after which the job goes on has come in. -/
theorem Kept.mem_ends {outs : List Outcome} (h : s.Kept outs) {o : Outcome} (ho : o ∈ outs)
    (hp : o.proceeds) : o ∈ s.ends := by
  cases hf : s.stage.fate? with
  | none =>
    rw [h.ends hf]
    exact List.mem_append_left _ ho
  | some e =>
    obtain ⟨l, last, rfl, hends, -, hlast, -⟩ := h.fate e hf
    rcases List.mem_append.1 ho with ho | ho
    · rcases hends with hends | hends
      · rw [hends]
        exact ho
      · rw [hends]
        exact List.mem_append_left _ ho
    · rw [List.mem_singleton.1 ho, hlast] at hp
      cases hp

end Scene
end Runbook
