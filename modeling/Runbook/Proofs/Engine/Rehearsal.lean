/-
# Rehearsals

What becomes of the tasks of a job is settled beforehand, if what the attempts at a
task come to depends on the task alone: each depth is made ready with the results
of the depths before it (`Rehearsal.results`), and these are the results of their
tasks (`get?_results`).  No run is needed for that, and no order in which tasks end.
-/

import Runbook.Proofs.Engine.Account
import Runbook.Proofs.Engine.Prepare
import Runbook.Proofs.Workflow.Depth

namespace Runbook

/-- What decides how a workflow goes: its tasks, the parameters of the job, the
workers and the settings, and what the attempts at a task come to. -/
structure Rehearsal where
  workflow : Workflow
  parameters : Dict Json
  registry : Registry
  settings : EngineSettings
  answer : Assignment → Option AttemptEnd

namespace Rehearsal

variable (r : Rehearsal)

/-- The task made ready for no job in particular, with the results so far. -/
def make (results : Dict Json) (t : Task) : Except ExecutionError Prepared :=
  Orchestrator.prepare { registry := r.registry, settings := r.settings } ""
    ⟨r.parameters, results⟩ t

/-- What the task ends with, if it can be made ready. -/
def outcomeAfter (results : Dict Json) (t : Task) : Option Outcome :=
  match r.make results t with
  | .ok p => some (p.outcomeOf (r.answer p.assignment))
  | .error _ => none

/-- The results of some tasks that follow on the results so far. -/
def resultsOf (results : Dict Json) (ts : List Task) : List (String × Json) :=
  ts.filterMap fun t =>
    ((r.outcomeAfter results t).bind fun o => o.result.toOption).map fun v => (t.name, v)

/-- The results of all tasks up to a depth. -/
def results : Nat → Dict Json
  | 0 => .empty
  | k + 1 =>
    (r.resultsOf (results k) (r.workflow.layer (k + 1))).foldl (fun d e => d.insert e.1 e.2)
      (results k)

/-- The task made ready with the results of lesser depths. -/
def ready (t : Task) : Except ExecutionError Prepared :=
  r.make (r.results (r.workflow.depth t.name - 1)) t

/-- What the task ends with. -/
def outcome? (t : Task) : Option Outcome :=
  r.outcomeAfter (r.results (r.workflow.depth t.name - 1)) t

/-- The job goes on after the task. -/
def Proceeds (t : Task) : Prop := ∃ o, r.outcome? t = some o ∧ o.proceeds

variable {r}

/-- What is made ready has the name of its task. -/
theorem name_of_ready {t : Task} {p : Prepared} (h : r.ready t = .ok p.anonymous) :
    p.name = t.name :=
  (Orchestrator.standsFor_of_prepare h).name

theorem outcome?_of_ready {t : Task} {p : Prepared} (h : r.ready t = .ok p) :
    r.outcome? t = some (p.outcomeOf (r.answer p.assignment)) := by
  unfold ready at h
  rw [outcome?, outcomeAfter, h]

/-- A task that cannot be made ready ends with nothing. -/
theorem not_proceeds_of_error {t : Task} {e : ExecutionError} (h : r.ready t = .error e) :
    ¬ r.Proceeds t := by
  rintro ⟨o, ho, -⟩
  unfold ready at h
  rw [outcome?, outcomeAfter, h] at ho
  cases ho

theorem mem_resultsOf {results : Dict Json} {ts : List Task} {n : String} {v : Json} :
    (n, v) ∈ r.resultsOf results ts ↔
      ∃ t ∈ ts, t.name = n ∧ ∃ o, r.outcomeAfter results t = some o ∧ o.result = .ok v := by
  have hok : ∀ (o : Outcome) (u : Json), o.result.toOption = some u ↔ o.result = .ok u := by
    intro o u
    cases o.result <;> simp [Except.toOption]
  simp only [resultsOf, List.mem_filterMap, Option.map_eq_some_iff, Option.bind_eq_some_iff, hok,
    Prod.mk.injEq]
  constructor
  · rintro ⟨t, ht, v, ⟨o, ho, hv⟩, hn, rfl⟩
    exact ⟨t, ht, hn, o, ho, hv⟩
  · rintro ⟨t, ht, hn, o, ho, hv⟩
    exact ⟨t, ht, v, ⟨o, ho, hv⟩, hn, rfl⟩

/-- No task has two results. -/
theorem nodup_resultsOf (results : Dict Json) {ts : List Task} (h : (ts.map (·.name)).Nodup) :
    ((r.resultsOf results ts).map (·.1)).Nodup := by
  refine h.sublist ?_
  induction ts with
  | nil => exact .slnil
  | cons t ts ih =>
    have htail := ih (List.nodup_cons.1 h).2
    unfold resultsOf at htail ⊢
    rw [List.filterMap_cons]
    split
    · exact htail.cons _
    · rename_i e he
      obtain ⟨v, -, rfl⟩ := Option.map_eq_some_iff.1 he
      exact htail.cons_cons _

/-- **The results up to a depth are those of its tasks.** -/
theorem get?_results (hw : r.workflow.WellFormed) {k : Nat} {n : String} {v : Json} :
    (r.results k).get? n = some v ↔ ∃ t ∈ r.workflow.tasks, r.workflow.depth t.name ≤ k ∧
      t.name = n ∧ ∃ o, r.outcome? t = some o ∧ o.result = .ok v := by
  induction k with
  | zero =>
    constructor
    · intro h
      cases h
    · rintro ⟨t, ht, hle, -⟩
      have hpos := hw.depth_pos ht
      omega
  | succ k ih =>
    have hafter : ∀ t ∈ r.workflow.layer (k + 1),
        r.outcomeAfter (r.results k) t = r.outcome? t := by
      intro t ht
      obtain ⟨-, hdepth⟩ := Workflow.mem_layer.1 ht
      unfold outcome?
      rw [hdepth, Nat.add_sub_cancel]
    rw [results, Dict.get?_foldl_insert_eq_some (nodup_resultsOf _ (hw.nodup_layer (k + 1))), ih,
      mem_resultsOf]
    constructor
    · rintro (⟨t, ht, hn, o, ho, hv⟩ | ⟨-, t, ht, hle, hn⟩)
      · rw [hafter t ht] at ho
        obtain ⟨htask, hdepth⟩ := Workflow.mem_layer.1 ht
        exact ⟨t, htask, Nat.le_of_eq hdepth, hn, o, ho, hv⟩
      · exact ⟨t, ht, Nat.le_succ_of_le hle, hn⟩
    · rintro ⟨t, ht, hle, rfl, o, ho, hv⟩
      rcases Nat.lt_or_ge k (r.workflow.depth t.name) with hlt | hge
      · have hmem : t ∈ r.workflow.layer (k + 1) :=
          Workflow.mem_layer.2 ⟨ht, Nat.le_antisymm hle hlt⟩
        exact Or.inl ⟨t, hmem, rfl, o, (hafter t hmem).trans ho, hv⟩
      · refine Or.inr ⟨fun hin => ?_, t, ht, hge, rfl, o, ho, hv⟩
        -- A task of this name in the next layer would lie deeper than itself.
        obtain ⟨⟨m, u⟩, hu, hm⟩ := List.mem_map.1 hin
        obtain ⟨t', ht', hn', -⟩ := mem_resultsOf.1 hu
        obtain ⟨-, hdepth⟩ := Workflow.mem_layer.1 ht'
        rw [hn', show m = t.name from hm] at hdepth
        omega

/-- The rehearsal is one with these workers and settings, and the workers judge
assignments without regard to the job. -/
structure Casts (r : Rehearsal) (env : Orchestrator) : Prop where
  registry : env.registry = r.registry
  settings : env.settings = r.settings
  check : ∀ kind worker, r.registry.worker? kind = some worker →
    ∀ a : Assignment, worker.check a.anonymous = worker.check a

/-- A task of a job is made ready as in the rehearsal. -/
theorem Casts.prepare {env : Orchestrator} (h : r.Casts env) (jobId : String)
    (results : Dict Json) (t : Task) :
    (env.prepare jobId ⟨r.parameters, results⟩ t).map Prepared.anonymous = r.make results t :=
  Orchestrator.prepare_anonymous h.registry h.settings
    (fun kind worker hw => h.check kind worker (h.registry ▸ hw)) jobId _ t

end Rehearsal
end Runbook
