/-
# The account of a job

A job keeps several collections of what has become of its tasks, and each is
written by other steps than the others.  They are tied together by one list, the
outcomes that are recorded so far: the job gives an account of that list and of
nothing else (`Job.Records`), and what the collections have in common, or two jobs
with the same outcomes, is read off the list (`Records.agree`).
-/

import Runbook.Engine.Attempt
import Runbook.Engine.Job

namespace Runbook

/-- What holds of one of some and one more holds of one of them or of that one. -/
theorem exists_mem_concat {α : Type} {l : List α} {a : α} {P : α → Prop} :
    (∃ x ∈ l ++ [a], P x) ↔ (∃ x ∈ l, P x) ∨ P a := by
  simp only [List.mem_append, List.mem_singleton, or_and_right, exists_or, exists_eq_left]

namespace Outcome

/-- A failure in spite of which the job goes on. -/
def overcome (o : Outcome) : Bool :=
  match o.result with
  | .ok _ => false
  | .error e => o.continues && e.isContinuable

/-- An outcome after which the job goes on: a result, or a failure that is
overcome. -/
def proceeds (o : Outcome) : Bool :=
  match o.result with
  | .ok _ => true
  | .error _ => o.overcome

theorem proceeds_of_ok {o : Outcome} {v : Json} (h : o.result = .ok v) : o.proceeds = true := by
  rw [proceeds, h]

theorem proceeds_of_error {o : Outcome} {e : ExecutionError} (h : o.result = .error e) :
    o.proceeds = (o.continues && e.isContinuable) := by
  rw [proceeds, h]
  dsimp only
  rw [overcome, h]

/-- An outcome that lets the job go on is a result or a failure that is overcome. -/
theorem proceeds_iff {o : Outcome} :
    o.proceeds ↔ (∃ v, o.result = .ok v) ∨ o.overcome := by
  rw [proceeds, overcome]
  cases o.result with
  | ok v => exact ⟨fun _ => Or.inl ⟨v, rfl⟩, fun _ => rfl⟩
  | error e =>
    constructor
    · exact fun h => Or.inr h
    · rintro (⟨v, hv⟩ | h)
      · cases hv
      · exact h

/-- A failure that is overcome is a failure. -/
theorem error_of_overcome {o : Outcome} (h : o.overcome) : ∃ e, o.result = .error e := by
  rw [overcome] at h
  cases hr : o.result with
  | ok v => rw [hr] at h; cases h
  | error e => exact ⟨e, rfl⟩

end Outcome

namespace Job

/-- **The account that a job gives of some outcomes.**  It has the results and the
failures of these outcomes and no others, and its completed tasks are those after
which the job goes on. -/
structure Records (j : Job) (outs : List Outcome) : Prop where
  results : ∀ n v, j.results.get? n = some v ↔ ∃ o ∈ outs, o.task = n ∧ o.result = .ok v
  failures : ∀ n kind text, (∃ now, j.failures.get? n = some ⟨kind, text, now⟩) ↔
    ∃ o ∈ outs, o.task = n ∧ o.worker = kind ∧ ∃ e, o.result = .error e ∧ e.message = text
  failed : ∀ n, n ∈ j.failedTasks ↔ ∃ o ∈ outs, o.task = n ∧ ∃ e, o.result = .error e
  completed : ∀ n, n ∈ j.completedTasks ↔ ∃ o ∈ outs, o.task = n ∧ o.proceeds

namespace Records

variable {j j' : Job} {outs : List Outcome} {o : Outcome}

theorem congr (h : j.Records outs) (hr : j'.results = j.results) (hf : j'.failures = j.failures)
    (hd : j'.failedTasks = j.failedTasks) (hc : j'.completedTasks = j.completedTasks) :
    j'.Records outs := by
  refine ⟨?_, ?_, ?_, ?_⟩
  · rw [hr]
    exact h.results
  · rw [hf]
    exact h.failures
  · rw [hd]
    exact h.failed
  · rw [hc]
    exact h.completed

/-- A result is recorded. -/
theorem complete (h : j.Records outs) (hn : o.task ∉ outs.map (·.task)) {v : Json}
    (hr : o.result = .ok v) : (j.completeTask o.task v).Records (outs ++ [o]) := by
  have hfresh : ∀ x ∈ outs, x.task ≠ o.task := fun x hx he => hn (he ▸ List.mem_map_of_mem hx)
  refine ⟨fun n u => ?_, fun n kind text => ?_, fun n => ?_, fun n => ?_⟩ <;>
    rw [exists_mem_concat]
  · show (j.results.insert o.task v).get? n = some u ↔ _
    rw [Dict.get?_insert, hr, Except.ok.injEq]
    split
    · rename_i he
      rw [Option.some.injEq, he]
      rw [or_iff_right fun ⟨x, hx, hname, _⟩ => hfresh x hx hname, and_iff_right rfl]
    · rename_i hne
      rw [h.results, or_iff_left fun ⟨hname, _⟩ => hne hname.symm]
  · rw [hr]
    exact (h.failures n kind text).trans (or_iff_left fun ⟨_, _, _, he, _⟩ => by cases he).symm
  · rw [hr]
    exact (h.failed n).trans (or_iff_left fun ⟨_, _, he⟩ => by cases he).symm
  · show n ∈ j.completedTasks.insert o.task ↔ _
    rw [NameSet.mem_insert, h.completed, Outcome.proceeds_of_ok hr, or_comm]
    exact or_congr_right ⟨fun he => ⟨he.symm, rfl⟩, fun he => he.1.symm⟩

/-- A failure is recorded. -/
theorem fail (h : j.Records outs) (hn : o.task ∉ outs.map (·.task)) {e : ExecutionError}
    (hr : o.result = .error e) (now : Instant) {continued : Bool} (hc : o.proceeds = continued) :
    (j.failTask o.task ⟨o.worker, e.message, now⟩ continued).Records (outs ++ [o]) := by
  have hfresh : ∀ x ∈ outs, x.task ≠ o.task := fun x hx he => hn (he ▸ List.mem_map_of_mem hx)
  refine ⟨fun n u => ?_, fun n kind text => ?_, fun n => ?_, fun n => ?_⟩ <;>
    rw [exists_mem_concat]
  · rw [hr]
    exact (h.results n u).trans (or_iff_left fun ⟨_, he⟩ => by cases he).symm
  · show (∃ t, (j.failures.insert o.task _).get? n = some _) ↔ _
    rw [hr, Dict.get?_insert]
    split
    · rename_i he
      constructor
      · rintro ⟨t, ht⟩
        cases ht
        exact Or.inr ⟨he.symm, rfl, e, rfl, rfl⟩
      · rintro (⟨x, hx, hname, -⟩ | ⟨-, rfl, e', he', rfl⟩)
        · exact absurd (hname.trans he) (hfresh x hx)
        · cases he'
          exact ⟨now, rfl⟩
    · rename_i hne
      rw [h.failures, or_iff_left fun ⟨hname, _⟩ => hne hname.symm]
  · show n ∈ j.failedTasks.insert o.task ↔ _
    rw [NameSet.mem_insert, h.failed, hr, or_comm]
    exact or_congr_right ⟨fun he => ⟨he.symm, e, rfl⟩, fun he => he.1.symm⟩
  · show n ∈ (if continued then j.completedTasks.insert o.task else j.completedTasks) ↔ _
    rw [hc]
    cases continued with
    | true =>
      rw [if_pos rfl, NameSet.mem_insert, h.completed, or_comm]
      exact or_congr_right ⟨fun he => ⟨he.symm, rfl⟩, fun he => he.1.symm⟩
    | false =>
      rw [if_neg Bool.false_ne_true, h.completed, or_iff_left fun ⟨_, he⟩ => by cases he]

/-- The job has a result of a task exactly if an outcome of the task is one. -/
theorem contains_results (h : j.Records outs) {n : String} :
    j.results.contains n ↔ ∃ o ∈ outs, o.task = n ∧ ∃ v, o.result = .ok v := by
  rw [Dict.contains, Option.isSome_iff_exists]
  constructor
  · rintro ⟨v, hv⟩
    obtain ⟨o, ho, hname, hok⟩ := (h.results n v).1 hv
    exact ⟨o, ho, hname, v, hok⟩
  · rintro ⟨o, ho, hname, v, hok⟩
    exact ⟨v, (h.results n v).2 ⟨o, ho, hname, hok⟩⟩

/-- The tasks with a failure are the failed tasks. -/
theorem contains_failures (h : j.Records outs) {n : String} :
    j.failures.contains n ↔ n ∈ j.failedTasks := by
  rw [h.failed, Dict.contains, Option.isSome_iff_exists]
  constructor
  · rintro ⟨⟨kind, text, now⟩, hf⟩
    obtain ⟨o, ho, hname, -, e, he, -⟩ := (h.failures n kind text).1 ⟨now, hf⟩
    exact ⟨o, ho, hname, e, he⟩
  · rintro ⟨o, ho, hname, e, he⟩
    obtain ⟨now, hf⟩ := (h.failures n o.worker e.message).2 ⟨o, ho, hname, rfl, e, he, rfl⟩
    exact ⟨_, hf⟩

/-- Accounts of the same outcomes have the same tasks, results and failures, but for
the times of the failures. -/
theorem agree {j₁ j₂ : Job} {outs₁ outs₂ : List Outcome} (h₁ : j₁.Records outs₁)
    (h₂ : j₂.Records outs₂) (h : ∀ o, o ∈ outs₁ ↔ o ∈ outs₂) :
    j₁.completedTasks = j₂.completedTasks ∧ j₁.failedTasks = j₂.failedTasks ∧
      j₁.results = j₂.results ∧
      ∀ n, (j₁.failures.get? n).map (fun f => (f.worker, f.error))
        = (j₂.failures.get? n).map fun f => (f.worker, f.error) := by
  have hfailure : ∀ (j : Job) (n : String) (kind : WorkerKind) (text : String),
      (j.failures.get? n).map (fun f => (f.worker, f.error)) = some (kind, text) ↔
        ∃ now, j.failures.get? n = some ⟨kind, text, now⟩ := by
    intro j n kind text
    rw [Option.map_eq_some_iff]
    constructor
    · rintro ⟨⟨k, x, now⟩, hf, he⟩
      cases he
      exact ⟨now, hf⟩
    · rintro ⟨now, hf⟩
      exact ⟨_, hf, rfl⟩
  refine ⟨NameSet.ext_mem fun n => ?_, NameSet.ext_mem fun n => ?_,
    Dict.ext_get? fun n => Option.ext fun v => ?_, fun n => Option.ext fun x => ?_⟩
  · simp only [h₁.completed, h₂.completed, h]
  · simp only [h₁.failed, h₂.failed, h]
  · simp only [h₁.results, h₂.results, h]
  · obtain ⟨kind, text⟩ := x
    simp only [hfailure, h₁.failures, h₂.failures, h]

end Records
end Job
end Runbook
