/-
# What a report says

A report gives the results and the failures of its assignment as they are and sums them up
(`ReportWorker.Renders`).  The words of an inference service come beside this under a name of
their own, so a service that answers changes nothing of it (`renders_of_perform`).
-/

import Runbook.Proofs.Dictionary
import Runbook.Worker.Perform
import Runbook.Worker.Report

namespace Runbook

/-- An entry of the summary in a report. -/
def Json.summary? (report : Json) (key : String) : Option Json :=
  (report.field? "summary").bind (field? key)

/-- The inference service answers every request. -/
def Performer.Answers (p : Performer Id) : Prop := ∀ request, ∃ v, (p.ask request).run = .ok v

/-- A service that answers is asked for the value. -/
theorem Plan.perform_askFor {p : Performer Id} {request : InferenceRequest} {v : Json}
    (h : (p.ask request).run = .ok v) (form : Json → Json) :
    (Plan.askFor request form).perform p = AttemptEnd.value (form v) := by
  have hask : p.ask request = pure (.ok v) := h
  rw [askFor, perform, hask]
  rfl

namespace ReportWorker

/-- **What a report says of its assignment.** -/
structure Renders (a : Assignment) (report : Json) : Prop where
  succeeded : report.summary? "tasks_succeeded" = some (.ofNat (objectParameter a "results").size)
  failed : report.summary? "tasks_failed" = some (.ofNat (objectParameter a "failures").size)
  completedTasks : report.summary? "completed_tasks" = some (parameterOrNull a "completed_tasks")
  failedTasks : report.summary? "failed_tasks" = some (parameterOrNull a "failed_tasks")
  results : report.field? "results" = some (.ofValues (objectParameter a "results"))
  failures : report.field? "failures" = some (.ofValues (objectParameter a "failures"))

variable {a : Assignment}

/-- A parameter that is an object is given whole. -/
theorem objectParameter_eq {key : String} {d : Dict Json}
    (h : a.parameter? key = some (.ofValues d)) : objectParameter a key = d := by
  rw [objectParameter, h, Option.bind_some, Json.fields?_ofValues, Option.getD_some]

theorem parameterOrNull_eq {key : String} {v : Json} (h : a.parameter? key = some v) :
    parameterOrNull a key = v := by
  rw [parameterOrNull, h, Option.getD_some]

/-- The entries of the summary. -/
def summary (a : Assignment) : List (String × Json) :=
  [("tasks_succeeded", .ofNat (objectParameter a "results").size),
   ("tasks_failed", .ofNat (objectParameter a "failures").size),
   ("completed_tasks", parameterOrNull a "completed_tasks"),
   ("failed_tasks", parameterOrNull a "failed_tasks"),
   ("duration_ms", parameterOrNull a "duration_ms")]

/-- A report says all this if it has these three fields of the plain one. -/
theorem renders_of_fields {report : Json} (t : Instant)
    (h : ∀ k ∈ ["summary", "results", "failures"], report.field? k = (summarize a t).get? k) :
    Renders a report := by
  have hfield : ∀ k, (summarize a t).get? k = _ := Dict.get?_ofList _
  have hsummary : ∀ k, report.summary? k = lookupEntry k (summary a).reverse := fun k => by
    rw [Json.summary?, h "summary" (by decide), hfield]
    exact Json.field?_ofFields (summary a) k
  refine ⟨(hsummary _).trans rfl, (hsummary _).trans rfl, (hsummary _).trans rfl,
    (hsummary _).trans rfl, ?_, ?_⟩
  · rw [h "results" (by decide), hfield]
    rfl
  · rw [h "failures" (by decide), hfield]
    rfl

/-- **The worker of reports gives a report if the service answers it**, whether or not it
asks for anything. -/
theorem renders_of_perform {p : Performer Id} (h : p.Answers) (narrated : Bool) (a : Assignment)
    (number : Nat) :
    ∃ report, ((reportWorker narrated).attempt a number).perform p = AttemptEnd.value report ∧
      Renders a report := by
  cases narrated with
  | false => exact ⟨_, rfl, renders_of_fields p.now fun k _ => rfl⟩
  | true =>
    obtain ⟨narrative, hask⟩ := h { prompt := narrativePrompt (summarize a p.now) }
    refine ⟨.ofValues ((summarize a p.now).insert "narrative" narrative), ?_,
      renders_of_fields p.now fun k hk => ?_⟩
    · exact Plan.perform_askFor hask _
    · -- The words stand under a name that is none of the three.
      rw [Json.field?_ofValues, Dict.get?_insert, if_neg]
      rintro rfl
      revert hk
      decide

end ReportWorker
end Runbook
