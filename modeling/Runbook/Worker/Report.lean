/-
# Report workers

A report worker puts the parameters of its assignment in order: what succeeded,
what failed and what else was given.  With an inference service at hand it also
asks for a summary in words.
-/

import Runbook.Worker.Basic

namespace Runbook
namespace ReportWorker

/-- The parameters that have their own place in a report. -/
def reservedKeys : List String :=
  ["type", "scope", "workflow_id", "workflow_name", "job_id", "results", "failures",
   "completed_tasks", "failed_tasks", "duration_ms"]

/-- The fields of a parameter that is an object, none otherwise. -/
def objectParameter (a : Assignment) (key : String) : Dict Json :=
  ((a.parameter? key).bind Json.fields?).getD .empty

/-- The parameter, or null. -/
def parameterOrNull (a : Assignment) (key : String) : Json := (a.parameter? key).getD .null

/-- The report on an assignment at an instant. -/
def summarize (a : Assignment) (t : Instant) : Dict Json :=
  let results := objectParameter a "results"
  let failures := objectParameter a "failures"
  .ofList
    [("report_type", .string ((a.parameterText? "type").getD "technical")),
     ("scope", .string ((a.parameterText? "scope").getD "full")),
     ("task", .string a.name),
     ("job_id", .string a.jobId),
     ("workflow_id", parameterOrNull a "workflow_id"),
     ("workflow_name", parameterOrNull a "workflow_name"),
     ("generated", .string t.offsetText),
     ("summary", .ofFields
       [("tasks_succeeded", .ofNat results.size),
        ("tasks_failed", .ofNat failures.size),
        ("completed_tasks", parameterOrNull a "completed_tasks"),
        ("failed_tasks", parameterOrNull a "failed_tasks"),
        ("duration_ms", parameterOrNull a "duration_ms")]),
     ("results", .ofValues results),
     ("failures", .ofValues failures),
     ("inputs", .object (a.parameters.entries.filter fun e => e.1 ∉ reservedKeys))]

/-- The prompt for a summary in words. -/
def narrativePrompt (report : Dict Json) : String :=
  "Generate a concise executive summary for the following "
    ++ ((report.get? "report_type").bind Json.string?).getD "technical"
    ++ " security assessment.\n"
    ++ "Cover the high-level risk assessment, key findings, business impact and "
    ++ "prioritized recommendations.\n\nAssessment data:\n"
    ++ (Json.ofValues report).compact

/-- The plan: the report as it is, or with the service's words in it. -/
def attempt (narrated : Bool) (a : Assignment) : Plan :=
  .now fun t =>
    let report := summarize a t
    if narrated then
      .askFor { prompt := narrativePrompt report } fun narrative =>
        .ofValues (report.insert "narrative" narrative)
    else .answer (.ok (.ofValues report))

end ReportWorker

/-- The worker that writes reports, with or without a summary in words. -/
def reportWorker (narrated : Bool) : Worker :=
  { kind := .report
    capabilities := ["report", "document", "summarize"]
    check := checkName
    attempt := fun a _ => ReportWorker.attempt narrated a }

end Runbook
