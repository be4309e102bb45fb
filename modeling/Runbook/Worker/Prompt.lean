/-
# Prompt workers

A prompt worker turns its assignment into a prompt for the inference service and
answers with what the service says.  Tool, command, options, code and output of
the task all stand in the prompt, and so does the target, except for an analysis:
that is asked for its data or input instead.
-/

import Runbook.Json.Reader
import Runbook.Path
import Runbook.Worker.Basic

namespace Runbook
namespace PromptWorker

/-- The kind of specialist that the prompt speaks to. -/
def specialist : WorkerKind → String
  | .recon => "Recon"
  | .exploit => "Exploit"
  | .scan => "Scan"
  | .analysis => "Analysis"
  | .report => "Report"
  | .monitor => "Monitor"
  | .general => "security"

/-- The abilities of each kind. -/
def capabilities : WorkerKind → List String
  | .recon => ["recon", "discover", "enumerate", "osint", "scan"]
  | .exploit => ["exploit", "payload", "test", "validate"]
  | .scan => ["scan", "enumerate", "discover", "fingerprint", "probe"]
  | .analysis => ["analyze", "report", "interpret", "correlate", "assess"]
  | .report => ["report", "document", "summarize"]
  | .monitor => ["monitor", "alert", "track", "watch", "notify"]
  | .general => ["execute"]

/-- The actions that need a target. -/
def targeted : List Action := [.recon, .scan, .exploit, .enumerate]

/-- What every answer is to hold. -/
def requirements : String :=
  "\n\nProvide detailed results including:" ++
  "\n1. Summary of actions performed" ++
  "\n2. Key findings and observations" ++
  "\n3. Potential security implications" ++
  "\n4. Recommended next steps" ++
  "\n5. Technical details and evidence"

/-- The sentence on what is to be done. -/
def instruction (a : Assignment) : String :=
  let target := a.parameterText? "target"
  match a.action with
  | .recon => "perform reconnaissance on target: " ++ target.getD "unknown target" ++ ". "
  | .exploit =>
    "generate exploit code for: "
      ++ (target.or (a.parameterText? "vulnerability")).getD "target" ++ ". "
  | .analyze =>
    "analyze the provided data: "
      ++ ((a.parameterText? "data").or (a.parameterText? "input")).getD "data" ++ ". "
  | .scan => "perform scanning on: " ++ target.getD "target" ++ ". "
  | .enumerate => "perform enumeration on: " ++ target.getD "target" ++ ". "
  | _ =>
    "execute the following task: " ++ a.name ++ ". "
      ++ (target.map fun t => "Target: " ++ t ++ ". ").getD ""

/-- A sentence on something the task may say. -/
def clause (before : String) (said : Option String) (after : String) : String :=
  match said with
  | none => ""
  | some text => before ++ text ++ after

/-- The prompt for an assignment. -/
def prompt (kind : WorkerKind) (a : Assignment) : String :=
  "As a professional " ++ specialist kind ++ " specialist, " ++ instruction a
    ++ clause "Use tool: " (a.parameterText? "tool") ". "
    ++ clause "Execute command: " (a.parameterText? "command") ". "
    ++ clause "Parameters: " (a.parameterText? "options") ". "
    ++ clause "\n\nCode to execute or analyze:\n" a.code "\n"
    ++ clause "\n\nExpected output: " a.output "."
    ++ requirements

/-- The check of an assignment: the name, and the target where the action needs
one. -/
def check (a : Assignment) : TaskValidation :=
  .invalid
    ((checkName a).errors
      ++ (if a.action ∈ targeted ∧ a.parameterText? "target" = none then
          ["アクション " ++ a.action.word ++ " には Target の指定が必要です"]
        else []))

/-- The plan: the schema that the task names is read, and left out if that
fails; then the service is asked. -/
def attempt (kind : WorkerKind) (schemasDir : String) (internet : Bool) (a : Assignment) : Plan :=
  let ask (schema : Option Json) : Plan := .askFor { prompt := prompt kind a, internet, schema } id
  match a.parameterText? "schema" with
  | none => ask none
  | some name =>
    .load (Path.join schemasDir name) fun bytes => ask (bytes.bind Json.readBytes?)

end PromptWorker

/-- The worker of a kind that asks the inference service. -/
def promptWorker (kind : WorkerKind) (schemasDir : String) (internet : Bool) : Worker :=
  { kind
    capabilities := PromptWorker.capabilities kind
    check := PromptWorker.check
    attempt := fun a _ => PromptWorker.attempt kind schemasDir internet a }

end Runbook
