/-
# Settings

What can be set: the inference service, the engine, the directories and the log.
Every setting has a default.
-/

import Runbook.Path
import Runbook.Text.Blank
import Runbook.Text.Lower

namespace Runbook

/-- How the inference service is reached. -/
structure InferenceSettings where
  endpoint : String := "http://127.0.0.1:8080/api/invoke"
  token : Option String := none
  appId : Option String := none
  timeoutSecs : Nat := 120
  internet : Bool := true
deriving DecidableEq

/-- How jobs are run. -/
structure EngineSettings where
  strictReferences : Bool := false
  enforceTimeouts : Bool := true
  retryBackoffMs : Nat := 1000
  generateReport : Bool := true
deriving DecidableEq, Inhabited

/-- Where files are. -/
structure PathSettings where
  workflowsDir : String := "./workflows"
  resultsDir : String := "./results"
  schemasDir : String := "./schemas"
deriving DecidableEq

/-- The steps of the paths, in order. -/
def PathSettings.steps (s : PathSettings) : List (List (List Char)) :=
  [Path.steps s.workflowsDir, Path.steps s.resultsDir, Path.steps s.schemasDir]

/-- How much is logged; each level takes in those before it. -/
inductive LogLevel where
  | error
  | warn
  | info
  | debug
  | trace
deriving DecidableEq

namespace LogLevel

/-- Every level, from the fewest records to the most. -/
def all : List LogLevel := [.error, .warn, .info, .debug, .trace]

/-- The name of a level. -/
def name : LogLevel → String
  | .error => "ERROR"
  | .warn => "WARN"
  | .info => "INFO"
  | .debug => "DEBUG"
  | .trace => "TRACE"

/-- The number of a level, from one on. -/
def number : LogLevel → Nat
  | .error => 1
  | .warn => 2
  | .info => 3
  | .debug => 4
  | .trace => 5

end LogLevel

/-- The form of log records. -/
inductive LogFormat where
  | pretty
  | json
deriving DecidableEq

/-- The name of a form. -/
def LogFormat.name : LogFormat → String
  | .pretty => "pretty"
  | .json => "json"

/-- What is logged, how and where; without a file it goes to standard error. -/
structure LogSettings where
  level : LogLevel := .info
  format : LogFormat := .pretty
  file : Option String := none
deriving DecidableEq

/-- All settings. -/
structure Settings where
  inference : InferenceSettings := {}
  engine : EngineSettings := {}
  paths : PathSettings := {}
  logging : LogSettings := {}
deriving DecidableEq

/-- Why there are no settings. -/
inductive SettingsError where
  | unreadable (detail : String)
  | malformed (detail : String)
  | invalid (message : String)
deriving DecidableEq

/-- The wording of the error. -/
def SettingsError.message : SettingsError → String
  | .unreadable detail => "設定ファイルの読み込みに失敗しました: " ++ detail
  | .malformed detail => "TOML のデシリアライズに失敗しました: " ++ detail
  | .invalid message => "設定のバリデーションに失敗しました: " ++ message

/-- The form that a text names, in any case. -/
def LogFormat.ofText (s : String) : Except SettingsError LogFormat :=
  let lowered := String.ofList (Text.lower s.toList)
  if lowered = "pretty" ∨ lowered = "text" then .ok .pretty
  else if lowered = "json" then .ok .json
  else
    .error (.invalid
      ("logging.format は \"pretty\" または \"json\" である必要があります: " ++ lowered))

namespace Settings

/-- Whether nothing is set otherwise than by default.  Paths are the same if they
take the same steps. -/
def isDefault (s : Settings) : Bool :=
  { s with paths := {} } = ({} : Settings) && s.paths.steps = ({} : PathSettings).steps

/-- The settings with another token, unless that one is blank. -/
def withToken (s : Settings) (token : Option String) : Settings :=
  match token with
  | none => s
  | some t =>
    if Text.isBlankText t then s else { s with inference := { s.inference with token := some t } }

end Settings
end Runbook
