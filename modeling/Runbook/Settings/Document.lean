/-
# Settings documents

What a settings document leaves out keeps its default.  How its text is read, and
the name of a log level, is left to a reader.
-/

import Runbook.Settings.Basic

namespace Runbook

/-- What a document says, each setting if it is there. -/
structure SettingsDocument where
  endpoint : Option String := none
  token : Option String := none
  appId : Option String := none
  timeoutSecs : Option Nat := none
  internet : Option Bool := none
  strictReferences : Option Bool := none
  enforceTimeouts : Option Bool := none
  retryBackoffMs : Option Nat := none
  generateReport : Option Bool := none
  workflowsDir : Option String := none
  resultsDir : Option String := none
  schemasDir : Option String := none
  level : Option String := none
  format : Option String := none
  file : Option String := none

namespace SettingsDocument

/-- Whether the endpoint names the service by its web address. -/
def isWebAddress (endpoint : String) : Bool :=
  Text.startsWith "http://".toList endpoint.toList
    || Text.startsWith "https://".toList endpoint.toList

/-- The settings of the inference service. -/
def inference (d : SettingsDocument) : Except SettingsError InferenceSettings := do
  let base : InferenceSettings := {}
  let endpoint := d.endpoint.getD base.endpoint
  if !isWebAddress endpoint then
    throw (.invalid
      ("inference.endpoint は http:// または https:// で始まる必要があります: " ++ endpoint))
  if d.timeoutSecs = some 0 then
    throw (.invalid "inference.timeout_secs は1以上である必要があります")
  return {
    endpoint
    token := d.token.filter fun t => !Text.isBlankText t
    appId := d.appId
    timeoutSecs := d.timeoutSecs.getD base.timeoutSecs
    internet := d.internet.getD base.internet }

/-- The settings of the engine. -/
def engine (d : SettingsDocument) : EngineSettings :=
  let base : EngineSettings := {}
  { strictReferences := d.strictReferences.getD base.strictReferences
    enforceTimeouts := d.enforceTimeouts.getD base.enforceTimeouts
    retryBackoffMs := d.retryBackoffMs.getD base.retryBackoffMs
    generateReport := d.generateReport.getD base.generateReport }

/-- The directories. -/
def paths (d : SettingsDocument) : PathSettings :=
  let base : PathSettings := {}
  { workflowsDir := d.workflowsDir.getD base.workflowsDir
    resultsDir := d.resultsDir.getD base.resultsDir
    schemasDir := d.schemasDir.getD base.schemasDir }

/-- The level that a text names, by the given reading of names. -/
def levelOf (level? : String → Option LogLevel) (text : String) :
    Except SettingsError LogLevel :=
  match level? text with
  | some level => .ok level
  | none =>
    .error (.invalid
      ("logging.level が不正です（trace/debug/info/warn/error）: " ++ text))

/-- The settings of the log. -/
def logging (d : SettingsDocument) (level? : String → Option LogLevel) :
    Except SettingsError LogSettings := do
  let base : LogSettings := {}
  let level ← (d.level.map (levelOf level?)).getD (.ok base.level)
  let format ← (d.format.map LogFormat.ofText).getD (.ok base.format)
  return { level, format, file := d.file }

/-- All settings. -/
def settings (d : SettingsDocument) (level? : String → Option LogLevel) :
    Except SettingsError Settings := do
  return {
    inference := ← d.inference
    engine := d.engine
    paths := d.paths
    logging := ← d.logging level? }

end SettingsDocument

/-- How the text of a document is read, unless it is malformed, and which level a
name stands for. -/
structure SettingsReader where
  document : List Char → Except String SettingsDocument
  level? : String → Option LogLevel

/-- The settings of a document. -/
def Settings.parseWith (reader : SettingsReader) (text : List Char) :
    Except SettingsError Settings :=
  match reader.document text with
  | .error detail => .error (.malformed detail)
  | .ok d => d.settings reader.level?

end Runbook
