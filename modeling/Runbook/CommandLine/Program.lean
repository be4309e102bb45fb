/-
# The program

The program reads its arguments and settings, opens the log, and does what the
command asks for.  It leaves with 0 if that succeeded, with 1 if not, with 2 if the
arguments were no use, and with 101 if it panicked.
-/

import Runbook.Archive
import Runbook.CommandLine.Arguments
import Runbook.CommandLine.Help
import Runbook.CommandLine.Output
import Runbook.Execution
import Runbook.Log
import Runbook.Settings.Load

namespace Runbook

/-- Why a command failed. -/
inductive CommandError where
  | inference (e : InferenceError)
  | workflow (e : WorkflowError)
  | system (detail : String)
  | notJson (detail : String)
  | panicked (message : String)

/-- The wording of the error. -/
def CommandError.message : CommandError → String
  | .inference e => e.message
  | .workflow e => e.message
  | .system detail | .notJson detail => detail
  | .panicked message => message

namespace Host

variable {m : Type → Type} [Monad m]

/-- Puts a record down in the log, if the settings keep it. -/
def log (h : Host m) (s : LogSettings) (r : LogRecord) : m Unit := do
  if s.admits r.level then
    let line := r.line (← h.now) s.format
    match s.file with
    | none => h.printLog line
    | some path => discard <| h.append (Path.file path) (line ++ "\n").toUTF8

/-- Makes the file of the log.  The answer is the text of the failure and what
the program leaves with. -/
def openLog (h : Host m) (s : LogSettings) : m (Except (String × UInt32) Unit) := do
  let failed := "ログ出力を初期化できません: "
  match s.file with
  | none => return .ok ()
  | some path =>
    if (Path.fileName? path).isNone then
      return .error (failed ++ "ログファイルのパスが不正です: " ++ path, 1)
    else
      match ← h.makeDirectories (Path.parent path) with
      | .error detail => return .error (failed ++ detail, 1)
      | .ok () =>
        match ← h.append (Path.file path) .empty with
        | .error detail => return .error (failed ++ detail, 101)
        | .ok () => return .ok ()

/-- The JSON value in a file. -/
def loadJson (h : Host m) (path : String) : ExceptT CommandError m Json := do
  match ← h.loadText path with
  | .error detail => throw (.system detail)
  | .ok text =>
    match Json.read? text with
    | none => throw (.notJson Json.unreadable)
    | some v => return v

/-- Asks the inference service once and prints the answer, a text as it is unless
JSON is wanted. -/
def ask (h : Host m) (s : Settings) (prompt : String) (schemaFile : Option String)
    (internet json : Bool) : ExceptT CommandError m Bool := do
  let client := InferenceClient.ofSettings s.inference
  let schema ←
    match schemaFile with
    | none => pure none
    | some path => some <$> h.loadJson path
  let request : InferenceRequest :=
    { prompt, internet := internet || s.inference.internet, schema }
  let answer : m (Except InferenceError Json) := client.invoke h.web request
  match ← answer with
  | .error e => throw (.inference e)
  | .ok v =>
    match v, json with
    | .string text, false => h.print text
    | v, _ => h.print v.pretty
    return true

/-- Lists the documents of a library. -/
def list (h : Host m) (s : Settings) (dir : Option String) : ExceptT CommandError m Bool := do
  let dir := dir.getD s.paths.workflowsDir
  match ← h.library dir with
  | .error detail => throw (.system detail)
  | .ok entries =>
    (libraryLines dir entries).forM fun line => h.print line
    return true

/-- Shows a workflow and says whether it can be run. -/
def validate (h : Host m) (file : String) : ExceptT CommandError m Bool := do
  match ← h.loadWorkflow file with
  | .error e => throw (.workflow e)
  | .ok w =>
    w.outline.forM fun line => h.print line
    return w.validate.valid

/-- Tells an event: logs and prints it, and keeps it if it is the end of a task.
That it cannot be kept does not matter to the job. -/
def tell (h : Host m) (s : Settings) (e : JobEvent) : m Unit := do
  h.log s.logging e.record
  h.print e.line
  match ← ArchiveRecord.record h s.paths.resultsDir e with
  | some (.error e) =>
    h.log s.logging ⟨.warn, "結果を保存できませんでした", [("error", e.message)]⟩
  | _ => pure ()

/-- Runs a workflow and sums up its job. -/
def run (h : Host m) (s : Settings) (file : String) (parameters : List (String × String))
    (noReport : Bool) (dump : Option String) : ExceptT CommandError m Bool := do
  let client := InferenceClient.ofSettings s.inference
  let engine := { s.engine with generateReport := s.engine.generateReport && !noReport }
  let o : Orchestrator :=
    { registry := .bundled s.paths.schemasDir s.inference.internet, settings := engine }
  h.log s.logging ⟨.info, "ワークフローを読み込みます", [("path", file)]⟩
  match o.load (← h.loadWorkflow file) with
  | (.error e, _) => throw (.workflow e)
  | (.ok w, o) =>
    w.validate.warnings.forM fun text =>
      h.log s.logging ⟨.warn, text, [("workflow_id", w.id)]⟩
    h.log s.logging ⟨.info, "ワークフローを登録しました", [("workflow_id", w.id)]⟩
    let values := Dict.ofList (parameters.map fun (k, v) => (k, Json.string v))
    let (ending, job) ← h.execute client (h.tell s) o w.id values
    match ending with
    | some (.panicked message) => throw (.panicked message)
    | some (.returned (.error e)) => h.printError ("error: " ++ e.message)
    | some (.returned (.ok _)) | none => pure ()
    let some job := job | return false
    job.summary.forM fun line => h.print line
    if let some path := dump then
      match ← h.store path job.toJson.pretty.toUTF8 with
      | .error detail => throw (.system detail)
      | .ok () => h.log s.logging ⟨.info, "ジョブを書き出しました", [("path", path)]⟩
    return job.status = .completed

/-- The host, with what it asks of the inference service put down in the log. -/
def watched (h : Host m) (s : LogSettings) : Host m :=
  { h with
    send := fun timeoutSecs r => do
      h.log s ⟨.debug, "推論サービスを呼び出します", [("host", r.address.host)]⟩
      let reply ← h.send timeoutSecs r
      h.log s ⟨.debug, "推論サービスの応答を待ち終えました", []⟩
      return reply }

/-- Does what a command asks for, and tells whether it succeeded. -/
def perform (h : Host m) (s : Settings) : Command → ExceptT CommandError m Bool
  | .ask prompt schema internet json => h.ask s prompt schema internet json
  | .list dir => h.list s dir
  | .validate file => h.validate file
  | .run file parameters noReport dump => h.run s file parameters noReport dump

/-- Loads the settings, opens the log and performs the command. -/
def invoke (h : Host m) (i : Invocation) : m UInt32 := do
  match ← h.loadSettings i.config with
  | .error e =>
    h.printError e.message
    return 1
  | .ok s =>
    let s := { s with logging := s.logging.raised i.verbose }
    match ← h.openLog s.logging with
    | .error (text, status) =>
      h.printError text
      return status
    | .ok () =>
      match ← ((h.watched s.logging).perform s i.command).run with
      | .ok true => return 0
      | .ok false => return 1
      | .error (.panicked message) =>
        h.printError message
        return 101
      | .error e =>
        h.log s.logging ⟨.error, "コマンドが失敗しました", [("error", e.message)]⟩
        h.printError ("error: " ++ e.message)
        return 1

/-- The whole program: does what the arguments ask for and gives the status to
leave with. -/
def program (h : Host m) (args : List String) : m UInt32 := do
  match Arguments.parse args with
  | .ok i => h.invoke i
  | .error (.help command) =>
    (Help.on command).forM h.print
    return 0
  | .error .version =>
    h.print Help.version
    return 0
  | .error .misuse =>
    Help.program.forM h.printError
    return 2

end Host
end Runbook
