/-
# Workflow documents

A document is read line by line into a draft.  A metadata block may open on the
first line; after it come headings, task items, property lines and fenced code.
Nothing is an error: a line that says nothing is skipped, and lines that were
meant to say something, but could not, leave a warning.
-/

import Runbook.Text.Slug
import Runbook.Workflow.Keyword
import Runbook.Workflow.Property

namespace Runbook

/-- What a line outside metadata and code says. -/
inductive Line where
  | fence
  | title (text : List Char)
  | phase (name : List Char)
  | task (name : List Char)
  | property (key value : List Char)
  | other

namespace Line

/-- The mark that opens and closes fenced code. -/
def fenceMark : List Char := "```".toList

/-- The task that a line names in bold as a list item. -/
def boldTask? (line : List Char) : Option (List Char) := do
  let rest ← Text.dropStart? "- **".toList line
  let name := Text.trim (Text.cutBefore "**".toList rest)
  if name.isEmpty || name.getLast? = some ':' then none else some name

/-- What a trimmed line says. -/
def read (line : List Char) : Line :=
  if Text.startsWith fenceMark line then .fence
  else if let some text := Text.dropStart? "# ".toList line then .title (Text.trim text)
  else if let some name := Text.dropStart? "## ".toList line then .phase (Text.trim name)
  else if let some name := Text.dropStart? "### ".toList line then .task (Text.trim name)
  else if let some name := boldTask? line then .task name
  else if let some (key, value) := Property.split? line then .property key value
  else .other

end Line

/-- The part of a document that the next line belongs to.  The lines of open
code are held last one first. -/
inductive Section where
  | body
  | metadata
  | code (lines : List (List Char))

/-- What has been read of a document: the workflow with its finished tasks, the
current phase and the task that is still open. -/
structure Draft where
  workflow : Workflow := {}
  phase : Option (List Char) := none
  openTask : Option Task := none
  part : Section := .body

namespace Draft

/-- The name of the phase of tasks that stand before all phase headings. -/
def defaultPhase : List Char := "default".toList

/-- Finishes the open task. -/
def closeTask (d : Draft) : Draft :=
  match d.openTask with
  | none => d
  | some t => { d with workflow := d.workflow.pushTask t, openTask := none }

/-- A warning at the end of those so far. -/
def warn (d : Draft) (text : String) : Draft :=
  { d with workflow := { d.workflow with warnings := d.workflow.warnings ++ [text] } }

/-- A task as it stands after its heading. -/
def newTask (phase : Option (List Char)) (name : List Char) : Task :=
  let place := phase.getD defaultPhase
  let worker := WorkerKind.ofTask name (if place = defaultPhase then none else some place)
  { name := String.ofList name, phase := String.ofList place, worker,
    action := Action.ofTask name worker }

/-- The warning on a property line outside all tasks. -/
def orphanWarning (number : Nat) (key : List Char) : String :=
  toString number ++ "行目: タスクの外にあるプロパティ '" ++ String.ofList key
    ++ "' を無視しました"

/-- The warning on a timeout of zero. -/
def zeroTimeoutWarning (number : Nat) (task : String) : String :=
  toString number ++ "行目: タスク '" ++ task
    ++ "' の Timeout: 0 を無視し、デフォルト値を使います"

/-- The warning on code that is open at the end of the document. -/
def openCodeWarning : String :=
  "閉じられていないコードブロックをファイル末尾で閉じました"

/-- A property line.  Outside all tasks it only leaves a warning, if its key is known. -/
def setProperty (d : Draft) (number : Nat) (key value : List Char) : Draft :=
  match d.openTask with
  | none =>
    if Property.isKnown (String.ofList key) then d.warn (orphanWarning number key) else d
  | some t =>
    match Property.ofKey? (String.ofList key) with
    | none => d
    | some p =>
      let d := { d with openTask := some (p.apply value t) }
      if p.isZeroTimeout value then d.warn (zeroTimeoutWarning number t.name) else d

/-- The code of a task that has one block more. -/
def joinCode (code : Option String) (block : String) : String :=
  match code with
  | none => block
  | some before => before ++ "\n" ++ block

/-- Gives finished code to the open task; without one it is dropped. -/
def attachCode (d : Draft) (lines : List (List Char)) : Draft :=
  let block := "\n".intercalate (lines.reverse.map String.ofList)
  { d with
    part := .body
    openTask := d.openTask.map fun t => { t with code := some (joinCode t.code block) } }

/-- A line of the body. -/
def addBodyLine (d : Draft) (number : Nat) : Line → Draft
  | .fence => { d with part := .code [] }
  | .title text =>
    if d.workflow.description.isEmpty then
      { d with workflow := { d.workflow with description := String.ofList text } }
    else d
  | .phase name =>
    let d := d.closeTask
    let phase : Phase := { name := String.ofList name, order := d.workflow.phases.length + 1 }
    { d with
      workflow := { d.workflow with phases := d.workflow.phases ++ [phase] }
      phase := some name }
  | .task name => { d.closeTask with openTask := some (newTask d.phase name) }
  | .property key value => d.setProperty number key value
  | .other => d

/-- The mark that opens and closes metadata. -/
def metadataMark : List Char := "---".toList

/-- A trimmed line of metadata. -/
def addMetadataLine (d : Draft) (line : List Char) : Draft :=
  if line = metadataMark then { d with part := .body }
  else
    match Text.splitFirst ':' line with
    | none => d
    | some (key, value) =>
      let key := Text.trim key
      if key.isEmpty then d
      else
        let metadata :=
          d.workflow.metadata.insert (String.ofList key) (String.ofList (Text.trim value))
        { d with workflow := { d.workflow with metadata } }

/-- The next line, given with its number, which counts from one. -/
def addLine (d : Draft) (number : Nat) (raw : List Char) : Draft :=
  let line := Text.trim raw
  match d.part with
  | .code lines =>
    if Text.startsWith Line.fenceMark line then d.attachCode lines
    else { d with part := .code (raw :: lines) }
  | .metadata => d.addMetadataLine line
  | .body =>
    if number = 1 ∧ line = metadataMark then { d with part := .metadata }
    else d.addBodyLine number (Line.read line)

/-- The lines from the given number on. -/
def addLines (d : Draft) (number : Nat) : List (List Char) → Draft
  | [] => d
  | line :: lines => (d.addLine number line).addLines (number + 1) lines

/-- The end of the document: open code is closed with a warning, an open task is
finished. -/
def finish (d : Draft) : Workflow :=
  let d :=
    match d.part with
    | .code lines => (d.warn openCodeWarning).attachCode lines
    | _ => d
  d.closeTask.workflow

end Draft

namespace Workflow

/-- A value of the metadata, unless it is empty. -/
def metadata? (w : Workflow) (key : String) : Option String :=
  (w.metadata.get? key).filter fun v => !v.isEmpty

/-- The workflow with the identity that its metadata gives it, else that of the
file it is in, else that of its description. -/
def identify (w : Workflow) (stem : Option String) : Workflow :=
  let base := (stem.filter fun s => !s.isEmpty).getD w.description
  { w with
    id := (w.metadata? "id").getD (String.ofList (Text.slug base.toList))
    name := (w.metadata? "name").getD base }

/-- The text without a byte order mark. -/
def dropMark : List Char → List Char
  | '\uFEFF' :: cs => cs
  | cs => cs

/-- The workflow of a document in a file whose name without extension is `stem`. -/
def parseAs (stem : Option String) (text : List Char) : Workflow :=
  (({} : Draft).addLines 1 (Text.lines (dropMark text))).finish.identify stem

/-- The workflow of a document. -/
def parse (text : List Char) : Workflow := parseAs none text

end Workflow
end Runbook
