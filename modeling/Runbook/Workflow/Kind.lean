/-
# Worker kinds and actions

Two closed vocabularies.  A worker kind says which worker a task goes to, an
action what the worker is to do.  Both are written as lower-case words, and no
two members share a word (`WorkerKind.ofWord?_word`, `Action.ofWord?_word`).
-/

import Runbook.Json.Basic

namespace Runbook

/-- The kinds of workers, in their order. -/
inductive WorkerKind where
  | recon
  | exploit
  | scan
  | analysis
  | report
  | monitor
  | general
deriving DecidableEq, Inhabited

/-- What a worker is asked to do. -/
inductive Action where
  | recon
  | exploit
  | enumerate
  | analyze
  | scan
  | test
  | validate
  | report
  | execute
  | monitor
deriving DecidableEq

/-- A task that names no action is executed. -/
instance : Inhabited Action := ⟨.execute⟩

namespace WorkerKind

/-- Every worker kind, in order. -/
def all : List WorkerKind := [.recon, .exploit, .scan, .analysis, .report, .monitor, .general]

theorem mem_all (k : WorkerKind) : k ∈ all := by cases k <;> decide

/-- The word of a kind. -/
def word : WorkerKind → String
  | .recon => "recon"
  | .exploit => "exploit"
  | .scan => "scan"
  | .analysis => "analysis"
  | .report => "report"
  | .monitor => "monitor"
  | .general => "general"

/-- The kind with the given word. -/
def ofWord? (s : String) : Option WorkerKind := all.find? fun k => k.word == s

theorem ofWord?_word (k : WorkerKind) : ofWord? k.word = some k := by cases k <;> decide

/-- The place of a kind in the order. -/
def rank : WorkerKind → Nat
  | .recon => 0
  | .exploit => 1
  | .scan => 2
  | .analysis => 3
  | .report => 4
  | .monitor => 5
  | .general => 6

/-- What a worker of this kind does when the task's name says nothing; a general
worker has no action of its own. -/
def primaryAction : WorkerKind → Option Action
  | .recon => some .recon
  | .exploit => some .exploit
  | .scan => some .scan
  | .analysis => some .analyze
  | .report => some .report
  | .monitor => some .monitor
  | .general => none

end WorkerKind

namespace Action

/-- Every action, in the order in which a text is searched for them. -/
def all : List Action :=
  [.recon, .exploit, .enumerate, .analyze, .scan, .test, .validate, .report, .execute, .monitor]

theorem mem_all (a : Action) : a ∈ all := by cases a <;> decide

/-- The word of an action. -/
def word : Action → String
  | .recon => "recon"
  | .exploit => "exploit"
  | .enumerate => "enumerate"
  | .analyze => "analyze"
  | .scan => "scan"
  | .test => "test"
  | .validate => "validate"
  | .report => "report"
  | .execute => "execute"
  | .monitor => "monitor"

/-- The action with the given word. -/
def ofWord? (s : String) : Option Action := all.find? fun a => a.word == s

theorem ofWord?_word (a : Action) : ofWord? a.word = some a := by cases a <;> decide

end Action

namespace Json

/-- The word that a value stands for where one of a vocabulary is expected: a
string is the word itself, an object with one field that is null names it. -/
def word? : Json → Option String
  | .string s => some s
  | .object [(k, .null)] => some k
  | _ => none

end Json

/-- The kind that a JSON value stands for. -/
def WorkerKind.ofJson? (v : Json) : Option WorkerKind := v.word?.bind ofWord?

/-- The action that a JSON value stands for. -/
def Action.ofJson? (v : Json) : Option Action := v.word?.bind ofWord?

end Runbook
