/-
# Reading settings documents

A settings document has four sections.  What it must not hold makes the whole
document malformed, before any value is looked at more closely.
-/

import Runbook.Settings.Document
import Runbook.Text.Digits
import Runbook.Toml.Reader

namespace Runbook

/-- The level that a text names, in any case, or numbers. -/
def LogLevel.ofText? (s : String) : Option LogLevel :=
  match Text.natural? s.toList with
  | some n => all.find? fun l => l.number == n
  | none => all.find? fun l => l.name.toList == s.toList.map Char.toUpper

namespace SettingsDocument

/-- A string. -/
def string? : Toml → Option String
  | .string s => some s
  | _ => none

/-- A boolean. -/
def boolean? : Toml → Option Bool
  | .boolean b => some b
  | _ => none

/-- A number of 64 bits without a sign. -/
def natural? : Toml → Option Nat
  | .integer n => if 0 ≤ n ∧ n < 0x10000000000000000 then some n.toNat else none
  | _ => none

/-- The entries of a section, which may only have the given names.  An array
gives their values in that order. -/
def part? (names : List String) : Toml → Option (List (String × Toml))
  | .table entries => if entries.all fun e => e.1 ∈ names then some entries else none
  | .array items => some (names.zip items)
  | _ => none

/-- The section of a document, empty if it is not there. -/
def partOf? (document : List (String × Toml)) (name : String) (names : List String) :
    Option (List (String × Toml)) :=
  part? names ((lookupEntry name document).getD (.table []))

/-- The value of a name, if it is there; no answer if it is of the wrong kind. -/
def entry? (read : Toml → Option α) (entries : List (String × Toml)) (name : String) :
    Option (Option α) :=
  match lookupEntry name entries with
  | none => some none
  | some v => (read v).map some

/-- The names of the sections. -/
def partNames : List String := ["inference", "engine", "paths", "logging"]

/-- What a document says, if it holds nothing that it must not. -/
def ofToml? (document : List (String × Toml)) : Option SettingsDocument := do
  let document ← part? partNames (.table document)
  let inference ← partOf? document "inference"
    ["endpoint", "token", "app_id", "timeout_secs", "add_context_from_internet"]
  let engine ← partOf? document "engine"
    ["strict_references", "enforce_timeouts", "retry_backoff_ms", "generate_report"]
  let paths ← partOf? document "paths" ["workflows_dir", "results_dir", "schemas_dir"]
  let logging ← partOf? document "logging" ["level", "format", "file"]
  some
    { endpoint := ← entry? string? inference "endpoint"
      token := ← entry? string? inference "token"
      appId := ← entry? string? inference "app_id"
      timeoutSecs := ← entry? natural? inference "timeout_secs"
      internet := ← entry? boolean? inference "add_context_from_internet"
      strictReferences := ← entry? boolean? engine "strict_references"
      enforceTimeouts := ← entry? boolean? engine "enforce_timeouts"
      retryBackoffMs := ← entry? natural? engine "retry_backoff_ms"
      generateReport := ← entry? boolean? engine "generate_report"
      workflowsDir := ← entry? string? paths "workflows_dir"
      resultsDir := ← entry? string? paths "results_dir"
      schemasDir := ← entry? string? paths "schemas_dir"
      level := ← entry? string? logging "level"
      format := ← entry? string? logging "format"
      file := ← entry? string? logging "file" }

/-- The text that stands for a reader's explanation. -/
def malformed : String := "not a settings document"

end SettingsDocument

/-- The reader of TOML. -/
def SettingsReader.toml : SettingsReader :=
  { document := fun text =>
      match (Toml.read? text).bind SettingsDocument.ofToml? with
      | none => .error SettingsDocument.malformed
      | some d => .ok d
    level? := LogLevel.ofText? }

/-- The settings of a document in TOML. -/
def Settings.parse : List Char → Except SettingsError Settings := parseWith .toml

end Runbook
