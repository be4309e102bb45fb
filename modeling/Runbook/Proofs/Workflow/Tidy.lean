/-
# Tasks of documents are tidy

Whatever a document says, its tasks are in order (`Task.Tidy`).

| what a task has | where it comes from            | why it is in order                          |
|:----------------|:-------------------------------|:--------------------------------------------|
| name, phase     | a heading                      | a heading gives a proper name               |
| dependencies    | the parts between commas       | they are trimmed, and empty ones left out   |
| parameters      | one property for each key      | no other property sets one                  |
| references      | what stands between the marks  | it is trimmed                               |
| timeout         | a number of seconds            | zero is not taken, and no number is too big |

The values of property lines need not be in order for that: `Property.apply` brings any value
into order.
-/

import Runbook.Proofs.Workflow.Field
import Runbook.Proofs.Workflow.Tasks

namespace Runbook

/-- A task that is in order. -/
structure Task.Tidy (t : Task) : Prop where
  name : Text.Proper t.name.toList
  phase : t.phase ≠ ""
  dependencies : ∀ name ∈ t.dependencies, Text.Proper name.toList ∧ ',' ∉ name.toList
  keys : ∀ key value, t.parameters.get? key = some value →
    key ∈ ["target", "command", "tool", "options", "schema"]
  references : ∀ key expression, t.parameters.get? key = some (.reference expression) →
    Text.Bare expression.toList
  timeoutMs : 1000 ≤ t.timeoutMs

namespace Property

/-- A listed name is proper, and no comma is in it. -/
theorem Lists.proper {value : List Char} {name : String} (h : Lists value name) :
    Text.Proper name.toList ∧ ',' ∉ name.toList := by
  obtain ⟨parts, part, hparts, hpart, htrims, hne⟩ := h
  refine ⟨⟨fun hnil => hne (String.toList_eq_nil_iff.1 hnil), ?_⟩, fun hcomma => ?_⟩
  · rw [← htrims.trim]
    exact Text.bare_trim part
  · obtain ⟨front, back, hsplit, -⟩ := htrims
    refine hparts.free part hpart ?_
    rw [hsplit]
    exact List.mem_append_right front (List.mem_append_left back hcomma)

theorem mem_keys_of_parameter? {p : Property} {key : String} (h : p.parameter? = some key) :
    key ∈ ["target", "command", "tool", "options", "schema"] := by
  cases p with
  | target | command | tool | options | schema => cases h; decide
  | _ => cases h

/-- The timeout that a value gives is no shorter than a second, unless it gives none. -/
theorem le_timeoutMs_apply {t : Task} (h : 1000 ≤ t.timeoutMs) (value : List Char) :
    1000 ≤ (timeout.apply value t).timeoutMs := by
  simp only [apply]
  split
  · exact h
  · exact h
  · rename_i seconds hzero _
    have hpos : seconds ≠ 0 := hzero
    simp only [maxNumber_eq]
    omega

end Property

/-- What is read as a reference has no blank at either end. -/
theorem Parameter.bare_of_ofText {value : List Char} {expression : String}
    (h : ofText value = .reference expression) : Text.Bare expression.toList := by
  unfold ofText at h
  split at h
  · cases h
    rw [String.toList_ofList]
    exact Text.bare_trim _
  · cases h

namespace Task

variable {t : Task}

theorem Tidy.withParameter (h : t.Tidy) {p : Property} {key : String}
    (hp : p.parameter? = some key) (value : List Char) :
    (t.withParameter key (.ofText value)).Tidy where
  name := h.name
  phase := h.phase
  dependencies := h.dependencies
  keys other parameter hget := by
    rw [Task.withParameter, Dict.get?_insert] at hget
    split at hget
    · rename_i hsame
      exact hsame ▸ Property.mem_keys_of_parameter? hp
    · exact h.keys other parameter hget
  references other expression hget := by
    rw [Task.withParameter, Dict.get?_insert] at hget
    split at hget
    · exact Parameter.bare_of_ofText (Option.some.inj hget)
    · exact h.references other expression hget
  timeoutMs := h.timeoutMs

theorem Tidy.listing (h : t.Tidy) (value : List Char) :
    { t with dependencies := t.dependencies.insertAll (Property.names value) }.Tidy :=
  { h with
    dependencies := fun name hname =>
      (NameSet.mem_insertAll.1 hname).elim (h.dependencies name) fun hlisted =>
        (Property.mem_names_iff.1 hlisted).proper }

/-- **A property line leaves a task in order**, whatever its value is. -/
theorem Tidy.apply (h : t.Tidy) (p : Property) (value : List Char) : (p.apply value t).Tidy := by
  cases hp : p.parameter? with
  | some key =>
    rw [Property.apply_of_parameter? hp]
    exact h.withParameter hp value
  | none =>
    cases p with
    | target | command | tool | options | schema => cases hp
    | dependencies => exact h.listing value
    | timeout =>
      obtain ⟨timeoutMs, happly⟩ := Property.exists_apply_timeout_eq value t
      have hms := Property.le_timeoutMs_apply h.timeoutMs value
      rw [happly] at hms ⊢
      exact { h with timeoutMs := hms }
    | retries =>
      obtain ⟨retries, happly⟩ := Property.exists_apply_retries_eq value t
      rw [happly]
      exact { h with }
    | critical | continueFlag | output => exact { h with }

theorem tidy_newTask {phase : Option (List Char)} {name : List Char}
    (hphase : ∀ place ∈ phase, Text.Proper place) (hname : Text.Proper name) :
    (Draft.newTask phase name).Tidy where
  name := by
    rw [Draft.newTask, String.toList_ofList]
    exact hname
  phase := by
    have hne : phase.getD Draft.defaultPhase ≠ [] := by
      cases phase with
      | none => decide
      | some place => exact (hphase place rfl).ne_nil
    simpa [Draft.newTask] using hne
  dependencies _ h := absurd h List.not_mem_nil
  keys _ _ h := nomatch h
  references _ _ h := nomatch h
  timeoutMs := by simp [Draft.newTask, defaultTimeoutMs]

/-- No line takes it away. -/
theorem lasting_tidy : Lasting Tidy where
  newTask _ _ hphase hname := tidy_newTask hphase hname
  apply p value _ h := h.apply p value
  withCode _ _ h := { h with }

end Task

/-- **Every task of a document is in order.** -/
theorem Workflow.tidy_parseAs (stem : Option String) (text : List Char) :
    ∀ t ∈ (parseAs stem text).tasks, t.Tidy := Task.lasting_tidy.parseAs stem text

end Runbook
