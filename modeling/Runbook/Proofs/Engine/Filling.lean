/-
# What a task's parameters become

A task is handed to its worker with a value for each of its parameters
(`Scope.filled_values`):

| the parameter                     | its value            |
|-----------------------------------|----------------------|
| a literal text                    | the text             |
| a reference to something          | that, even if null   |
| a reference that leads nowhere    | null                 |

A task with a reference that leads nowhere has a gap (`Task.HasGap`).  A null among the
values does not tell a gap from a reference to a null.
-/

import Runbook.Engine.Reference
import Runbook.Proofs.Dictionary

namespace Runbook

namespace Task

/-- A parameter of the task refers to something that has no value. -/
def HasGap (t : Task) (scope : Scope) : Prop :=
  ∃ key expression, t.parameters.get? key = some (.reference expression) ∧
    scope.resolve expression.toList = none

/-- The values are those of the task's parameters: each literal text as it is, each reference
as it resolves, and null where a reference does not resolve, and nowhere else unless it
resolves to null. -/
structure Filled (t : Task) (scope : Scope) (values : Dict Json) : Prop where
  keys : values.keys = t.parameters.keys
  literal : ∀ key text, t.parameters.get? key = some (.literal text) →
    values.get? key = some (.string text)
  resolved : ∀ key expression v, t.parameters.get? key = some (.reference expression) →
    scope.resolve expression.toList = some v → values.get? key = some v
  gap : ∀ key expression, t.parameters.get? key = some (.reference expression) →
    scope.resolve expression.toList = none → values.get? key = some .null

end Task

namespace Scope

variable {scope : Scope} {t : Task}

/-- The values of the parameters, name by name. -/
theorem values_eq_map (scope : Scope) (t : Task) :
    scope.values t = t.parameters.map fun p => (scope.value? p).getD .null :=
  Dict.ofList_entries (t.parameters.map fun p => (scope.value? p).getD .null)

theorem get?_values {key : String} {p : Parameter} (h : t.parameters.get? key = some p) :
    (scope.values t).get? key = some ((scope.value? p).getD .null) := by
  rw [values_eq_map, Dict.get?_map, h, Option.map_some]

/-- **The values of a task's parameters are as the table says.** -/
theorem filled_values (scope : Scope) (t : Task) : t.Filled scope (scope.values t) where
  keys := by rw [values_eq_map, Dict.keys_map]
  literal key text h := get?_values h
  resolved key expression v h hv := by rw [get?_values h, value?, hv, Option.getD_some]
  gap key expression h hnone := by rw [get?_values h, value?, hnone, Option.getD_none]

/-- **The expressions without a value are those of the gaps.** -/
theorem mem_unresolved_iff {expression : String} :
    expression ∈ scope.unresolved t ↔
      (∃ key, t.parameters.get? key = some (.reference expression)) ∧
        scope.resolve expression.toList = none := by
  rw [unresolved, List.mem_filterMap]
  constructor
  · rintro ⟨p, hp, hgap⟩
    obtain ⟨⟨key, q⟩, he, rfl⟩ := List.mem_map.1 hp
    cases q with
    | literal text => cases hgap
    | reference expression' =>
      rw [Option.ite_none_left_eq_some, Option.some.injEq] at hgap
      obtain ⟨hnone, rfl⟩ := hgap
      exact ⟨⟨key, lookupEntry_of_mem t.parameters.nodup_keys he⟩,
        Option.not_isSome_iff_eq_none.1 hnone⟩
  · rintro ⟨⟨key, hkey⟩, hnone⟩
    have he := (lookupEntry_eq_some_iff t.parameters.nodup_keys).1 hkey
    refine ⟨.reference expression, List.mem_map_of_mem he, ?_⟩
    dsimp only
    rw [hnone, Option.isSome_none, if_neg Bool.false_ne_true]

/-- A task has no gap if every expression has a value. -/
theorem unresolved_eq_nil_iff : scope.unresolved t = [] ↔ ¬ t.HasGap scope := by
  rw [List.eq_nil_iff_forall_not_mem]
  constructor
  · rintro h ⟨key, expression, hkey, hnone⟩
    exact h expression (mem_unresolved_iff.2 ⟨⟨key, hkey⟩, hnone⟩)
  · intro h expression hmem
    obtain ⟨⟨key, hkey⟩, hnone⟩ := mem_unresolved_iff.1 hmem
    exact h ⟨key, expression, hkey, hnone⟩

end Scope

end Runbook
