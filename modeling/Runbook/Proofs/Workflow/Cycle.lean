/-
# Cycles of dependencies

The search for a cycle is exact.  The path to a name is one dependency after the
other, so a name that is met again on its own path leads back to itself
(`cycle_of_visit`); and what is visited and left behind leads to no cycle.  So
nothing is found exactly if no name leads back to itself
(`findCycle_eq_none_iff`).  Where no name comes twice, the graph of the search is
the relation of dependency (`leads_iff_needs`).
-/

import Mathlib.Data.List.Chain
import Mathlib.Logic.Relation
import Runbook.Proofs.Workflow.Dependency

namespace Runbook

/-- If a pass over a list fails, it fails at some item. -/
theorem exists_error_of_foldlM {σ ε α : Type} {f : σ → α → Except ε σ} {xs : List α} {s : σ}
    {e : ε} (h : xs.foldlM f s = .error e) : ∃ x ∈ xs, ∃ t, f t x = .error e := by
  induction xs generalizing s with
  | nil => cases h
  | cons x xs ih =>
    rw [List.foldlM_cons] at h
    cases hx : f s x with
    | error e' =>
      rw [hx] at h
      cases h
      exact ⟨x, List.mem_cons_self, s, hx⟩
    | ok t =>
      rw [hx] at h
      obtain ⟨y, hy, u, he⟩ := ih h
      exact ⟨y, List.mem_cons_of_mem x hy, u, he⟩

namespace Workflow

/-- On a path of one dependency after the other, all names lead to the one at its
end. -/
theorem transGen_of_isChain {graph : Dict NameSet} {node name : String} {path : List String}
    (hc : List.IsChain (Leads graph) (node :: path)) (hn : name ∈ path) :
    Relation.TransGen (Leads graph) node name := by
  have htrans : List.IsChain (Relation.TransGen (Leads graph)) (node :: path) :=
    hc.imp fun _ _ => .single
  exact htrans.rel_cons hn

/-- **A name that the search meets again leads back to itself.** -/
theorem cycle_of_visit {graph : Dict NameSet} {fuel : Nat} {path : List String}
    {s after : Search} {node name : String}
    (h : visit graph fuel path s node = .error (name, after))
    (hc : List.IsChain (Leads graph) (node :: path)) :
    Relation.TransGen (Leads graph) name name := by
  induction fuel generalizing path s node with
  | zero =>
    by_cases hn : node ∈ path
    · rw [visit_of_mem_path hn] at h
      cases h
      exact transGen_of_isChain hc hn
    · by_cases hm : node ∈ s.visited
      · rw [visit_of_visited hn hm] at h
        cases h
      · rw [visit_zero hn hm] at h
        cases h
  | succ fuel ih =>
    by_cases hn : node ∈ path
    · rw [visit_of_mem_path hn] at h
      cases h
      exact transGen_of_isChain hc hn
    · by_cases hm : node ∈ s.visited
      · rw [visit_of_visited hn hm] at h
        cases h
      · rw [visit_succ hn hm] at h
        obtain ⟨next, hnext, seen, he⟩ := exists_error_of_foldlM h
        exact ih he (List.isChain_cons_cons.2 ⟨hnext, hc⟩)

/-- What has dependencies in the graph of a workflow is the name of a task. -/
theorem mem_of_leads {w : Workflow} {b a : String} (h : Leads w.dependencyGraph b a) :
    a ∈ w.tasks.map (·.name) := by
  have hkey : a ∈ w.dependencyGraph.keys := by
    by_contra hn
    rw [Leads, successors_eq_nil hn] at h
    exact absurd h List.not_mem_nil
  have hsome : (w.dependencyGraph.get? a).isSome := isSome_lookupEntry.2 hkey
  rw [dependencyGraph, Dict.get?_ofList, isSome_lookupEntry, List.map_reverse, List.mem_reverse,
    List.map_map] at hsome
  exact hsome

/-- A name that is found leads back to itself. -/
theorem cycle_of_findCycle {w : Workflow} {name : String} (h : w.findCycle = some name) :
    Relation.TransGen (Leads w.dependencyGraph) name name := by
  rw [findCycle] at h
  split at h
  · rename_i found hfound
    cases h
    obtain ⟨node, -, seen, he⟩ := exists_error_of_foldlM hfound
    exact cycle_of_visit he (List.isChain_singleton node)
  · cases h

/-- **The search is exact**: it finds nothing exactly if no name leads back to
itself. -/
theorem findCycle_eq_none_iff {w : Workflow} :
    w.findCycle = none ↔ ∀ name, ¬ Relation.TransGen (Leads w.dependencyGraph) name name := by
  constructor
  · intro hnone name hcycle
    obtain ⟨next, -, hlast⟩ := Relation.TransGen.tail'_iff.1 hcycle
    exact not_rel_self_of_acc (acc_of_findCycle hnone (mem_of_leads hlast)).transGen hcycle
  · intro hacyclic
    cases h : w.findCycle with
    | none => rfl
    | some name => exact absurd (cycle_of_findCycle h) (hacyclic name)

/-- Where no name comes twice, the graph leads from a task to what it depends on. -/
theorem leads_iff_needs {w : Workflow} (hn : (w.tasks.map (·.name)).Nodup) {b a : String} :
    Leads w.dependencyGraph b a ↔ w.Needs b a := by
  constructor
  · intro h
    obtain ⟨t, ht, rfl⟩ := List.mem_map.1 (mem_of_leads h)
    rw [Leads, successors_dependencyGraph hn ht] at h
    exact ⟨t, ht, rfl, h⟩
  · rintro ⟨t, ht, rfl, hb⟩
    rw [Leads, successors_dependencyGraph hn ht]
    exact hb

end Workflow
end Runbook
