/-
# Dependencies of valid workflows

Validation walks the dependencies depth first and refuses a workflow when it
meets a name again on the path to it.  What it has visited and left behind is
accessible: no dependency leads on from there forever (`acc_of_visit`).  So a
workflow that passes has distinct names, knows all its dependencies, and every
task comes to an end of its dependencies (`wellFormed_of_valid`).
-/

import Mathlib.Data.List.Perm.Subperm
import Mathlib.Data.List.Nodup
import Runbook.Workflow.Validation

namespace Runbook
namespace Workflow

/-- What cannot lead on forever does not lead back to itself. -/
theorem not_rel_self_of_acc {r : String → String → Prop} {a : String} (h : Acc r a) :
    ¬ r a a := by
  induction h with
  | intro a _ ih => exact fun hr => ih a hr hr

/-- The dependencies that a graph gives to a name. -/
def successors (graph : Dict NameSet) (name : String) : List String :=
  ((graph.get? name).getD .empty).names

/-- A graph leads from `a` to `b`.  The first argument is the one that comes
earlier, as in an order. -/
def Leads (graph : Dict NameSet) (b a : String) : Prop := b ∈ successors graph a

/-- **Nothing unfinished off the path.**  All visited names that are not on the
path are accessible. -/
def Explored (graph : Dict NameSet) (path : List String) (visited : NameSet) : Prop :=
  ∀ a ∈ visited, a ∉ path → Acc (Leads graph) a

/-- The path to a name as the search builds it: no name twice, and each with
dependencies of its own.  Its length and the fuel make up the size of the graph. -/
structure Walked (graph : Dict NameSet) (path : List String) (fuel : Nat) : Prop where
  nodup : path.Nodup
  known : ∀ a ∈ path, a ∈ graph.keys
  length : path.length + fuel = graph.size

/-- The search starts with no path and with fuel for the whole graph. -/
theorem Walked.start (graph : Dict NameSet) : Walked graph [] graph.size :=
  ⟨List.nodup_nil, fun _ ha => absurd ha List.not_mem_nil, Nat.zero_add _⟩

theorem successors_eq_nil {graph : Dict NameSet} {name : String} (h : name ∉ graph.keys) :
    successors graph name = [] := by
  have hn : graph.get? name = none := by
    rw [← Option.not_isSome_iff_eq_none]
    exact fun hs => h (isSome_lookupEntry.1 hs)
  rw [successors, hn]
  rfl

/-- A path that has used up the fuel holds every name of the graph. -/
theorem Walked.mem_of_mem_keys {graph : Dict NameSet} {path : List String}
    (h : Walked graph path 0) {name : String} (hk : name ∈ graph.keys) : name ∈ path := by
  by_contra hn
  have hnodup : (name :: path).Nodup := List.nodup_cons.2 ⟨hn, h.nodup⟩
  have hsub : (name :: path) ⊆ graph.keys := by
    intro a ha
    rcases List.mem_cons.1 ha with rfl | ha
    · exact hk
    · exact h.known a ha
  have hle := (List.subperm_of_subset hnodup hsub).length_le
  have hlen := h.length
  rw [List.length_cons, Dict.keys, List.length_map] at hle
  rw [Dict.size] at hlen
  omega

/-- Going on from a name of the graph that is not on the path. -/
theorem Walked.cons {graph : Dict NameSet} {path : List String} {fuel : Nat} {name : String}
    (h : Walked graph path (fuel + 1)) (hn : name ∉ path) (hk : name ∈ graph.keys) :
    Walked graph (name :: path) fuel := by
  refine ⟨List.nodup_cons.2 ⟨hn, h.nodup⟩, fun a ha => ?_, ?_⟩
  · rcases List.mem_cons.1 ha with rfl | ha
    · exact hk
    · exact h.known a ha
  · have := h.length
    rw [List.length_cons]
    omega

/-- What a search that finds nothing wrong leaves behind: all names it had
visited, and all that it was asked to visit. -/
structure Visited (graph : Dict NameSet) (path : List String) (visited : NameSet)
    (names : List String) (after : NameSet) : Prop where
  keeps : ∀ a ∈ visited, a ∈ after
  reaches : ∀ a ∈ names, a ∈ after ∧ a ∉ path
  explored : Explored graph path after

/-- Visiting names in turn, if visiting one does what it should. -/
theorem visited_foldlM {graph : Dict NameSet} {path : List String}
    {f : Search → String → Except (String × Search) Search}
    (hf : ∀ {s name after}, Explored graph path s.visited → f s name = .ok after →
      Visited graph path s.visited [name] after.visited)
    {names : List String} {s after : Search} (hv : Explored graph path s.visited)
    (h : names.foldlM f s = .ok after) : Visited graph path s.visited names after.visited := by
  induction names generalizing s with
  | nil =>
    rw [List.foldlM_nil] at h
    cases h
    exact ⟨fun _ ha => ha, fun _ ha => absurd ha List.not_mem_nil, hv⟩
  | cons n ns ih =>
    rw [List.foldlM_cons] at h
    cases hn : f s n with
    | error e => rw [hn] at h; cases h
    | ok mid =>
      rw [hn] at h
      have h₁ := hf hv hn
      have h₂ := ih h₁.explored h
      refine ⟨fun a ha => h₂.keeps a (h₁.keeps a ha), fun a ha => ?_, h₂.explored⟩
      rcases List.mem_cons.1 ha with rfl | ha
      · have := h₁.reaches a (List.mem_singleton_self a)
        exact ⟨h₂.keeps a this.1, this.2⟩
      · exact h₂.reaches a ha

/-- A name that has been visited before is left as it is. -/
theorem Visited.again {graph : Dict NameSet} {path : List String} {visited : NameSet}
    {node : String} (hv : Explored graph path visited) (hm : node ∈ visited) (hn : node ∉ path) :
    Visited graph path visited [node] visited := by
  refine ⟨fun _ ha => ha, fun a ha => ?_, hv⟩
  rw [List.mem_singleton.1 ha]
  exact ⟨hm, hn⟩

/-- Going on to the dependencies of a name. -/
theorem Explored.insert {graph : Dict NameSet} {path : List String} {visited : NameSet}
    (hv : Explored graph path visited) (node : String) :
    Explored graph (node :: path) (visited.insert node) := by
  intro a ha hap
  rw [List.mem_cons, not_or] at hap
  exact hv a ((NameSet.mem_insert.1 ha).resolve_left hap.1) hap.2

/-- A name that is not in the graph has no dependencies to visit. -/
theorem Visited.leaf {graph : Dict NameSet} {path : List String} {visited : NameSet}
    {node : String} (hv : Explored graph path visited) (hk : node ∉ graph.keys) :
    Visited graph (node :: path) (visited.insert node) (successors graph node)
      (visited.insert node) := by
  rw [successors_eq_nil hk]
  exact ⟨fun _ ha => ha, fun _ ha => absurd ha List.not_mem_nil, hv.insert node⟩

/-- A name is visited once all that it depends on is. -/
theorem Visited.finish {graph : Dict NameSet} {path : List String} {visited after : NameSet}
    {node : String} (hn : node ∉ path)
    (h : Visited graph (node :: path) (visited.insert node) (successors graph node) after) :
    Visited graph path visited [node] after := by
  have hacc : Acc (Leads graph) node := by
    refine Acc.intro _ fun b hb => ?_
    obtain ⟨hmem, hpath⟩ := h.reaches b hb
    exact h.explored b hmem hpath
  refine ⟨fun a ha => h.keeps a (NameSet.mem_insert.2 (Or.inr ha)), fun a ha => ?_,
    fun a ha hap => ?_⟩
  · rw [List.mem_singleton.1 ha]
    exact ⟨h.keeps node (NameSet.mem_insert.2 (Or.inl rfl)), hn⟩
  · by_cases he : a = node
    · rw [he]
      exact hacc
    · exact h.explored a ha (by simp [he, hap])

@[simp]
theorem Search.visited_follow (s : Search) (path : List String) (node : String) :
    (s.follow path node).visited = s.visited := rfl

@[simp]
theorem Search.visited_enter (s : Search) (node : String) :
    (s.enter node).visited = s.visited.insert node := rfl

/-- The search gives up at a name on the path. -/
theorem visit_of_mem_path {graph : Dict NameSet} {fuel : Nat} {path : List String} {s : Search}
    {node : String} (h : node ∈ path) :
    visit graph fuel path s node = .error (node, s.follow path node) := by
  rw [visit.eq_def, if_pos h]

/-- A name that was visited before is left as it is. -/
theorem visit_of_visited {graph : Dict NameSet} {fuel : Nat} {path : List String} {s : Search}
    {node : String} (hn : node ∉ path) (h : node ∈ s.visited) :
    visit graph fuel path s node = .ok (s.follow path node) := by
  rw [visit.eq_def, if_neg hn, Search.visited_follow, if_pos h]

theorem visit_zero {graph : Dict NameSet} {path : List String} {s : Search} {node : String}
    (hn : node ∉ path) (h : node ∉ s.visited) :
    visit graph 0 path s node = .ok ((s.follow path node).enter node) := by
  rw [visit, if_neg hn, Search.visited_follow, if_neg h]

/-- From a new name the search goes on to its dependencies. -/
theorem visit_succ {graph : Dict NameSet} {fuel : Nat} {path : List String} {s : Search}
    {node : String} (hn : node ∉ path) (h : node ∉ s.visited) :
    visit graph (fuel + 1) path s node
      = (successors graph node).foldlM (visit graph fuel (node :: path))
          ((s.follow path node).enter node) := by
  rw [visit, if_neg hn, Search.visited_follow, if_neg h, successors]

/-- **What is visited and left behind is accessible.** -/
theorem visited_of_visit {graph : Dict NameSet} {fuel : Nat} {path : List String}
    {s after : Search} {node : String} (hp : Walked graph path fuel)
    (hv : Explored graph path s.visited) (h : visit graph fuel path s node = .ok after) :
    Visited graph path s.visited [node] after.visited := by
  induction fuel generalizing path s after node with
  | zero =>
    by_cases hn : node ∈ path
    · rw [visit_of_mem_path hn] at h
      cases h
    · by_cases hm : node ∈ s.visited
      · rw [visit_of_visited hn hm] at h
        cases h
        exact .again hv hm hn
      · rw [visit_zero hn hm] at h
        cases h
        exact .finish hn (.leaf hv fun hk => hn (hp.mem_of_mem_keys hk))
  | succ fuel ih =>
    by_cases hn : node ∈ path
    · rw [visit_of_mem_path hn] at h
      cases h
    · by_cases hm : node ∈ s.visited
      · rw [visit_of_visited hn hm] at h
        cases h
        exact .again hv hm hn
      · rw [visit_succ hn hm] at h
        refine .finish hn ?_
        -- Only a name with dependencies takes fuel for them.
        by_cases hk : node ∈ graph.keys
        · exact visited_foldlM (fun hv h => ih (hp.cons hn hk) hv h) (hv.insert node) h
        · rw [successors_eq_nil hk, List.foldlM_nil] at h
          cases h
          exact .leaf hv hk

/-- If no cycle is found, every task's name is accessible. -/
theorem acc_of_findCycle {w : Workflow} (h : w.findCycle = none) {name : String}
    (hn : name ∈ w.tasks.map (·.name)) : Acc (Leads w.dependencyGraph) name := by
  rw [findCycle] at h
  split at h
  · cases h
  · rename_i after ho
    rw [search] at ho
    have hv : Explored w.dependencyGraph [] NameSet.empty :=
      fun a ha => absurd ha (NameSet.notMem_empty a)
    have := visited_foldlM (fun hv h => visited_of_visit (.start _) hv h) hv ho
    exact this.explored name (this.reaches name hn).1 List.not_mem_nil

/-- No fault of a repeated name means that no name is repeated. -/
theorem nodup_of_duplicateFaults {seen names : List String}
    (h : duplicateFaults seen names = []) : names.Nodup ∧ ∀ n ∈ names, n ∉ seen := by
  induction names generalizing seen with
  | nil => exact ⟨List.nodup_nil, fun _ hn => absurd hn List.not_mem_nil⟩
  | cons n ns ih =>
    rw [duplicateFaults] at h
    split at h
    · cases h
    · rename_i hs
      obtain ⟨hnodup, hseen⟩ := ih h
      refine ⟨List.nodup_cons.2 ⟨fun hn => hseen n hn List.mem_cons_self, hnodup⟩,
        fun m hm => ?_⟩
      rcases List.mem_cons.1 hm with rfl | hm
      · exact hs
      · exact fun h => hseen m hm (List.mem_cons_of_mem _ h)

/-- No fault of an unknown dependency means that all are known. -/
theorem known_of_unknownFaults {names : List String} {tasks : List Task}
    (h : unknownFaults names tasks = []) {t : Task} (ht : t ∈ tasks) {d : String}
    (hd : d ∈ t.dependencies.names) : d ∈ names := by
  rw [unknownFaults, List.flatMap_eq_nil_iff] at h
  have hf := h t ht
  rw [List.map_eq_nil_iff, List.filter_eq_nil_iff] at hf
  by_contra hn
  exact hf d hd (decide_eq_true hn)

/-- Where no name comes twice, the graph gives each task its dependencies. -/
theorem successors_dependencyGraph {w : Workflow} (hn : (w.tasks.map (·.name)).Nodup) {t : Task}
    (ht : t ∈ w.tasks) : successors w.dependencyGraph t.name = t.dependencies.names := by
  have hkeys : ((w.tasks.map fun t => (t.name, t.dependencies)).reverse.map (·.1)).Nodup := by
    rw [List.map_reverse, List.nodup_reverse, List.map_map]
    exact hn
  have hmem : (t.name, t.dependencies)
      ∈ (w.tasks.map fun t => (t.name, t.dependencies)).reverse :=
    List.mem_reverse.2 (List.mem_map_of_mem ht)
  rw [successors, dependencyGraph, Dict.get?_ofList, lookupEntry_of_mem hkeys hmem]
  rfl

/-- The task of a name depends on another name; the first argument is the one
that is depended on. -/
def Needs (w : Workflow) (b a : String) : Prop :=
  ∃ t ∈ w.tasks, t.name = a ∧ b ∈ t.dependencies.names

/-- What a run relies on: no two tasks share a name, every dependency is a task,
and the dependencies of every task come to an end. -/
structure WellFormed (w : Workflow) : Prop where
  nodup : (w.tasks.map (·.name)).Nodup
  known : ∀ t ∈ w.tasks, ∀ d ∈ t.dependencies.names, d ∈ w.tasks.map (·.name)
  acc : ∀ t ∈ w.tasks, Acc w.Needs t.name

/-- **A valid workflow is well formed.** -/
theorem wellFormed_of_valid {w : Workflow} (h : w.validate.valid) : w.WellFormed := by
  have hf : w.faults = [] := List.isEmpty_iff.1 h
  simp only [faults, List.append_eq_nil_iff] at hf
  obtain ⟨⟨⟨-, hdup⟩, hunknown⟩, hcycle⟩ := hf
  have hnodup := (nodup_of_duplicateFaults hdup).1
  refine ⟨hnodup, fun t ht d hd => known_of_unknownFaults hunknown ht hd, fun t ht => ?_⟩
  have hnone : w.findCycle = none := by
    cases hc : w.findCycle with
    | none => rfl
    | some n => rw [hc] at hcycle; cases hcycle
  have hsub : ∀ {b a : String}, w.Needs b a → Leads w.dependencyGraph b a := by
    rintro b a ⟨u, hu, rfl, hb⟩
    rw [Leads, successors_dependencyGraph hnodup hu]
    exact hb
  exact Subrelation.accessible hsub (acc_of_findCycle hnone (List.mem_map_of_mem ht))

end Workflow
end Runbook
