/-
# The course of the search for a cycle

How the search for a cycle goes is told here without fuel (`Searches`).  From the name at
the head of the path it follows one edge after the other.

| the edge leads to a name  | the search                                              |
|---------------------------|---------------------------------------------------------|
| on the path               | ends with that name                                     |
| off the path, but known   | goes on with the next edge                              |
| off the path and new      | goes into it, and on with the next edge if that ends    |

Every edge that it follows is noted.  On each graph there is one such course and no other
(`Searches.unique`), and it is the one that the search with fuel takes, which notes the
same edges (`goesOn_of_walked`): so the search comes to an end.  It follows no edge twice
(`Searches.nodup`): what it goes into is new, and known from then on.
-/

import Runbook.Proofs.Workflow.Cycle

namespace Runbook

/-- No name is twice in a set. -/
theorem NameSet.nodup_names (s : NameSet) : s.names.Nodup :=
  s.ascending.imp fun hlt => String.ne_of_lt hlt

namespace Workflow

/-! ### The graph -/

/-- The last task of a name. -/
def lastTask? (w : Workflow) (name : String) : Option Task :=
  w.tasks.reverse.find? fun t => t.name == name

/-- What the last task of a name depends on; nothing if no task has the name. -/
def dependenciesOf (w : Workflow) (name : String) : List String :=
  ((w.lastTask? name).map (·.dependencies.names)).getD []

/-- An edge: the task of the first name depends on the second one. -/
def DependsOn (w : Workflow) (a b : String) : Prop := b ∈ w.dependenciesOf a

theorem nodup_dependenciesOf (w : Workflow) (name : String) : (w.dependenciesOf name).Nodup := by
  rw [dependenciesOf]
  cases w.lastTask? name with
  | none => exact List.nodup_nil
  | some t => exact t.dependencies.nodup_names

/-- The entry of a name is that of the first task of the name. -/
theorem lookupEntry_dependencies (ts : List Task) (name : String) :
    lookupEntry name (ts.map fun t => (t.name, t.dependencies))
      = (ts.find? fun t => t.name == name).map (·.dependencies) := by
  induction ts with
  | nil => rfl
  | cons t ts ih =>
    rw [List.map_cons, lookupEntry, List.find?_cons]
    by_cases hn : name = t.name
    · simp [hn]
    · have hother : (t.name == name) = false := beq_false_of_ne (Ne.symm hn)
      simp [hn, hother, ih]

/-- The graph that is searched is the one of the last tasks. -/
theorem successors_eq_dependenciesOf (w : Workflow) :
    successors w.dependencyGraph = w.dependenciesOf := by
  funext name
  rw [successors, dependencyGraph, Dict.get?_ofList, ← List.map_reverse, lookupEntry_dependencies,
    dependenciesOf, lastTask?]
  cases w.tasks.reverse.find? fun t => t.name == name <;> rfl

/-- To lead on in the graph is to depend, the other way round. -/
theorem leads_eq_swap (w : Workflow) : Leads w.dependencyGraph = Function.swap w.DependsOn := by
  funext b a
  rw [Leads, successors_eq_dependenciesOf]
  rfl

/-! ### The search -/

theorem mem_edgeTo {path : List String} {name : String} {e : String × String} :
    e ∈ edgeTo path name ↔ path.head? = some e.1 ∧ e.2 = name := by
  obtain ⟨a, b⟩ := e
  simp [edgeTo, eq_comm]

/-- The edge leads from the head of the path to the first of the names that come next. -/
theorem leads_of_mem_edgeTo {path : List String} {name : String} {e : String × String}
    (he : e ∈ edgeTo path name) (names : List String) :
    path.head? = some e.1 ∧ e.2 ∈ name :: names := by
  obtain ⟨hhead, hname⟩ := mem_edgeTo.1 he
  exact ⟨hhead, hname ▸ List.mem_cons_self⟩

theorem nodup_edgeTo (path : List String) (name : String) : (edgeTo path name).Nodup := by
  rw [edgeTo]
  cases path.head? with
  | none => exact List.nodup_nil
  | some a => exact List.nodup_singleton _

/-- A search on the graph with these edges, for some names that come next after those on
the path: what it comes to, and the edges that it follows.  It comes to the known names, or
else to a name that it met again. -/
inductive Searches (next : String → List String) :
    List String → NameSet → List String → Except String NameSet → List (String × String) → Prop
    where
  /-- No name is left. -/
  | done {path : List String} {known : NameSet} : Searches next path known [] (.ok known) []
  /-- The name is on the path. -/
  | met {path names : List String} {known : NameSet} {name : String} (again : name ∈ path) :
      Searches next path known (name :: names) (.error name) (edgeTo path name)
  /-- The name is known. -/
  | passed {path names : List String} {known : NameSet} {name : String}
      {result : Except String NameSet} {edges : List (String × String)} (off : name ∉ path)
      (old : name ∈ known) (after : Searches next path known names result edges) :
      Searches next path known (name :: names) result (edgeTo path name ++ edges)
  /-- The name is new, and from there a name is met again. -/
  | sunk {path names : List String} {known : NameSet} {name found : String}
      {edges : List (String × String)} (off : name ∉ path) (new : name ∉ known)
      (inside : Searches next (name :: path) (known.insert name) (next name) (.error found) edges) :
      Searches next path known (name :: names) (.error found) (edgeTo path name ++ edges)
  /-- The name is new, and from there no name is met again. -/
  | left {path names : List String} {known seen : NameSet} {name : String}
      {result : Except String NameSet} {edges edges' : List (String × String)} (off : name ∉ path)
      (new : name ∉ known)
      (inside : Searches next (name :: path) (known.insert name) (next name) (.ok seen) edges)
      (after : Searches next path seen names result edges') :
      Searches next path known (name :: names) result (edgeTo path name ++ (edges ++ edges'))

namespace Searches

variable {next : String → List String} {path names : List String} {known seen : NameSet}
  {result result' : Except String NameSet} {edges edges' : List (String × String)}

/-- **A search goes in one way only.** -/
theorem unique (h : Searches next path known names result edges)
    (h' : Searches next path known names result' edges') : result' = result ∧ edges' = edges := by
  induction h generalizing result' edges' with
  | done =>
    cases h'
    exact ⟨rfl, rfl⟩
  | met again =>
    cases h' with
    | met => exact ⟨rfl, rfl⟩
    | passed off | sunk off | left off => exact absurd again off
  | passed off old after ih =>
    cases h' with
    | met again => exact absurd again off
    | passed _ _ after' =>
      obtain ⟨rfl, rfl⟩ := ih after'
      exact ⟨rfl, rfl⟩
    | sunk _ new | left _ new => exact absurd old new
  | sunk off new inside ih =>
    cases h' with
    | met again => exact absurd again off
    | passed _ old => exact absurd old new
    | sunk _ _ inside' =>
      obtain ⟨he, rfl⟩ := ih inside'
      cases he
      exact ⟨rfl, rfl⟩
    | left _ _ inside' =>
      obtain ⟨he, -⟩ := ih inside'
      cases he
  | left off new inside after ihinside ihafter =>
    cases h' with
    | met again => exact absurd again off
    | passed _ old => exact absurd old new
    | sunk _ _ inside' =>
      obtain ⟨he, -⟩ := ihinside inside'
      cases he
    | left _ _ inside' after' =>
      obtain ⟨he, rfl⟩ := ihinside inside'
      cases he
      obtain ⟨rfl, rfl⟩ := ihafter after'
      exact ⟨rfl, rfl⟩

/-- A name on the path is known also when the search has gone one name further. -/
theorem mem_insert_of_path {name : String} (hpath : ∀ a ∈ path, a ∈ known) :
    ∀ a ∈ name :: path, a ∈ known.insert name := by
  intro a ha
  rw [NameSet.mem_insert]
  exact (List.mem_cons.1 ha).imp_right (hpath a)

/-- An edge that is followed within a new name leads from a name which was new. -/
theorem leads_of_inside {name : String} (new : name ∉ known) {e : String × String}
    (h : (name :: path).head? = some e.1 ∧ e.2 ∈ next name ∨
      e.1 ∉ known.insert name ∧ e.2 ∈ next e.1) : e.1 ∉ known ∧ e.2 ∈ next e.1 := by
  rcases h with ⟨hhead, hedge⟩ | ⟨hnew, hedge⟩
  · rw [List.head?_cons, Option.some.injEq] at hhead
    exact hhead ▸ ⟨new, hedge⟩
  · exact ⟨fun hold => hnew (NameSet.mem_insert.2 (Or.inr hold)), hedge⟩

/-- What is known stays known, and so is all that the search has gone into. -/
theorem knows (h : Searches next path known names (.ok seen) edges) :
    (∀ a ∈ known, a ∈ seen) ∧ ∀ e ∈ edges, path.head? = some e.1 ∨ e.1 ∈ seen := by
  generalize hr : Except.ok seen = r at h
  induction h generalizing seen with
  | done =>
    cases hr
    exact ⟨fun _ ha => ha, fun e he => absurd he List.not_mem_nil⟩
  | met again => cases hr
  | sunk off new inside ih => cases hr
  | passed off old after ih =>
    obtain ⟨hkeeps, hedges⟩ := ih hr
    refine ⟨hkeeps, fun e he => ?_⟩
    rcases List.mem_append.1 he with he | he
    · exact Or.inl (mem_edgeTo.1 he).1
    · exact hedges e he
  | left off new inside after ihinside ihafter =>
    obtain ⟨hinside, hwithin⟩ := ihinside rfl
    obtain ⟨hafter, hlater⟩ := ihafter hr
    refine ⟨fun a ha => hafter a (hinside a (NameSet.mem_insert.2 (Or.inr ha))), fun e he => ?_⟩
    rcases List.mem_append.1 he with he | he
    · exact Or.inl (mem_edgeTo.1 he).1
    · rcases List.mem_append.1 he with he | he
      · refine Or.inr (hafter _ ?_)
        rcases hwithin e he with hhead | hseen
        · rw [← Option.some.inj hhead]
          exact hinside _ (NameSet.mem_insert.2 (Or.inl rfl))
        · exact hseen
      · exact hlater e he

/-- An edge that is followed leads from the head of the path to one of the names, or is one
of the graph that leads from a name which was new. -/
theorem leads (h : Searches next path known names result edges) {e : String × String}
    (he : e ∈ edges) :
    path.head? = some e.1 ∧ e.2 ∈ names ∨ e.1 ∉ known ∧ e.2 ∈ next e.1 := by
  induction h with
  | done => exact absurd he List.not_mem_nil
  | met again => exact Or.inl (leads_of_mem_edgeTo he _)
  | passed off old after ih =>
    rcases List.mem_append.1 he with he | he
    · exact Or.inl (leads_of_mem_edgeTo he _)
    · exact (ih he).imp_left fun hhere => ⟨hhere.1, List.mem_cons_of_mem _ hhere.2⟩
  | sunk off new inside ih =>
    rcases List.mem_append.1 he with he | he
    · exact Or.inl (leads_of_mem_edgeTo he _)
    · exact Or.inr (leads_of_inside new (ih he))
  | left off new inside after ihinside ihafter =>
    rcases List.mem_append.1 he with he | he
    · exact Or.inl (leads_of_mem_edgeTo he _)
    · rcases List.mem_append.1 he with he | he
      · exact Or.inr (leads_of_inside new (ihinside he))
      · refine (ihafter he).imp (fun hhere => ⟨hhere.1, List.mem_cons_of_mem _ hhere.2⟩)
          fun hlater => ⟨fun hold => hlater.1 ?_, hlater.2⟩
        exact inside.knows.1 _ (NameSet.mem_insert.2 (Or.inr hold))

/-- The edge to a name is none of those that are followed from there on. -/
theorem disjoint_inside {name : String}
    (h : Searches next (name :: path) (known.insert name) (next name) result edges)
    (off : name ∉ path) (hpath : ∀ a ∈ path, a ∈ known) :
    List.Disjoint (edgeTo path name) edges := by
  intro e he he'
  obtain ⟨hhead, -⟩ := mem_edgeTo.1 he
  have hmem : e.1 ∈ path := List.mem_of_mem_head? hhead
  rcases h.leads he' with ⟨hname, -⟩ | ⟨hnew, -⟩
  · rw [List.head?_cons, Option.some.injEq] at hname
    exact off (hname ▸ hmem)
  · exact hnew (NameSet.mem_insert.2 (Or.inr (hpath _ hmem)))

/-- The edge to a name is none of those that are followed after it. -/
theorem disjoint_after {name : String} (h : Searches next path known names result edges)
    (hpath : ∀ a ∈ path, a ∈ known) (hnames : path ≠ [] → (name :: names).Nodup) :
    List.Disjoint (edgeTo path name) edges := by
  intro e he he'
  obtain ⟨hhead, hname⟩ := mem_edgeTo.1 he
  have hmem : e.1 ∈ path := List.mem_of_mem_head? hhead
  rcases h.leads he' with ⟨-, hlater⟩ | ⟨hnew, -⟩
  · exact (List.nodup_cons.1 (hnames (List.ne_nil_of_mem hmem))).1 (hname ▸ hlater)
  · exact hnew (hpath _ hmem)

/-- **No edge is followed twice.** -/
theorem nodup (h : Searches next path known names result edges) (hnext : ∀ a, (next a).Nodup)
    (hpath : ∀ a ∈ path, a ∈ known) (hnames : path ≠ [] → names.Nodup) : edges.Nodup := by
  induction h with
  | done => exact List.nodup_nil
  | met again => exact nodup_edgeTo _ _
  | passed off old after ih =>
    have hrest := ih hpath fun hne => (List.nodup_cons.1 (hnames hne)).2
    exact (nodup_edgeTo _ _).append hrest (after.disjoint_after hpath hnames)
  | sunk off new inside ih =>
    have hwithin := ih (mem_insert_of_path hpath) fun _ => hnext _
    exact (nodup_edgeTo _ _).append hwithin (inside.disjoint_inside off hpath)
  | @left path names known seen name result edges edges' off new inside after ihinside ihafter =>
    obtain ⟨hkeeps, hgone⟩ := inside.knows
    have hseen : ∀ a ∈ path, a ∈ seen := fun a ha =>
      hkeeps a (mem_insert_of_path hpath a (List.mem_cons_of_mem _ ha))
    have hwithin := ihinside (mem_insert_of_path hpath) fun _ => hnext _
    have hrest := ihafter hseen fun hne => (List.nodup_cons.1 (hnames hne)).2
    -- What was gone into is known afterwards, and nobody on the path is gone into.
    have hapart : List.Disjoint edges edges' := by
      intro e he he'
      have hknown : e.1 ∈ seen := by
        rcases hgone e he with hhead | hmem
        · rw [List.head?_cons, Option.some.injEq] at hhead
          exact hhead ▸ hkeeps name (NameSet.mem_insert.2 (Or.inl rfl))
        · exact hmem
      rcases after.leads he' with ⟨hhead, -⟩ | ⟨hnew, -⟩
      · have hmem : e.1 ∈ path := List.mem_of_mem_head? hhead
        rcases inside.leads he with ⟨hname, -⟩ | ⟨hnew, -⟩
        · rw [List.head?_cons, Option.some.injEq] at hname
          exact off (hname ▸ hmem)
        · exact hnew (NameSet.mem_insert.2 (Or.inr (hpath _ hmem)))
      · exact hnew hknown
    refine (nodup_edgeTo _ _).append (hwithin.append hrest hapart) ?_
    rw [List.disjoint_append_right]
    exact ⟨inside.disjoint_inside off hpath, after.disjoint_after hseen hnames⟩

end Searches

namespace Search

/-- What a search comes to: all that it has visited, or else a name that it met again. -/
def outcome : Except (String × Search) Search → Except String NameSet
  | .error (name, _) => .error name
  | .ok s => .ok s.visited

/-- The edges that a search has noted, whatever it comes to. -/
def noted : Except (String × Search) Search → List (String × String)
  | .error (_, s) | .ok s => s.followed

/-- The search goes on from `s` with some names and comes to `r` as it should: what it comes
to, and what it notes from there on, are those of a search on the graph. -/
def GoesOn (next : String → List String) (path : List String) (s : Search)
    (names : List String) (r : Except (String × Search) Search) : Prop :=
  ∃ edges, Searches next path s.visited names (outcome r) edges ∧ noted r = s.followed ++ edges

variable {next : String → List String} {path names : List String} {s : Search} {name : String}

/-- The next name is on the path. -/
theorem GoesOn.met (again : name ∈ path) :
    GoesOn next path s (name :: names) (.error (name, s.follow path name)) :=
  ⟨_, .met again, rfl⟩

/-- The next name is known. -/
theorem GoesOn.passed {r : Except (String × Search) Search} (off : name ∉ path)
    (old : name ∈ s.visited) (after : GoesOn next path (s.follow path name) names r) :
    GoesOn next path s (name :: names) r := by
  obtain ⟨edges, hsearch, hnoted⟩ := after
  refine ⟨_, .passed off old hsearch, ?_⟩
  rw [hnoted, follow, List.append_assoc]

/-- The next name is new, and from there a name is met again. -/
theorem GoesOn.sunk {failure : String × Search} (off : name ∉ path) (new : name ∉ s.visited)
    (inside : GoesOn next (name :: path) ((s.follow path name).enter name) (next name)
      (.error failure)) :
    GoesOn next path s (name :: names) (.error failure) := by
  obtain ⟨edges, hsearch, hnoted⟩ := inside
  refine ⟨_, .sunk off new hsearch, ?_⟩
  rw [hnoted, enter, follow, List.append_assoc]

/-- The next name is new, and from there no name is met again. -/
theorem GoesOn.left {mid : Search} {r : Except (String × Search) Search} (off : name ∉ path)
    (new : name ∉ s.visited)
    (inside : GoesOn next (name :: path) ((s.follow path name).enter name) (next name) (.ok mid))
    (after : GoesOn next path mid names r) : GoesOn next path s (name :: names) r := by
  obtain ⟨edges, hinside, hwithin⟩ := inside
  obtain ⟨edges', hafter, hlater⟩ := after
  refine ⟨_, .left off new hinside hafter, ?_⟩
  have hmid : mid.followed = s.followed ++ edgeTo path name ++ edges := hwithin
  rw [hlater, hmid, List.append_assoc, List.append_assoc]

end Search

/-- Names are searched one after the other, if going into a new one is a search. -/
theorem goesOn_foldlM {graph : Dict NameSet} {fuel : Nat} {path : List String}
    (hnew : ∀ s name, name ∉ path → name ∉ s.visited →
      Search.GoesOn (successors graph) (name :: path) ((s.follow path name).enter name)
        (successors graph name) (visit graph fuel path s name))
    (names : List String) (s : Search) :
    s.GoesOn (successors graph) path names (names.foldlM (visit graph fuel path) s) := by
  induction names generalizing s with
  | nil => exact ⟨[], .done, (List.append_nil _).symm⟩
  | cons name names ih =>
    rw [List.foldlM_cons]
    by_cases again : name ∈ path
    · rw [visit_of_mem_path again]
      exact .met again
    · by_cases old : name ∈ s.visited
      · rw [visit_of_visited again old]
        exact .passed again old (ih _)
      · have inside := hnew s name again old
        cases hresult : visit graph fuel path s name with
        | error failure =>
          rw [hresult] at inside
          exact .sunk again old inside
        | ok mid =>
          rw [hresult] at inside
          exact .left again old inside (ih mid)

/-- **The search with fuel is a search**, since the fuel suffices. -/
theorem goesOn_of_walked {graph : Dict NameSet} {fuel : Nat} {path : List String}
    (hp : Walked graph path fuel) (names : List String) (s : Search) :
    s.GoesOn (successors graph) path names (names.foldlM (visit graph fuel path) s) := by
  induction fuel generalizing path names s with
  | zero =>
    refine goesOn_foldlM (fun s name off new => ?_) names s
    -- All names of the graph are on the path, so this one has no dependencies.
    have hleaf : successors graph name = [] :=
      successors_eq_nil fun hkey => off (hp.mem_of_mem_keys hkey)
    rw [visit_zero off new, hleaf]
    exact ⟨[], .done, (List.append_nil _).symm⟩
  | succ fuel ih =>
    refine goesOn_foldlM (fun s name off new => ?_) names s
    rw [visit_succ off new]
    by_cases hkey : name ∈ graph.keys
    · exact ih (hp.cons off hkey) (successors graph name) _
    · rw [successors_eq_nil hkey]
      exact ⟨[], .done, (List.append_nil _).symm⟩

/-- **The search for a cycle is exact.**  The graph has an edge from each task name to each
name that the last task of that name depends on.  Nothing is found exactly if no name that
can be reached from a task lies on a cycle, and a name that is found lies on one.  The
search takes the one course that there is on the graph, so it comes to an end; and what it
notes on the way are edges of the graph, and none of them twice. -/
theorem findCycle_exact (w : Workflow) :
    (w.findCycle = none ↔ ∀ t ∈ w.tasks, ∀ name, Relation.ReflTransGen w.DependsOn t.name name →
      ¬ Relation.TransGen w.DependsOn name name) ∧
    (∀ name, w.findCycle = some name → Relation.TransGen w.DependsOn name name) ∧
    (∀ result edges,
      Searches w.dependenciesOf [] .empty (w.tasks.map (·.name)) result edges ↔
        result = Search.outcome w.search ∧ edges = Search.noted w.search) ∧
    (∀ e ∈ Search.noted w.search, w.DependsOn e.1 e.2) ∧ (Search.noted w.search).Nodup := by
  have hswap : ∀ name, Relation.TransGen (Leads w.dependencyGraph) name name
      ↔ Relation.TransGen w.DependsOn name name := fun name => by
    rw [leads_eq_swap, Relation.transGen_swap]
  have hsearch : Searches w.dependenciesOf [] .empty (w.tasks.map (·.name))
      (Search.outcome w.search) (Search.noted w.search) := by
    obtain ⟨edges, hsearch, hnoted⟩ :=
      goesOn_of_walked (.start w.dependencyGraph) (w.tasks.map (·.name)) {}
    rw [successors_eq_dependenciesOf] at hsearch
    rw [search, hnoted]
    exact hsearch
  refine ⟨?_, fun name hname => (hswap name).1 (cycle_of_findCycle hname), ?_, ?_, ?_⟩
  · rw [findCycle_eq_none_iff]
    constructor
    · intro hnone t _ name _ hcycle
      exact hnone name ((hswap name).2 hcycle)
    · intro hreach name hcycle
      obtain ⟨next, -, hlast⟩ := Relation.TransGen.tail'_iff.1 hcycle
      obtain ⟨t, ht, rfl⟩ := List.mem_map.1 (mem_of_leads hlast)
      exact hreach t ht t.name .refl ((hswap t.name).1 hcycle)
  · refine fun result edges => ⟨hsearch.unique, ?_⟩
    rintro ⟨rfl, rfl⟩
    exact hsearch
  · intro e he
    rcases hsearch.leads he with ⟨hhead, -⟩ | ⟨-, hedge⟩
    · cases hhead
    · exact hedge
  · exact hsearch.nodup w.nodup_dependenciesOf (fun _ ha => absurd ha List.not_mem_nil)
      fun hne => absurd rfl hne

end Workflow
end Runbook
