/-
# Depth of tasks

The depth of a task is one more than the greatest depth of its dependencies
(`depth_eq`).  In a well-formed workflow no depth exceeds the number of tasks
(`depth_le_length`), because the tasks on a way down are all different.  The
tasks of one depth are a layer.  Once the layers up to some depth are completed,
the tasks that are ready are those of the next (`partition_above`), and there is
a next one as long as any task is left (`layer_ne_nil`).  One layer after the
other makes a schedule, in which every task is once (`nodup_schedule`), in the
round of its depth (`mem_schedule`).
-/

import Mathlib.Logic.Relation
import Runbook.Engine.Run
import Runbook.Proofs.Workflow.Dependency

namespace Runbook

/-- The greatest number that some names are given, zero if there are none. -/
def greatest (depth : String → Nat) : List String → Nat
  | [] => 0
  | n :: ns => max (depth n) (greatest depth ns)

theorem greatest_le {depth : String → Nat} {names : List String} {k : Nat} :
    greatest depth names ≤ k ↔ ∀ n ∈ names, depth n ≤ k := by
  induction names with
  | nil => exact ⟨fun _ _ h => absurd h List.not_mem_nil, fun _ => Nat.zero_le k⟩
  | cons n ns ih => rw [greatest, Nat.max_le, ih, List.forall_mem_cons]

theorem le_greatest {depth : String → Nat} {names : List String} {n : String} (h : n ∈ names) :
    depth n ≤ greatest depth names :=
  greatest_le.1 (Nat.le_refl _) n h

theorem greatest_congr {depth depth' : String → Nat} {names : List String}
    (h : ∀ n ∈ names, depth n = depth' n) : greatest depth names = greatest depth' names := by
  induction names with
  | nil => rfl
  | cons n ns ih =>
    rw [List.forall_mem_cons] at h
    rw [greatest, greatest, h.1, ih h.2]

/-- A greatest number that is not zero is some name's. -/
theorem exists_eq_greatest {depth : String → Nat} {names : List String}
    (h : greatest depth names ≠ 0) : ∃ n ∈ names, depth n = greatest depth names := by
  induction names with
  | nil => exact absurd rfl h
  | cons n ns ih =>
    rw [greatest] at h ⊢
    rcases Nat.le_total (greatest depth ns) (depth n) with hle | hle
    · exact ⟨n, List.mem_cons_self, (Nat.max_eq_left hle).symm⟩
    · rw [Nat.max_eq_right hle] at h ⊢
      obtain ⟨m, hm, he⟩ := ih h
      exact ⟨m, List.mem_cons_of_mem _ hm, he⟩

namespace Workflow

variable {w : Workflow}

/-- The depth of a name as far as some steps down show it. -/
def depthWithin (w : Workflow) : Nat → String → Nat
  | 0, _ => 0
  | fuel + 1, name =>
    match w.task? name with
    | none => 0
    | some t => greatest (w.depthWithin fuel) t.dependencies.names + 1

/-- The depth of a task's name: one more than the greatest depth of its
dependencies. -/
def depth (w : Workflow) (name : String) : Nat := w.depthWithin (w.tasks.length + 1) name

/-- The task of a name is the only one that has it. -/
theorem WellFormed.task?_name (hw : w.WellFormed) {t : Task} (ht : t ∈ w.tasks) :
    w.task? t.name = some t := by
  have hnodup := hw.nodup
  rw [task?]
  revert ht hnodup
  induction w.tasks with
  | nil => exact fun ht => absurd ht List.not_mem_nil
  | cons u us ih =>
    intro ht hnodup
    rw [List.map_cons, List.nodup_cons] at hnodup
    rw [List.find?_cons]
    rcases List.mem_cons.1 ht with rfl | ht
    · rw [beq_self_eq_true]
    · have hne : (u.name == t.name) = false :=
        beq_eq_false_iff_ne.2 fun h => hnodup.1 (h ▸ List.mem_map_of_mem ht)
      rw [hne]
      exact ih ht hnodup.2

/-- A task is known by its name. -/
theorem WellFormed.eq_of_name (hw : w.WellFormed) {t u : Task} (ht : t ∈ w.tasks)
    (hu : u ∈ w.tasks) (h : t.name = u.name) : t = u := by
  have := hw.task?_name ht
  rw [h, hw.task?_name hu] at this
  exact (Option.some.inj this).symm

/-- The names on the longest way down are all different. -/
theorem WellFormed.exists_descent (hw : w.WellFormed) (fuel : Nat) (name : String) :
    ∃ l : List String, l.length = w.depthWithin fuel name ∧ l.Nodup ∧
      ∀ a ∈ l, a ∈ w.tasks.map (·.name) ∧ Relation.ReflTransGen w.Needs a name := by
  induction fuel generalizing name with
  | zero => exact ⟨[], rfl, List.nodup_nil, fun _ h => absurd h List.not_mem_nil⟩
  | succ fuel ih =>
    rw [depthWithin]
    cases ht : w.task? name with
    | none => exact ⟨[], rfl, List.nodup_nil, fun _ h => absurd h List.not_mem_nil⟩
    | some t =>
      have hfind : w.tasks.find? (fun t => t.name == name) = some t := ht
      have hmem : t ∈ w.tasks := List.mem_of_find?_eq_some hfind
      have hbeq := List.find?_some hfind
      have hname : t.name = name := eq_of_beq hbeq
      subst hname
      have hself : t.name ∈ w.tasks.map (·.name) ∧ Relation.ReflTransGen w.Needs t.name t.name :=
        ⟨List.mem_map_of_mem hmem, .refl⟩
      by_cases h0 : greatest (w.depthWithin fuel) t.dependencies.names = 0
      · refine ⟨[t.name], by simp only [h0, List.length_singleton], List.nodup_singleton _,
          fun a ha => ?_⟩
        rw [List.mem_singleton.1 ha]
        exact hself
      · obtain ⟨d, hd, he⟩ := exists_eq_greatest h0
        obtain ⟨l, hlen, hnodup, hall⟩ := ih d
        have hneeds : w.Needs d t.name := ⟨t, hmem, rfl, hd⟩
        refine ⟨t.name :: l, by simp only [List.length_cons, hlen, he], List.nodup_cons.2
          ⟨fun hin => ?_, hnodup⟩, fun a ha => ?_⟩
        · have hcycle : Relation.TransGen w.Needs t.name t.name :=
            Relation.TransGen.tail' (hall _ hin).2 hneeds
          exact not_rel_self_of_acc (hw.acc t hmem).transGen hcycle
        · rcases List.mem_cons.1 ha with rfl | ha
          · exact hself
          · exact ⟨(hall a ha).1, (hall a ha).2.tail hneeds⟩

theorem WellFormed.depthWithin_le_length (hw : w.WellFormed) (fuel : Nat) (name : String) :
    w.depthWithin fuel name ≤ w.tasks.length := by
  obtain ⟨l, hlen, hnodup, hall⟩ := hw.exists_descent fuel name
  have := (hnodup.subperm fun a ha => (hall a ha).1).length_le
  rwa [List.length_map, hlen] at this

/-- A depth below the number of steps is found by more steps as well. -/
theorem depthWithin_succ (fuel : Nat) (name : String) (h : w.depthWithin fuel name < fuel) :
    w.depthWithin (fuel + 1) name = w.depthWithin fuel name := by
  induction fuel generalizing name with
  | zero => exact absurd h (Nat.not_lt_zero _)
  | succ fuel ih =>
    rw [depthWithin] at h ⊢
    rw [depthWithin]
    cases ht : w.task? name with
    | none => rfl
    | some t =>
      rw [ht] at h
      dsimp only at h ⊢
      rw [greatest_congr fun d hd => ih d ?_]
      have hle : w.depthWithin fuel d ≤ _ := le_greatest hd
      omega

/-- **A task lies one deeper than the deepest of its dependencies.** -/
theorem WellFormed.depth_eq (hw : w.WellFormed) {t : Task} (ht : t ∈ w.tasks) :
    w.depth t.name = greatest w.depth t.dependencies.names + 1 := by
  have hstep : w.depth t.name
      = greatest (w.depthWithin w.tasks.length) t.dependencies.names + 1 := by
    rw [depth, depthWithin, hw.task?_name ht]
  rw [hstep]
  congr 1
  refine greatest_congr fun d hd => ?_
  have hbound := hw.depthWithin_le_length (w.tasks.length + 1) t.name
  have hle : w.depthWithin w.tasks.length d ≤ _ := le_greatest hd
  rw [depth] at hstep
  rw [depth, depthWithin_succ _ _ (by omega)]

theorem WellFormed.depth_le_length (hw : w.WellFormed) (name : String) :
    w.depth name ≤ w.tasks.length :=
  hw.depthWithin_le_length _ name

theorem WellFormed.depth_pos (hw : w.WellFormed) {t : Task} (ht : t ∈ w.tasks) :
    0 < w.depth t.name := by
  rw [hw.depth_eq ht]
  exact Nat.succ_pos _

/-- The tasks of a depth, in the order of their definition. -/
def layer (w : Workflow) (k : Nat) : List Task := w.tasks.filter fun t => w.depth t.name = k

/-- The tasks that lie deeper. -/
def above (w : Workflow) (k : Nat) : List Task := w.tasks.filter fun t => k < w.depth t.name

@[simp] theorem mem_layer {k : Nat} {t : Task} :
    t ∈ w.layer k ↔ t ∈ w.tasks ∧ w.depth t.name = k := by
  rw [layer, List.mem_filter, decide_eq_true_iff]

@[simp] theorem mem_above {k : Nat} {t : Task} :
    t ∈ w.above k ↔ t ∈ w.tasks ∧ k < w.depth t.name := by
  rw [above, List.mem_filter, decide_eq_true_iff]

/-- All tasks lie deeper than nothing. -/
theorem WellFormed.above_zero (hw : w.WellFormed) : w.above 0 = w.tasks :=
  List.filter_eq_self.2 fun _ ht => decide_eq_true (hw.depth_pos ht)

/-- **There is a next layer as long as any task is left.** -/
theorem WellFormed.layer_ne_nil (hw : w.WellFormed) {k : Nat} {t : Task} (ht : t ∈ w.tasks)
    (hk : k < w.depth t.name) : w.layer (k + 1) ≠ [] := by
  induction hd : w.depth t.name using Nat.strongRecOn generalizing t with
  | _ n ih =>
    by_cases he : n = k + 1
    · exact List.ne_nil_of_mem (mem_layer.2 ⟨ht, hd.trans he⟩)
    · have heq := hw.depth_eq ht
      have h0 : greatest w.depth t.dependencies.names ≠ 0 := by omega
      obtain ⟨d, hdep, hdd⟩ := exists_eq_greatest h0
      obtain ⟨u, hu, rfl⟩ := List.mem_map.1 (hw.known t ht d hdep)
      exact ih (w.depth u.name) (by omega) hu (by omega) rfl

/-- Once exactly the tasks up to some depth are completed, a deeper task is ready
if it is of the next depth. -/
theorem WellFormed.isReady_iff (hw : w.WellFormed) {k : Nat} {completed : NameSet}
    (hc : ∀ t ∈ w.tasks, t.name ∈ completed ↔ w.depth t.name ≤ k) {t : Task}
    (ht : t ∈ w.above k) : t.isReady completed ↔ w.depth t.name = k + 1 := by
  obtain ⟨ht, hk⟩ := mem_above.1 ht
  have hdeps : t.isReady completed ↔ ∀ d ∈ t.dependencies.names, w.depth d ≤ k := by
    rw [Task.isReady, List.all_eq_true]
    refine forall_congr' fun d => forall_congr' fun hd => ?_
    obtain ⟨u, hu, rfl⟩ := List.mem_map.1 (hw.known t ht d hd)
    rw [decide_eq_true_iff, hc u hu]
  have heq := hw.depth_eq ht
  rw [hdeps, ← greatest_le]
  omega

/-- **The ready tasks are the next layer.** -/
theorem WellFormed.partition_above (hw : w.WellFormed) {k : Nat} {completed : NameSet}
    (hc : ∀ t ∈ w.tasks, t.name ∈ completed ↔ w.depth t.name ≤ k) :
    (w.above k).partition (fun t => t.isReady completed)
      = (w.layer (k + 1), w.above (k + 1)) := by
  have hready : ∀ t ∈ w.above k, t.isReady completed = decide (w.depth t.name = k + 1) :=
    fun t ht => by rw [Bool.eq_iff_iff, hw.isReady_iff hc ht, decide_eq_true_iff]
  have hlayer : ((w.above k).filter fun t => t.isReady completed) = w.layer (k + 1) := by
    rw [List.filter_congr hready, above, List.filter_filter, layer]
    refine List.filter_congr fun t _ => ?_
    rw [← Bool.decide_and, decide_eq_decide]
    omega
  have habove : ((w.above k).filter (not ∘ fun t => t.isReady completed)) = w.above (k + 1) := by
    have hblocked : ∀ t ∈ w.above k,
        (not ∘ fun t => t.isReady completed) t = decide (w.depth t.name ≠ k + 1) :=
      fun t ht => by rw [Function.comp_apply, hready t ht, decide_not]
    rw [List.filter_congr hblocked, above, List.filter_filter, above]
    refine List.filter_congr fun t _ => ?_
    rw [← Bool.decide_and, decide_eq_decide]
    omega
  rw [List.partition_eq_filter_filter, hlayer, habove]

/-- What a run starts in its first rounds: the tasks of each depth in the order of
their definition, with the number of their round. -/
def schedule (w : Workflow) : Nat → List (Nat × String)
  | 0 => []
  | k + 1 => w.schedule k ++ (w.layer (k + 1)).map fun t => (k + 1, t.name)

theorem mem_schedule {k : Nat} {x : Nat × String} (hx : x ∈ w.schedule k) :
    x.1 ≤ k ∧ ∃ t ∈ w.tasks, t.name = x.2 ∧ w.depth t.name = x.1 := by
  induction k with
  | zero => exact absurd hx List.not_mem_nil
  | succ k ih =>
    rcases List.mem_append.1 hx with hx | hx
    · obtain ⟨hle, ht⟩ := ih hx
      exact ⟨Nat.le_succ_of_le hle, ht⟩
    · obtain ⟨t, ht, rfl⟩ := List.mem_map.1 hx
      obtain ⟨hmem, hdepth⟩ := mem_layer.1 ht
      exact ⟨Nat.le_refl _, t, hmem, rfl, hdepth⟩

/-- Every task is in the schedule once its depth is reached. -/
theorem WellFormed.mem_schedule_of_depth (hw : w.WellFormed) {k : Nat} {t : Task}
    (ht : t ∈ w.tasks) (hk : w.depth t.name ≤ k) : (w.depth t.name, t.name) ∈ w.schedule k := by
  have hpos := hw.depth_pos ht
  induction k with
  | zero => omega
  | succ k ih =>
    rw [schedule, List.mem_append]
    by_cases he : w.depth t.name = k + 1
    · right
      rw [he]
      exact List.mem_map.2 ⟨t, mem_layer.2 ⟨ht, he⟩, rfl⟩
    · left
      exact ih (by omega)

theorem schedule_prefix {i k : Nat} (h : i ≤ k) : w.schedule i <+: w.schedule k := by
  induction k with
  | zero =>
    obtain rfl : i = 0 := by omega
    exact List.prefix_rfl
  | succ k ih =>
    by_cases he : i = k + 1
    · subst he
      exact List.prefix_rfl
    · exact (ih (by omega)).trans (List.prefix_append _ _)

theorem WellFormed.nodup_layer (hw : w.WellFormed) (k : Nat) :
    ((w.layer k).map (·.name)).Nodup :=
  hw.nodup.sublist (List.filter_sublist.map _)

/-- No task is in the schedule twice. -/
theorem WellFormed.nodup_schedule (hw : w.WellFormed) (k : Nat) :
    ((w.schedule k).map (·.2)).Nodup := by
  induction k with
  | zero => exact List.nodup_nil
  | succ k ih =>
    rw [schedule, List.map_append, List.map_map, List.nodup_append]
    refine ⟨ih, hw.nodup_layer (k + 1), fun a ha b hb hab => ?_⟩
    obtain ⟨x, hx, rfl⟩ := List.mem_map.1 ha
    obtain ⟨t, ht, rfl⟩ := List.mem_map.1 hb
    obtain ⟨hle, u, -, hname, hdepth⟩ := mem_schedule hx
    have hlayer := (mem_layer.1 ht).2
    have hsame : u.name = t.name := hname.trans hab
    rw [hsame, hlayer] at hdepth
    omega

/-- In each round the schedule has the tasks of its depth in the order of their
definition. -/
theorem filter_schedule (i k : Nat) :
    ((w.schedule k).filter fun x => x.1 = i) <+: (w.layer i).map fun t => (i, t.name) := by
  induction k with
  | zero => exact List.nil_prefix
  | succ k ih =>
    rw [schedule, List.filter_append]
    by_cases he : i = k + 1
    · have hnone : ((w.schedule k).filter fun x => x.1 = i) = [] :=
        List.filter_eq_nil_iff.2 fun x hx => by
          have := (mem_schedule hx).1
          rw [decide_eq_true_iff]
          omega
      have hall : (((w.layer (k + 1)).map fun t => (k + 1, t.name)).filter
          fun x => x.1 = i) = (w.layer i).map fun t => (i, t.name) := by
        rw [← he]
        refine List.filter_eq_self.2 fun x hx => ?_
        obtain ⟨t, -, rfl⟩ := List.mem_map.1 hx
        exact decide_eq_true rfl
      exact ⟨[], by rw [List.append_nil, hnone, List.nil_append, hall]⟩
    · have hnone : (((w.layer (k + 1)).map fun t => (k + 1, t.name)).filter
          fun x => x.1 = i) = [] :=
        List.filter_eq_nil_iff.2 fun x hx => by
          obtain ⟨t, -, rfl⟩ := List.mem_map.1 hx
          rw [decide_eq_true_iff]
          exact fun h => he h.symm
      rw [hnone, List.append_nil]
      exact ih

end Workflow
end Runbook
