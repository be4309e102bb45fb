/-
# Outlines

The phases and tasks of a workflow follow from the headings in the body of its
document: each phase has the names of the tasks up to the next phase heading, each
task the name of the last phase heading before it (`parseAs_follows`).

A task is noted in its phase only when it is finished, which the next heading or
the end of the document does.  The outline of a draft therefore counts the open
task as if it were finished now: then a heading adds to the outline just what it
says (`outline_addLine`), and nothing else changes it.
-/

import Mathlib.Data.List.Induction
import Runbook.Proofs.Workflow.Scan

namespace Runbook

namespace Heading

/-- The names of the tasks before the first phase heading. -/
def front : List Heading → List String
  | .task name :: hs => name :: front hs
  | _ => []

/-- The phase headings, each with the names of the tasks up to the next one. -/
def sections : List Heading → List (String × List String)
  | [] => []
  | .phase name :: hs => (name, front hs) :: sections hs
  | .task _ :: hs => sections hs

/-- The tasks, each with the name of the last phase heading before it; `phase` is
that of the tasks before all of these headings. -/
def placed (phase : String) : List Heading → List (String × String)
  | [] => []
  | .phase name :: hs => placed name hs
  | .task name :: hs => (name, phase) :: placed phase hs

/-- The tasks stand before the first phase heading or under one. -/
theorem map_fst_placed (phase : String) (hs : List Heading) :
    (placed phase hs).map (·.1) = front hs ++ (sections hs).flatMap (·.2) := by
  induction hs generalizing phase with
  | nil => rfl
  | cons h hs ih =>
    cases h with
    | phase name => rw [placed, ih, sections, List.flatMap_cons]; rfl
    | task name => rw [placed, List.map_cons, ih, front, sections]; rfl

end Heading

/-- The phases of a workflow and its tasks, each with the name of its phase. -/
structure Outline where
  phases : List Phase := []
  tasks : List (String × String) := []

namespace Outline

/-- Notes names in the last phase. -/
def note (names : List String) : List Phase → List Phase
  | [] => []
  | [p] => [{ p with tasks := p.tasks ++ names }]
  | p :: q :: ps => p :: note names (q :: ps)

theorem note_concat (names : List String) (ps : List Phase) (p : Phase) :
    note names (ps ++ [p]) = ps ++ [{ p with tasks := p.tasks ++ names }] := by
  induction ps with
  | nil => rfl
  | cons q ps ih =>
    cases ps with
    | nil => rfl
    | cons r ps => exact congrArg (q :: ·) ih

theorem note_nil (ps : List Phase) : note [] ps = ps := by
  induction ps using List.reverseRecOn with
  | nil => rfl
  | append_singleton ps p _ => rw [note_concat, List.append_nil]

theorem note_note (first second : List String) (ps : List Phase) :
    note second (note first ps) = note (first ++ second) ps := by
  induction ps using List.reverseRecOn with
  | nil => rfl
  | append_singleton ps p _ => simp only [note_concat, List.append_assoc]

theorem map_name_note (names : List String) (ps : List Phase) :
    (note names ps).map (·.name) = ps.map (·.name) := by
  induction ps using List.reverseRecOn with
  | nil => rfl
  | append_singleton ps p _ => rw [note_concat, List.map_append, List.map_append]; rfl

theorem length_note (names : List String) (ps : List Phase) :
    (note names ps).length = ps.length := by
  rw [← List.length_map, map_name_note, List.length_map]

/-- The name of the last phase. -/
def lastName (ps : List Phase) : String := ((ps.map (·.name)).getLast?).getD "default"

theorem lastName_concat (ps : List Phase) (p : Phase) : lastName (ps ++ [p]) = p.name := by
  simp [lastName]

theorem exists_lastName {ps : List Phase} (h : ps ≠ []) : ∃ p ∈ ps, p.name = lastName ps := by
  obtain rfl | ⟨ps, p, rfl⟩ := ps.eq_nil_or_concat
  · exact absurd rfl h
  · exact ⟨p, by simp, by rw [List.concat_eq_append, lastName_concat]⟩

/-- A task of the last phase is noted in that one, even if phases before it have the
same name. -/
theorem enlist_lastName (task : String) (ps : List Phase) :
    enlist (lastName ps) task ps = note [task] ps := by
  induction ps with
  | nil => rfl
  | cons p ps ih =>
    cases ps with
    | nil => simp [enlist, lastName, note]
    | cons q ps =>
      have hlast : lastName (p :: q :: ps) = lastName (q :: ps) := by
        simp [lastName, List.getLast?_cons_cons]
      have hmem : (q :: ps).any (·.name == lastName (q :: ps)) = true := by
        obtain ⟨r, hr, hname⟩ := exists_lastName (List.cons_ne_nil q ps)
        exact List.any_eq_true.2 ⟨r, hr, beq_iff_eq.2 hname⟩
      rw [hlast, enlist, if_pos hmem, ih, note]

/-- The outline with one heading more. -/
def add (o : Outline) : Heading → Outline
  | .phase name => { o with phases := o.phases ++ [{ name, order := o.phases.length + 1 }] }
  | .task name =>
    { phases := note [name] o.phases, tasks := o.tasks ++ [(name, lastName o.phases)] }

/-- The phases of sections that stand behind `before` phases. -/
def number (before : Nat) (sections : List (String × List String)) : List Phase :=
  sections.mapIdx fun i s => { name := s.1, order := before + i + 1, tasks := s.2 }

theorem number_cons (before : Nat) (s : String × List String) (ss : List (String × List String)) :
    number before (s :: ss)
      = { name := s.1, order := before + 1, tasks := s.2 } :: number (before + 1) ss := by
  have h : ∀ i, before + (i + 1) + 1 = before + 1 + i + 1 := by omega
  simp only [number, List.mapIdx_cons, Nat.add_zero, h]

theorem flatMap_tasks_number (before : Nat) (ss : List (String × List String)) :
    (number before ss).flatMap (·.tasks) = ss.flatMap (·.2) := by
  induction ss generalizing before with
  | nil => rfl
  | cons s ss ih => rw [number_cons, List.flatMap_cons, List.flatMap_cons, ih]

/-- What headings add to an outline: the first tasks come under its last phase, then
come the sections. -/
theorem foldl_add (o : Outline) (hs : List Heading) :
    hs.foldl add o
      = { phases := note (Heading.front hs) o.phases
            ++ number o.phases.length (Heading.sections hs)
          tasks := o.tasks ++ Heading.placed (lastName o.phases) hs } := by
  induction hs generalizing o with
  | nil => simp [Heading.front, Heading.sections, Heading.placed, note_nil, number]
  | cons h hs ih =>
    rw [List.foldl_cons, ih]
    cases h with
    | phase name =>
      simp only [add, Heading.front, Heading.sections, Heading.placed, note_nil, note_concat,
        lastName_concat, number_cons, List.length_append, List.length_singleton, List.nil_append,
        List.append_assoc, List.singleton_append]
    | task name =>
      have hname : lastName (note [name] o.phases) = lastName o.phases := by
        rw [lastName, map_name_note, lastName]
      simp only [add, Heading.front, Heading.sections, Heading.placed, note_note, length_note,
        hname, List.append_assoc, List.singleton_append]

end Outline

namespace Draft

/-- The outline of what has been read, the open task included. -/
def outline (d : Draft) : Outline where
  phases := d.closeTask.workflow.phases
  tasks := d.closeTask.workflow.tasks.map Task.place

theorem Alike.outline {d e : Draft} (h : d.Alike e) : e.outline = d.outline := by
  have hplace := h.place
  unfold Draft.outline
  cases hd : d.openTask with
  | none =>
    rw [hd, Option.map_none, Option.map_eq_none_iff] at hplace
    rw [closeTask_of_none hd, closeTask_of_none hplace, h.phases, h.tasks]
  | some t =>
    rw [hd, Option.map_some] at hplace
    obtain ⟨u, hu, hut⟩ := Option.map_eq_some_iff.1 hplace
    have hname : u.name = t.name := congrArg Prod.fst hut
    have hphase : u.phase = t.phase := congrArg Prod.snd hut
    rw [closeTask_of_some hd, closeTask_of_some hu]
    simp only [Workflow.pushTask, h.phases, h.tasks, hname, hphase, List.map_append,
      List.map_singleton, hut]

/-- The current phase is the last one of the outline. -/
theorem Placed.lastName {d : Draft} (h : d.Placed) :
    String.ofList (d.phase.getD defaultPhase) = Outline.lastName d.outline.phases := by
  rw [Outline.lastName, Draft.outline, closeTask_phaseNames, ← h.phase]
  cases d.phase with
  | none => exact String.ofList_toList
  | some name => rfl

/-- A heading adds to the outline what it says. -/
theorem outline_addBodyLine {d : Draft} (h : d.Placed) (number : Nat) {l : Line} {g : Heading}
    (hl : l.heading? = some g) : (d.addBodyLine number l).outline = d.outline.add g := by
  cases l with
  | phase name =>
    obtain rfl := Option.some.inj hl
    have hnone : (d.addBodyLine number (.phase name)).openTask = none := d.closeTask_openTask
    rw [Draft.outline, closeTask_of_none hnone]
    rfl
  | task name =>
    obtain rfl := Option.some.inj hl
    have hopen : (d.addBodyLine number (.task name)).openTask = some (newTask d.phase name) := rfl
    rw [Draft.outline, closeTask_of_some hopen]
    simp only [addBodyLine, Workflow.pushTask, Outline.add, List.map_append, List.map_singleton,
      ← Outline.enlist_lastName, ← h.lastName]
    rfl
  | fence | title | property | other => cases hl

/-- A line that is no heading where it stands leaves the outline, a heading adds what
it says. -/
theorem outline_addLine {d : Draft} (h : d.Placed) (number : Nat) (raw : List Char) :
    (d.addLine number raw).outline
      = ((d.part.region.bodyLines number [raw]).filterMap Heading.read?).foldl Outline.add
          d.outline := by
  rw [Region.filterMap_bodyLines_singleton]
  by_cases hp : d.part = .body
  · rw [if_pos (Section.region_eq_body.2 hp)]
    cases hg : Heading.read? (Text.trim raw) with
    | none => exact (alike_addLine d number raw fun _ => hg).outline
    | some g =>
      rw [addLine_heading d number raw hp (hg ▸ Option.some_ne_none g),
        outline_addBodyLine h number ((Line.heading?_read _).trans hg)]
      rfl
  · rw [if_neg (mt Section.region_eq_body.1 hp)]
    exact (alike_addLine d number raw fun h => absurd h hp).outline

/-- Lines add their headings to the outline. -/
theorem outline_addLines {d : Draft} (h : d.Placed) (number : Nat) (lines : List (List Char)) :
    (d.addLines number lines).outline
      = ((d.part.region.bodyLines number lines).filterMap Heading.read?).foldl Outline.add
          d.outline := by
  induction lines generalizing d number with
  | nil => rfl
  | cons raw lines ih =>
    rw [addLines, ih (h.addLine number raw), outline_addLine h, region_addLine,
      Region.bodyLines_cons _ _ raw lines, List.filterMap_append, List.foldl_append]

/-- The end of the document changes no outline. -/
theorem outline_finish (d : Draft) :
    d.finish.phases = d.outline.phases ∧ d.finish.tasks.map Task.place = d.outline.tasks := by
  have h : ∀ e, d.Alike e →
      e.closeTask.workflow.phases = d.outline.phases
        ∧ e.closeTask.workflow.tasks.map Task.place = d.outline.tasks := by
    intro e he
    rw [← he.outline]
    exact ⟨rfl, rfl⟩
  unfold finish
  cases d.part with
  | code lines => exact h _ ((alike_warn d _).trans (alike_attachCode _ lines))
  | body => exact h d (.refl d)
  | metadata => exact h d (.refl d)

end Draft

namespace Workflow

/-- The headings in the body of a document. -/
def headings (text : List Char) : List Heading :=
  (Region.body.bodyLines 1 (Text.lines (dropMark text))).filterMap Heading.read?

/-- Nothing in metadata or code is a heading, and neither is a bold key. -/
example :
    headings ("---\n## a: b\n---\n- **Fetch** now\n## default\n```\n### c\n```\n"
      ++ "- **Target:** d\n### Fetch").toList = [.task "Fetch", .phase "default", .task "Fetch"] := by
  decide

/-- A workflow has the phases and tasks that headings ask for: a phase for each phase
heading, numbered from one on, with the names of the tasks up to the next one; a task
for each task heading, in the last phase before it or, before all phases, in the
default one.  So the tasks are those before the first phase and those of the phases. -/
structure Follows (w : Workflow) (hs : List Heading) : Prop where
  phases : w.phases
    = (Heading.sections hs).mapIdx fun i s => { name := s.1, order := i + 1, tasks := s.2 }
  tasks : w.tasks.map (fun t => (t.name, t.phase)) = Heading.placed "default" hs
  names : w.tasks.map (·.name) = Heading.front hs ++ w.phases.flatMap (·.tasks)

/-- **A document's workflow has the phases and tasks of its headings.**  No heading is
lost, none is invented, and each task stands under the phase heading before it,
whatever names repeat. -/
theorem parseAs_follows (stem : Option String) (text : List Char) :
    (parseAs stem text).Follows (headings text) := by
  have hread : (({} : Draft).addLines 1 (Text.lines (dropMark text))).outline = _ :=
    (Draft.outline_addLines Draft.placed_empty 1 _).trans (Outline.foldl_add _ (headings text))
  obtain ⟨hphases, htasks⟩ :=
    Draft.outline_finish (({} : Draft).addLines 1 (Text.lines (dropMark text)))
  rw [hread] at hphases htasks
  have hsections : (parseAs stem text).phases = Outline.number 0 (Heading.sections _) := hphases
  have hplaced : (parseAs stem text).tasks.map Task.place = Heading.placed "default" _ := htasks
  refine ⟨?_, hplaced, ?_⟩
  · rw [hsections]
    simp only [Outline.number, Nat.zero_add]
  · calc (parseAs stem text).tasks.map (·.name)
        = ((parseAs stem text).tasks.map Task.place).map (·.1) := by rw [List.map_map]; rfl
      _ = Heading.front (headings text) ++ (parseAs stem text).phases.flatMap (·.tasks) := by
        rw [hplaced, Heading.map_fst_placed, hsections, Outline.flatMap_tasks_number]

end Workflow
end Runbook
