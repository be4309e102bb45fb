/-
# Scanning documents

In which part of a document a line stands depends on the lines before it alone: a
metadata block may open on the first line, fenced code anywhere in the body, and
inside either nothing but the closing mark counts.  `Region.next` says this
without the draft, and the draft agrees (`region_addLines`).

A line changes the phases and tasks of a draft only if it stands in the body and
is a heading; every other line leaves them as they are (`alike_addLine`).  In all
drafts that a document leads to, the open task belongs to the last phase that was
opened (`Placed`): the search for a phase by its name therefore ends where the
text says it should, even if several phases share that name.
-/

import Runbook.Workflow.Document

namespace Runbook

/-- The parts of a document that a line can stand in. -/
inductive Region where
  | body
  | metadata
  | code
deriving DecidableEq

namespace Region

/-- The region after a trimmed line, which is given with its number. -/
def next (r : Region) (number : Nat) (line : List Char) : Region :=
  match r with
  | .body =>
    if number = 1 ∧ line = Draft.metadataMark then .metadata
    else if Text.startsWith Line.fenceMark line then .code
    else .body
  | .metadata => if line = Draft.metadataMark then .body else .metadata
  | .code => if Text.startsWith Line.fenceMark line then .body else .code

/-- The region after lines that count from the given number. -/
def after (r : Region) (number : Nat) : List (List Char) → Region
  | [] => r
  | raw :: lines => (r.next number (Text.trim raw)).after (number + 1) lines

/-- The lines that stand in the body, trimmed.  The marks around metadata and code
are not among them. -/
def bodyLines (r : Region) (number : Nat) : List (List Char) → List (List Char)
  | [] => []
  | raw :: lines =>
    let line := Text.trim raw
    let rest := (r.next number line).bodyLines (number + 1) lines
    if r = .body ∧ r.next number line = .body then line :: rest else rest

end Region

/-- The region of a section. -/
def Section.region : Section → Region
  | .body => .body
  | .metadata => .metadata
  | .code _ => .code

/-- A section in the region of the body is the body. -/
theorem Section.region_eq_body {s : Section} : s.region = .body ↔ s = .body := by
  cases s <;> simp [region]

/-- A heading: of a phase or of a task. -/
inductive Heading where
  | phase (name : String)
  | task (name : String)
deriving DecidableEq

/-- The heading that a trimmed line is.  The bold part of a list item goes to the
next bold mark or, without one, to the end of the line; it names a task unless it
is empty or ends in a colon. -/
def Heading.read? (line : List Char) : Option Heading :=
  if let some rest := Text.dropStart? "## ".toList line then
    some (.phase (String.ofList (Text.trim rest)))
  else if let some rest := Text.dropStart? "### ".toList line then
    some (.task (String.ofList (Text.trim rest)))
  else if let some rest := Text.dropStart? "- **".toList line then
    let bold := Text.trim (Text.cutBefore "**".toList rest)
    if bold = [] ∨ bold.getLast? = some ':' then none else some (.task (String.ofList bold))
  else none

namespace Line

/-- The heading that a line is, by what it says. -/
def heading? : Line → Option Heading
  | .phase name => some (.phase (String.ofList name))
  | .task name => some (.task (String.ofList name))
  | _ => none

/-- Only a line that starts with the fence mark opens code. -/
theorem read_eq_fence {line : List Char} :
    read line = .fence ↔ Text.startsWith fenceMark line = true := by
  unfold read
  split
  · rename_i h
    exact iff_of_true rfl h
  · rename_i h
    refine iff_of_false ?_ h
    repeat' split
    all_goals simp

theorem read_eq_phase {line name : List Char} (h : Text.dropStart? "## ".toList line = some name) :
    read line = .phase (Text.trim name) := by
  rw [Text.dropStart?_eq_some_iff.1 h]
  rfl

/-- A title is no other kind of heading. -/
theorem read?_title (text : List Char) : Heading.read? ("# ".toList ++ text) = none := rfl

/-- A fence is no heading. -/
theorem read?_fence (text : List Char) : Heading.read? (fenceMark ++ text) = none := rfl

/-- Without number signs a heading is a task in bold. -/
theorem read?_eq_boldTask? {line : List Char} (h₂ : Text.dropStart? "## ".toList line = none)
    (h₃ : Text.dropStart? "### ".toList line = none) :
    Heading.read? line = (boldTask? line).map fun name => .task (String.ofList name) := by
  rw [Heading.read?, h₂, h₃, boldTask?]
  cases Text.dropStart? "- **".toList line with
  | none => rfl
  | some rest =>
    simp only [Option.bind_eq_bind, Option.bind_some]
    generalize Text.trim (Text.cutBefore "**".toList rest) = bold
    by_cases hb : bold = [] ∨ bold.getLast? = some ':' <;> simp [hb]

/-- What a line says is a heading exactly when the line is one. -/
theorem heading?_read (line : List Char) : (read line).heading? = Heading.read? line := by
  unfold read
  by_cases hf : Text.startsWith fenceMark line = true
  · obtain ⟨rest, hr⟩ := Option.isSome_iff_exists.1 hf
    rw [if_pos hf, Text.dropStart?_eq_some_iff.1 hr, read?_fence]
    rfl
  rw [if_neg hf]
  cases h₁ : Text.dropStart? "# ".toList line with
  | some text =>
    rw [Text.dropStart?_eq_some_iff.1 h₁, read?_title]
    rfl
  | none =>
    cases h₂ : Text.dropStart? "## ".toList line with
    | some name =>
      rw [Heading.read?, h₂]
      rfl
    | none =>
      cases h₃ : Text.dropStart? "### ".toList line with
      | some name =>
        rw [Heading.read?, h₂, h₃]
        rfl
      | none =>
        rw [read?_eq_boldTask? h₂ h₃]
        cases boldTask? line with
        | some name => rfl
        | none => cases Property.split? line <;> rfl

/-- The metadata mark is no heading. -/
theorem read?_metadataMark : Heading.read? Draft.metadataMark = none := rfl

/-- The metadata mark says nothing of its own. -/
theorem read_metadataMark : read Draft.metadataMark = .other := rfl

end Line

namespace Region

/-- A heading stays in the body. -/
theorem next_heading {number : Nat} {line : List Char} (h : Heading.read? line ≠ none) :
    body.next number line = .body := by
  have hm : ¬(number = 1 ∧ line = Draft.metadataMark) := by
    rintro ⟨-, rfl⟩
    exact h Line.read?_metadataMark
  have hf : ¬Text.startsWith Line.fenceMark line = true := by
    intro hf
    obtain ⟨rest, hr⟩ := Option.isSome_iff_exists.1 hf
    rw [Text.dropStart?_eq_some_iff.1 hr, Line.read?_fence] at h
    exact h rfl
  rw [next, if_neg hm, if_neg hf]

theorem bodyLines_cons (r : Region) (number : Nat) (raw : List Char) (lines : List (List Char)) :
    r.bodyLines number (raw :: lines)
      = r.bodyLines number [raw] ++ (r.next number (Text.trim raw)).bodyLines (number + 1) lines := by
  simp only [bodyLines]
  split <;> rfl

/-- Behind the first line it does not matter which one it is. -/
theorem next_of_ne {number number' : Nat} (hn : number ≠ 1) (hn' : number' ≠ 1) (r : Region)
    (line : List Char) : r.next number line = r.next number' line := by
  cases r with
  | body => simp only [next, if_neg fun h => hn (And.left h), if_neg fun h => hn' (And.left h)]
  | metadata | code => rfl

theorem after_append (r : Region) (number : Nat) (first second : List (List Char)) :
    r.after number (first ++ second)
      = (r.after number first).after (number + first.length) second := by
  induction first generalizing r number with
  | nil => rfl
  | cons raw first ih =>
    rw [List.cons_append, after, ih, after, List.length_cons, Nat.add_right_comm, Nat.add_assoc]

theorem after_concat (r : Region) (number : Nat) (lines : List (List Char)) (raw : List Char) :
    r.after number (lines ++ [raw])
      = (r.after number lines).next (number + lines.length) (Text.trim raw) := by
  rw [after_append, after, after]

theorem bodyLines_append (r : Region) (number : Nat) (first second : List (List Char)) :
    r.bodyLines number (first ++ second)
      = r.bodyLines number first
        ++ (r.after number first).bodyLines (number + first.length) second := by
  induction first generalizing r number with
  | nil => rfl
  | cons raw first ih =>
    rw [List.cons_append, bodyLines_cons, ih, bodyLines_cons r number raw first, after,
      List.length_cons, List.append_assoc, Nat.add_right_comm number 1, Nat.add_assoc]

/-- A heading is found exactly where it stands in the body. -/
theorem filterMap_bodyLines_singleton (r : Region) (number : Nat) (raw : List Char) :
    (r.bodyLines number [raw]).filterMap Heading.read?
      = if r = .body then (Heading.read? (Text.trim raw)).toList else [] := by
  by_cases hr : r = .body
  · subst hr
    rw [if_pos rfl]
    cases hg : Heading.read? (Text.trim raw) with
    | none =>
      simp only [bodyLines]
      split <;> simp [hg]
    | some g =>
      have hnext : body.next number (Text.trim raw) = .body :=
        next_heading (hg ▸ Option.some_ne_none g)
      simp [bodyLines, hnext, hg]
  · simp [bodyLines, hr]

end Region

/-- A key stands for a property under one of its spellings. -/
theorem Property.mem_spellings_of_ofKey? {key : String} {p : Property} (h : ofKey? key = some p) :
    key ∈ p.spellings := by
  have hmem := List.find?_some h
  exact List.contains_iff_mem.1 hmem

/-- **The keys that a line outside all tasks is warned of are those that name a property.** -/
theorem Property.isKnown_eq_isSome (key : String) : isKnown key = (ofKey? key).isSome := by
  have hnames : ∀ k ∈ known, (ofKey? k).isSome = true := by decide +kernel
  have hlisted : ∀ p ∈ all, ∀ k ∈ p.spellings, k ∈ known := by decide +kernel
  rw [Bool.eq_iff_iff]
  constructor
  · exact fun h => hnames key (List.contains_iff_mem.1 h)
  · intro h
    obtain ⟨p, hp⟩ := Option.isSome_iff_exists.1 h
    exact List.contains_iff_mem.2
      (hlisted p (List.mem_of_find?_eq_some hp) key (mem_spellings_of_ofKey? hp))

/-- The name of a task and of its phase. -/
def Task.place (t : Task) : String × String := (t.name, t.phase)

/-- A property neither reads nor sets the name, the phase and the code of a task. -/
theorem Property.apply_frame (p : Property) (value : List Char) (t : Task) (name phase : String)
    (code : Option String) :
    p.apply value { t with name, phase, code } = { p.apply value t with name, phase, code } := by
  cases p with
  | timeout => simp only [apply]; split <;> rfl
  | retries => simp only [apply]; split <;> rfl
  | _ => rfl

/-- A property moves no task. -/
theorem Property.place_apply (p : Property) (value : List Char) (t : Task) :
    (p.apply value t).place = t.place := by
  have h := congrArg Task.place (p.apply_frame value t t.name t.phase t.code)
  exact h

namespace Draft

/-! ### Regions -/

theorem closeTask_of_none {d : Draft} (h : d.openTask = none) : d.closeTask = d := by
  rw [closeTask, h]

theorem closeTask_of_some {d : Draft} {t : Task} (h : d.openTask = some t) :
    d.closeTask = { d with workflow := d.workflow.pushTask t, openTask := none } := by
  rw [closeTask, h]

@[simp] theorem closeTask_part (d : Draft) : d.closeTask.part = d.part := by
  unfold closeTask; split <;> rfl

@[simp] theorem closeTask_phase (d : Draft) : d.closeTask.phase = d.phase := by
  unfold closeTask; split <;> rfl

@[simp] theorem closeTask_openTask (d : Draft) : d.closeTask.openTask = none := by
  unfold closeTask; split <;> simp_all

/-- Finishing a task renames no phase. -/
@[simp] theorem closeTask_phaseNames (d : Draft) :
    d.closeTask.workflow.phases.map (·.name) = d.workflow.phases.map (·.name) := by
  unfold closeTask
  split
  · rfl
  · exact map_name_enlist ..

/-- What a property line does, by what its key names. -/
theorem setProperty_eq_match (d : Draft) (number : Nat) (key value : List Char) :
    d.setProperty number key value =
      match Property.ofKey? (String.ofList key), d.openTask with
      | none, _ => d
      | some _, none => d.warn (orphanWarning number key)
      | some p, some t =>
        let d := { d with openTask := some (p.apply value t) }
        if p.isZeroTimeout value then d.warn (zeroTimeoutWarning number t.name) else d := by
  unfold setProperty
  rw [Property.isKnown_eq_isSome]
  cases d.openTask <;> cases Property.ofKey? (String.ofList key) <;> rfl

/-- A property line changes nothing but the open task, by a property, and the warnings. -/
theorem exists_setProperty_eq (d : Draft) (number : Nat) (key value : List Char) :
    ∃ f warnings, (f = id ∨ ∃ p : Property, f = p.apply value) ∧
      d.setProperty number key value = { d with
        workflow := { d.workflow with warnings }, openTask := d.openTask.map f } := by
  have hid : d.openTask.map id = d.openTask := Option.map_id_apply
  rw [setProperty_eq_match]
  cases Property.ofKey? (String.ofList key) with
  | none => exact ⟨id, d.workflow.warnings, .inl rfl, by rw [hid]⟩
  | some p =>
    cases ht : d.openTask with
    | none =>
      exact ⟨id, d.workflow.warnings ++ [orphanWarning number key], .inl rfl,
        congrArg (fun o => { d.warn (orphanWarning number key) with openTask := o }) ht⟩
    | some t =>
      simp only []
      split
      · exact ⟨p.apply value, _, .inr ⟨p, rfl⟩, rfl⟩
      · exact ⟨p.apply value, d.workflow.warnings, .inr ⟨p, rfl⟩, rfl⟩

theorem setProperty_part (d : Draft) (number : Nat) (key value : List Char) :
    (d.setProperty number key value).part = d.part := by
  obtain ⟨f, warnings, -, h⟩ := d.exists_setProperty_eq number key value
  rw [h]

theorem addBodyLine_part (d : Draft) (number : Nat) (l : Line) (h : l ≠ .fence) :
    (d.addBodyLine number l).part = d.part := by
  cases l with
  | fence => exact absurd rfl h
  | title text => simp only [addBodyLine]; split <;> rfl
  | phase name => exact closeTask_part d
  | task name => exact closeTask_part d
  | property key value => exact setProperty_part ..
  | other => rfl

theorem addMetadataLine_part (d : Draft) (line : List Char) :
    (d.addMetadataLine line).part = if line = metadataMark then .body else d.part := by
  unfold addMetadataLine
  split
  · rfl
  · split
    · rfl
    · simp only []
      split <;> rfl

/-- A line of metadata changes nothing but the metadata and the part. -/
theorem exists_addMetadataLine_eq (d : Draft) (line : List Char) :
    ∃ metadata part, d.addMetadataLine line
      = { d with workflow := { d.workflow with metadata }, part } := by
  unfold addMetadataLine
  split
  · exact ⟨d.workflow.metadata, .body, rfl⟩
  · split
    · exact ⟨d.workflow.metadata, d.part, rfl⟩
    · simp only []
      split
      · exact ⟨d.workflow.metadata, d.part, rfl⟩
      · exact ⟨_, d.part, rfl⟩

/-- A draft moves through the regions as the lines say. -/
theorem region_addLine (d : Draft) (number : Nat) (raw : List Char) :
    (d.addLine number raw).part.region = d.part.region.next number (Text.trim raw) := by
  unfold addLine
  cases hp : d.part with
  | body =>
    simp only [Section.region, Region.next]
    by_cases hm : number = 1 ∧ Text.trim raw = metadataMark
    · rw [if_pos hm, if_pos hm]
    · rw [if_neg hm, if_neg hm]
      by_cases hf : Text.startsWith Line.fenceMark (Text.trim raw) = true
      · rw [if_pos hf, Line.read_eq_fence.2 hf]
        rfl
      · rw [if_neg hf, addBodyLine_part _ _ _ (mt Line.read_eq_fence.1 hf), hp]
  | metadata =>
    simp only [Section.region, Region.next]
    rw [addMetadataLine_part, hp]
    by_cases hm : Text.trim raw = metadataMark
    · rw [if_pos hm, if_pos hm]
    · rw [if_neg hm, if_neg hm]
  | code lines =>
    simp only [Section.region, Region.next]
    by_cases hf : Text.startsWith Line.fenceMark (Text.trim raw) = true
    · rw [if_pos hf, if_pos hf]
      rfl
    · rw [if_neg hf, if_neg hf]

theorem region_addLines (d : Draft) (number : Nat) (lines : List (List Char)) :
    (d.addLines number lines).part.region = d.part.region.after number lines := by
  induction lines generalizing d number with
  | nil => rfl
  | cons raw lines ih => rw [addLines, ih, region_addLine, Region.after]

theorem addLines_append (d : Draft) (number : Nat) (first second : List (List Char)) :
    d.addLines number (first ++ second)
      = (d.addLines number first).addLines (number + first.length) second := by
  induction first generalizing d number with
  | nil => rfl
  | cons raw first ih =>
    rw [List.cons_append, addLines, ih, addLines, List.length_cons, Nat.add_right_comm,
      Nat.add_assoc]

/-! ### Lines that are no heading -/

/-- The second draft has the phases and tasks of the first. -/
structure Alike (d e : Draft) : Prop where
  phases : e.workflow.phases = d.workflow.phases
  tasks : e.workflow.tasks = d.workflow.tasks
  place : e.openTask.map Task.place = d.openTask.map Task.place
  phase : e.phase = d.phase

theorem Alike.refl (d : Draft) : d.Alike d := ⟨rfl, rfl, rfl, rfl⟩

theorem Alike.trans {d e f : Draft} (h : d.Alike e) (h' : e.Alike f) : d.Alike f :=
  ⟨h'.phases.trans h.phases, h'.tasks.trans h.tasks, h'.place.trans h.place,
    h'.phase.trans h.phase⟩

theorem alike_warn (d : Draft) (text : String) : d.Alike (d.warn text) := ⟨rfl, rfl, rfl, rfl⟩

theorem alike_setProperty (d : Draft) (number : Nat) (key value : List Char) :
    d.Alike (d.setProperty number key value) := by
  obtain ⟨f, warnings, hf, h⟩ := d.exists_setProperty_eq number key value
  have hplace : ∀ t : Task, (f t).place = t.place := by
    rcases hf with rfl | ⟨p, rfl⟩
    · exact fun t => rfl
    · exact p.place_apply value
  rw [h]
  refine ⟨rfl, rfl, ?_, rfl⟩
  rw [Option.map_map]
  exact Option.map_congr fun t _ => hplace t

theorem alike_attachCode (d : Draft) (lines : List (List Char)) :
    d.Alike (d.attachCode lines) := by
  refine ⟨rfl, rfl, ?_, rfl⟩
  simp only [attachCode, Option.map_map]
  rfl

theorem alike_addMetadataLine (d : Draft) (line : List Char) :
    d.Alike (d.addMetadataLine line) := by
  obtain ⟨metadata, part, h⟩ := d.exists_addMetadataLine_eq line
  rw [h]
  exact ⟨rfl, rfl, rfl, rfl⟩

theorem alike_addBodyLine (d : Draft) (number : Nat) {l : Line} (h : l.heading? = none) :
    d.Alike (d.addBodyLine number l) := by
  cases l with
  | fence => exact ⟨rfl, rfl, rfl, rfl⟩
  | title text => simp only [addBodyLine]; split <;> exact ⟨rfl, rfl, rfl, rfl⟩
  | phase name => cases h
  | task name => cases h
  | property key value => exact alike_setProperty ..
  | other => exact .refl d

/-- A line outside the body, or one that is no heading, leaves phases and tasks as
they are. -/
theorem alike_addLine (d : Draft) (number : Nat) (raw : List Char)
    (h : d.part = .body → Heading.read? (Text.trim raw) = none) :
    d.Alike (d.addLine number raw) := by
  unfold addLine
  cases hp : d.part with
  | body =>
    simp only []
    split
    · exact ⟨rfl, rfl, rfl, rfl⟩
    · exact alike_addBodyLine d number ((Line.heading?_read _).trans (h hp))
  | metadata => exact alike_addMetadataLine ..
  | code lines =>
    simp only []
    split
    · exact alike_attachCode ..
    · exact ⟨rfl, rfl, rfl, rfl⟩

/-- In the body a heading is taken as such, on whichever line it stands. -/
theorem addLine_heading (d : Draft) (number : Nat) (raw : List Char) (hp : d.part = .body)
    (h : Heading.read? (Text.trim raw) ≠ none) :
    d.addLine number raw = d.addBodyLine number (Line.read (Text.trim raw)) := by
  have hm : ¬(number = 1 ∧ Text.trim raw = metadataMark) := by
    rintro ⟨-, hm⟩
    exact h (hm ▸ Line.read?_metadataMark)
  unfold addLine
  rw [hp]
  exact if_neg hm

/-- In the body a property line is taken as such, on whichever line it stands. -/
theorem addLine_property {d : Draft} (hp : d.part = .body) (number : Nat)
    {raw key value : List Char} (h : Line.read (Text.trim raw) = .property key value) :
    d.addLine number raw = d.setProperty number key value := by
  have hm : ¬(number = 1 ∧ Text.trim raw = metadataMark) := by
    rintro ⟨-, hm⟩
    rw [hm, Line.read_metadataMark] at h
    cases h
  unfold addLine
  rw [hp]
  simp only [if_neg hm, h]
  rfl

/-- A property sets its field of the open task; only a timeout of zero does more. -/
theorem setProperty_of_open {d : Draft} {t : Task} {p : Property} {key value : List Char}
    (hp : Property.ofKey? (String.ofList key) = some p) (ht : d.openTask = some t)
    (hz : p.isZeroTimeout value = false) (number : Nat) :
    d.setProperty number key value = { d with openTask := some (p.apply value t) } := by
  simp only [setProperty_eq_match, hp, ht, hz, Bool.false_eq_true, if_false]

/-- What a line does to phases and tasks: nothing, or what the heading says that it is. -/
theorem addLine_cases (d : Draft) (number : Nat) (raw : List Char) :
    d.Alike (d.addLine number raw) ∨
      ∃ l : Line, l.heading? ≠ none ∧ d.addLine number raw = d.addBodyLine number l := by
  by_cases hh : d.part = .body ∧ Heading.read? (Text.trim raw) ≠ none
  · exact .inr ⟨_, Line.heading?_read _ ▸ hh.2, addLine_heading d number raw hh.1 hh.2⟩
  · refine .inl (alike_addLine d number raw fun hp => ?_)
    exact Decidable.of_not_not fun hr => hh ⟨hp, hr⟩

/-! ### Where the open task belongs -/

/-- The current phase is the last one, and the open task belongs to it. -/
structure Placed (d : Draft) : Prop where
  phase : d.phase.map String.ofList = (d.workflow.phases.map (·.name)).getLast?
  task : ∀ t, d.openTask = some t → t.phase = String.ofList (d.phase.getD defaultPhase)

theorem placed_empty : ({} : Draft).Placed where
  phase := rfl
  task _ ht := absurd ht (Option.some_ne_none _).symm

theorem Placed.alike {d e : Draft} (h : d.Placed) (ha : d.Alike e) : e.Placed where
  phase := by rw [ha.phase, ha.phases, h.phase]
  task t ht := by
    have hmap := ha.place
    rw [ht, Option.map_some] at hmap
    obtain ⟨u, hu, hut⟩ := Option.map_eq_some_iff.1 hmap.symm
    rw [ha.phase, ← h.task u hu]
    exact (congrArg Prod.snd hut).symm

theorem Placed.addBodyLine {d : Draft} (h : d.Placed) (number : Nat) {l : Line}
    (hl : l.heading? ≠ none) : (d.addBodyLine number l).Placed := by
  cases l with
  | phase name =>
    refine ⟨?_, fun t ht => ?_⟩
    · simp [Draft.addBodyLine]
    · simp [Draft.addBodyLine] at ht
  | task name =>
    refine ⟨?_, ?_⟩
    · simp only [Draft.addBodyLine, closeTask_phase, closeTask_phaseNames]
      exact h.phase
    · rintro t ⟨⟩
      simp only [Draft.addBodyLine, closeTask_phase]
      rfl
  | fence | title | property | other => exact absurd rfl hl

theorem Placed.addLine {d : Draft} (h : d.Placed) (number : Nat) (raw : List Char) :
    (d.addLine number raw).Placed := by
  obtain ha | ⟨l, hl, heq⟩ := addLine_cases d number raw
  · exact h.alike ha
  · rw [heq]
    exact h.addBodyLine number hl

theorem Placed.addLines {d : Draft} (h : d.Placed) (number : Nat) (lines : List (List Char)) :
    (d.addLines number lines).Placed := by
  induction lines generalizing d number with
  | nil => exact h
  | cons raw lines ih => exact ih (h.addLine number raw) (number + 1)

end Draft
end Runbook
