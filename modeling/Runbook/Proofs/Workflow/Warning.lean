/-
# Which lines leave a warning

A line leaves a warning where it was meant to say something and could not.  Whether that
is so depends on the region it stands in and on the task that is open there, both of which
follow from the lines before it.

| line of the body                        | open task | warning                          |
|-----------------------------------------|-----------|----------------------------------|
| property whose key is interpreted       | none      | the property belongs to no task  |
| timeout whose value starts with zero    | any       | the timeout is not taken         |
| any other                               | any       | none                             |

A key is interpreted if some value of it changes some task.  These warnings, in the order
of the lines and each with the number of its own, and one more if the document ends in open
code, are all that a workflow has (`Workflow.parseAs_warnings`).
-/

import Mathlib.Data.List.Induction
import Runbook.Proofs.Workflow.Number

namespace Runbook

/-- The task that is open behind a heading, by its name: none behind that of a phase. -/
def Heading.task? : Heading → Option String
  | .phase _ => none
  | .task name => some name

namespace Property

/-- A key is interpreted if some value of it changes a task that is open. -/
def Interpreted (key : List Char) : Prop :=
  ∃ (d : Draft) (t : Task) (number : Nat) (value : List Char),
    d.openTask = some t ∧ (d.setProperty number key value).openTask ≠ some t

/-- Every property changes a task that has nothing yet. -/
theorem exists_apply_ne (p : Property) :
    ∃ value, p.apply value (Draft.newTask none []) ≠ Draft.newTask none [] := by
  cases p with
  | target | command | tool | options | schema =>
    exact ⟨[], fun h => absurd (congrArg (fun t => t.parameters.keys) h) (by decide)⟩
  | dependencies =>
    exact ⟨['a'], fun h => absurd (congrArg (fun t => t.dependencies.names) h) (by decide)⟩
  | timeout => exact ⟨['1'], fun h => absurd (congrArg Task.timeoutMs h) (by decide)⟩
  | retries => exact ⟨['1'], fun h => absurd (congrArg Task.retries h) (by decide)⟩
  | critical =>
    exact ⟨"true".toList, fun h => absurd (congrArg Task.critical h) (by decide)⟩
  | continueFlag =>
    exact ⟨"true".toList, fun h => absurd (congrArg Task.continueFlag h) (by decide)⟩
  | output => exact ⟨[], fun h => absurd (congrArg Task.output h) (by decide)⟩

/-- What is interpreted is what has a property. -/
theorem interpreted_iff {key : List Char} :
    Interpreted key ↔ (ofKey? (String.ofList key)).isSome = true := by
  constructor
  · rintro ⟨d, t, number, value, ht, hne⟩
    refine Option.isSome_iff_ne_none.2 fun hnone => hne ?_
    rw [Draft.setProperty_eq_match, hnone, ht]
  · intro h
    obtain ⟨p, hp⟩ := Option.isSome_iff_exists.1 h
    obtain ⟨value, hvalue⟩ := exists_apply_ne p
    refine ⟨{ openTask := some (Draft.newTask none []) }, Draft.newTask none [], 1, value, rfl,
      fun hsame => hvalue ?_⟩
    rw [Draft.setProperty_eq_match, hp] at hsame
    simp only [] at hsame
    split at hsame <;> exact Option.some.inj hsame

instance (key : List Char) : Decidable (Interpreted key) := decidable_of_iff _ interpreted_iff.symm

instance (value : List Char) (n : Nat) : Decidable (Opens value n) :=
  decidable_of_iff _ opens_iff.symm

theorem isZeroTimeout_iff {key value : List Char} {p : Property}
    (h : ofKey? (String.ofList key) = some p) :
    p.isZeroTimeout value = true ↔ key = "timeout".toList ∧ Opens value 0 := by
  have hkey : p = .timeout ↔ key = "timeout".toList := by
    constructor
    · rintro rfl
      have hmem := mem_spellings_of_ofKey? h
      rw [spellings, List.mem_singleton] at hmem
      rw [← hmem, String.toList_ofList]
    · rintro rfl
      exact Option.some.inj (h.symm.trans (by decide))
  have hzero : leadingNumber? value = some 0 ↔ Opens value 0 :=
    leadingNumber?_eq_some_iff.trans (and_iff_left (by omega))
  rw [isZeroTimeout, Bool.and_eq_true, decide_eq_true_eq, decide_eq_true_eq, hkey, hzero]

end Property

/-- The warnings that a line leaves in a region, given with its number and with the name of
the open task. -/
def Region.warnings (r : Region) (task : Option String) (number : Nat) (line : Line) :
    List String :=
  match r, line, task with
  | .body, .property key _, none =>
    if Property.Interpreted key then [Draft.orphanWarning number key] else []
  | .body, .property key value, some task =>
    if key = "timeout".toList ∧ Property.Opens value 0 then [Draft.zeroTimeoutWarning number task]
    else []
  | _, _, _ => []

namespace Draft

variable {d : Draft}

theorem closeTask_warnings (d : Draft) :
    d.closeTask.workflow.warnings = d.workflow.warnings := by
  unfold closeTask
  split <;> rfl

theorem setProperty_warnings (d : Draft) (number : Nat) (key value : List Char) :
    (d.setProperty number key value).workflow.warnings
      = d.workflow.warnings
        ++ Region.body.warnings (d.openTask.map (·.name)) number (.property key value) := by
  rw [setProperty_eq_match]
  cases hp : Property.ofKey? (String.ofList key) with
  | none =>
    have hkey : ¬Property.Interpreted key := by
      rw [Property.interpreted_iff, hp]
      exact Bool.false_ne_true
    have htimeout : ¬(key = "timeout".toList ∧ Property.Opens value 0) := by
      rintro ⟨rfl, -⟩
      exact absurd hp (by decide)
    cases d.openTask with
    | none => simp only [Option.map_none, Region.warnings, if_neg hkey, List.append_nil]
    | some t => simp only [Option.map_some, Region.warnings, if_neg htimeout, List.append_nil]
  | some p =>
    have hkey : Property.Interpreted key := by
      rw [Property.interpreted_iff, hp]
      rfl
    cases ht : d.openTask with
    | none => simp only [Option.map_none, Region.warnings, if_pos hkey, warn]
    | some t =>
      simp only [Option.map_some, Region.warnings, ← Property.isZeroTimeout_iff hp]
      split
      · rfl
      · exact (List.append_nil _).symm

theorem addMetadataLine_warnings (d : Draft) (line : List Char) :
    (d.addMetadataLine line).workflow.warnings = d.workflow.warnings := by
  obtain ⟨metadata, part, h⟩ := d.exists_addMetadataLine_eq line
  rw [h]

theorem addBodyLine_warnings (d : Draft) (number : Nat) (l : Line) :
    (d.addBodyLine number l).workflow.warnings
      = d.workflow.warnings ++ Region.body.warnings (d.openTask.map (·.name)) number l := by
  cases l with
  | fence | other => simp [addBodyLine, Region.warnings]
  | title text =>
    simp only [addBodyLine, Region.warnings, List.append_nil]
    split <;> rfl
  | phase name => simp [addBodyLine, Region.warnings, closeTask_warnings]
  | task name => simp [addBodyLine, Region.warnings, closeTask_warnings]
  | property key value => exact setProperty_warnings ..

/-- A line adds its warnings behind those before it. -/
theorem addLine_warnings (d : Draft) (number : Nat) (raw : List Char) :
    (d.addLine number raw).workflow.warnings
      = d.workflow.warnings ++ d.part.region.warnings (d.openTask.map (·.name)) number
          (Line.read (Text.trim raw)) := by
  unfold addLine
  cases hp : d.part with
  | body =>
    simp only [Section.region]
    split
    · rename_i hm
      rw [hm.2, Line.read_metadataMark]
      simp [Region.warnings]
    · exact addBodyLine_warnings ..
  | metadata => simp [Section.region, Region.warnings, addMetadataLine_warnings]
  | code lines =>
    simp only [Section.region, Region.warnings, List.append_nil]
    split <;> rfl

/-- A heading opens its task or none, any other line leaves the open task so named. -/
theorem addLine_taskName (d : Draft) (number : Nat) (raw : List Char) :
    (d.addLine number raw).openTask.map (·.name)
      = (((d.part.region.bodyLines number [raw]).filterMap Heading.read?).getLast?.map
          Heading.task?).getD (d.openTask.map (·.name)) := by
  have hname : ∀ o : Option Task, o.map (·.name) = (o.map Task.place).map (·.1) := fun o => by
    rw [Option.map_map]
    rfl
  rw [Region.filterMap_bodyLines_singleton]
  by_cases hp : d.part = .body
  · rw [if_pos (Section.region_eq_body.2 hp)]
    cases hg : Heading.read? (Text.trim raw) with
    | none => rw [hname, (alike_addLine d number raw fun _ => hg).place, ← hname]; rfl
    | some g =>
      have hl : (Line.read (Text.trim raw)).heading? = some g := (Line.heading?_read _).trans hg
      rw [addLine_heading d number raw hp (hg ▸ Option.some_ne_none g)]
      cases hread : Line.read (Text.trim raw) with
      | phase name =>
        rw [hread] at hl
        obtain rfl := Option.some.inj hl
        simp [addBodyLine, Heading.task?]
      | task name =>
        rw [hread] at hl
        obtain rfl := Option.some.inj hl
        rfl
      | fence | title | property | other =>
        rw [hread] at hl
        cases hl
  · rw [if_neg (mt Section.region_eq_body.1 hp), hname,
      (alike_addLine d number raw fun h => absurd h hp).place, ← hname]
    rfl

end Draft

namespace Workflow

/-- The name of the task that is open behind the first lines of a document: the last heading
decides. -/
def openTask? (lines : List (List Char)) : Option String :=
  ((Region.body.bodyLines 1 lines).filterMap Heading.read?).getLast?.bind Heading.task?

theorem openTask?_concat (lines : List (List Char)) (raw : List Char) :
    openTask? (lines ++ [raw])
      = (((((Region.body.after 1 lines).bodyLines (1 + lines.length) [raw]).filterMap
          Heading.read?).getLast?).map Heading.task?).getD (openTask? lines) := by
  rw [openTask?, openTask?, Region.bodyLines_append, List.filterMap_append, List.getLast?_append]
  generalize ((Region.body.after 1 lines).bodyLines (1 + lines.length) [raw]).filterMap
    Heading.read? = headings
  cases headings.getLast? <;> rfl

theorem taskName_addLines (lines : List (List Char)) :
    (({} : Draft).addLines 1 lines).openTask.map (·.name) = openTask? lines := by
  induction lines using List.reverseRecOn with
  | nil => rfl
  | append_singleton lines raw ih =>
    have hregion : (({} : Draft).addLines 1 lines).part.region = Region.body.after 1 lines :=
      Draft.region_addLines {} 1 lines
    rw [Draft.addLines_append, Draft.addLines, Draft.addLines, Draft.addLine_taskName, ih, hregion,
      openTask?_concat]

/-- The warnings that a line leaves behind the first lines of a document. -/
def lineWarnings (before : List (List Char)) (raw : List Char) : List String :=
  (Region.body.after 1 before).warnings (openTask? before) (before.length + 1)
    (Line.read (Text.trim raw))

/-- The warnings that lines leave behind the first lines of a document. -/
def linesWarnings (before : List (List Char)) : List (List Char) → List String
  | [] => []
  | raw :: lines => lineWarnings before raw ++ linesWarnings (before ++ [raw]) lines

theorem linesWarnings_append (before first second : List (List Char)) :
    linesWarnings before (first ++ second)
      = linesWarnings before first ++ linesWarnings (before ++ first) second := by
  induction first generalizing before with
  | nil => simp [linesWarnings]
  | cons raw first ih => simp [linesWarnings, ih]

theorem warnings_addLines (lines : List (List Char)) :
    (({} : Draft).addLines 1 lines).workflow.warnings = linesWarnings [] lines := by
  induction lines using List.reverseRecOn with
  | nil => rfl
  | append_singleton lines raw ih =>
    rw [Draft.addLines_append, Draft.addLines, Draft.addLines, Draft.addLine_warnings, ih,
      taskName_addLines, Draft.region_addLines, linesWarnings_append, linesWarnings, linesWarnings,
      List.nil_append, List.append_nil, lineWarnings, Nat.add_comm 1]
    rfl

/-- The end of a document adds a warning on open code. -/
theorem warnings_finish (d : Draft) :
    d.finish.warnings
      = d.workflow.warnings ++ if d.part.region = .code then [Draft.openCodeWarning] else [] := by
  unfold Draft.finish
  cases d.part with
  | code lines => exact Draft.closeTask_warnings _
  | body | metadata => simp [Section.region, Draft.closeTask_warnings]

/-- What a document leaves: the warnings of its lines, and the one on open code at its end. -/
theorem warnings_parseAs (stem : Option String) (text : List Char) :
    (parseAs stem text).warnings
      = linesWarnings [] (Text.lines (dropMark text))
        ++ if endRegion text = .code then [Draft.openCodeWarning] else [] := by
  have hwarnings : (parseAs stem text).warnings
      = (({} : Draft).addLines 1 (Text.lines (dropMark text))).finish.warnings := rfl
  rw [hwarnings, warnings_finish, warnings_addLines, Draft.region_addLines]
  rfl

/-- **The warnings of a workflow** are those that its lines leave, in their order and each with
the number of its line, and last the one on open code if the document ends in it.  A property
line without an open task leaves one exactly if its key is interpreted in a task. -/
theorem parseAs_warnings (stem : Option String) (text : List Char) :
    (parseAs stem text).warnings
      = linesWarnings [] (Text.lines (dropMark text))
        ++ (if endRegion text = .code then [Draft.openCodeWarning] else []) ∧
    ∀ before raw key value, Region.body.after 1 before = .body → openTask? before = none →
      Line.read (Text.trim raw) = .property key value →
      (lineWarnings before raw = [Draft.orphanWarning (before.length + 1) key]
        ↔ Property.Interpreted key) ∧
      (lineWarnings before raw = [] ↔ ¬Property.Interpreted key) := by
  refine ⟨warnings_parseAs stem text, fun before raw key value hbody hopen hline => ?_⟩
  rw [lineWarnings, hbody, hopen, hline, Region.warnings]
  by_cases hkey : Property.Interpreted key <;> simp [hkey]

/-- A document with metadata and code, whose lines leave no warning but are counted. -/
def warningsSample : List Char :=
  ("---\ntool: a\n---\n\nTool: b\nNote: c\n### Fetch\nTimeout: 0s\n```\nTimeout: 0\n```\n"
    ++ "## End\n- **After:** d\n```").toList

theorem parseAs_warnings_sample :
    (parseAs none warningsSample).warnings
      = [Draft.orphanWarning 5 "tool".toList, Draft.zeroTimeoutWarning 8 "Fetch",
         Draft.orphanWarning 13 "after".toList, Draft.openCodeWarning] ∧
    Region.body.after 1 ((Text.lines warningsSample).take 4) = .body ∧
    openTask? ((Text.lines warningsSample).take 4) = none ∧
    lineWarnings ((Text.lines warningsSample).take 4) "Tool: b".toList
      = [Draft.orphanWarning 5 "tool".toList] ∧
    lineWarnings ((Text.lines warningsSample).take 4) "Note: c".toList = [] := by
  obtain ⟨hwarnings, hkeys⟩ := parseAs_warnings none warningsSample
  have hbody : Region.body.after 1 ((Text.lines warningsSample).take 4) = .body := by
    decide +kernel
  have hopen : openTask? ((Text.lines warningsSample).take 4) = none := by decide +kernel
  have htool := hkeys _ "Tool: b".toList "tool".toList "b".toList hbody hopen rfl
  have hnote := hkeys _ "Note: c".toList "note".toList "c".toList hbody hopen rfl
  exact ⟨hwarnings.trans (by decide +kernel), hbody, hopen, htool.1.2 (by decide +kernel),
    hnote.2.2 (by decide +kernel)⟩

end Workflow
end Runbook
