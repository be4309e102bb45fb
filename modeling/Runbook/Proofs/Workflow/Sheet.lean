/-
# What the lines under a heading make of a task

The sheet of a task is its heading with the property lines up to the next heading, each as the
property it sets and its value (`Sheet`).  The lines are those of the body, so nothing in code
or metadata is on a sheet.

A task obeys its sheet (`Task.Obeys`): a field has what the last accepted value on the sheet
gives it, whatever stands between, and the dependencies are all names that are listed.  A
property line adds to the sheet of the open task just what the task gets (`Obeys.apply`), and
nothing else on the way through a document matters (`obeys_parseAs`).
-/

import Mathlib.Data.List.Forall2
import Runbook.Proofs.Workflow.Code
import Runbook.Proofs.Workflow.Field

namespace Runbook

/-- A task heading with the properties that are set under it, in their order. -/
structure Sheet where
  name : String
  settings : List (Property × List Char) := []

namespace Sheet

/-- The values that a property is given, in their order. -/
def values (s : Sheet) (p : Property) : List (List Char) :=
  s.settings.filterMap fun x => if x.1 = p then some x.2 else none

/-- The sheet with more settings. -/
def append (s : Sheet) (more : List (Property × List Char)) : Sheet :=
  { s with settings := s.settings ++ more }

theorem append_nil (s : Sheet) : s.append [] = s := by
  rw [append, List.append_nil]

theorem append_append (s : Sheet) (more others : List (Property × List Char)) :
    (s.append more).append others = s.append (more ++ others) := by
  rw [append, append, append, List.append_assoc]

variable {s : Sheet} {p q : Property} {value : List Char}

theorem values_append_self : (s.append [(p, value)]).values p = s.values p ++ [value] := by
  simp [values, append]

theorem values_append_of_ne (h : q ≠ p) : (s.append [(p, value)]).values q = s.values q := by
  simp [values, append, Ne.symm h]

end Sheet

/-- A task is what its sheet says. -/
structure Task.Obeys (t : Task) (s : Sheet) : Prop where
  name : t.name = s.name
  dependencies : ∀ name, name ∈ t.dependencies ↔
    ∃ value ∈ s.values .dependencies, Property.Lists value name
  fields : ∀ p : Property, p ≠ .dependencies → p.Last (s.values p) (p.content t)

namespace Task

variable {t : Task} {s : Sheet}

theorem obeys_newTask (phase : Option (List Char)) (name : List Char) :
    (Draft.newTask phase name).Obeys { name := String.ofList name } where
  name := rfl
  dependencies name := by simp [Draft.newTask, Sheet.values]
  fields p _ := by
    rw [Property.content_newTask]
    exact .initial fun _ hvalue => absurd hvalue List.not_mem_nil

/-- **A property line adds to the sheet what the task gets.** -/
theorem Obeys.apply (h : t.Obeys s) (p : Property) (value : List Char) :
    (p.apply value t).Obeys (s.append [(p, value)]) where
  name := (congrArg Prod.fst (p.rest_apply value t)).trans h.name
  dependencies name := by
    by_cases hp : p = .dependencies
    · subst hp
      rw [Sheet.values_append_self]
      simp only [Property.apply, NameSet.mem_insertAll, h.dependencies, Property.mem_names_iff]
      simp [or_and_right, exists_or]
    · have hsame : (p.apply value t).dependencies = t.dependencies :=
        Content.names.inj (Property.content_apply_of_ne (q := .dependencies) (Ne.symm hp) value t)
      rw [Sheet.values_append_of_ne (Ne.symm hp), hsame, h.dependencies]
  fields q hq := by
    by_cases hqp : q = p
    · subst hqp
      rw [Sheet.values_append_self]
      obtain haccepts | ⟨hnone, hsame⟩ := Property.accepts_or_content_eq hq value t
      · exact .accepted rfl haccepts (List.forall_mem_nil _)
      · rw [hsame]
        exact (h.fields q hq).concat hnone
    · rw [Sheet.values_append_of_ne hqp, Property.content_apply_of_ne hqp]
      exact h.fields q hq

theorem Obeys.withCode (h : t.Obeys s) (code : Option String) : { t with code }.Obeys s where
  name := h.name
  dependencies := h.dependencies
  fields p hp := by
    have hsame : p.content { t with code } = p.content t := by cases p <;> rfl
    exact hsame ▸ h.fields p hp

/-- A flag is up if the last value says so. -/
theorem flag_iff_of_last {p : Property} (hp : p = .critical ∨ p = .continueFlag)
    {values : List (List Char)} {b : Bool} (h : p.Last values (.flag b)) :
    b = true ↔ ∃ value ∈ values.getLast?, Property.isTrue value = true := by
  have haccepts : ∀ value c, p.Accepts value c ↔ c = .flag (Property.isTrue value) := by
    rintro value c
    rcases hp with rfl | rfl
    · exact ⟨fun h => by cases h with | parameter h => cases h | critical => rfl,
        fun h => h ▸ .critical value⟩
    · exact ⟨fun h => by cases h with | parameter h => cases h | continueFlag => rfl,
        fun h => h ▸ .continueFlag value⟩
  have hinitial : p.initial = .flag false := by rcases hp with rfl | rfl <;> rfl
  generalize hc : Content.flag b = c at h
  cases h with
  | initial hnone =>
    have hvalues : values = [] := List.eq_nil_iff_forall_not_mem.2 fun value hvalue =>
      hnone value hvalue _ ((haccepts value _).2 rfl)
    rw [Content.flag.inj (hc.trans hinitial), hvalues]
    simp
  | @accepted before after value _ hsplit haccepted hafter =>
    have hend : after = [] := List.eq_nil_iff_forall_not_mem.2 fun later hlater =>
      hafter later hlater _ ((haccepts later _).2 rfl)
    subst hend
    rw [Content.flag.inj (hc.trans ((haccepts value c).1 haccepted)), hsplit]
    simp

/-- **The workflow goes on after a failure of a task** if the last line on it says so and no
line has the last word that the task is critical. -/
theorem Obeys.continuesOnFailure_iff (h : t.Obeys s) :
    t.continuesOnFailure = true ↔
      (∃ value ∈ (s.values .continueFlag).getLast?, Property.isTrue value = true) ∧
      ¬∃ value ∈ (s.values .critical).getLast?, Property.isTrue value = true := by
  rw [← flag_iff_of_last (.inr rfl) (h.fields .continueFlag (by decide)),
    ← flag_iff_of_last (.inl rfl) (h.fields .critical (by decide)), continuesOnFailure]
  simp

end Task

/-! ### The sheets of a document -/

/-- The property that a trimmed line sets, with its value. -/
def Property.setting? (line : List Char) : Option (Property × List Char) :=
  match Line.read line with
  | .property key value => (ofKey? (String.ofList key)).map fun p => (p, value)
  | _ => none

namespace Sheet

/-- The settings before the next heading. -/
def front : List (List Char) → List (Property × List Char)
  | [] => []
  | line :: lines =>
    match Heading.read? line with
    | some _ => []
    | none => (Property.setting? line).toList ++ front lines

/-- The sheets of all task headings among trimmed lines. -/
def all : List (List Char) → List Sheet
  | [] => []
  | line :: lines =>
    match Heading.read? line with
    | some (.task name) => { name, settings := front lines } :: all lines
    | _ => all lines

end Sheet

/-- Sheets that are finished, and the one that is open. -/
structure Sheets where
  finished : List Sheet := []
  current : Option Sheet := none

namespace Sheets

/-- All sheets, the open one last. -/
def all (s : Sheets) : List Sheet := s.finished ++ s.current.toList

/-- The sheets with one line more. -/
def add (s : Sheets) (line : List Char) : Sheets :=
  match Heading.read? line with
  | some h => { finished := s.all, current := h.task?.map fun name => { name } }
  | none => { s with current := s.current.map (·.append (Property.setting? line).toList) }

/-- What lines give: settings in front go to the open sheet, then come those of the headings. -/
theorem all_foldl_add (s : Sheets) (lines : List (List Char)) :
    (lines.foldl add s).all
      = s.finished ++ (s.current.map (·.append (Sheet.front lines))).toList
        ++ Sheet.all lines := by
  induction lines generalizing s with
  | nil => cases h : s.current <;> simp [all, Sheet.front, Sheet.all, Sheet.append_nil, h]
  | cons line lines ih =>
    rw [List.foldl_cons, ih, add, Sheet.front, Sheet.all]
    cases Heading.read? line with
    | none => cases s.current <;> simp [Sheet.append_append]
    | some g =>
      cases g with
      | phase name => cases h : s.current <;> simp [all, Heading.task?, Sheet.append_nil, h]
      | task name => cases h : s.current <;>
          simp [all, Heading.task?, h, Sheet.append]

/-- A line that is neither a heading nor sets anything is on no sheet. -/
theorem add_eq_self {line : List Char} (hheading : Heading.read? line = none)
    (hsetting : Property.setting? line = none) (s : Sheets) : s.add line = s := by
  rw [add, hheading, hsetting]
  cases hcurrent : s.current <;> simp [Sheet.append_nil, ← hcurrent]

end Sheets

namespace Draft

/-- The tasks of a draft obey the sheets. -/
structure Fits (d : Draft) (s : Sheets) : Prop where
  finished : List.Forall₂ Task.Obeys d.workflow.tasks s.finished
  current : List.Forall₂ Task.Obeys d.openTask.toList s.current.toList

variable {d e : Draft} {s : Sheets}

theorem Fits.of_eq (h : d.Fits s) (htasks : e.workflow.tasks = d.workflow.tasks)
    (hopen : e.openTask = d.openTask) : e.Fits s :=
  ⟨htasks ▸ h.finished, hopen ▸ h.current⟩

/-- The open task is changed, and so is its sheet. -/
theorem Fits.map (h : d.Fits s) {f : Task → Task} {g : Sheet → Sheet}
    (hf : ∀ t x, Task.Obeys t x → (f t).Obeys (g x)) (htasks : e.workflow.tasks = d.workflow.tasks)
    (hopen : e.openTask = d.openTask.map f) : e.Fits { s with current := s.current.map g } := by
  refine ⟨htasks ▸ h.finished, ?_⟩
  rw [hopen, Option.toList_map, Option.toList_map, List.forall₂_map_left_iff,
    List.forall₂_map_right_iff]
  exact h.current.imp hf

/-- Code is on no sheet. -/
theorem Fits.recode (h : d.Fits s) {f : Option String → Option String}
    (htasks : e.workflow.tasks = d.workflow.tasks)
    (hopen : e.openTask = d.openTask.map fun t => { t with code := f t.code }) : e.Fits s := by
  have hsame : { s with current := s.current.map id } = s := by rw [Option.map_id]; rfl
  exact hsame ▸ h.map (fun t x hobeys => hobeys.withCode (f t.code)) htasks hopen

theorem closeTask_tasks (d : Draft) :
    d.closeTask.workflow.tasks = d.workflow.tasks ++ d.openTask.toList := by
  cases h : d.openTask with
  | none => simp [closeTask_of_none h]
  | some t => simp [closeTask_of_some h, Workflow.pushTask]

theorem Fits.forall₂_closeTask (h : d.Fits s) :
    List.Forall₂ Task.Obeys d.closeTask.workflow.tasks s.all := by
  rw [closeTask_tasks]
  exact List.rel_append h.finished h.current

theorem Fits.closeTask (h : d.Fits s) : d.closeTask.Fits { finished := s.all } :=
  ⟨h.forall₂_closeTask, d.closeTask_openTask ▸ .nil⟩

theorem setProperty_openTask {p : Property} {key : List Char}
    (hp : Property.ofKey? (String.ofList key) = some p) (d : Draft) (number : Nat)
    (value : List Char) :
    (d.setProperty number key value).openTask = d.openTask.map (p.apply value) := by
  rw [Draft.setProperty_eq_match]
  cases h : d.openTask with
  | none =>
    rw [hp]
    exact h
  | some t =>
    rw [hp]
    simp only []
    split <;> rfl

theorem Fits.setProperty (h : d.Fits s) (number : Nat) {line key value : List Char}
    (hline : Line.read line = .property key value) :
    (d.setProperty number key value).Fits (s.add line) := by
  have hheading : Heading.read? line = none := by
    rw [← Line.heading?_read, hline]
    rfl
  cases hp : Property.ofKey? (String.ofList key) with
  | none =>
    have hsetting : Property.setting? line = none := by
      rw [Property.setting?, hline]
      simp only [hp, Option.map_none]
    rw [Sheets.add_eq_self hheading hsetting, Draft.setProperty_eq_match, hp]
    exact h
  | some p =>
    have hsetting : Property.setting? line = some (p, value) := by
      rw [Property.setting?, hline]
      simp only [hp, Option.map_some]
    rw [Sheets.add, hheading, hsetting]
    exact h.map (fun t x hobeys => hobeys.apply p value)
      (d.alike_setProperty number key value).tasks
      (setProperty_openTask hp d number value)

/-- A line of the body adds what it says. -/
theorem Fits.addBodyLine (h : d.Fits s) (number : Nat) (line : List Char) :
    (d.addBodyLine number (Line.read line)).Fits (s.add line) := by
  have hheading := Line.heading?_read line
  have hother (hnone : (Line.read line).heading? = none)
      (hsetting : Property.setting? line = none) : s.add line = s :=
    Sheets.add_eq_self (hheading.symm.trans hnone) hsetting s
  cases hl : Line.read line with
  | fence | other =>
    rw [hother (by rw [hl]; rfl) (by rw [Property.setting?, hl])]
    exact h.of_eq rfl rfl
  | title text =>
    rw [hother (by rw [hl]; rfl) (by rw [Property.setting?, hl])]
    simp only [Draft.addBodyLine]
    split <;> exact h.of_eq rfl rfl
  | phase name =>
    rw [hl] at hheading
    rw [Sheets.add, ← hheading]
    exact h.closeTask.of_eq rfl rfl
  | task name =>
    rw [hl] at hheading
    rw [Sheets.add, ← hheading]
    exact ⟨h.closeTask.finished, .cons (Task.obeys_newTask d.phase name) .nil⟩
  | property key value => exact h.setProperty number hl

/-- A line stands in the body, or it sets nothing but metadata and code. -/
theorem addLine_body_or (d : Draft) (number : Nat) (raw : List Char) :
    (d.part.region.bodyLines number [raw] = [Text.trim raw] ∧
      d.addLine number raw = d.addBodyLine number (Line.read (Text.trim raw))) ∨
    d.part.region.bodyLines number [raw] = [] ∧ ∃ (metadata : Dict String) (part : Section)
      (f : Option String → Option String), d.addLine number raw = { d with
        workflow := { d.workflow with metadata }
        openTask := d.openTask.map fun t => { t with code := f t.code }
        part } := by
  have hkept : d.openTask.map (fun t => { t with code := id t.code }) = d.openTask :=
    Option.map_id_apply
  cases hp : d.part with
  | metadata =>
    obtain ⟨metadata, part, hline⟩ := d.exists_addMetadataLine_eq (Text.trim raw)
    refine .inr ⟨rfl, metadata, part, id, ?_⟩
    rw [addLine, hp, hkept]
    exact hline
  | code before =>
    refine .inr ⟨rfl, ?_⟩
    cases hf : Line.isFence raw with
    | true =>
      exact ⟨d.workflow.metadata, .body,
        fun code => some (joinCode code (Piece.text before.reverse)), addLine_close hp hf number⟩
    | false =>
      refine ⟨d.workflow.metadata, .code (raw :: before), id, ?_⟩
      rw [addLine_inside hp hf, hkept]
  | body =>
    by_cases hm : number = 1 ∧ Text.trim raw = metadataMark
    · have hnext : Region.body.next number (Text.trim raw) = .metadata := if_pos hm
      refine .inr ⟨by simp [Section.region, Region.bodyLines, hnext], d.workflow.metadata,
        .metadata, id, ?_⟩
      rw [addLine, hp, hkept]
      exact if_pos hm
    cases hf : Line.isFence raw with
    | true =>
      have hnext := Region.next_of_isFence hf number
      refine .inr ⟨by simp [Section.region, Region.bodyLines, hnext], d.workflow.metadata,
        .code [], id, ?_⟩
      rw [addLine_open hp hf, hkept]
    | false =>
      have hnext : Region.body.next number (Text.trim raw) = .body :=
        (if_neg hm).trans (if_neg (Bool.eq_false_iff.1 hf))
      refine .inl ⟨by simp [Section.region, Region.bodyLines, hnext], ?_⟩
      rw [addLine, hp]
      exact if_neg hm

theorem Fits.addLine (h : d.Fits s) (number : Nat) (raw : List Char) :
    (d.addLine number raw).Fits ((d.part.region.bodyLines number [raw]).foldl Sheets.add s) := by
  obtain ⟨hlines, hline⟩ | ⟨hlines, metadata, part, f, hline⟩ := d.addLine_body_or number raw
  · rw [hlines, hline]
    exact h.addBodyLine number _
  · rw [hlines, hline]
    exact h.recode rfl rfl

theorem Fits.addLines (h : d.Fits s) (number : Nat) (lines : List (List Char)) :
    (d.addLines number lines).Fits ((d.part.region.bodyLines number lines).foldl Sheets.add s) := by
  induction lines generalizing d s number with
  | nil => exact h
  | cons raw lines ih =>
    rw [addLines, Region.bodyLines_cons, List.foldl_append, ← region_addLine]
    exact ih (h.addLine number raw) (number + 1)

theorem Fits.finish (h : d.Fits s) : List.Forall₂ Task.Obeys d.finish.tasks s.all := by
  unfold Draft.finish
  cases d.part with
  | body | metadata => exact h.forall₂_closeTask
  | code lines =>
    have hattached : ((d.warn openCodeWarning).attachCode lines).Fits s :=
      h.recode (f := fun code => some (joinCode code (Piece.text lines.reverse))) rfl rfl
    exact hattached.forall₂_closeTask

end Draft

namespace Workflow

/-- The sheets of a document. -/
def sheets (text : List Char) : List Sheet :=
  Sheet.all (Region.body.bodyLines 1 (Text.lines (dropMark text)))

/-- **Each task obeys its sheet**, which holds the lines between its heading and the next one. -/
theorem obeys_parseAs (stem : Option String) (text : List Char) :
    List.Forall₂ Task.Obeys (parseAs stem text).tasks (sheets text) := by
  have hempty : ({} : Draft).Fits {} := ⟨.nil, .nil⟩
  have hread := (hempty.addLines 1 (Text.lines (dropMark text))).finish
  rw [Sheets.all_foldl_add] at hread
  exact hread

end Workflow
end Runbook
