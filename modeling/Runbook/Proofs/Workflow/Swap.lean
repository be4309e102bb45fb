/-
# Property lines in another order

The property lines of a task are independent (`Workflow.parseAs_properties`).

| the line                | with it, compared to without it                               |
|-------------------------|---------------------------------------------------------------|
| its key is unknown      | the same workflow                                             |
| its key is known        | the field of the key, in the open task, may differ            |

| two lines in a row      | in the other order                                            |
|-------------------------|---------------------------------------------------------------|
| they set one field      | the last accepted value counts, so the workflow may differ    |
| both give dependencies  | the same workflow                                             |
| any others              | the same workflow                                             |

All this is up to the numbers of lines in warnings, which tell where a line stands.  Two
drafts that are the same up to these numbers stay so, whatever lines come
(`Draft.Same.addLines`).
-/

import Mathlib.Data.List.DropRight
import Runbook.Proofs.Workflow.Fence
import Runbook.Proofs.Workflow.Sheet

namespace Runbook

/-- A warning without the number of a line in front. -/
def unnumbered (text : String) : String := String.ofList (text.toList.dropWhile Char.isDigit)

/-- A raised number is still one. -/
theorem unnumbered_raiseLine (n : Nat) (text : String) :
    unnumbered (raiseLine n text) = unnumbered text := by
  have hdrop : ∀ cs : List Char,
      cs.drop (cs.takeWhile Char.isDigit).length = cs.dropWhile Char.isDigit := fun cs =>
    calc cs.drop (cs.takeWhile Char.isDigit).length
        = (cs.takeWhile Char.isDigit ++ cs.dropWhile Char.isDigit).drop
            (cs.takeWhile Char.isDigit).length := by rw [List.takeWhile_append_dropWhile]
      _ = cs.dropWhile Char.isDigit := List.drop_left
  unfold unnumbered raiseLine
  simp only [hdrop]
  split
  · rfl
  · rw [String.toList_append, Nat.toString_eq_ofList_toDigits, String.toList_ofList,
      String.toList_ofList, List.dropWhile_append_of_pos, List.dropWhile_idempotent]
    exact fun c hc => Nat.isDigit_of_mem_toDigits (by decide) (by decide) hc

theorem Region.unnumbered_warnings (r : Region) (task : Option String) (number number' : Nat)
    (l : Line) :
    (r.warnings task number l).map unnumbered = (r.warnings task number' l).map unnumbered := by
  have hzero : ∀ n, (r.warnings task n l).map unnumbered
      = (r.warnings task 0 l).map unnumbered := by
    intro n
    rw [← Nat.zero_add n, warnings_raise, List.map_map]
    exact List.map_congr_left fun text _ => unnumbered_raiseLine n text
  rw [hzero, hzero number']

/-- The workflow with warnings that tell no lines. -/
def Workflow.unnumbered (w : Workflow) : Workflow :=
  { w with warnings := w.warnings.map Runbook.unnumbered }

namespace Draft

/-- The drafts are the same but for the numbers of lines in warnings. -/
structure Same (d e : Draft) : Prop where
  veil : d.veil none = e.veil none
  warnings : d.workflow.warnings.map unnumbered = e.workflow.warnings.map unnumbered

variable {d e : Draft}

theorem Same.refl (d : Draft) : d.Same d := ⟨rfl, rfl⟩

theorem Same.part (h : d.Same e) : d.part = e.part := by
  have hpart := congrArg Draft.part h.veil
  exact hpart

theorem Same.taskName (h : d.Same e) : d.openTask.map (·.name) = e.openTask.map (·.name) := by
  have hopen := congrArg (fun d => d.openTask.map (·.name)) h.veil
  simpa [Draft.veil, Option.map_map, Function.comp_def, Task.veil_name] using hopen

/-- A line behind the first one says the same, whatever its number. -/
theorem Same.addLine (h : d.Same e) {number number' : Nat} (hn : 1 < number) (hn' : 1 < number')
    (raw : List Char) : (d.addLine number raw).Same (e.addLine number' raw) where
  veil := veil_addLines h.veil hn hn' [raw]
  warnings := by
    rw [addLine_warnings, addLine_warnings, List.map_append, List.map_append, h.warnings, h.part,
      h.taskName, Region.unnumbered_warnings _ _ number number']

theorem Same.addLines (h : d.Same e) {number number' : Nat} (hn : 1 < number)
    (hn' : 1 < number') (lines : List (List Char)) :
    (d.addLines number lines).Same (e.addLines number' lines) := by
  induction lines generalizing d e number number' with
  | nil => exact h
  | cons raw lines ih => exact ih (h.addLine hn hn' raw) (by omega) (by omega)

/-- Where two drafts agree but for warnings, so do their workflows. -/
theorem exists_finish_eq (h : d.veil none = e.veil none) :
    ∃ warnings, e.finish = { d.finish with warnings } := by
  obtain ⟨code, hfinish⟩ := Workflow.exists_eq_recode (veil_finish h)
  exact ⟨_, hfinish⟩

theorem Same.finish (h : d.Same e) : d.finish.unnumbered = e.finish.unnumbered := by
  obtain ⟨warnings, hfinish⟩ := exists_finish_eq h.veil
  have hwarnings : d.finish.warnings.map unnumbered = e.finish.warnings.map unnumbered := by
    rw [Workflow.warnings_finish, Workflow.warnings_finish, List.map_append, List.map_append,
      h.warnings, h.part]
  rw [hfinish] at hwarnings ⊢
  simp only [Workflow.unnumbered, hwarnings]

end Draft

/-! ### One line -/

/-- What a property line makes of the open task. -/
def Property.effect (key value : List Char) (t : Task) : Task :=
  match ofKey? (String.ofList key) with
  | none => t
  | some p => p.apply value t

namespace Property

variable {key key' value value' : List Char}

theorem name_effect (key value : List Char) (t : Task) : (effect key value t).name = t.name := by
  unfold effect
  split
  · rfl
  · exact congrArg Prod.fst (rest_apply _ value t)

/-- Lines that do not set one field have their effects in either order. -/
theorem effect_comm
    (h : ∀ p : Property, String.ofList key ∈ p.spellings → String.ofList key' ∈ p.spellings →
      p = .dependencies) (t : Task) :
    effect key' value' (effect key value t) = effect key value (effect key' value' t) := by
  simp only [← ofKey?_eq_some_iff] at h
  unfold effect
  cases hp : ofKey? (String.ofList key) with
  | none => rfl
  | some p =>
    cases hq : ofKey? (String.ofList key') with
    | none => rfl
    | some q =>
      refine apply_comm (fun hqp => ?_) value' value t
      subst hqp
      exact h q hp hq

end Property

namespace Draft

variable {d : Draft} {t : Task} {key key' value value' : List Char}

/-- The warnings that a property line leaves in an open task. -/
def propertyWarnings (t : Task) (number : Nat) (key value : List Char) : List String :=
  Region.body.warnings (some t.name) number (.property key value)

/-- What a property line does in an open task. -/
theorem setProperty_eq (hopen : d.openTask = some t) (number : Nat) (key value : List Char) :
    d.setProperty number key value = { d with
      workflow := { d.workflow with
        warnings := d.workflow.warnings ++ propertyWarnings t number key value }
      openTask := some (Property.effect key value t) } := by
  have hwarnings := d.setProperty_warnings number key value
  rw [hopen, Option.map_some, ← propertyWarnings] at hwarnings
  rw [← hwarnings]
  rw [setProperty_eq_match]
  unfold Property.effect
  rw [hopen]
  cases Property.ofKey? (String.ofList key) with
  | none => simp only [← hopen]
  | some p =>
    simp only []
    split <;> rfl

/-- Only a timeout leaves a warning in an open task. -/
theorem propertyWarnings_of_ne (h : key ≠ "timeout".toList) (t : Task) (number : Nat) :
    propertyWarnings t number key value = [] := if_neg fun htimeout => h htimeout.1

theorem propertyWarnings_effect (t : Task) (number : Nat) :
    propertyWarnings (Property.effect key' value' t) number key value
      = propertyWarnings t number key value := by
  rw [propertyWarnings, Property.name_effect, propertyWarnings]

/-- Two lines that do not set one field may stand in either order. -/
theorem same_swap (hopen : d.openTask = some t)
    (h : ∀ p : Property, String.ofList key ∈ p.spellings → String.ofList key' ∈ p.spellings →
      p = .dependencies) (m n m' n' : Nat) :
    ((d.setProperty m key value).setProperty n key' value').Same
      ((d.setProperty m' key' value').setProperty n' key value) := by
  rw [setProperty_eq hopen, setProperty_eq hopen, setProperty_eq rfl, setProperty_eq rfl]
  refine ⟨?_, ?_⟩
  · simp only [veil, Workflow.veil, Property.effect_comm h]
  · -- No more than one of the lines leaves a warning.
    have hone : key ≠ "timeout".toList ∨ key' ≠ "timeout".toList := by
      by_contra hboth
      obtain ⟨rfl, rfl⟩ := not_or.1 hboth |>.imp not_not.1 not_not.1
      exact absurd (h .timeout (by decide) (by decide)) (by decide)
    simp only [propertyWarnings_effect, List.map_append]
    rcases hone with hne | hne
    all_goals
      rw [propertyWarnings_of_ne hne, propertyWarnings_of_ne hne, List.map_nil, List.append_nil,
        List.append_nil]
      exact congrArg _ (Region.unnumbered_warnings ..)

end Draft

namespace Workflow

variable {text text' raw raw' key key' value value' : List Char} {before after : List (List Char)}
  {t : Task}

/-- The next line is one of the body and stands in an open task. -/
structure Inside (before : List (List Char)) (t : Task) : Prop where
  body : Region.body.after 1 before = .body
  task : (({} : Draft).addLines 1 before).openTask = some t

theorem Inside.part (h : Inside before t) : (({} : Draft).addLines 1 before).part = .body :=
  Section.region_eq_body.1 ((Draft.region_addLines {} 1 before).trans h.body)

/-- There is a heading before. -/
theorem Inside.length_pos (h : Inside before t) : 0 < before.length := by
  refine List.length_pos_iff.2 fun hnil => ?_
  rw [hnil] at h
  cases h.task

/-- A property line in an open task. -/
theorem Inside.parseAs_eq (h : Inside before t) (stem : Option String)
    (hlines : Text.lines (dropMark text) = before ++ raw :: after)
    (hline : Line.read (Text.trim raw) = .property key value) :
    parseAs stem text
      = (((({} : Draft).addLines 1 before).setProperty (before.length + 1) key value).addLines
          (before.length + 2) after).finish.identify stem := by
  rw [parseAs, hlines, Draft.addLines_append, Draft.addLines, Draft.addLine_property h.part _ hline,
    Nat.add_comm 1]

theorem unnumbered_identify (w : Workflow) (stem : Option String) :
    (w.identify stem).unnumbered = w.unnumbered.identify stem := rfl

/-- A line whose key is unknown says nothing. -/
theorem Inside.parseAs_unknown (h : Inside before t) (stem : Option String)
    (hlines : Text.lines (dropMark text) = before ++ raw :: after)
    (hline : Line.read (Text.trim raw) = .property key value)
    (hkey : ∀ p : Property, String.ofList key ∉ p.spellings) :
    parseAs stem text = resumed stem before t after ∧
      ∀ text', Text.lines (dropMark text') = before ++ after →
        (parseAs stem text').unnumbered = (parseAs stem text).unnumbered := by
  have hpos := h.length_pos
  have hsame : (({} : Draft).addLines 1 before).setProperty (before.length + 1) key value
      = ({} : Draft).addLines 1 before := by
    rw [Draft.setProperty_eq_match, Property.ofKey?_eq_none_iff.2 hkey]
  have hparse := h.parseAs_eq stem hlines hline
  rw [hsame] at hparse
  refine ⟨?_, fun text' hlines' => ?_⟩
  · rw [hparse, resumed, ← h.task]
  · have hnumber : 1 < 1 + before.length := by omega
    have hnumber' : 1 < before.length + 2 := by omega
    have hrest := (Draft.Same.refl (({} : Draft).addLines 1 before)).addLines hnumber hnumber' after
    rw [hparse, parseAs, hlines', Draft.addLines_append, unnumbered_identify, hrest.finish,
      ← unnumbered_identify]

/-- A line whose key is known sets a field of the open task. -/
theorem Inside.parseAs_known (h : Inside before t) (stem : Option String)
    (hlines : Text.lines (dropMark text) = before ++ raw :: after)
    (hline : Line.read (Text.trim raw) = .property key value) {p : Property}
    (hp : String.ofList key ∈ p.spellings) :
    parseAs stem text = { resumed stem before (p.apply value t) after with
      warnings := (parseAs stem text).warnings } := by
  let d := ({} : Draft).addLines 1 before
  have hveil : ({ d with openTask := some (p.apply value t) }).veil none
      = (d.setProperty (before.length + 1) key value).veil none := by
    rw [Draft.setProperty_eq h.task, Property.effect, Property.ofKey?_eq_some_iff.2 hp]
    rfl
  have hnumber : 1 < before.length + 2 := by omega
  have hrest := Draft.veil_addLines hveil hnumber hnumber after
  obtain ⟨warnings, hfinish⟩ := Draft.exists_finish_eq hrest
  rw [h.parseAs_eq stem hlines hline, hfinish]
  rfl

/-- Two lines of an open task that do not set one field may stand in either order. -/
theorem Inside.parseAs_swap (h : Inside before t) (stem : Option String)
    (hlines : Text.lines (dropMark text) = before ++ raw :: raw' :: after)
    (hlines' : Text.lines (dropMark text') = before ++ raw' :: raw :: after)
    (hline : Line.read (Text.trim raw) = .property key value)
    (hline' : Line.read (Text.trim raw') = .property key' value')
    (hkeys : ∀ p : Property, String.ofList key ∈ p.spellings → String.ofList key' ∈ p.spellings →
      p = .dependencies) :
    (parseAs stem text').unnumbered = (parseAs stem text).unnumbered := by
  have hpart : ∀ number key value,
      ((({} : Draft).addLines 1 before).setProperty number key value).part = .body :=
    fun number key value => (Draft.setProperty_part _ number key value).trans h.part
  have hswap : ∀ n,
      (((({} : Draft).addLines 1 before).setProperty n key value).setProperty (n + 1) key'
        value').Same
      (((({} : Draft).addLines 1 before).setProperty n key' value').setProperty (n + 1) key
        value) :=
    fun n => Draft.same_swap h.task hkeys n (n + 1) n (n + 1)
  have hnumber : 1 < before.length + 2 + 1 := by omega
  have hrest := (hswap (before.length + 1)).addLines hnumber hnumber after
  rw [h.parseAs_eq stem hlines hline, h.parseAs_eq stem hlines' hline', Draft.addLines,
    Draft.addLines, Draft.addLine_property (hpart _ _ _) _ hline,
    Draft.addLine_property (hpart _ _ _) _ hline', unnumbered_identify, unnumbered_identify,
    hrest.finish]

/-- **The property lines of a task are independent.**  Each task is what its sheet says: a field
has what the last accepted value gives it, and the dependencies are all that are listed; it
continues on failure if the last line on that says so and the last one on being critical does
not.  A line leaves all but its own field of the open task, and all of the workflow if its key
is unknown.  Two lines in a row may stand in either order if they do not set one field, or if
both give dependencies. -/
theorem parseAs_properties (stem : Option String) :
    (∀ text, List.Forall₂ (fun t s => Task.Obeys t s ∧
        (t.continuesOnFailure = true ↔
          (∃ value ∈ (s.values .continueFlag).getLast?, Property.isTrue value = true) ∧
          ¬∃ value ∈ (s.values .critical).getLast?, Property.isTrue value = true))
      (parseAs stem text).tasks (sheets text)) ∧
    (∀ {text before raw after key value t},
      Text.lines (dropMark text) = before ++ raw :: after → Inside before t →
      Line.read (Text.trim raw) = .property key value →
      (∀ p : Property, String.ofList key ∈ p.spellings →
        (p.apply value t).rest = t.rest ∧
        (∀ q : Property, q ≠ p → q.content (p.apply value t) = q.content t) ∧
        parseAs stem text = { resumed stem before (p.apply value t) after with
          warnings := (parseAs stem text).warnings }) ∧
      ((∀ p : Property, String.ofList key ∉ p.spellings) →
        parseAs stem text = resumed stem before t after ∧
        ∀ text', Text.lines (dropMark text') = before ++ after →
          (parseAs stem text').unnumbered = (parseAs stem text).unnumbered)) ∧
    (∀ {text text' before raw raw' after key key' value value' t},
      Text.lines (dropMark text) = before ++ raw :: raw' :: after →
      Text.lines (dropMark text') = before ++ raw' :: raw :: after → Inside before t →
      Line.read (Text.trim raw) = .property key value →
      Line.read (Text.trim raw') = .property key' value' →
      (∀ p : Property, String.ofList key ∈ p.spellings → String.ofList key' ∈ p.spellings →
        p = .dependencies) →
      (parseAs stem text').unnumbered = (parseAs stem text).unnumbered) := by
  refine ⟨fun text => ?_, ?_, ?_⟩
  · exact (obeys_parseAs stem text).imp fun t s h => ⟨h, h.continuesOnFailure_iff⟩
  · intro text before raw after key value t hlines h hline
    refine ⟨fun p hp => ?_, h.parseAs_unknown stem hlines hline⟩
    exact ⟨p.rest_apply value t, fun q hq => Property.content_apply_of_ne hq value t,
      h.parseAs_known stem hlines hline hp⟩
  · intro text text' before raw raw' after key key' value value' t hlines hlines' h
    exact h.parseAs_swap stem hlines hlines'

/-- The last lines of a task. -/
def propertiesBehind : List (List Char) :=
  ["- **Depends:** a,b", "Continue: TRUE", "Critical: true", "Tool: x", "Critical: no"].map
    String.toList

/-- A document whose task has these lines behind some others. -/
def propertiesSample (lines : String) : List Char :=
  ("### Fetch\n" ++ lines
    ++ "- **Depends:** a,b\nContinue: TRUE\nCritical: true\nTool: x\nCritical: no").toList

/-- A timeout of zero and dependencies may stand in either order, and a note says nothing. -/
theorem parseAs_properties_sample :
    let text := propertiesSample "Timeout: 0\nAfter: b, ,c\n"
    let swapped := propertiesSample "After: b, ,c\nTimeout: 0\n"
    let noted := propertiesSample "Note: d\n"
    ∃ t, Inside ["### Fetch".toList] t ∧
      parseAs none text = { resumed none ["### Fetch".toList] (Property.timeout.apply ['0'] t)
          ("After: b, ,c".toList :: propertiesBehind) with
        warnings := [Draft.zeroTimeoutWarning 2 "Fetch"] } ∧
      (parseAs none swapped).unnumbered = (parseAs none text).unnumbered ∧
      (parseAs none swapped).warnings = [Draft.zeroTimeoutWarning 3 "Fetch"] ∧
      (parseAs none (propertiesSample "")).unnumbered = (parseAs none noted).unnumbered ∧
      (parseAs none text).tasks.map (fun t => (t.dependencies.names, t.continuesOnFailure))
        = [(["a", "b", "c"], true)] ∧
      List.Forall₂ Task.Obeys (parseAs none text).tasks (sheets text) := by
  obtain ⟨t, hopen⟩ := Option.isSome_iff_exists.1
    (show (({} : Draft).addLines 1 ["### Fetch".toList]).openTask.isSome = true by decide +kernel)
  have h : Inside ["### Fetch".toList] t := ⟨by decide +kernel, hopen⟩
  have hlines : Text.lines (dropMark (propertiesSample "Timeout: 0\nAfter: b, ,c\n"))
      = ["### Fetch".toList] ++ "Timeout: 0".toList :: "After: b, ,c".toList
        :: propertiesBehind := by
    decide +kernel
  have hswapped : Text.lines (dropMark (propertiesSample "After: b, ,c\nTimeout: 0\n"))
      = ["### Fetch".toList] ++ "After: b, ,c".toList :: "Timeout: 0".toList
        :: propertiesBehind := by
    decide +kernel
  have hnoted : Text.lines (dropMark (propertiesSample "Note: d\n"))
      = ["### Fetch".toList] ++ "Note: d".toList :: propertiesBehind := by
    decide +kernel
  have hplain : Text.lines (dropMark (propertiesSample ""))
      = ["### Fetch".toList] ++ propertiesBehind := by
    decide +kernel
  have htimeout : Line.read (Text.trim "Timeout: 0".toList)
      = .property "timeout".toList ['0'] := rfl
  have hafter : Line.read (Text.trim "After: b, ,c".toList)
      = .property "after".toList "b, ,c".toList := rfl
  have hnote : Line.read (Text.trim "Note: d".toList) = .property "note".toList ['d'] := rfl
  obtain ⟨hsheets, hline, hswap⟩ := parseAs_properties none
  have hwarnings : (parseAs none (propertiesSample "Timeout: 0\nAfter: b, ,c\n")).warnings
      = [Draft.zeroTimeoutWarning 2 "Fetch"] := by
    decide +kernel
  have hset := ((hline hlines h htimeout).1 .timeout (by decide +kernel)).2.2
  rw [hwarnings] at hset
  refine ⟨t, h, hset, ?_, by decide +kernel, ?_, by decide +kernel, ?_⟩
  · refine hswap hlines hswapped h htimeout hafter fun p => ?_
    cases p <;> decide +kernel
  · refine ((hline hnoted h hnote).2 fun p => ?_).2 _ hplain
    cases p <;> decide +kernel
  · exact (hsheets _).imp fun t s hobeys => hobeys.1

end Workflow
end Runbook
