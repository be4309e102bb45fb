/-
# Where documents can be cut

A document can be cut in front of a phase heading: reading the two parts one after
the other gives what reading them apart gives, put together (`parseAs_append`).  The
second part must not start inside metadata or code, so the first one has to end in
the body.

At the cut the heading finishes the open task and makes a phase of its own the
current one.  From then on the draft is that of the second part read alone, behind
the finished workflow of the first (`behind`), and each line keeps it so: it adds
the same at the end, lines and phases counted from further on.  Tasks find their
phase in the second part because the last phase of a name is taken, so that a phase
of the first part is never searched.
-/

import Runbook.Proofs.Workflow.Scan

namespace Runbook

/-- Metadata opens on the first line or not at all. -/
theorem Region.next_ne_metadata {r : Region} (hr : r ≠ .metadata) {number : Nat}
    (hn : number ≠ 1) (line : List Char) : r.next number line ≠ .metadata := by
  cases r with
  | metadata => exact absurd rfl hr
  | body =>
    rw [next, if_neg fun h => hn h.1]
    split <;> simp
  | code =>
    rw [next]
    split <;> simp

namespace Text

/-- A text is split where a line ends. -/
theorem linesFrom_append (line a b : List Char) :
    linesFrom line (a ++ '\n' :: b) = linesFrom line (a ++ ['\n']) ++ lines b := by
  induction a generalizing line with
  | nil => simp [linesFrom, lines]
  | cons c a ih =>
    by_cases hc : c = '\n'
    · simp [linesFrom, hc, ih]
    · simp [linesFrom, hc, ih]

/-- How many lines a text has does not depend on what stands in the first. -/
theorem length_linesFrom (l m : List Char) {cs : List Char} (h : cs ≠ []) :
    (linesFrom l cs).length = (linesFrom m cs).length := by
  induction cs generalizing l m with
  | nil => exact absurd rfl h
  | cons c cs ih =>
    by_cases hc : c = '\n'
    · simp [linesFrom, hc]
    · cases cs with
      | nil => simp [linesFrom, hc]
      | cons d cs =>
        simp only [linesFrom, if_neg hc]
        exact ih _ _ (List.cons_ne_nil d cs)

theorem dropReturn_concat (l : List Char) {c : Char} (hr : c ≠ '\r') :
    ∃ m, dropReturn (l ++ [c]) = m ++ [c] := by
  cases l with
  | nil =>
    refine ⟨[], ?_⟩
    unfold dropReturn
    split <;> simp_all
  | cons d l =>
    unfold dropReturn
    split
    · rename_i line h
      exact ⟨l, (List.cons.inj h).2.symm⟩
    · exact ⟨d :: l, rfl⟩

/-- The first line starts as the text does. -/
theorem linesFrom_concat (l : List Char) {c : Char} (hr : c ≠ '\r') (cs : List Char) :
    ∃ line lines, linesFrom (l ++ [c]) cs = (c :: line) :: lines := by
  induction cs generalizing l with
  | nil => exact ⟨l.reverse, [], by simp [linesFrom]⟩
  | cons d cs ih =>
    by_cases hd : d = '\n'
    · obtain ⟨m, hm⟩ := dropReturn_concat l hr
      exact ⟨m.reverse, lines cs, by simp [linesFrom, lines, hd, hm]⟩
    · simpa [linesFrom, hd] using ih (d :: l)

theorem digitsValue_toDigits (n : Nat) : digitsValue (Nat.toDigits 10 n) = n := by
  rw [digitsValue, ← Nat.ofDigitChars_eq_foldl, Nat.ofDigitChars_ten_toDigits]

end Text

/-- A text with the number at its start raised.  One that starts with no number stays
as it is. -/
def raiseLine (n : Nat) (text : String) : String :=
  let digits := text.toList.takeWhile Char.isDigit
  if digits = [] then text
  else toString (Text.digitsValue digits + n) ++ String.ofList (text.toList.drop digits.length)

theorem raiseLine_number (n number : Nat) {c : Char} (hc : c.isDigit = false) (rest : List Char) :
    raiseLine n (toString number ++ String.ofList (c :: rest))
      = toString (number + n) ++ String.ofList (c :: rest) := by
  have hlist : (toString number ++ String.ofList (c :: rest)).toList
      = Nat.toDigits 10 number ++ c :: rest := by
    rw [String.toList_append, Nat.toString_eq_ofList_toDigits, String.toList_ofList,
      String.toList_ofList]
  have htake : (Nat.toDigits 10 number ++ c :: rest).takeWhile Char.isDigit
      = Nat.toDigits 10 number := by
    rw [List.takeWhile_append_of_pos, List.takeWhile_cons_of_neg, List.append_nil]
    · simp [hc]
    · exact fun d hd => Nat.isDigit_of_mem_toDigits (by decide) (by decide) hd
  simp only [raiseLine, hlist, htake, List.drop_left, Nat.toDigits_ne_nil,
    Text.digitsValue_toDigits, if_false]

namespace Draft

theorem raiseLine_orphanWarning (n number : Nat) (key : List Char) :
    raiseLine n (orphanWarning number key) = orphanWarning (number + n) key := by
  have h : ∀ m, orphanWarning m key = toString m ++ String.ofList
      ('行' :: "目: タスクの外にあるプロパティ '".toList ++ key ++ "' を無視しました".toList) := by
    intro m
    apply String.toList_injective
    simp [orphanWarning]
  rw [h, h]
  exact raiseLine_number n number (by decide) _

theorem raiseLine_zeroTimeoutWarning (n number : Nat) (task : String) :
    raiseLine n (zeroTimeoutWarning number task) = zeroTimeoutWarning (number + n) task := by
  have h : ∀ m, zeroTimeoutWarning m task = toString m ++ String.ofList
      ('行' :: "目: タスク '".toList ++ task.toList
        ++ "' の Timeout: 0 を無視し、デフォルト値を使います".toList) := by
    intro m
    apply String.toList_injective
    simp [zeroTimeoutWarning]
  rw [h, h]
  exact raiseLine_number n number (by decide) _

theorem raiseLine_openCodeWarning (n : Nat) : raiseLine n openCodeWarning = openCodeWarning := by
  simp [raiseLine, openCodeWarning, Char.isDigit]

end Draft

/-- The phase with its order raised. -/
def Phase.raise (n : Nat) (p : Phase) : Phase := { p with order := p.order + n }

/-- A phase of the name in the second list is found there. -/
theorem enlist_append {phase : String} (task : String) (ps : List Phase) {qs : List Phase}
    (h : ∃ q ∈ qs, q.name = phase) : enlist phase task (ps ++ qs) = ps ++ enlist phase task qs := by
  induction ps with
  | nil => rfl
  | cons p ps ih =>
    have hany : (ps ++ qs).any (·.name == phase) = true := by
      obtain ⟨q, hq, hname⟩ := h
      exact List.any_eq_true.2 ⟨q, List.mem_append_right ps hq, beq_iff_eq.2 hname⟩
    rw [List.cons_append, enlist, if_pos hany, ih, List.cons_append]

theorem enlist_map_raise (phase task : String) (n : Nat) (ps : List Phase) :
    enlist phase task (ps.map (·.raise n)) = (enlist phase task ps).map (·.raise n) := by
  induction ps with
  | nil => rfl
  | cons p ps ih =>
    have hany : (ps.map (·.raise n)).any (·.name == phase) = ps.any (·.name == phase) := by
      rw [List.any_map]
      rfl
    rw [List.map_cons, enlist, enlist, hany, ih]
    by_cases hlater : ps.any (·.name == phase) = true
    · rw [if_pos hlater, if_pos hlater, List.map_cons]
    · rw [if_neg hlater, if_neg hlater]
      by_cases hp : p.name = phase <;> simp [Phase.raise, hp]

namespace Workflow

/-- What two documents say one after the other, the first of which has `n` lines: the
tasks and the phases of both, phases numbered on; the warnings of both, lines
counted on; the metadata of the first, and its description unless it has none. -/
def followedBy (v : Workflow) (n : Nat) (w : Workflow) : Workflow :=
  { v with
    description := if v.description.isEmpty then w.description else v.description
    phases := v.phases ++ w.phases.map (·.raise v.phases.length)
    tasks := v.tasks ++ w.tasks
    warnings := v.warnings ++ w.warnings.map (raiseLine n) }

theorem pushTask_followedBy (v : Workflow) (n : Nat) {w : Workflow} {t : Task}
    (h : ∃ p ∈ w.phases, p.name = t.phase) :
    (v.followedBy n w).pushTask t = v.followedBy n (w.pushTask t) := by
  have hmap : ∃ p ∈ w.phases.map (·.raise v.phases.length), p.name = t.phase := by
    obtain ⟨p, hp, hname⟩ := h
    exact ⟨p.raise _, List.mem_map_of_mem hp, hname⟩
  simp only [pushTask, followedBy, enlist_append t.name v.phases hmap, enlist_map_raise,
    List.append_assoc]

/-- Identity comes from metadata, description and file alone. -/
theorem identify_followedBy (v : Workflow) (n : Nat) (w : Workflow) (stem : Option String) :
    ((v.identify stem).followedBy n (w.identify stem)).identify stem
      = (v.followedBy n w).identify stem := rfl

end Workflow

namespace Draft

variable {v : Workflow} {n : Nat} {d : Draft}

/-- The draft behind a workflow whose document has `n` lines. -/
def behind (v : Workflow) (n : Nat) (d : Draft) : Draft :=
  { d with workflow := v.followedBy n d.workflow }

/-- A draft that has opened a phase and stands outside metadata. -/
structure Opened (d : Draft) : Prop where
  placed : d.Placed
  phase : d.phase ≠ none
  region : d.part.region ≠ .metadata

/-- The open task belongs to a phase that is there. -/
theorem Opened.exists_phase (h : d.Opened) {t : Task} (ht : d.openTask = some t) :
    ∃ p ∈ d.workflow.phases, p.name = t.phase := by
  obtain ⟨name, hname⟩ := Option.ne_none_iff_exists'.1 h.phase
  have hlast := h.placed.phase
  rw [hname, Option.map_some] at hlast
  obtain ⟨p, hp, hpname⟩ := List.mem_map.1 (List.mem_of_getLast? hlast.symm)
  refine ⟨p, hp, ?_⟩
  rw [hpname, h.placed.task t ht, hname]
  rfl

theorem Opened.alike {e : Draft} (h : d.Opened) (ha : d.Alike e)
    (hr : e.part.region ≠ .metadata) : e.Opened :=
  ⟨h.placed.alike ha, ha.phase ▸ h.phase, hr⟩

theorem phase_addBodyLine (h : d.phase ≠ none) (number : Nat) {l : Line} (hl : l.heading? ≠ none) :
    (d.addBodyLine number l).phase ≠ none := by
  cases l with
  | phase name => exact Option.some_ne_none name
  | task name => exact d.closeTask_phase ▸ h
  | fence | title | property | other => exact absurd rfl hl

theorem Opened.addLine (h : d.Opened) {number : Nat} (hn : number ≠ 1) (raw : List Char) :
    (d.addLine number raw).Opened := by
  have hr : (d.addLine number raw).part.region ≠ .metadata := by
    rw [region_addLine]
    exact Region.next_ne_metadata h.region hn _
  obtain ha | ⟨l, hl, heq⟩ := addLine_cases d number raw
  · exact h.alike ha hr
  · refine ⟨h.placed.addLine number raw, ?_, hr⟩
    rw [heq]
    exact phase_addBodyLine h.phase number hl

theorem Opened.addLines (h : d.Opened) {number : Nat} (hn : 2 ≤ number)
    (lines : List (List Char)) : (d.addLines number lines).Opened := by
  induction lines generalizing d number with
  | nil => exact h
  | cons raw lines ih => exact ih (h.addLine (by omega) raw) (by omega)

theorem closeTask_behind (h : d.Opened) : (d.behind v n).closeTask = d.closeTask.behind v n := by
  cases ht : d.openTask with
  | none =>
    have hb : (d.behind v n).openTask = none := ht
    rw [closeTask_of_none ht, closeTask_of_none hb]
  | some t =>
    have hb : (d.behind v n).openTask = some t := ht
    rw [closeTask_of_some ht, closeTask_of_some hb]
    simp only [behind, Workflow.pushTask_followedBy v n (h.exists_phase ht)]

theorem warn_behind (d : Draft) (text : String) :
    (d.behind v n).warn (raiseLine n text) = (d.warn text).behind v n := by
  simp [behind, warn, Workflow.followedBy]

theorem setProperty_behind (d : Draft) (number : Nat) (key value : List Char) :
    (d.behind v n).setProperty (number + n) key value
      = (d.setProperty number key value).behind v n := by
  rw [setProperty_eq_match, setProperty_eq_match]
  cases hk : Property.ofKey? (String.ofList key) with
  | none => rfl
  | some p =>
    cases ht : d.openTask with
    | none =>
      have hb : (d.behind v n).openTask = none := ht
      simp only [hb, ← raiseLine_orphanWarning, warn_behind]
    | some t =>
      have hb : (d.behind v n).openTask = some t := ht
      simp only [hb, ← raiseLine_zeroTimeoutWarning]
      split
      · exact warn_behind { d with openTask := some (p.apply value t) } _
      · rfl

theorem addBodyLine_behind (h : d.Opened) (number : Nat) (l : Line) :
    (d.behind v n).addBodyLine (number + n) l = (d.addBodyLine number l).behind v n := by
  cases l with
  | fence => rfl
  | title text =>
    by_cases hv : v.description.isEmpty = true <;>
      by_cases hd : d.workflow.description.isEmpty = true <;>
      simp [addBodyLine, behind, Workflow.followedBy, hv, hd]
  | phase name =>
    simp only [addBodyLine, closeTask_behind h]
    simp [behind, Workflow.followedBy, Phase.raise, Nat.add_comm, Nat.add_left_comm]
  | task name =>
    simp only [addBodyLine, closeTask_behind h]
    rfl
  | property key value => exact setProperty_behind d number key value
  | other => rfl

theorem addLine_behind (h : d.Opened) {number : Nat} (hn : 2 ≤ number) (raw : List Char) :
    (d.behind v n).addLine (number + n) raw = (d.addLine number raw).behind v n := by
  have hpart : (d.behind v n).part = d.part := rfl
  unfold addLine
  rw [hpart]
  cases hp : d.part with
  | metadata => exact absurd (hp ▸ rfl) h.region
  | code lines =>
    simp only []
    split <;> rfl
  | body =>
    -- neither here nor there is it the first line, which alone can open metadata
    have hm : ¬(number = 1 ∧ Text.trim raw = metadataMark) := fun hm => by omega
    have hmn : ¬(number + n = 1 ∧ Text.trim raw = metadataMark) := fun hm => by omega
    simp only [if_neg hm, if_neg hmn]
    exact addBodyLine_behind h number _

theorem addLines_behind (h : d.Opened) {number : Nat} (hn : 2 ≤ number)
    (lines : List (List Char)) :
    (d.behind v n).addLines (number + n) lines = (d.addLines number lines).behind v n := by
  induction lines generalizing d number with
  | nil => rfl
  | cons raw lines ih =>
    rw [addLines, addLines, addLine_behind h hn, Nat.add_right_comm]
    exact ih (h.addLine (by omega) raw) (by omega)

theorem finish_behind (h : d.Opened) : (d.behind v n).finish = v.followedBy n d.finish := by
  have hpart : (d.behind v n).part = d.part := rfl
  unfold finish
  rw [hpart]
  cases hp : d.part with
  | body => exact congrArg Draft.workflow (closeTask_behind h)
  | metadata => exact absurd (hp ▸ rfl) h.region
  | code lines =>
    have hclosed : ((d.warn openCodeWarning).attachCode lines).Opened :=
      h.alike ((alike_warn d _).trans (alike_attachCode _ lines)) (by simp [attachCode, Section.region])
    have hwarn : (d.behind v n).warn openCodeWarning = (d.warn openCodeWarning).behind v n := by
      rw [← warn_behind, raiseLine_openCodeWarning]
    rw [hwarn]
    exact congrArg Draft.workflow (closeTask_behind hclosed)

/-- A phase heading starts over behind what has been read. -/
theorem addBodyLine_phase (hp : d.part = .body) (number n : Nat) (name : List Char) :
    d.addBodyLine number (.phase name)
      = (({} : Draft).addBodyLine 1 (.phase name)).behind d.finish n := by
  have hfinish : d.finish = d.closeTask.workflow := by rw [finish, hp]
  rw [hfinish]
  simp only [addBodyLine, behind]
  simp [Workflow.followedBy, closeTask_of_none, Phase.raise, Nat.add_comm, hp]

/-- A phase heading opens a draft. -/
theorem opened_addBodyLine_phase (name : List Char) :
    (({} : Draft).addBodyLine 1 (.phase name)).Opened where
  placed := placed_empty.addBodyLine 1 (Option.some_ne_none _)
  phase := Option.some_ne_none name
  region := by simp [addBodyLine, Section.region]

/-- From a phase heading on, lines are read behind what has been read before. -/
theorem finish_addLines_phase (hp : d.part = .body) (n : Nat) {line name : List Char}
    (hname : Text.dropStart? "## ".toList (Text.trim line) = some name) (rest : List (List Char)) :
    (d.addLines (1 + n) (line :: rest)).finish
      = d.finish.followedBy n (({} : Draft).addLines 1 (line :: rest)).finish := by
  have hread := Line.read_eq_phase hname
  have hheading : Heading.read? (Text.trim line) ≠ none := by
    rw [← Line.heading?_read, hread]
    exact Option.some_ne_none _
  have hopened := opened_addBodyLine_phase (Text.trim name)
  -- the heading is line `1 + n` of the whole and line one of the second part
  rw [addLines, addLine_heading d _ line hp hheading, hread, addBodyLine_phase hp _ n,
    Nat.add_right_comm, addLines_behind hopened (Nat.le_refl 2),
    finish_behind (hopened.addLines (Nat.le_refl 2) rest), addLines,
    addLine_heading {} 1 line rfl hheading, hread]

end Draft

namespace Workflow

theorem dropMark_append (a b : List Char) : dropMark (a ++ '\n' :: b) = dropMark a ++ '\n' :: b := by
  cases a with
  | nil => rfl
  | cons c a =>
    unfold dropMark
    split
    · rename_i cs h
      obtain ⟨rfl, rfl⟩ := List.cons.inj h
      rfl
    · rename_i h
      split
      · rename_i cs h'
        obtain ⟨rfl, rfl⟩ := List.cons.inj h'
        exact absurd rfl (h _)
      · rfl

/-- A byte order mark takes no line. -/
theorem length_lines_dropMark (a : List Char) :
    (Text.lines (dropMark a ++ ['\n'])).length = (Text.lines (a ++ ['\n'])).length := by
  unfold dropMark
  split
  · rename_i cs
    have hc : '\uFEFF' ≠ '\n' := by decide
    simp only [Text.lines, List.cons_append, Text.linesFrom, if_neg hc]
    exact Text.length_linesFrom _ _ (by simp)
  · rfl

/-- A phase heading does not start with a byte order mark. -/
theorem dropMark_of_heading {b line : List Char} {rest : List (List Char)}
    (hb : Text.lines b = line :: rest) (hh : Text.startsWith "## ".toList (Text.trim line) = true) :
    dropMark b = b := by
  unfold dropMark
  split
  · rename_i cs
    have hreturn : '\uFEFF' ≠ '\r' := by decide
    obtain ⟨l, ls, hl⟩ := Text.linesFrom_concat [] hreturn cs
    obtain rfl : '\uFEFF' :: l = line := (List.cons.inj (hl.symm.trans hb)).1
    obtain ⟨r, hr⟩ := Option.isSome_iff_exists.1 hh
    have hstart : Text.trimStart ('\uFEFF' :: l) = '\uFEFF' :: l :=
      List.dropWhile_cons_of_neg (by decide)
    have hline := Text.trimEnd_append (Text.trimStart ('\uFEFF' :: l))
    rw [← Text.trim, Text.dropStart?_eq_some_iff.1 hr, hstart] at hline
    exact absurd (List.cons.inj hline).1 (by decide)
  · rfl

/-- Where the first text ends with its last line, the lines are those of the two. -/
theorem lines_dropMark_append {a b line : List Char} {rest : List (List Char)}
    (ha : a = [] ∨ a.getLast? = some '\n') (hb : Text.lines b = line :: rest)
    (hh : Text.startsWith "## ".toList (Text.trim line) = true) :
    Text.lines (dropMark (a ++ b)) = Text.lines (dropMark a) ++ line :: rest
      ∧ (Text.lines (dropMark a)).length = (Text.lines a).length := by
  rcases ha with rfl | ha
  · refine ⟨?_, rfl⟩
    rw [List.nil_append, dropMark_of_heading hb hh, hb]
    rfl
  · obtain ⟨a, rfl⟩ := List.getLast?_eq_some_iff.1 ha
    refine ⟨?_, ?_⟩
    · rw [List.append_assoc, List.singleton_append, dropMark_append, Text.lines,
        Text.linesFrom_append, dropMark_append, ← hb]
      rfl
    · rw [dropMark_append]
      exact length_lines_dropMark a

/-- The region in which a document ends. -/
def endRegion (text : List Char) : Region := Region.body.after 1 (Text.lines (dropMark text))

/-- **Documents can be cut in front of a phase heading.**  A document that is empty or
ends with its last line, and ends in the body, can be read apart from one whose first
line is a phase heading. -/
theorem parseAs_append (stem : Option String) {a b line : List Char} {rest : List (List Char)}
    (ha : a = [] ∨ a.getLast? = some '\n') (hend : endRegion a = .body)
    (hb : Text.lines b = line :: rest)
    (hh : Text.startsWith "## ".toList (Text.trim line) = true) :
    parseAs stem (a ++ b)
      = ((parseAs stem a).followedBy (Text.lines a).length (parseAs stem b)).identify stem := by
  obtain ⟨hlines, hlength⟩ := lines_dropMark_append ha hb hh
  obtain ⟨name, hname⟩ := Option.isSome_iff_exists.1 hh
  have hbody : (({} : Draft).addLines 1 (Text.lines (dropMark a))).part = .body :=
    Section.region_eq_body.1 ((Draft.region_addLines {} 1 _).trans hend)
  have hsecond : dropMark b = b := dropMark_of_heading hb hh
  rw [parseAs, parseAs, parseAs, identify_followedBy, hlines, Draft.addLines_append, hlength,
    Draft.finish_addLines_phase hbody _ hname, hsecond, hb]

/-- A document with metadata, a title and a task. -/
def upperPart : List Char :=
  "---\nid: x\n---\n# One\n## Build\n- **Compile**\nTimeout: 0\n".toList

/-- A document that has the same phase and task again, and leaves code open. -/
def lowerPart : List Char := "## Build\nTarget: y\n### Compile\nTimeout: 0\n```\nmake".toList

theorem parseAs_append_sample :
    upperPart.getLast? = some '\n' ∧ endRegion upperPart = .body
      ∧ Text.lines lowerPart = "## Build".toList
          :: ["Target: y", "### Compile", "Timeout: 0", "```", "make"].map String.toList
      ∧ Text.startsWith "## ".toList (Text.trim "## Build".toList) = true
      ∧ (Text.lines upperPart).length = 7
      ∧ parseAs none (upperPart ++ lowerPart)
        = ((parseAs none upperPart).followedBy 7 (parseAs none lowerPart)).identify none := by
  have hlast : upperPart.getLast? = some '\n' := by decide
  have hend : endRegion upperPart = .body := by decide +kernel
  have hlines : Text.lines lowerPart = "## Build".toList
      :: ["Target: y", "### Compile", "Timeout: 0", "```", "make"].map String.toList := by
    decide +kernel
  have hstart : Text.startsWith "## ".toList (Text.trim "## Build".toList) = true := by decide
  have hlength : (Text.lines upperPart).length = 7 := by decide +kernel
  exact ⟨hlast, hend, hlines, hstart, hlength,
    hlength ▸ parseAs_append none (.inr hlast) hend hlines hstart⟩

end Workflow
end Runbook
