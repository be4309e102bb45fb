/-
# What fenced code can change

The lines of a block of code are not read, so the workflow does not depend on them but for
the code of the task that is open at the fence, and for the numbers that warnings give to
the lines behind the block (`parseAs_fenced`).

Two documents that differ in one block are read side by side with the code of that task
veiled.  Where the block ends their drafts are the same under the veil (`veil_attachCode`),
and from there on the same lines follow.  The warnings are those that these lines leave,
counted on by the length of the block (`Shifted.linesWarnings`).
-/

import Runbook.Proofs.Workflow.Code
import Runbook.Proofs.Workflow.Juncture
import Runbook.Proofs.Workflow.Outline
import Runbook.Proofs.Workflow.Veil

namespace Runbook

namespace Draft

variable {place : Option Nat} {d : Draft}

/-- The place that the open task will have among the tasks. -/
def openPlace? (d : Draft) : Option Nat := d.openTask.map fun _ => d.workflow.tasks.length

/-- Where a block ends, what it has given the open task is veiled. -/
theorem veil_attachCode (h : place = d.openPlace?) (hp : d.part = .body)
    (lines : List (List Char)) : (d.attachCode lines).veil place = d.veil place := by
  subst h
  unfold attachCode veil openPlace?
  cases d.openTask with
  | none => simp [hp]
  | some t => simp [hp, Task.veil]

theorem addLines_inside {inside : List (List Char)}
    (h : ∀ line ∈ inside, Line.isFence line = false) {before : List (List Char)}
    (hp : d.part = .code before) (number : Nat) :
    d.addLines number inside = { d with part := .code (inside.reverse ++ before) } := by
  induction inside generalizing d number before with
  | nil => rw [addLines, List.reverse_nil, List.nil_append, ← hp]
  | cons raw inside ih =>
    rw [addLines, addLine_inside hp (h raw List.mem_cons_self),
      ih (fun line hmem => h line (List.mem_cons_of_mem raw hmem)) rfl, List.reverse_cons,
      List.append_assoc, List.singleton_append]

/-- With a block under the veil, a document ends as without it. -/
theorem finish_addLines_block (hp : d.part = .body) {number : Nat} (hn : 0 < number)
    {fence : List Char} (hf : Line.isFence fence = true) {inside rest : List (List Char)}
    (hi : ∀ line ∈ inside, Line.isFence line = false)
    (hr : ∀ line ∈ rest.head?, Line.isFence line = true) :
    (d.addLines number (fence :: (inside ++ rest))).finish.veil d.openPlace?
      = (d.addLines 2 rest.tail).finish.veil d.openPlace? := by
  have hlines : d.addLines number (fence :: (inside ++ rest))
      = { d with part := .code inside.reverse }.addLines (number + 1 + inside.length) rest := by
    rw [addLines, addLine_open hp hf, addLines_append, addLines_inside hi rfl, List.append_nil]
  rw [hlines]
  cases rest with
  | nil =>
    have hend : ({ d with part := .code inside.reverse } : Draft).finish
        = ((d.warn openCodeWarning).attachCode inside.reverse).finish := rfl
    rw [addLines, hend]
    exact veil_finish (veil_attachCode (d := d.warn openCodeWarning) rfl hp _)
  | cons closing rest =>
    rw [addLines, addLine_close rfl (hr closing rfl)]
    exact veil_finish (veil_addLines (veil_attachCode rfl hp _) (by omega) (by omega) rest)

end Draft

namespace Region

/-- A line further on leaves the same warnings, which say so. -/
theorem warnings_raise (r : Region) (task : Option String) (number n : Nat) (l : Line) :
    r.warnings task (number + n) l = (r.warnings task number l).map (raiseLine n) := by
  unfold warnings
  split
  · split
    · rw [List.map_singleton, Draft.raiseLine_orphanWarning]
    · rfl
  · split
    · rw [List.map_singleton, Draft.raiseLine_zeroTimeoutWarning]
    · rfl
  · rfl

theorem next_inside {raw : List Char} (h : Line.isFence raw = false) (number : Nat) :
    code.next number (Text.trim raw) = .code := if_neg (Bool.eq_false_iff.1 h)

/-- Code goes on until a fence, and nothing in it is a line of the body. -/
theorem inside_code {inside : List (List Char)} (h : ∀ line ∈ inside, Line.isFence line = false)
    (number : Nat) : code.after number inside = .code ∧ code.bodyLines number inside = [] := by
  induction inside generalizing number with
  | nil => exact ⟨rfl, rfl⟩
  | cons raw inside ih =>
    have hnext := next_inside (h raw List.mem_cons_self) number
    have hrest := ih (fun line hmem => h line (List.mem_cons_of_mem raw hmem)) (number + 1)
    simpa [after, bodyLines, hnext] using hrest

end Region

namespace Workflow

variable {before inside : List (List Char)} {fence : List Char}

theorem linesWarnings_inside {first : List (List Char)} (hcode : Region.body.after 1 first = .code)
    (hi : ∀ line ∈ inside, Line.isFence line = false) : linesWarnings first inside = [] := by
  induction inside generalizing first with
  | nil => rfl
  | cons raw inside ih =>
    have hline : lineWarnings first raw = [] := by
      rw [lineWarnings, hcode]
      rfl
    rw [linesWarnings, hline, List.nil_append]
    refine ih ?_ fun line hmem => hi line (List.mem_cons_of_mem raw hmem)
    rw [Region.after_concat, hcode, Region.next_inside (hi raw List.mem_cons_self)]

/-- Behind the first lines everything is read as behind the second ones, only `n` lines further
on: they end in the same region, and the same task is open. -/
structure Shifted (n : Nat) (first second : List (List Char)) : Prop where
  ne_nil : second ≠ []
  length : first.length = second.length + n
  region : Region.body.after 1 first = Region.body.after 1 second
  task : openTask? first = openTask? second

variable {n : Nat} {first second : List (List Char)}

theorem Shifted.concat (h : Shifted n first second) (raw : List Char) :
    Shifted n (first ++ [raw]) (second ++ [raw]) where
  ne_nil := List.append_ne_nil_of_right_ne_nil _ (List.cons_ne_nil raw [])
  length := by rw [List.length_append, List.length_append, h.length, Nat.add_right_comm]
  region := by
    have hpos := List.length_pos_iff.2 h.ne_nil
    have hlength := h.length
    rw [Region.after_concat, Region.after_concat, h.region]
    exact Region.next_of_ne (by omega) (by omega) _ _
  task := by
    rw [openTask?_concat, openTask?_concat, Region.filterMap_bodyLines_singleton,
      Region.filterMap_bodyLines_singleton, h.region, h.task]

theorem Shifted.append (h : Shifted n first second) (lines : List (List Char)) :
    Shifted n (first ++ lines) (second ++ lines) := by
  induction lines generalizing first second with
  | nil => rwa [List.append_nil, List.append_nil]
  | cons raw lines ih => simpa using ih (h.concat raw)

/-- Lines further on leave the same warnings, which say so. -/
theorem Shifted.linesWarnings (h : Shifted n first second) (lines : List (List Char)) :
    Workflow.linesWarnings first lines
      = (Workflow.linesWarnings second lines).map (raiseLine n) := by
  induction lines generalizing first second with
  | nil => rfl
  | cons raw lines ih =>
    have hline : lineWarnings first raw = (lineWarnings second raw).map (raiseLine n) := by
      rw [lineWarnings, lineWarnings, h.region, h.task, h.length, Nat.add_right_comm,
        Region.warnings_raise]
    rw [Workflow.linesWarnings, Workflow.linesWarnings, List.map_append, hline,
      ih (h.concat raw)]

section

variable (hbody : Region.body.after 1 before = .body) (hf : Line.isFence fence = true)
  (hi : ∀ line ∈ inside, Line.isFence line = false)

include hbody hf hi

theorem after_block : Region.body.after 1 (before ++ fence :: inside) = .code := by
  rw [Region.after_append, hbody, Region.after, Region.next_of_isFence hf]
  exact (Region.inside_code hi _).1

/-- The task that is open at the fence stays open. -/
theorem openTask?_block : openTask? (before ++ fence :: inside) = openTask? before := by
  have hblock : Region.body.bodyLines (1 + before.length) (fence :: inside) = [] := by
    simp only [Region.bodyLines, Region.next_of_isFence hf, (Region.inside_code hi _).2]
    exact if_neg fun h => Region.noConfusion h.2
  rw [openTask?, openTask?, Region.bodyLines_append, hbody, hblock, List.append_nil]

theorem linesWarnings_block :
    linesWarnings [] (before ++ fence :: inside) = linesWarnings [] before := by
  have hfence : lineWarnings before fence = [] := by
    rw [lineWarnings, Line.read_eq_fence.2 hf, hbody]
    rfl
  have hinside : linesWarnings (before ++ [fence]) inside = [] :=
    linesWarnings_inside (after_block hbody hf (List.forall_mem_nil _)) hi
  rw [linesWarnings_append, List.nil_append, linesWarnings, hfence, hinside, List.append_nil,
    List.append_nil]

/-- The lines of a block put off what is read behind it. -/
theorem shifted_block :
    Shifted inside.length (before ++ fence :: inside) (before ++ [fence]) where
  ne_nil := List.append_ne_nil_of_right_ne_nil _ (List.cons_ne_nil fence [])
  length := by
    simp only [List.length_append, List.length_cons, List.length_nil]
    omega
  region := by
    rw [after_block hbody hf hi, after_block hbody hf (List.forall_mem_nil _)]
  task := by
    rw [openTask?_block hbody hf hi, openTask?_block hbody hf (List.forall_mem_nil _)]

end

/-- A document with a block of code: the lines before it, the fence that opens it, the lines in
it, and those from the fence on that closes it.  If none does, the document ends in the block. -/
structure Fenced (text : List Char) (before : List (List Char)) (fence : List Char)
    (inside rest : List (List Char)) : Prop where
  lines : Text.lines (dropMark text) = before ++ fence :: (inside ++ rest)
  body : Region.body.after 1 before = .body
  opens : Line.isFence fence = true
  inside : ∀ line ∈ inside, Line.isFence line = false
  closes : ∀ line ∈ rest.head?, Line.isFence line = true

variable {text : List Char} {rest : List (List Char)}

/-- The warnings that the lines from the end of a block on leave, as if it were empty. -/
def laterWarnings (before : List (List Char)) (fence : List Char) (rest : List (List Char)) :
    List String :=
  linesWarnings (before ++ [fence]) rest
    ++ if Region.body.after 1 (before ++ [fence] ++ rest) = .code then [Draft.openCodeWarning]
      else []

/-- The block itself leaves no warning. -/
theorem Fenced.warnings (h : Fenced text before fence inside rest) (stem : Option String) :
    (parseAs stem text).warnings
      = linesWarnings [] before
        ++ (laterWarnings before fence rest).map (raiseLine inside.length) := by
  have hshift := shifted_block h.body h.opens h.inside
  have hlines : Text.lines (dropMark text) = (before ++ fence :: inside) ++ rest := by
    rw [h.lines, List.append_assoc, List.cons_append]
  have hend : endRegion text = Region.body.after 1 (before ++ [fence] ++ rest) := by
    rw [endRegion, hlines, (hshift.append rest).region]
  have hopenCode : ∀ r : Region, (if r = .code then [Draft.openCodeWarning] else [])
      = (if r = .code then [Draft.openCodeWarning] else []).map (raiseLine inside.length) := by
    intro r
    split
    · rw [List.map_singleton, Draft.raiseLine_openCodeWarning]
    · rfl
  rw [warnings_parseAs, hend, hlines, linesWarnings_append,
    linesWarnings_block h.body h.opens h.inside, List.nil_append, hshift.linesWarnings, hopenCode,
    laterWarnings, List.map_append, List.append_assoc]

/-! ### The task that has the block -/

/-- The place among all tasks of the one that is open behind the first lines of a document. -/
def openPlace? (lines : List (List Char)) : Option Nat :=
  (openTask? lines).map fun _ =>
    (((Region.body.bodyLines 1 lines).filterMap Heading.read?).filterMap Heading.task?).length - 1

/-- Each task heading places one task. -/
theorem length_placed (phase : String) (hs : List Heading) :
    (Heading.placed phase hs).length = (hs.filterMap Heading.task?).length := by
  induction hs generalizing phase with
  | nil => rfl
  | cons h hs ih =>
    cases h with
    | phase name => exact ih name
    | task name => simpa [Heading.placed, Heading.task?] using ih phase

/-- The open task comes behind all tasks that are finished. -/
theorem openPlace?_addLines (lines : List (List Char)) :
    (({} : Draft).addLines 1 lines).openPlace? = openPlace? lines := by
  have hname := taskName_addLines lines
  have htasks := congrArg (fun o => o.tasks.length)
    ((Draft.outline_addLines Draft.placed_empty 1 lines).trans (Outline.foldl_add _ _))
  have hcount : (({} : Draft).addLines 1 lines).outline.tasks.length
      = (((Region.body.bodyLines 1 lines).filterMap Heading.read?).filterMap
          Heading.task?).length := by
    rw [← length_placed "default"]
    exact htasks
  unfold Draft.openPlace? openPlace?
  rw [← hname, ← hcount, Draft.outline]
  cases h : (({} : Draft).addLines 1 lines).openTask with
  | none => rfl
  | some t => simp [Draft.closeTask_of_some h, Workflow.pushTask]

/-- Of documents that differ in one block the workflows differ in the code of the task that is
open at its fence, but for the warnings. -/
theorem Fenced.exists_eq_recode {text' : List Char} {inside' : List (List Char)}
    (h : Fenced text before fence inside rest) (h' : Fenced text' before fence inside' rest)
    (stem : Option String) :
    ∃ code, parseAs stem text' = { (parseAs stem text).recode (openPlace? before) code with
      warnings := (parseAs stem text').warnings } := by
  have hbody : (({} : Draft).addLines 1 before).part = .body :=
    Section.region_eq_body.1 ((Draft.region_addLines {} 1 before).trans h.body)
  have hidentify : ∀ w : Workflow, (w.identify stem).veil (openPlace? before)
      = (w.veil (openPlace? before)).identify stem := fun _ => rfl
  have hpos : 0 < 1 + before.length := by omega
  have hblock := Draft.finish_addLines_block hbody hpos h.opens h.inside h.closes
  have hblock' := Draft.finish_addLines_block hbody hpos h'.opens h'.inside h'.closes
  rw [openPlace?_addLines] at hblock hblock'
  refine Workflow.exists_eq_recode ?_
  rw [parseAs, parseAs, hidentify, hidentify, h.lines, h'.lines, Draft.addLines_append,
    Draft.addLines_append, hblock, hblock']

/-- **Of fenced code nothing is read, and all of it is kept.**  Each task has the code of the
blocks between its heading and the next one, put together in their order.  Other lines in a
block change nothing but the code of the task that is open at the fence, if one is, and the
numbers of lines in the warnings that come from behind the block. -/
theorem parseAs_fenced (stem : Option String) :
    (∀ text, (parseAs stem text).tasks.map Task.coded = Piece.codes (pieces text)) ∧
    ∀ {text text' before fence inside inside' rest}, Fenced text before fence inside rest →
      Fenced text' before fence inside' rest →
      (parseAs stem text).warnings = linesWarnings [] before
        ++ (laterWarnings before fence rest).map (raiseLine inside.length) ∧
      ∃ code, parseAs stem text' = { (parseAs stem text).recode (openPlace? before) code with
        warnings := linesWarnings [] before
          ++ (laterWarnings before fence rest).map (raiseLine inside'.length) } := by
  refine ⟨coded_parseAs stem, fun h h' => ⟨h.warnings stem, ?_⟩⟩
  rw [← h'.warnings stem]
  exact h.exists_eq_recode h' stem

/-- Lines in front of a block: a task is open, and there is one warning. -/
def linesAhead : List (List Char) := ["### One", "Timeout: 0"].map String.toList

/-- Lines from the end of a block on, with a property that belongs to no task. -/
def linesBehind : List (List Char) := ["```", "Retry: 1", "## End", "Tool: a"].map String.toList

/-- A document with a block between them. -/
def plainDocument : List Char :=
  "### One\nTimeout: 0\n```\nmake\n```\nRetry: 1\n## End\nTool: a".toList

/-- The same document with a block that looks like a document itself. -/
def trickyDocument : List Char :=
  ("### One\nTimeout: 0\n```\n---\n## Two\n- **Three**\n\n  Tool: b\n```\nRetry: 1\n## End\n"
    ++ "Tool: a").toList

theorem parseAs_fenced_sample :
    Fenced plainDocument linesAhead "```".toList ["make".toList] linesBehind ∧
      Fenced trickyDocument linesAhead "```".toList
        (["---", "## Two", "- **Three**", "", "  Tool: b"].map String.toList) linesBehind ∧
      (parseAs none plainDocument).tasks.map Task.coded = [("One", some "make")] ∧
      (parseAs none trickyDocument).tasks.map Task.coded
        = [("One", some "---\n## Two\n- **Three**\n\n  Tool: b")] ∧
      (parseAs none plainDocument).warnings
        = [Draft.zeroTimeoutWarning 2 "One", Draft.orphanWarning 8 "tool".toList] ∧
      ∃ code, parseAs none trickyDocument
        = { (parseAs none plainDocument).recode (some 0) code with
            warnings :=
              [Draft.zeroTimeoutWarning 2 "One", Draft.orphanWarning 12 "tool".toList] } := by
  have h : Fenced plainDocument linesAhead "```".toList ["make".toList] linesBehind :=
    ⟨by decide +kernel, by decide +kernel, by decide +kernel, by decide +kernel, by decide +kernel⟩
  have h' : Fenced trickyDocument linesAhead "```".toList
      (["---", "## Two", "- **Three**", "", "  Tool: b"].map String.toList) linesBehind :=
    ⟨by decide +kernel, by decide +kernel, by decide +kernel, by decide +kernel, by decide +kernel⟩
  have hahead : linesWarnings [] linesAhead = [Draft.zeroTimeoutWarning 2 "One"] := by
    decide +kernel
  have hlater : laterWarnings linesAhead "```".toList linesBehind
      = [Draft.orphanWarning 7 "tool".toList] := by decide +kernel
  have hraise : ∀ n, (laterWarnings linesAhead "```".toList linesBehind).map (raiseLine n)
      = [Draft.orphanWarning (7 + n) "tool".toList] := fun n => by
    rw [hlater, List.map_singleton, Draft.raiseLine_orphanWarning]
  have hplace : openPlace? linesAhead = some 0 := by decide +kernel
  obtain ⟨hcodes, hblocks⟩ := parseAs_fenced none
  obtain ⟨hwarnings, code, htricky⟩ := hblocks h h'
  rw [hahead, hraise] at hwarnings htricky
  rw [hplace] at htricky
  exact ⟨h, h', (hcodes plainDocument).trans (by decide +kernel),
    (hcodes trickyDocument).trans (by decide +kernel), hwarnings, code, htricky⟩

end Workflow
end Runbook
