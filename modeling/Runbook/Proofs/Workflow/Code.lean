/-
# The code of tasks

Of what stands in fenced code nothing is read: a document comes in pieces, which are its
headings and the blocks of code between them, each with its lines as they are
(`Region.pieces`).  A task has the code of the blocks between its own heading and the next
one, put together in their order (`Piece.codes`); blocks under no task are dropped.

A draft gathers this piece by piece (`Draft.gathered`).  A block counts as read when it is
opened, though its lines come later: what is still to come of it is `Draft.expected`.
-/

import Runbook.Proofs.Workflow.Warning

namespace Runbook

/-- Whether a line opens or closes fenced code. -/
def Line.isFence (raw : List Char) : Bool := Text.startsWith Line.fenceMark (Text.trim raw)

/-- The metadata mark is no fence. -/
theorem Line.ne_metadataMark_of_isFence {raw : List Char} (h : isFence raw = true) :
    Text.trim raw ≠ Draft.metadataMark := by
  intro hm
  rw [isFence, hm] at h
  exact absurd h (by decide)

/-- A fence in the body opens code. -/
theorem Region.next_of_isFence {raw : List Char} (h : Line.isFence raw = true) (number : Nat) :
    body.next number (Text.trim raw) = .code :=
  (if_neg fun hm => Line.ne_metadataMark_of_isFence h hm.2).trans (if_pos h)

namespace Draft

variable {d : Draft} {raw : List Char} {before : List (List Char)}

theorem addLine_open (hp : d.part = .body) (h : Line.isFence raw = true) (number : Nat) :
    d.addLine number raw = { d with part := .code [] } := by
  have hm : ¬(number = 1 ∧ Text.trim raw = metadataMark) := fun hm =>
    Line.ne_metadataMark_of_isFence h hm.2
  rw [addLine, hp]
  simp only [if_neg hm, Line.read_eq_fence.2 h]
  rfl

theorem addLine_inside (hp : d.part = .code before) (h : Line.isFence raw = false)
    (number : Nat) : d.addLine number raw = { d with part := .code (raw :: before) } := by
  rw [addLine, hp]
  exact if_neg (Bool.eq_false_iff.1 h)

theorem addLine_close (hp : d.part = .code before) (h : Line.isFence raw = true)
    (number : Nat) : d.addLine number raw = d.attachCode before := by
  rw [addLine, hp]
  exact if_pos h

end Draft

/-- A piece of a document: a heading, or a block of code with its lines. -/
inductive Piece where
  | heading (h : Heading)
  | block (lines : List (List Char))
deriving DecidableEq

/-- The headings and blocks among lines that count from the given number.  A block goes to
the next line that is a fence, or to the end. -/
def Region.pieces (r : Region) (number : Nat) : List (List Char) → List Piece
  | [] => []
  | raw :: lines =>
    let next := r.next number (Text.trim raw)
    let rest := next.pieces (number + 1) lines
    match r, next with
    | .body, .code => .block (lines.takeWhile fun line => !Line.isFence line) :: rest
    | .body, .body => ((Heading.read? (Text.trim raw)).map .heading).toList ++ rest
    | _, _ => rest

namespace Piece

/-- The blocks in front of the next heading. -/
def blocks : List Piece → List (List (List Char))
  | .block lines :: ps => lines :: blocks ps
  | _ => []

/-- The text of a block: its lines as they are, with newlines between them. -/
def text (lines : List (List Char)) : String := "\n".intercalate (lines.map String.ofList)

/-- The code that blocks make: their texts with newlines between them, and none without a
block. -/
def join (bs : List (List (List Char))) : Option String :=
  if bs = [] then none else some ("\n".intercalate (bs.map text))

/-- The tasks of the headings, each with the code of the blocks up to the next heading. -/
def codes : List Piece → List (String × Option String)
  | [] => []
  | .heading (.task name) :: ps => (name, join (blocks ps)) :: codes ps
  | _ :: ps => codes ps

/-- The code of a task that gets blocks one after the other. -/
def joinTo (code : Option String) (bs : List (List (List Char))) : Option String :=
  bs.foldl (fun code lines => some (Draft.joinCode code (text lines))) code

theorem intercalate_cons (s : String) (ss : List String) (h : ss ≠ []) :
    "\n".intercalate (s :: ss) = s ++ "\n" ++ "\n".intercalate ss := by
  obtain ⟨t, ts, rfl⟩ := List.exists_cons_of_ne_nil h
  exact String.intercalate_cons_cons

theorem joinTo_nil (code : Option String) : joinTo code [] = code := rfl

theorem joinTo_cons (code : Option String) (lines : List (List Char))
    (bs : List (List (List Char))) :
    joinTo code (lines :: bs) = joinTo (joinTo code [lines]) bs := rfl

theorem joinTo_some (code : String) (bs : List (List (List Char))) :
    joinTo (some code) bs = some ("\n".intercalate (code :: bs.map text)) := by
  induction bs generalizing code with
  | nil => simp [joinTo]
  | cons lines bs ih =>
    have hone : joinTo (some code) [lines] = some (code ++ "\n" ++ text lines) := rfl
    rw [joinTo_cons, hone, ih, List.map_cons, intercalate_cons code _ (List.cons_ne_nil _ _)]
    by_cases hbs : bs.map text = []
    · simp [hbs]
    · rw [intercalate_cons _ _ hbs, intercalate_cons _ _ hbs]
      simp only [String.append_assoc]

theorem joinTo_none (bs : List (List (List Char))) : joinTo none bs = join bs := by
  cases bs with
  | nil => rfl
  | cons lines bs => exact joinTo_some (text lines) bs

end Piece

/-- Tasks with their code: those that are finished, and the one that is open. -/
structure Gathered where
  finished : List (String × Option String) := []
  current : Option (String × Option String) := none

namespace Gathered

/-- All tasks, the open one last. -/
def all (g : Gathered) : List (String × Option String) := g.finished ++ g.current.toList

/-- The tasks with one piece more. -/
def add (g : Gathered) : Piece → Gathered
  | .heading h => { finished := g.all, current := h.task?.map fun name => (name, none) }
  | .block lines =>
    { g with current := g.current.map fun t => (t.1, Piece.joinTo t.2 [lines]) }

/-- What pieces give: blocks in front go to the open task, then come the tasks headed. -/
theorem all_foldl_add (g : Gathered) (ps : List Piece) :
    (ps.foldl add g).all
      = g.finished ++ (g.current.map fun t => (t.1, Piece.joinTo t.2 (Piece.blocks ps))).toList
        ++ Piece.codes ps := by
  induction ps generalizing g with
  | nil => cases h : g.current <;> simp [all, Piece.blocks, Piece.codes, Piece.joinTo_nil, h]
  | cons p ps ih =>
    rw [List.foldl_cons, ih]
    cases p with
    | block lines => obtain ⟨finished, _ | t⟩ := g <;> rfl
    | heading h =>
      cases h with
      | phase name => cases h : g.current <;>
          simp [add, all, Piece.blocks, Piece.codes, Piece.joinTo_nil, Heading.task?, h]
      | task name => cases h : g.current <;>
          simp [add, all, Piece.blocks, Piece.codes, Piece.joinTo_nil, Piece.joinTo_none,
            Heading.task?, h]

end Gathered

/-- The name and the code of a task. -/
def Task.coded (t : Task) : String × Option String := (t.name, t.code)

/-- A property is no code. -/
theorem Property.coded_apply (p : Property) (value : List Char) (t : Task) :
    (p.apply value t).coded = t.coded := by
  have h := congrArg Task.coded (p.apply_frame value t t.name t.phase t.code)
  exact h

namespace Draft

/-- What has been gathered in a draft. -/
def gathered (d : Draft) : Gathered where
  finished := d.workflow.tasks.map Task.coded
  current := d.openTask.map Task.coded

theorem gathered_closeTask (d : Draft) :
    d.closeTask.gathered = { finished := d.gathered.all, current := none } := by
  cases h : d.openTask with
  | none => simp [closeTask_of_none h, gathered, Gathered.all, h]
  | some t => simp [closeTask_of_some h, gathered, Gathered.all, h, Workflow.pushTask]

theorem gathered_setProperty (d : Draft) (number : Nat) (key value : List Char) :
    (d.setProperty number key value).gathered = d.gathered := by
  obtain ⟨f, warnings, hf, h⟩ := d.exists_setProperty_eq number key value
  have hcoded : ∀ t : Task, (f t).coded = t.coded := by
    rcases hf with rfl | ⟨p, rfl⟩
    · exact fun t => rfl
    · exact p.coded_apply value
  rw [h, gathered, gathered, Option.map_map]
  exact congrArg _ (Option.map_congr fun t _ => hcoded t)

theorem gathered_attachCode (d : Draft) (lines : List (List Char)) :
    (d.attachCode lines).gathered = d.gathered.add (.block lines.reverse) := by
  simp only [attachCode, gathered, Gathered.add, Option.map_map]
  rfl

theorem gathered_addMetadataLine (d : Draft) (line : List Char) :
    (d.addMetadataLine line).gathered = d.gathered := by
  obtain ⟨metadata, part, h⟩ := d.exists_addMetadataLine_eq line
  rw [h]
  rfl

/-- A line of the body adds its heading, and nothing if it is none. -/
theorem gathered_addBodyLine (d : Draft) (number : Nat) (l : Line) :
    (d.addBodyLine number l).gathered
      = (l.heading?.map Piece.heading).toList.foldl Gathered.add d.gathered := by
  cases l with
  | fence | other => rfl
  | title text => simp only [addBodyLine]; split <;> rfl
  | phase name =>
    have hclosed := d.gathered_closeTask
    simp only [gathered, Gathered.mk.injEq] at hclosed
    simp [addBodyLine, gathered, Line.heading?, Gathered.add, Heading.task?, hclosed.1]
  | task name =>
    have hclosed := d.gathered_closeTask
    simp only [gathered, Gathered.mk.injEq] at hclosed
    simp [addBodyLine, gathered, Line.heading?, Gathered.add, Heading.task?, hclosed.1,
      Task.coded, newTask]
  | property key value => exact gathered_setProperty ..

/-- What will have been gathered when the block that is open has been read, if one is: its
lines go to the next fence. -/
def expected (d : Draft) (lines : List (List Char)) : Gathered :=
  match d.part with
  | .code before =>
    d.gathered.add (.block (before.reverse ++ lines.takeWhile fun line => !Line.isFence line))
  | _ => d.gathered

theorem expected_of_code {d : Draft} {before : List (List Char)} (h : d.part = .code before)
    (lines : List (List Char)) :
    d.expected lines = d.gathered.add
      (.block (before.reverse ++ lines.takeWhile fun line => !Line.isFence line)) := by
  rw [expected, h]

theorem expected_of_ne_code {d : Draft} (h : d.part.region ≠ .code) (lines : List (List Char)) :
    d.expected lines = d.gathered := by
  unfold expected
  cases hp : d.part with
  | code before => exact absurd (hp ▸ rfl) h
  | body | metadata => rfl

theorem expected_addLine_metadata {d : Draft} (hp : d.part = .metadata) (number : Nat)
    (raw : List Char) (lines : List (List Char)) :
    (d.addLine number raw).expected lines = d.gathered := by
  have hnext : (d.addLine number raw).part.region ≠ .code := by
    rw [region_addLine, hp]
    simp only [Section.region, Region.next]
    split <;> simp
  rw [expected_of_ne_code hnext, addLine, hp]
  exact gathered_addMetadataLine ..

/-- The lines in a block are expected from the fence on that opens it. -/
theorem expected_addLine_code {d : Draft} {before : List (List Char)} (hp : d.part = .code before)
    (number : Nat) (raw : List Char) (lines : List (List Char)) :
    (d.addLine number raw).expected lines = d.expected (raw :: lines) := by
  rw [expected_of_code hp]
  cases hf : Line.isFence raw with
  | true =>
    have hpart : (d.attachCode before).part.region ≠ .code := by simp [attachCode, Section.region]
    rw [addLine_close hp hf, expected_of_ne_code hpart, gathered_attachCode,
      List.takeWhile_cons_of_neg (by simp [hf]), List.append_nil]
  | false =>
    have hopen : (d.addLine number raw).part = .code (raw :: before) := by
      rw [addLine_inside hp hf]
    rw [expected_of_code hopen, addLine_inside hp hf, List.takeWhile_cons_of_pos (by simp [hf]),
      List.reverse_cons, List.append_assoc, List.singleton_append]
    rfl

/-- A line adds its piece.  A block is added with the fence that opens it, and the lines in
it change nothing any more. -/
theorem expected_addLine (d : Draft) (number : Nat) (raw : List Char)
    (lines : List (List Char)) :
    ((d.part.region.pieces number (raw :: lines)).foldl Gathered.add (d.expected (raw :: lines)))
      = ((d.part.region.next number (Text.trim raw)).pieces (number + 1) lines).foldl Gathered.add
          ((d.addLine number raw).expected lines) := by
  cases hp : d.part with
  | metadata =>
    rw [expected_addLine_metadata hp, expected_of_ne_code (by simp [hp, Section.region])]
    rfl
  | code before =>
    rw [expected_addLine_code hp]
    rfl
  | body =>
    rw [expected_of_ne_code (by simp [hp, Section.region])]
    by_cases hf : Line.isFence raw = true
    · have hnext := Region.next_of_isFence hf number
      simp only [addLine_open hp hf, Section.region, Region.pieces, hnext, List.foldl_cons]
      rfl
    · by_cases hm : number = 1 ∧ Text.trim raw = metadataMark
      · have hnext : Region.body.next number (Text.trim raw) = .metadata := if_pos hm
        have hline : d.addLine number raw = { d with part := .metadata } := by
          rw [addLine, hp]
          exact if_pos hm
        simp only [hline, Section.region, Region.pieces, hnext]
        rfl
      · have hnext : Region.body.next number (Text.trim raw) = .body :=
          (if_neg hm).trans (if_neg hf)
        have hline : d.addLine number raw = d.addBodyLine number (Line.read (Text.trim raw)) := by
          rw [addLine, hp]
          exact if_neg hm
        have hpart : (d.addLine number raw).part.region ≠ .code := by
          rw [region_addLine, hp, Section.region, hnext]
          exact Region.noConfusion
        rw [expected_of_ne_code hpart, hline, gathered_addBodyLine, Line.heading?_read]
        simp only [Section.region, Region.pieces, hnext, List.foldl_append]

/-- The end of the document ends the open block. -/
theorem coded_finish (d : Draft) : d.finish.tasks.map Task.coded = (d.expected []).all := by
  have hclose : ∀ e : Draft, e.closeTask.workflow.tasks.map Task.coded = e.gathered.all :=
    fun e => congrArg Gathered.finished e.gathered_closeTask
  unfold finish expected
  cases d.part with
  | code before =>
    simp only [List.takeWhile_nil, List.append_nil]
    rw [hclose, gathered_attachCode]
    rfl
  | body | metadata => exact hclose d

theorem coded_finish_addLines (d : Draft) (number : Nat) (lines : List (List Char)) :
    (d.addLines number lines).finish.tasks.map Task.coded
      = ((d.part.region.pieces number lines).foldl Gathered.add (d.expected lines)).all := by
  induction lines generalizing d number with
  | nil => exact coded_finish d
  | cons raw lines ih => rw [addLines, ih, region_addLine, expected_addLine]

end Draft

namespace Workflow

/-- The pieces of a document. -/
def pieces (text : List Char) : List Piece := Region.body.pieces 1 (Text.lines (dropMark text))

/-- **Each task has the code of the blocks between its heading and the next one.** -/
theorem coded_parseAs (stem : Option String) (text : List Char) :
    (parseAs stem text).tasks.map Task.coded = Piece.codes (pieces text) := by
  have hread := Draft.coded_finish_addLines {} 1 (Text.lines (dropMark text))
  rw [Gathered.all_foldl_add] at hread
  exact hread

/-- Blocks before all tasks and behind a phase heading are dropped, an empty one is code. -/
example :
    Piece.codes (pieces ("```\na\n```\n### One\n```\n  # b\n\n```\nTool: c\n```\nd\n```\n"
      ++ "### Two\n### Three\n```\n```\n## End\n```\ne").toList)
      = [("One", some "  # b\n\nd"), ("Two", none), ("Three", some "")] := by
  decide +kernel

end Workflow
end Runbook
