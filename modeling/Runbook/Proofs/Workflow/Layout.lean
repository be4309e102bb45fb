/-
# Layout

How a document is laid out says nothing (`Workflow.parseAs_layout`).

| what is changed                                  | what changes in the workflow     |
|:-------------------------------------------------|:---------------------------------|
| a carriage return before every line feed         | nothing                          |
| a byte order mark in front                       | nothing                          |
| spaces and tabs around a line that is not inside | nothing                          |
| blank lines more that are not inside             | the numbers of lines in warnings |

Inside are the lines between the fences of a block of code, which is kept as it is written.
All other lines are trimmed before they are read (`Draft.addLine_congr`), and a blank one says
nothing (`Draft.addLine_of_blank`); but behind it every line has another number.  The first
line is another matter: metadata opens there alone, so no blank line may come before it.

The last piece of a text is a line unless it is empty.  It would say nothing anyway, so it can
be read like the others (`Draft.addLines_linesOf_singleton`), except inside a block.
-/

import Mathlib.Logic.Relation
import Runbook.Proofs.Text.Lines
import Runbook.Proofs.Workflow.Swap

namespace Runbook

/-- A line that is not inside a block of code: it may be one of its fences. -/
def Region.Outside (r : Region) (line : List Char) : Prop := r = .code → Line.isFence line = true

namespace Draft

variable {d : Draft} {raw raw' : List Char} {lines pieces : List (List Char)}

/-- A line that is not inside a block is read trimmed. -/
theorem addLine_congr (htrim : Text.trim raw' = Text.trim raw) (h : d.part.region.Outside raw)
    (number : Nat) : d.addLine number raw' = d.addLine number raw := by
  unfold addLine
  rw [htrim]
  cases hp : d.part with
  | body | metadata => rfl
  | code before =>
    have hfence : Text.startsWith Line.fenceMark (Text.trim raw) = true := h (by rw [hp]; rfl)
    simp only [hfence, if_true]

/-- A blank line that is not in a block says nothing. -/
theorem addLine_of_blank (hblank : Text.trim raw = []) (h : d.part.region ≠ .code)
    (number : Nat) : d.addLine number raw = d := by
  unfold addLine
  rw [hblank]
  cases hp : d.part with
  | body => exact if_neg fun hmark => absurd hmark.2 (by decide)
  | metadata => rfl
  | code before => exact absurd (by rw [hp]; rfl) h

theorem addLines_of_blank (hblank : ∀ line ∈ lines, Text.trim line = [])
    (h : d.part.region ≠ .code) (number : Nat) : d.addLines number lines = d := by
  induction lines generalizing number with
  | nil => rfl
  | cons line lines ih =>
    obtain ⟨hline, hlines⟩ := List.forall_mem_cons.1 hblank
    rw [addLines, addLine_of_blank hline h]
    exact ih hlines (number + 1)

/-- The last piece of a text can be read like a line that is ended, unless it is inside a
block. -/
theorem addLines_linesOf_singleton (h : d.part.region.Outside raw) (number : Nat) :
    d.addLines number (Text.linesOf [raw]) = d.addLine number (Text.ended raw) := by
  rw [addLine_congr (Text.trim_ended raw) h]
  cases raw with
  | nil => exact (addLine_of_blank rfl (fun hcode => Bool.noConfusion (h hcode)) number).symm
  | cons c raw => rfl

end Draft

theorem Region.after_map_ended (r : Region) (number : Nat) (pieces : List (List Char)) :
    r.after number (pieces.map Text.ended) = r.after number pieces := by
  induction pieces generalizing r number with
  | nil => rfl
  | cons piece pieces ih => rw [List.map_cons, after, Text.trim_ended, ih, after]

namespace Draft

/-- What is read of a document that is given in pieces. -/
def ofPieces (pieces : List (List Char)) : Draft := ({} : Draft).addLines 1 (Text.linesOf pieces)

variable {before after : List (List Char)} {line line' : List Char}

theorem ofPieces_append (before : List (List Char)) (h : after ≠ []) :
    ofPieces (before ++ after) = (({} : Draft).addLines 1 (before.map Text.ended)).addLines
      (1 + before.length) (Text.linesOf after) := by
  rw [ofPieces, Text.linesOf_append before h, addLines_append, List.length_map]

theorem region_addLines_ended (before : List (List Char)) :
    (({} : Draft).addLines 1 (before.map Text.ended)).part.region = Region.body.after 1 before := by
  rw [region_addLines, Region.after_map_ended]
  rfl

/-- One line that is not inside a block can be written with other blanks around it. -/
theorem ofPieces_congr (htrim : Text.trim line' = Text.trim line)
    (h : (Region.body.after 1 before).Outside line) :
    ofPieces (before ++ line' :: after) = ofPieces (before ++ line :: after) := by
  rw [ofPieces_append before (List.cons_ne_nil _ _), ofPieces_append before (List.cons_ne_nil _ _)]
  rw [← region_addLines_ended before] at h
  generalize ({} : Draft).addLines 1 (before.map Text.ended) = d at h
  have h' : d.part.region.Outside line' := fun hcode => by
    rw [Line.isFence, htrim]
    exact h hcode
  have hread : ∀ number, d.addLine number (Text.ended line') = d.addLine number (Text.ended line) :=
    fun number => by
      rw [addLine_congr (Text.trim_ended line') h', addLine_congr (Text.trim_ended line) h,
        addLine_congr htrim h]
  cases after with
  | nil => rw [addLines_linesOf_singleton h', addLines_linesOf_singleton h, hread]
  | cons next after =>
    rw [Text.linesOf_cons _ (List.cons_ne_nil next after),
      Text.linesOf_cons _ (List.cons_ne_nil next after), addLines, addLines, hread]

/-- Where a text ends outside all blocks, its last piece can be read like the others. -/
theorem ofPieces_eq (hne : before ≠ []) (h : Region.body.after 1 before ≠ .code) :
    ofPieces before = ({} : Draft).addLines 1 (before.map Text.ended) := by
  obtain ⟨first, last, rfl⟩ := List.eq_nil_or_concat before |>.resolve_left hne
  have houtside : (Region.body.after 1 first).Outside last := by
    rw [List.concat_eq_append, Region.after_concat] at h
    intro hcode
    rw [hcode] at h
    by_contra hno
    exact h (if_neg hno)
  rw [← region_addLines_ended first] at houtside
  rw [List.concat_eq_append, ofPieces_append first (List.cons_ne_nil last []),
    addLines_linesOf_singleton houtside, List.map_append, addLines_append, List.length_map]
  rfl

/-- Blank lines outside all blocks only count. -/
theorem same_ofPieces (hne : before ≠ []) (h : Region.body.after 1 before ≠ .code)
    {blanks : List (List Char)} (hblank : ∀ blank ∈ blanks, Text.trim blank = []) :
    (ofPieces (before ++ (blanks ++ after))).Same (ofPieces (before ++ after)) := by
  have hpos := List.length_pos_iff.2 hne
  have hregion : (({} : Draft).addLines 1 (before.map Text.ended)).part.region ≠ .code := by
    rwa [region_addLines_ended]
  by_cases hafter : after = []
  · subst hafter
    rw [List.append_nil, List.append_nil]
    by_cases hblanks : blanks = []
    · rw [hblanks, List.append_nil]
      exact .refl _
    · have hlines : ∀ line ∈ Text.linesOf blanks, Text.trim line = [] := fun line hline => by
        obtain ⟨blank, hmem, htrim⟩ := Text.exists_trim_eq_of_mem_linesOf hline
        exact htrim.trans (hblank blank hmem)
      rw [ofPieces_append before hblanks, addLines_of_blank hlines hregion, ofPieces_eq hne h]
      exact .refl _
  · have hended : ∀ line ∈ blanks.map Text.ended, Text.trim line = [] :=
      List.forall_mem_map.2 fun blank hmem => (Text.trim_ended blank).trans (hblank blank hmem)
    rw [ofPieces_append before (List.append_ne_nil_of_right_ne_nil _ hafter),
      ofPieces_append before hafter, Text.linesOf_append blanks hafter, addLines_append,
      addLines_of_blank hended hregion]
    exact (Same.refl _).addLines (by omega) (by omega) _

end Draft

/-! ### Texts in another layout -/

namespace Text

/-- The texts differ in spaces and tabs around one line that is not inside a block of code. -/
inductive Pads (text text' : List Char) : Prop
  | intro (before : List (List Char)) (line front back : List Char) (after : List (List Char))
      (pieces : Separates '\n' text (before ++ line :: after))
      (pieces' : Separates '\n' text' (before ++ (front ++ (line ++ back)) :: after))
      (blank : ∀ c ∈ front ++ back, c = ' ' ∨ c = '\t')
      (outside : (Region.body.after 1 before).Outside line)

/-- The second text has blank lines more at one place that is in no block of code and behind
the first line. -/
inductive Spaced (text text' : List Char) : Prop
  | intro (before blanks after : List (List Char))
      (pieces : Separates '\n' text (before ++ after))
      (pieces' : Separates '\n' text' (before ++ (blanks ++ after)))
      (behind : before ≠ [])
      (blank : ∀ line ∈ blanks, ∀ c ∈ line, isBlank c = true)
      (outside : Region.body.after 1 before ≠ .code)

/-- A text starts like its first piece, or with the separator. -/
theorem head?_of_separates {sep c : Char} {text piece : List Char} {pieces : List (List Char)}
    (h : Separates sep text (piece :: pieces)) (hc : c ≠ sep) :
    text.head? = some c ↔ piece.head? = some c := by
  obtain ⟨-, -, rfl⟩ := h
  cases pieces with
  | nil => simp [List.intercalate]
  | cons next pieces =>
    cases piece with
    | nil => simpa [List.intercalate] using hc.symm
    | cons x piece => simp [List.intercalate]

variable {text text' : List Char}

/-- Spaces and tabs put no byte order mark in front. -/
theorem Pads.head? (h : Pads text text') (hm : text.head? ≠ some '\uFEFF') :
    text'.head? ≠ some '\uFEFF' := by
  cases h with
  | intro before line front back after pieces pieces' blank outside =>
    intro hmark
    refine hm ?_
    cases before with
    | cons first before =>
      exact (head?_of_separates pieces (by decide)).2
        ((head?_of_separates pieces' (by decide)).1 hmark)
    | nil =>
      have hother : '\uFEFF' ∉ front ++ back := fun hmem => by
        rcases blank _ hmem with hc | hc <;> exact absurd hc (by decide)
      have hpiece := (head?_of_separates pieces' (by decide)).1 hmark
      rw [List.head?_append, List.head?_append] at hpiece
      rcases Option.or_eq_some_iff.1 hpiece with hfront | ⟨-, hrest⟩
      · exact absurd (List.mem_append_left back (List.mem_of_head? hfront)) hother
      · rcases Option.or_eq_some_iff.1 hrest with hline | ⟨-, hback⟩
        · exact (head?_of_separates pieces (by decide)).2 hline
        · exact absurd (List.mem_append_right front (List.mem_of_head? hback)) hother

/-- Blank lines behind the first one put none there either. -/
theorem Spaced.head? (h : Spaced text text') (hm : text.head? ≠ some '\uFEFF') :
    text'.head? ≠ some '\uFEFF' := by
  cases h with
  | intro before blanks after pieces pieces' behind blank outside =>
    obtain ⟨first, before, rfl⟩ := List.exists_cons_of_ne_nil behind
    rw [Ne, head?_of_separates pieces' (by decide)]
    rwa [Ne, head?_of_separates pieces (by decide)] at hm

/-- Nor do carriage returns. -/
theorem head?_withReturns (hm : text.head? ≠ some '\uFEFF') :
    (withReturns text).head? ≠ some '\uFEFF' := by
  cases text with
  | nil => exact hm
  | cons c cs =>
    by_cases hc : c = '\n'
    · rw [hc]
      exact fun hmark => absurd (Option.some.inj hmark) (by decide)
    · simpa [withReturns, hc] using hm

end Text

namespace Workflow

variable {text text' : List Char}

theorem dropMark_of_head? (hm : text.head? ≠ some '\uFEFF') : dropMark text = text := by
  unfold dropMark
  split
  · exact absurd rfl hm
  · rfl

theorem parseAs_eq_ofPieces (stem : Option String) {pieces : List (List Char)}
    (h : Text.Separates '\n' text pieces) (hm : text.head? ≠ some '\uFEFF') :
    parseAs stem text = (Draft.ofPieces pieces).finish.identify stem := by
  rw [parseAs, dropMark_of_head? hm, Text.lines_eq_of_separates h]
  rfl

/-- Spaces and tabs around a line say nothing. -/
theorem parseAs_of_pads (stem : Option String) (h : Text.Pads text text')
    (hm : text.head? ≠ some '\uFEFF') : parseAs stem text' = parseAs stem text := by
  have hm' := h.head? hm
  cases h with
  | intro before line front back after pieces pieces' blank outside =>
    have hblank : ∀ c ∈ front ++ back, Text.isBlank c = true := fun c hc => by
      rcases blank c hc with rfl | rfl <;> decide
    have htrim : Text.trim (front ++ (line ++ back)) = Text.trim line :=
      Text.trim_pad (fun c hc => hblank c (List.mem_append_left back hc))
        (fun c hc => hblank c (List.mem_append_right front hc)) line
    rw [parseAs_eq_ofPieces stem pieces' hm', parseAs_eq_ofPieces stem pieces hm,
      Draft.ofPieces_congr htrim outside]

/-- Blank lines say nothing, but they count. -/
theorem unnumbered_parseAs_of_spaced (stem : Option String) (h : Text.Spaced text text')
    (hm : text.head? ≠ some '\uFEFF') :
    (parseAs stem text').unnumbered = (parseAs stem text).unnumbered := by
  have hm' := h.head? hm
  cases h with
  | intro before blanks after pieces pieces' behind blank outside =>
    have hblank : ∀ line ∈ blanks, Text.trim line = [] := fun line hline =>
      Text.trims_iff.1 ⟨line, [], by simp, blank line hline, by simp, by simp [Text.Bare]⟩
    rw [parseAs_eq_ofPieces stem pieces' hm', parseAs_eq_ofPieces stem pieces hm,
      unnumbered_identify, (Draft.same_ofPieces behind outside hblank).finish,
      ← unnumbered_identify]

/-- **Layout says nothing.**  A document that has no carriage returns and no byte order mark in
front gives the same workflow with a carriage return before every line feed, with a byte order
mark, and with spaces and tabs around any lines that are not inside a block of code.  With
blank lines more, anywhere but in blocks of code and before the first line, no more than the
numbers of lines in warnings can be others. -/
theorem parseAs_layout (stem : Option String) (hr : '\r' ∉ text)
    (hm : text.head? ≠ some '\uFEFF') :
    parseAs stem (Text.withReturns text) = parseAs stem text ∧
    parseAs stem ('\uFEFF' :: text) = parseAs stem text ∧
    (∀ text', Relation.ReflTransGen Text.Pads text text' →
      parseAs stem text' = parseAs stem text) ∧
    ∀ text', Relation.ReflTransGen Text.Spaced text text' →
      (parseAs stem text').unnumbered = (parseAs stem text).unnumbered := by
  refine ⟨?_, ?_, fun text' h => ?_, fun text' h => ?_⟩
  · have hm' := Text.head?_withReturns hm
    rw [parseAs, parseAs, dropMark_of_head? hm, dropMark_of_head? hm', Text.lines_withReturns hr]
  · rw [parseAs, parseAs, dropMark_of_head? hm]
    rfl
  · -- Each edit leaves the workflow, and a text to which the next can be made.
    suffices hread : text'.head? ≠ some '\uFEFF' ∧ parseAs stem text' = parseAs stem text from
      hread.2
    induction h with
    | refl => exact ⟨hm, rfl⟩
    | tail _ hstep ih =>
      exact ⟨hstep.head? ih.1, (parseAs_of_pads stem hstep ih.1).trans ih.2⟩
  · suffices hread : text'.head? ≠ some '\uFEFF' ∧
        (parseAs stem text').unnumbered = (parseAs stem text).unnumbered from hread.2
    induction h with
    | refl => exact ⟨hm, rfl⟩
    | tail _ hstep ih =>
      exact ⟨hstep.head? ih.1, (unnumbered_parseAs_of_spaced stem hstep ih.1).trans ih.2⟩

/-- Metadata, a block of code and a warning. -/
def laidOut : List Char := "---\nid: x\n---\n### a\n```\n go\n```\nTimeout: 0".toList

theorem parseAs_layout_sample :
    parseAs none (Text.withReturns laidOut) = parseAs none laidOut ∧
    parseAs none ('\uFEFF' :: laidOut) = parseAs none laidOut ∧
    parseAs none "---\nid: x\n---\n### a\n\t```\n go\n``` \nTimeout: 0".toList
      = parseAs none laidOut ∧
    (parseAs none "---\n\nid: x\n---\n### a\n```\n go\n```\n\n \nTimeout: 0".toList).unnumbered
      = (parseAs none laidOut).unnumbered := by
  obtain ⟨hreturns, hmark, hpads, hspaced⟩ :=
    @parseAs_layout laidOut none (by decide) (by decide)
  refine ⟨hreturns, hmark, hpads _ ?_, hspaced _ ?_⟩
  · -- The opening fence first, then the closing one.
    have hopening : Text.Pads laidOut
        "---\nid: x\n---\n### a\n\t```\n go\n```\nTimeout: 0".toList :=
      .intro (["---", "id: x", "---", "### a"].map String.toList) "```".toList ['\t'] []
        ([" go", "```", "Timeout: 0"].map String.toList) (Text.separates_iff.2 (by decide))
        (Text.separates_iff.2 (by decide)) (by simp) fun _ => by decide
    refine .tail (.single hopening) ?_
    exact .intro (["---", "id: x", "---", "### a", "\t```", " go"].map String.toList)
      "```".toList [] [' '] ["Timeout: 0".toList] (Text.separates_iff.2 (by decide))
      (Text.separates_iff.2 (by decide)) (by simp) fun _ => by decide
  · have hmetadata : Text.Spaced laidOut
        "---\n\nid: x\n---\n### a\n```\n go\n```\nTimeout: 0".toList :=
      .intro ["---".toList] [[]]
        (["id: x", "---", "### a", "```", " go", "```", "Timeout: 0"].map String.toList)
        (Text.separates_iff.2 (by decide)) (Text.separates_iff.2 (by decide))
        (by decide) (by simp) (by decide)
    refine .tail (.single hmetadata) ?_
    exact .intro
      (["---", "", "id: x", "---", "### a", "```", " go", "```"].map String.toList)
      [[], [' ']] ["Timeout: 0".toList]
      (Text.separates_iff.2 (by decide)) (Text.separates_iff.2 (by decide))
      (by decide)
      (List.forall_mem_cons.2
        ⟨by simp, List.forall_mem_singleton.2 (List.forall_mem_singleton.2 rfl)⟩)
      (by decide)

end Workflow
end Runbook
