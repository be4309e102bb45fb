/-
# Which keyword decides

A text with a keyword of one kind, and with words of other kinds at most within that
keyword, speaks of that kind, except for `report` (`WorkerKind.detect_of_claims`):

| the keyword   | the words of other kinds in it | the text speaks of |
|---------------|--------------------------------|--------------------|
| `report`      | `port`, which is tried before  | a scan             |
| all others    | none                           | their own kind     |

The worker of a task is that of its name wherever the name has a keyword
(`Workflow.inferred_parseAs`), so a task called `Report` goes to the scan worker.
-/

import Mathlib.Data.List.Infix
import Runbook.Proofs.Workflow.Tasks

namespace Runbook

namespace Text

theorem startsWith_iff {start cs : List Char} : startsWith start cs ↔ start <+: cs := by
  rw [startsWith, Option.isSome_iff_exists]
  exact exists_congr fun _ => dropStart?_eq_some_iff.trans eq_comm

/-- A text has a word in it where the word starts one of its ends. -/
theorem contains_iff {word cs : List Char} : contains word cs ↔ word <:+: cs := by
  induction cs with
  | nil => rw [contains, List.isEmpty_iff, List.infix_nil]
  | cons c cs ih =>
    rw [contains, Bool.or_eq_true, ih, startsWith_iff, List.infix_cons_iff]

/-- The places at which a word stands in a text. -/
def places (word cs : List Char) : List Nat :=
  (List.range cs.length).filter fun i => startsWith word (cs.drop i)

theorem prefix_of_mem_places {word cs : List Char} {i : Nat} (h : i ∈ places word cs) :
    word <+: cs.drop i := startsWith_iff.1 (List.mem_filter.1 h).2

theorem infix_of_mem_places {word cs : List Char} {i : Nat} (h : i ∈ places word cs) :
    word <:+: cs :=
  (prefix_of_mem_places h).isInfix.trans (List.drop_suffix i cs).isInfix

theorem exists_mem_places {word cs : List Char} (hne : word ≠ []) (h : word <:+: cs) :
    ∃ i, i ∈ places word cs := by
  obtain ⟨front, rest, rfl⟩ := h
  have hpos := List.length_pos_iff.2 hne
  refine ⟨front.length, List.mem_filter.2 ⟨List.mem_range.2 ?_, startsWith_iff.2 ?_⟩⟩
  · simp only [List.length_append]
    omega
  · rw [List.append_assoc, List.drop_left]
    exact List.prefix_append word rest

/-- A word that stands within another one is a part of that. -/
theorem infix_of_within {word other cs : List Char} {i j : Nat} (hword : word <+: cs.drop j)
    (hother : other <+: cs.drop i) (hstart : j ≤ i)
    (hend : i + other.length ≤ j + word.length) : other <:+: word := by
  have hrest : word.drop (i - j) <+: cs.drop i := by
    have h := hword.drop (i - j)
    rwa [List.drop_drop, Nat.add_sub_cancel' hstart] at h
  have hlength : other.length ≤ (word.drop (i - j)).length := by
    rw [List.length_drop]
    omega
  exact (List.prefix_of_prefix_length_le hother hrest hlength).isInfix.trans
    (List.drop_suffix _ _).isInfix

end Text

namespace WorkerKind

/-- A word of a kind claims a text: in lower case the text has the word in it, and each
word of another kind that stands in the text stands within that word. -/
def Claims (kind : WorkerKind) (word : String) (text : List Char) : Prop :=
  Text.places word.toList (Text.lower text) ≠ [] ∧
    ∀ g ∈ keywords, g.1 ≠ kind → ∀ other ∈ g.2,
      ∀ i ∈ Text.places other.toList (Text.lower text),
        ∃ j ∈ Text.places word.toList (Text.lower text),
          j ≤ i ∧ i + other.length ≤ j + word.length

instance (kind : WorkerKind) (word : String) (text : List Char) :
    Decidable (Claims kind word text) := inferInstanceAs (Decidable (_ ∧ _))

/-- No keyword has one of another kind in it, except that `report` has `port`. -/
theorem report_of_part : ∀ g ∈ keywords, ∀ word ∈ g.2, ∀ g' ∈ keywords, g'.1 ≠ g.1 →
    ∀ other ∈ g'.2, other.toList <:+: word.toList →
      g.1 = .report ∧ word = "report" ∧ g'.1 = .scan := by
  decide

/-- No keyword is empty. -/
theorem ne_nil_of_mem_keywords : ∀ g ∈ keywords, ∀ word ∈ g.2, word.toList ≠ [] := by
  decide

/-- Whether a text has a word of a group in it. -/
def speaksOf (text : List Char) (g : WorkerKind × List String) : Bool :=
  g.2.any fun word => Text.contains word.toList (Text.lower text)

theorem speaksOf_iff {text : List Char} {g : WorkerKind × List String} :
    speaksOf text g ↔ ∃ word ∈ g.2, word.toList <:+: Text.lower text := by
  rw [speaksOf, List.any_eq_true]
  exact exists_congr fun _ => and_congr_right fun _ => Text.contains_iff

theorem detect_eq (text : List Char) :
    detect text = ((keywords.find? (speaksOf text)).map (·.1)).getD .general := rfl

section

variable {kind : WorkerKind} {words : List String} {word : String} {text : List Char}

/-- The text speaks of the group of the word. -/
theorem Claims.speaksOf (h : Claims kind word text) (hw : word ∈ words) :
    speaksOf text (kind, words) := by
  obtain ⟨i, hi⟩ := List.exists_mem_of_ne_nil _ h.1
  exact speaksOf_iff.2 ⟨word, hw, Text.infix_of_mem_places hi⟩

/-- It speaks of no other group, unless a word of that is part of the word. -/
theorem Claims.eq_or_report (h : Claims kind word text) (hg : (kind, words) ∈ keywords)
    (hw : word ∈ words) {g : WorkerKind × List String} (hg' : g ∈ keywords)
    (hspeaks : WorkerKind.speaksOf text g) :
    g.1 = kind ∨ kind = .report ∧ word = "report" ∧ g.1 = .scan := by
  by_cases hk : g.1 = kind
  · exact Or.inl hk
  obtain ⟨other, hother, hinfix⟩ := speaksOf_iff.1 hspeaks
  obtain ⟨i, hi⟩ := Text.exists_mem_places (ne_nil_of_mem_keywords g hg' other hother) hinfix
  obtain ⟨j, hj, hstart, hend⟩ := h.2 g hg' hk other hother i hi
  have hwithin : other.toList <:+: word.toList :=
    Text.infix_of_within (Text.prefix_of_mem_places hj) (Text.prefix_of_mem_places hi) hstart hend
  exact Or.inr (report_of_part (kind, words) hg word hw g hg' hk other hother hwithin)

/-- A word that is not `report` and claims a text decides its kind. -/
theorem Claims.detect (h : Claims kind word text) (hg : (kind, words) ∈ keywords)
    (hw : word ∈ words) (hne : word ≠ "report") : WorkerKind.detect text = kind := by
  rw [detect_eq]
  cases hfind : keywords.find? (WorkerKind.speaksOf text) with
  | none => exact absurd (h.speaksOf hw) (List.find?_eq_none.1 hfind _ hg)
  | some g =>
    obtain hk | ⟨-, hr, -⟩ := h.eq_or_report hg hw (List.mem_of_find?_eq_some hfind)
      (List.find?_some hfind)
    · exact hk
    · exact absurd hr hne

/-- A text that has `report` in it, and with it `port`, speaks of no report. -/
theorem Claims.detect_report (h : Claims .report "report" text) :
    WorkerKind.detect text = .scan := by
  have hmem : (WorkerKind.report, ["report", "document", "generate"]) ∈ keywords := by decide
  have hscan : WorkerKind.speaksOf text (.scan, ["scan", "enum", "port"]) := by
    obtain ⟨i, hi⟩ := List.exists_mem_of_ne_nil _ h.1
    have hport : "port".toList <:+: "report".toList := by decide
    exact speaksOf_iff.2 ⟨"port", by decide, hport.trans (Text.infix_of_mem_places hi)⟩
  have hsilent : ∀ g ∈ keywords, g.1 ≠ .report → g.1 ≠ .scan → ¬WorkerKind.speaksOf text g := by
    intro g hg hr hs hspeaks
    obtain hk | ⟨-, -, hk⟩ := h.eq_or_report hmem List.mem_cons_self hg hspeaks
    · exact hr hk
    · exact hs hk
  have hrecon : ¬WorkerKind.speaksOf text (.recon, ["recon", "reconnaissance", "discover"]) :=
    hsilent _ (by decide) (by decide) (by decide)
  have hexploit : ¬WorkerKind.speaksOf text (.exploit, ["exploit", "attack", "payload"]) :=
    hsilent _ (by decide) (by decide) (by decide)
  have hfind : keywords.find? (WorkerKind.speaksOf text) = some (.scan, ["scan", "enum", "port"]) :=
    (List.find?_cons_of_neg hrecon).trans <|
      (List.find?_cons_of_neg hexploit).trans (List.find?_cons_of_pos hscan)
  rw [detect_eq, hfind, Option.map_some, Option.getD_some]

end

/-- A name that speaks of a kind gives the kind of the task. -/
theorem ofTask_eq_detect {name : List Char} (h : detect name ≠ .general)
    (phase : Option (List Char)) : ofTask name phase = detect name := by
  unfold ofTask
  split
  · rename_i hgeneral
    exact absurd hgeneral h
  · rfl

end WorkerKind

/-- The worker of a task is the one that its name and its phase speak of. -/
def Task.Inferred (t : Task) : Prop :=
  t.worker = .ofTask t.name.toList (if t.phase = "default" then none else some t.phase.toList)

namespace Task

theorem inferred_newTask (phase : Option (List Char)) (name : List Char) :
    (Draft.newTask phase name).Inferred := by
  have hname : String.ofList Draft.defaultPhase = "default" := String.ofList_toList
  have hplace : String.ofList (phase.getD Draft.defaultPhase) = "default"
      ↔ phase.getD Draft.defaultPhase = Draft.defaultPhase := by
    rw [← hname, String.ofList_inj]
  simp only [Inferred, Draft.newTask, hplace, String.toList_ofList]

/-- No line changes the worker of a task. -/
theorem lasting_inferred : Lasting Inferred where
  newTask phase name _ _ := inferred_newTask phase name
  apply p value t h := by
    cases p with
    | timeout => simp only [Property.apply]; split <;> exact h
    | retries => simp only [Property.apply]; split <;> exact h
    | _ => exact h
  withCode _ _ h := h

end Task

/-- **The worker of each task of a document follows from its name and its phase.** -/
theorem Workflow.inferred_parseAs (stem : Option String) (text : List Char) :
    ∀ t ∈ (parseAs stem text).tasks, t.Inferred := Task.lasting_inferred.parseAs stem text

namespace WorkerKind

/-- **A keyword that claims a text decides its kind**, except that `report` makes it a scan.
A task of a document whose name is the text has a worker of that kind, in whichever phase
it is. -/
theorem detect_of_claims {kind : WorkerKind} {words : List String} {word : String}
    {text : List Char} (hg : (kind, words) ∈ keywords) (hw : word ∈ words)
    (h : Claims kind word text) :
    detect text = (if word = "report" then .scan else kind) ∧
      ∀ stem document, ∀ t ∈ (Workflow.parseAs stem document).tasks, t.name.toList = text →
        t.worker = if word = "report" then .scan else kind := by
  have hreport : ∀ g ∈ keywords, "report" ∈ g.2 → g.1 = .report := by decide
  have hspecial : ∀ g ∈ keywords, g.1 ≠ .general := by decide
  have hdetect : detect text = if word = "report" then .scan else kind := by
    by_cases hr : word = "report"
    · subst hr
      obtain rfl : kind = .report := hreport (kind, words) hg hw
      exact h.detect_report.trans (if_pos rfl).symm
    · rw [if_neg hr, h.detect hg hw hr]
  have hne : detect text ≠ .general := by
    rw [hdetect]
    split
    · decide
    · exact hspecial (kind, words) hg
  refine ⟨hdetect, fun stem document t ht hname => ?_⟩
  rw [Workflow.inferred_parseAs stem document t ht, hname, ofTask_eq_detect hne, hdetect]

/-- Two keywords of one kind that claim a text, in whatever case they are written, and only
one of which decides it. -/
theorem detect_of_claims_sample :
    (Claims .report "generate" "reGENERATE all".toList ∧
      detect "reGENERATE all".toList = .report) ∧
    Claims .report "report" "Quarterly REPORT, Report 2".toList ∧
      detect "Quarterly REPORT, Report 2".toList = .scan := by
  have hmem : (WorkerKind.report, ["report", "document", "generate"]) ∈ keywords := by decide
  have hgenerate : Claims .report "generate" "reGENERATE all".toList := by decide +kernel
  have hreport : Claims .report "report" "Quarterly REPORT, Report 2".toList := by decide +kernel
  exact ⟨⟨hgenerate, (detect_of_claims hmem (by decide) hgenerate).1⟩,
    hreport, (detect_of_claims hmem (by decide) hreport).1⟩

/-- A task called `Report`, with no other keyword in its name, has a worker for scans. -/
theorem report_taken_for_scan :
    (∃ words, (WorkerKind.report, words) ∈ keywords ∧ "report" ∈ words) ∧
      Claims .report "report" "Report".toList ∧ detect "Report".toList ≠ .report ∧
      (Workflow.parse "# Weekly\n## Summary\n### Report\n".toList).tasks.map
        (fun t => (t.name, t.worker)) = [("Report", .scan)] := by
  refine ⟨⟨["report", "document", "generate"], ?_, ?_⟩, ?_, ?_, ?_⟩ <;> decide +kernel

end WorkerKind
end Runbook
