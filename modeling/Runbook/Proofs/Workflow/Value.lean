/-
# What is kept of the value of a property line

`Key: value`, with one of these keys in any case, sets a parameter of the open task.

| key                      | parameter |
|--------------------------|-----------|
| `target`                 | `target`  |
| `command`                | `command` |
| `tool`                   | `tool`    |
| `params` or `parameters` | `options` |
| `schema`                 | `schema`  |

The parameter is read from the value, of which the blanks around it are dropped, and then
one quote at either end (`Property.Keeps`).  Nothing else is dropped from a value that does
not start with a bold mark; from one that does, the bold marks in front are dropped too, and
that although its key has none (`Workflow.parseAs_parameter`).
-/

import Runbook.Proofs.Text.Trim
import Runbook.Proofs.Workflow.Scan

namespace Runbook

namespace Text

/-- Texts of ASCII go to lower case letter by letter. -/
theorem lower_ascii {cs : List Char} (h : ∀ c ∈ cs, c.toNat < 0x80) :
    lower cs = cs.map Char.toLower := by
  have hfrom : ∀ before, lowerFrom before cs = cs.map Char.toLower := by
    induction cs with
    | nil => exact fun _ => rfl
    | cons c cs ih =>
      intro before
      have hc : c.toNat < 0x80 := h c List.mem_cons_self
      have hsigma : ¬c.toNat = 0x3A3 := by omega
      rw [lowerFrom, if_neg hsigma, lowerChar_ascii hc,
        ih (fun d hd => h d (List.mem_cons_of_mem c hd)), List.singleton_append, List.map_cons]
  exact hfrom []

end Text

namespace Property

/-- One quote, or none where none stands. -/
def OneQuote (quote : List Char) (next : Option Char) : Prop :=
  (∃ q, isQuote q = true ∧ quote = [q]) ∨ quote = [] ∧ ∀ c ∈ next, isQuote c = false

theorem dropQuote_eq_iff {cs rest : List Char} :
    dropQuote cs = rest ↔ ∃ quote, cs = quote ++ rest ∧ OneQuote quote rest.head? := by
  constructor
  · rintro rfl
    cases cs with
    | nil => exact ⟨[], rfl, Or.inr ⟨rfl, fun c hc => nomatch hc⟩⟩
    | cons c cs =>
      by_cases hc : isQuote c = true
      · exact ⟨[c], by simp [dropQuote, hc], Or.inl ⟨c, hc, rfl⟩⟩
      · have hkeep : dropQuote (c :: cs) = c :: cs := if_neg hc
        rw [hkeep]
        refine ⟨[], rfl, Or.inr ⟨rfl, ?_⟩⟩
        rintro d ⟨⟩
        exact Bool.eq_false_iff.2 hc
  · rintro ⟨quote, rfl, ⟨q, hq, rfl⟩ | ⟨rfl, hnext⟩⟩
    · exact if_pos hq
    · cases rest with
      | nil => rfl
      | cons c rest => exact if_neg (by simp [hnext c rfl])

/-- What is kept is the text without one quote at either end. -/
def Unquotes (cs kept : List Char) : Prop :=
  ∃ opening closing, cs = opening ++ (kept ++ closing) ∧
    OneQuote opening (kept ++ closing).head? ∧ OneQuote closing kept.getLast?

theorem OneQuote.reverse {quote : List Char} {next : Option Char} (h : OneQuote quote next) :
    quote.reverse = quote := by
  obtain ⟨q, -, rfl⟩ | ⟨rfl, -⟩ := h <;> rfl

theorem unquotes_iff {cs kept : List Char} : Unquotes cs kept ↔ unquote cs = kept := by
  rw [unquote, List.reverse_eq_iff, dropQuote_eq_iff, List.head?_reverse]
  constructor
  · rintro ⟨opening, closing, heq, hopening, hclosing⟩
    refine ⟨closing, ?_, hclosing⟩
    rw [dropQuote_eq_iff.2 ⟨opening, heq, hopening⟩, List.reverse_append, hclosing.reverse]
  · rintro ⟨closing, heq, hclosing⟩
    rw [← hclosing.reverse, ← List.reverse_append, List.reverse_inj] at heq
    obtain ⟨opening, hcs, hopening⟩ := dropQuote_eq_iff.1 heq
    exact ⟨opening, closing, hcs, hopening, hclosing⟩

/-- What is to be kept of a value: all of it but the blanks around it and then one quote at
either end. -/
def Keeps (value kept : List Char) : Prop := ∃ inner, Text.Trims value inner ∧ Unquotes inner kept

/-- Of each value one text is kept. -/
theorem keeps_iff {value kept : List Char} :
    Keeps value kept ↔ unquote (Text.trim value) = kept := by
  constructor
  · rintro ⟨inner, htrims, hunquotes⟩
    rw [htrims.trim, unquotes_iff.1 hunquotes]
  · exact fun h => ⟨_, Text.trims_trim value, unquotes_iff.2 h⟩

/-! ### Bold marks -/

theorem dropBold_eq_self {cs : List Char} (h : ¬"**".toList <+: cs) : dropBold cs = cs := by
  unfold dropBold
  split
  · rename_i rest
    exact absurd ⟨rest, rfl⟩ h
  · rfl

theorem dropBold_stars (n : Nat) {rest : List Char} (h : ¬"**".toList <+: rest) :
    dropBold (List.replicate (2 * n) '*' ++ rest) = rest := by
  induction n with
  | zero => exact dropBold_eq_self h
  | succ n ih => exact ih

/-- A text is a run of bold marks and a rest with none in front. -/
theorem exists_stars (cs : List Char) :
    ∃ n rest, cs = List.replicate (2 * n) '*' ++ rest ∧ ¬"**".toList <+: rest := by
  induction cs using dropBold.induct with
  | case1 cs ih =>
    obtain ⟨n, rest, rfl, hrest⟩ := ih
    exact ⟨n + 1, rest, rfl, hrest⟩
  | case2 cs h =>
    refine ⟨0, cs, rfl, ?_⟩
    rintro ⟨rest, rfl⟩
    exact h rest rfl

/-- The value of a line is what is to be kept of the part behind its bold marks. -/
theorem keeps_valueOf {value rest : List Char} {n : Nat}
    (hvalue : Text.trimStart value = List.replicate (2 * n) '*' ++ rest)
    (hrest : ¬"**".toList <+: rest) : Keeps rest (valueOf value) := by
  have hstars : ∀ c ∈ (List.replicate (2 * n) '*').getLast?, Text.isBlank c = false := by
    intro c hc
    rw [List.eq_of_mem_replicate (List.mem_of_getLast? hc)]
    decide
  have hbehind : ¬"**".toList <+: Text.trimEnd rest := fun h =>
    hrest (h.trans ⟨_, Text.trimEnd_append rest⟩)
  have htrim : Text.trim value = List.replicate (2 * n) '*' ++ Text.trimEnd rest := by
    rw [Text.trim, hvalue, Text.trimEnd_append_of_getLast? hstars]
  rw [keeps_iff, valueOf, htrim, dropBold_stars n hbehind, Text.trim_trimEnd]

/-! ### Property lines -/

/-- The keys of parameters, each with the name of its parameter. -/
def parameterKeys : List (String × String) :=
  [("target", "target"), ("command", "command"), ("tool", "tool"), ("params", "options"),
   ("parameters", "options"), ("schema", "schema")]

/-- A key of a parameter sets that one. -/
theorem ofKey?_parameterKeys : ∀ k ∈ parameterKeys, ∃ p, ofKey? k.1 = some p ∧
    ∀ value t, p.apply value t = t.withParameter k.2 (.ofText value) ∧
      p.isZeroTimeout value = false := by
  intro k hk
  simp only [parameterKeys, List.mem_cons, List.not_mem_nil, or_false] at hk
  rcases hk with rfl | rfl | rfl | rfl | rfl | rfl
  · exact ⟨.target, by decide, fun value t => ⟨rfl, rfl⟩⟩
  · exact ⟨.command, by decide, fun value t => ⟨rfl, rfl⟩⟩
  · exact ⟨.tool, by decide, fun value t => ⟨rfl, rfl⟩⟩
  · exact ⟨.options, by decide, fun value t => ⟨rfl, rfl⟩⟩
  · exact ⟨.options, by decide, fun value t => ⟨rfl, rfl⟩⟩
  · exact ⟨.schema, by decide, fun value t => ⟨rfl, rfl⟩⟩

theorem isLower_parameterKeys :
    ∀ k ∈ parameterKeys, k.1.toList ≠ [] ∧ ∀ c ∈ k.1.toList, c.isLower = true := by
  simp only [← List.all_eq_true]
  decide

/-- A word of ASCII letters. -/
def Word (cs : List Char) : Prop := cs ≠ [] ∧ ∀ c ∈ cs, c.isAlpha = true

/-- The codes of the letters. -/
theorem toNat_of_isAlpha {c : Char} (h : c.isAlpha = true) :
    65 ≤ c.toNat ∧ c.toNat ≤ 90 ∨ 97 ≤ c.toNat ∧ c.toNat ≤ 122 := by
  have hcodes : (decide (c.val ≥ 'A'.val ∧ c.val ≤ 'Z'.val) ||
      (decide (c.val ≥ 'a'.val) && decide (c.val ≤ 'z'.val))) = true := h
  simp only [Bool.or_eq_true, Bool.and_eq_true, decide_eq_true_eq, ge_iff_le,
    UInt32.le_iff_toNat_le] at hcodes
  exact hcodes

theorem isBlank_of_isAlpha {c : Char} (h : c.isAlpha = true) : Text.isBlank c = false := by
  have hcode := toNat_of_isAlpha h
  simp only [Text.isBlank, Text.inRanges, Text.blankRanges, List.any_cons, List.any_nil,
    Bool.or_eq_false_iff, Bool.and_eq_false_iff, decide_eq_false_iff_not, and_true]
  omega

theorem isAlpha_of_isLower_toLower {c : Char} (h : c.toLower.isLower = true) :
    c.isAlpha = true := by
  show (c.isUpper || c.isLower) = true
  rw [Bool.or_eq_true]
  unfold Char.toLower at h
  split at h
  · rename_i hupper
    exact Or.inl (decide_eq_true hupper)
  · exact Or.inr h

/-- The key of a parameter is a word, in whichever case it is written. -/
theorem word_of_parameterKeys {key : List Char} {parameter : String}
    (h : (String.ofList (key.map Char.toLower), parameter) ∈ parameterKeys) : Word key := by
  obtain ⟨hne, hlower⟩ := isLower_parameterKeys _ h
  rw [String.toList_ofList] at hne hlower
  exact ⟨fun hnil => hne (List.map_eq_nil_iff.2 hnil), fun c hc =>
    isAlpha_of_isLower_toLower (hlower _ (List.mem_map_of_mem hc))⟩

namespace Word

variable {key : List Char}

theorem not_mem (h : Word key) {c : Char} (hc : c.isAlpha = false) : c ∉ key := fun hmem =>
  Bool.false_ne_true (hc.symm.trans (h.2 c hmem))

/-- A word has no blanks to trim. -/
theorem trim (h : Word key) : Text.trim key = key :=
  Text.trims_iff.1 ⟨[], [], by simp, by simp, by simp,
    fun c hc => isBlank_of_isAlpha (h.2 c (List.mem_of_mem_head? hc)),
    fun c hc => isBlank_of_isAlpha (h.2 c (List.mem_of_getLast? hc))⟩

theorem trimStart_append (h : Word key) (rest : List Char) :
    Text.trimStart (key ++ rest) = key ++ rest := by
  refine Text.trimStart_eq_self fun c hc => isBlank_of_isAlpha (h.2 c ?_)
  rw [List.head?_append, List.head?_eq_some_head h.1, Option.some_or] at hc
  exact Option.some.inj hc ▸ List.head_mem h.1

/-- A word has no bold marks around it. -/
theorem stripChar (h : Word key) : Text.stripChar '*' key = key := by
  have hkeep : ∀ cs : List Char, (∀ c ∈ cs, c ∈ key) → cs.dropWhile (· == '*') = cs := by
    intro cs hcs
    cases cs with
    | nil => rfl
    | cons c cs =>
      have hc : c ≠ '*' := by
        rintro rfl
        exact h.not_mem (by decide) (hcs _ List.mem_cons_self)
      exact List.dropWhile_cons_of_neg (by simpa using hc)
  rw [Text.stripChar, hkeep key fun _ hc => hc, hkeep _ fun _ hc => List.mem_reverse.1 hc,
    List.reverse_reverse]

theorem keyOf (h : Word key) : Property.keyOf key = key.map Char.toLower := by
  have hascii : ∀ c ∈ key, c.toNat < 0x80 := by
    intro c hc
    have hcode := toNat_of_isAlpha (h.2 c hc)
    omega
  rw [Property.keyOf, h.trim, h.stripChar, h.trim, Text.lower_ascii hascii]

/-- A line that starts with a word does not start with anything else. -/
theorem dropStart?_eq_none (h : Word key) {s : Char} (hs : s.isAlpha = false)
    (start rest : List Char) : Text.dropStart? (s :: start) (key ++ rest) = none := by
  obtain ⟨c, cs, rfl⟩ := List.exists_cons_of_ne_nil h.1
  have hne : s ≠ c := by
    rintro rfl
    exact h.not_mem hs List.mem_cons_self
  exact if_neg hne

/-- **A word, a colon and a value are a property line.** -/
theorem read (h : Word key) (v : List Char) :
    Line.read (key ++ ':' :: v) = .property (key.map Char.toLower) (valueOf v) := by
  have hfence : Text.startsWith Line.fenceMark (key ++ ':' :: v) = false := by
    rw [Text.startsWith, Line.fenceMark, show "```".toList = ['`', '`', '`'] from rfl,
      h.dropStart?_eq_none (by decide)]
    rfl
  have hbold : Line.boldTask? (key ++ ':' :: v) = none := by
    rw [Line.boldTask?, show "- **".toList = ['-', ' ', '*', '*'] from rfl,
      h.dropStart?_eq_none (by decide)]
    rfl
  have hbullet : dropBullet (key ++ ':' :: v) = key ++ ':' :: v := by
    rw [dropBullet, show "- ".toList = ['-', ' '] from rfl, show "* ".toList = ['*', ' '] from rfl,
      h.dropStart?_eq_none (by decide), h.dropStart?_eq_none (by decide)]
    rfl
  have hsplit : split? (key ++ ':' :: v) = some (key.map Char.toLower, valueOf v) := by
    have hfirst : Text.splitFirst ':' (key ++ ':' :: v) = some (key, v) :=
      Text.splitFirst_eq_some_iff.2 ⟨h.not_mem (by decide), rfl⟩
    have hne : (key.map Char.toLower).isEmpty = false := by
      rw [List.isEmpty_eq_false_iff, Ne, List.map_eq_nil_iff]
      exact h.1
    rw [split?, hbullet, h.trimStart_append, hfirst]
    simp only [Option.bind_eq_bind, Option.bind_some, h.keyOf, hne, Bool.false_eq_true, if_false]
  rw [Line.read, hfence, show "# ".toList = ['#', ' '] from rfl,
    show "## ".toList = ['#', '#', ' '] from rfl,
    show "### ".toList = ['#', '#', '#', ' '] from rfl,
    h.dropStart?_eq_none (by decide), h.dropStart?_eq_none (by decide),
    h.dropStart?_eq_none (by decide), hbold, hsplit]
  rfl

/-- A property line can be indented. -/
theorem trim_line (h : Word key) {indent : List Char}
    (hindent : ∀ c ∈ indent, Text.isBlank c = true) (v : List Char) :
    Text.trim (indent ++ (key ++ ':' :: v)) = key ++ ':' :: Text.trimEnd v := by
  have hcolon : ∀ c ∈ (key ++ [':']).getLast?, Text.isBlank c = false := by
    rw [List.getLast?_concat]
    rintro c ⟨⟩
    decide
  have hstart : Text.trimStart (indent ++ (key ++ ':' :: v)) = key ++ ':' :: v :=
    (List.dropWhile_append_of_pos hindent).trans (h.trimStart_append _)
  rw [Text.trim, hstart, List.append_cons, Text.trimEnd_append_of_getLast? hcolon,
    List.append_assoc, List.singleton_append]

end Word

end Property

/-- **A line in the body that gives a parameter a value sets it on the open task.** -/
theorem Draft.addLine_parameter {d : Draft} {t : Task} (hbody : d.part = .body)
    (hopen : d.openTask = some t) (number : Nat) {indent key : List Char} {parameter : String}
    (hindent : ∀ c ∈ indent, Text.isBlank c = true)
    (hkey : (String.ofList (key.map Char.toLower), parameter) ∈ Property.parameterKeys)
    (v : List Char) :
    d.addLine number (indent ++ (key ++ ':' :: v))
      = { d with openTask := some (t.withParameter parameter (.ofText (Property.valueOf v))) } := by
  have hword := Property.word_of_parameterKeys hkey
  have hvalue : Property.valueOf (Text.trimEnd v) = Property.valueOf v := by
    rw [Property.valueOf, Text.trim_trimEnd, Property.valueOf]
  have hline : Line.read (Text.trim (indent ++ (key ++ ':' :: v)))
      = .property (key.map Char.toLower) (Property.valueOf v) := by
    rw [hword.trim_line hindent, hword.read, hvalue]
  obtain ⟨p, hp, happly⟩ := Property.ofKey?_parameterKeys _ hkey
  obtain ⟨hset, hzero⟩ := happly (Property.valueOf v) t
  rw [addLine_property hbody number hline, setProperty_of_open hp hopen hzero, hset]

namespace Workflow

variable {text v indent key : List Char} {before after : List (List Char)}
  {t : Task} {parameter : String}

/-- **What is kept of a value that sets a parameter.**  The line is one of the body and
stands in an open task, its key is that of a parameter.  Of a value that does not start with
a bold mark all is kept but the blanks around it and one quote at either end; bold marks in
front of a value are dropped before. -/
theorem parseAs_parameter (stem : Option String)
    (hlines : Text.lines (dropMark text) = before ++ (indent ++ (key ++ ':' :: v)) :: after)
    (hbody : Region.body.after 1 before = .body)
    (hopen : (({} : Draft).addLines 1 before).openTask = some t)
    (hindent : ∀ c ∈ indent, Text.isBlank c = true)
    (hkey : (String.ofList (key.map Char.toLower), parameter) ∈ Property.parameterKeys) :
    ∃ n rest kept, Text.trimStart v = List.replicate (2 * n) '*' ++ rest ∧
      ¬"**".toList <+: rest ∧ Property.Keeps rest kept ∧
      (¬"**".toList <+: Text.trimStart v → Property.Keeps v kept) ∧
      parseAs stem text
        = (({ ({} : Draft).addLines 1 before with
              openTask := some (t.withParameter parameter (.ofText kept)) }).addLines
            (before.length + 2) after).finish.identify stem := by
  obtain ⟨n, rest, hvalue, hrest⟩ := Property.exists_stars (Text.trimStart v)
  have hpart : (({} : Draft).addLines 1 before).part = .body :=
    Section.region_eq_body.1 ((Draft.region_addLines {} 1 before).trans hbody)
  refine ⟨n, rest, Property.valueOf v, hvalue, hrest, Property.keeps_valueOf hvalue hrest,
    fun hplain => ?_, ?_⟩
  · have hkeeps : Property.Keeps (Text.trimStart v) (Property.valueOf v) :=
      Property.keeps_valueOf (n := 0) rfl hplain
    rwa [Property.keeps_iff, Text.trim_trimStart, ← Property.keeps_iff] at hkeeps
  · rw [parseAs, hlines, Draft.addLines_append, Draft.addLines,
      Draft.addLine_parameter hpart hopen _ hindent hkey,
      show 1 + before.length + 1 = before.length + 2 by omega]

/-- Colons, asterisks and quotes within a value are kept. -/
theorem parseAs_parameter_sample :
    ∃ t, (({} : Draft).addLines 1 ["# W".toList, "### Do Things".toList]).openTask = some t ∧
      Property.Keeps " \t\"a: *b* 'c'\" ".toList "a: *b* 'c'".toList ∧
      parseAs none "# W\n### Do Things\n  TARGET: \t\"a: *b* 'c'\" \nTool: x".toList
        = (({ ({} : Draft).addLines 1 ["# W".toList, "### Do Things".toList] with
              openTask := some (t.withParameter "target" (.ofText "a: *b* 'c'".toList)) }).addLines
            4 ["Tool: x".toList]).finish.identify none := by
  obtain ⟨t, hopen⟩ := Option.isSome_iff_exists.1
    (show (({} : Draft).addLines 1 ["# W".toList, "### Do Things".toList]).openTask.isSome = true by
      decide +kernel)
  have hlines : Text.lines
      (dropMark "# W\n### Do Things\n  TARGET: \t\"a: *b* 'c'\" \nTool: x".toList)
        = ["# W".toList, "### Do Things".toList]
          ++ ("  ".toList ++ ("TARGET".toList ++ ':' :: " \t\"a: *b* 'c'\" ".toList))
            :: ["Tool: x".toList] := by
    decide +kernel
  have hkey : (String.ofList ("TARGET".toList.map Char.toLower), "target")
      ∈ Property.parameterKeys := by
    decide +kernel
  have hindent : ∀ c ∈ "  ".toList, Text.isBlank c = true := List.all_eq_true.1 (by decide +kernel)
  obtain ⟨-, -, kept, -, -, -, hplain, hparse⟩ :=
    parseAs_parameter none hlines (by decide +kernel) hopen hindent hkey
  have hkeeps := hplain (by decide +kernel)
  have hkept : kept = "a: *b* 'c'".toList :=
    (Property.keeps_iff.1 hkeeps).symm.trans (by decide +kernel)
  subst hkept
  exact ⟨t, hopen, hkeeps, hparse⟩

/-- A pattern loses the asterisks in front, though nothing is bold here. -/
theorem glob_loses_stars :
    Property.Keeps " **/*.log".toList "**/*.log".toList ∧
      (parse "# T\n## Ph\n### Job One\nTarget: **/*.log\n".toList).tasks.map
        (fun t => t.parameters.get? "target") = [some (.literal "/*.log")] := by
  refine ⟨Property.keeps_iff.2 ?_, ?_⟩ <;> decide +kernel

end Workflow
end Runbook
