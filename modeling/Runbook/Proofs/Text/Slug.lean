/-
# What a slug is made of

`Text.slug` is built character by character, looks at the last character it has written,
and is stripped at the end.  What comes out can be said without the loop.

| what stands in the text                      | what stands in the slug      |
|:---------------------------------------------|:-----------------------------|
| a maximal run of alphanumeric characters     | its characters in lower case |
| what stands between two runs                 | one `-`                      |
| what stands in front of the first run        | nothing                      |
| what stands behind the last                  | nothing                      |

`Runs` cuts a text into its runs, which can be done in one way (`exists_runs`, `Runs.unique`).
The loop writes the words of the runs with one `-` between any two, and may leave a `-` at
either end (`Runs.foldl_slugStep`), which is stripped.  No word holds a `-`
(`notMem_lowerChar`), although a character may have a lower-case form of several characters,
so the slug starts and ends with none and has no two of them side by side.
-/

import Mathlib.Data.List.Chain
import Mathlib.Data.List.Infix
import Mathlib.Data.List.TakeWhile
import Runbook.Path
import Runbook.Proofs.Text.Parts
import Runbook.Text.Slug
import Runbook.Workflow.Document

namespace Runbook

namespace Text

/-- The maximal runs of alphanumeric characters in a text, from its start on. -/
inductive Runs : List Char → List (List Char) → Prop
  | gap {gap : List Char} (hgap : ∀ c ∈ gap, isAlphanumeric c = false) : Runs gap []
  | run (gap : List Char) {run rest : List Char} {runs : List (List Char)}
      (hgap : ∀ c ∈ gap, isAlphanumeric c = false)
      (hne : run ≠ []) (hrun : ∀ c ∈ run, isAlphanumeric c = true)
      (hrest : ∀ c ∈ rest.head?, isAlphanumeric c = false) (h : Runs rest runs) :
      Runs (gap ++ (run ++ rest)) (run :: runs)

variable {cs gap run rest : List Char} {runs words : List (List Char)}

/-- Every text is made of runs. -/
theorem exists_runs (cs : List Char) : ∃ runs, Runs cs runs := by
  induction cs with
  | nil => exact ⟨[], .gap (by simp)⟩
  | cons c cs ih =>
    obtain ⟨runs, h⟩ := ih
    cases hc : isAlphanumeric c with
    | false =>
      -- One more character of the gap in front.
      cases h with
      | gap hgap => exact ⟨[], .gap (List.forall_mem_cons.2 ⟨hc, hgap⟩)⟩
      | run gap hgap hne hrun hrest h =>
        exact ⟨_, .run (c :: gap) (List.forall_mem_cons.2 ⟨hc, hgap⟩) hne hrun hrest h⟩
    | true =>
      have hone : ∀ x ∈ [c], isAlphanumeric x = true := by simpa using hc
      -- The character joins the run that starts behind it, or is one of its own.
      cases h with
      | gap hgap =>
        exact ⟨[[c]], .run [] (by simp) (by simp) hone
          (fun x hx => hgap x (List.mem_of_mem_head? hx)) (.gap hgap)⟩
      | @run gap run rest runs hgap hne hrun hrest h =>
        cases gap with
        | nil =>
          exact ⟨(c :: run) :: runs, .run [] (by simp) (by simp)
            (List.forall_mem_cons.2 ⟨hc, hrun⟩) hrest h⟩
        | cons x gap =>
          exact ⟨[c] :: run :: runs, .run [] (by simp) (by simp) hone
            (by simpa using hgap x List.mem_cons_self) (.run (x :: gap) hgap hne hrun hrest h)⟩

/-- A text is cut in one way where its characters stop having a property. -/
theorem append_inj_of_head? {p : Char → Bool} {a a' b b' : List Char} (ha : ∀ c ∈ a, p c = true)
    (hb : ∀ c ∈ b.head?, p c = false) (ha' : ∀ c ∈ a', p c = true)
    (hb' : ∀ c ∈ b'.head?, p c = false) (h : a ++ b = a' ++ b') : a = a' ∧ b = b' := by
  have hcut {a b : List Char} (ha : ∀ c ∈ a, p c = true) (hb : ∀ c ∈ b.head?, p c = false) :
      (a ++ b).takeWhile p = a := by
    have hnil : b.takeWhile p = [] := by
      cases b with
      | nil => rfl
      | cons c b => exact List.takeWhile_cons_of_neg (by simp [hb c rfl])
    rw [List.takeWhile_append_of_pos ha, hnil, List.append_nil]
  have heq : a = a' := by rw [← hcut ha hb, h, hcut ha' hb']
  subst heq
  exact ⟨rfl, List.append_cancel_left h⟩

/-- A run starts with an alphanumeric character, whatever stands behind it. -/
theorem head?_run (hne : run ≠ []) (hrun : ∀ c ∈ run, isAlphanumeric c = true) :
    ∀ c ∈ (run ++ rest).head?, isAlphanumeric c = true := by
  obtain ⟨x, run, rfl⟩ := List.exists_cons_of_ne_nil hne
  simpa using hrun x List.mem_cons_self

/-- And in one way only. -/
theorem Runs.unique {runs' : List (List Char)} (h : Runs cs runs) (h' : Runs cs runs') :
    runs = runs' := by
  induction h generalizing runs' with
  | gap hgap =>
    cases h' with
    | gap => rfl
    | run gap' _ hne hrun =>
      obtain ⟨x, hx⟩ := List.exists_mem_of_ne_nil _ hne
      have hno := hgap x (by simp [hx])
      rw [hrun x hx] at hno
      cases hno
  | @run gap run rest runs hgap hne hrun hrest _ ih =>
    generalize hcs : gap ++ (run ++ rest) = cs at h'
    cases h' with
    | gap hgap' =>
      obtain ⟨x, hx⟩ := List.exists_mem_of_ne_nil run hne
      have hno := hgap' x (by simp [← hcs, hx])
      rw [hrun x hx] at hno
      cases hno
    | run gap' hgap' hne' hrun' hrest' h' =>
      -- The gap ends where the first run starts, and the run where the rest does.
      obtain ⟨-, hcs⟩ := append_inj_of_head? (p := fun c => !isAlphanumeric c)
        (by simpa using hgap) (by simpa using head?_run hne hrun) (by simpa using hgap')
        (by simpa using head?_run hne' hrun') hcs
      obtain ⟨rfl, rfl⟩ := append_inj_of_head? hrun hrest hrun' hrest' hcs
      rw [ih h']

/-- A text has no run if it has no alphanumeric character. -/
theorem Runs.eq_nil_iff (h : Runs cs runs) :
    runs = [] ↔ ∀ c ∈ cs, isAlphanumeric c = false := by
  refine ⟨?_, fun hcs => h.unique (.gap hcs)⟩
  rintro rfl
  cases h with
  | gap hgap => exact hgap

/-! ### Words with a dash between any two -/

/-- A text that has no `-` at either end, and no two side by side. -/
structure Neat (cs : List Char) : Prop where
  start : cs.head? ≠ some '-'
  finish : cs.getLast? ≠ some '-'
  apart : cs.IsChain fun a b => ¬ (a = '-' ∧ b = '-')

/-- A text without a `-` has none in a wrong place. -/
theorem Neat.of_notMem (h : '-' ∉ cs) : Neat cs where
  start := fun hstart => h (List.mem_of_head? hstart)
  finish := fun hfinish => h (List.mem_of_getLast? hfinish)
  apart := by
    refine (List.pairwise_of_forall_mem_list fun a ha b _ => ?_).isChain
    rintro ⟨rfl, -⟩
    exact h ha

/-- One `-` between two texts is in a right place. -/
theorem Neat.join {a b : List Char} (ha : Neat a) (hb : Neat b) (hane : a ≠ []) (hbne : b ≠ []) :
    Neat (a ++ '-' :: b) := by
  obtain ⟨x, a, rfl⟩ := List.exists_cons_of_ne_nil hane
  obtain ⟨y, b, rfl⟩ := List.exists_cons_of_ne_nil hbne
  refine ⟨ha.start, ?_, ?_⟩
  · rw [List.getLast?_append_cons, List.getLast?_cons_cons]
    exact hb.finish
  · refine List.isChain_append.2 ⟨ha.apart, List.isChain_cons.2 ⟨?_, hb.apart⟩, ?_⟩
    · rintro c hc ⟨-, rfl⟩
      exact hb.start hc
    · rintro c hc _ - ⟨rfl, -⟩
      exact ha.finish hc

/-- Words with one `-` between any two. -/
def hyphenated (words : List (List Char)) : List Char := ['-'].intercalate words

@[simp]
theorem hyphenated_nil : hyphenated [] = [] := rfl

@[simp]
theorem hyphenated_singleton (word : List Char) : hyphenated [word] = word := by
  simp [hyphenated, List.intercalate]

theorem hyphenated_cons_cons (word next : List Char) (words : List (List Char)) :
    hyphenated (word :: next :: words) = word ++ '-' :: hyphenated (next :: words) := by
  simp [hyphenated, List.intercalate]

theorem hyphenated_eq_nil_iff (hne : ∀ word ∈ words, word ≠ []) :
    hyphenated words = [] ↔ words = [] := by
  match words with
  | [] => simp
  | [word] => simpa using hne word List.mem_cons_self
  | word :: next :: words => simp [hyphenated_cons_cons]

theorem neat_hyphenated (hne : ∀ word ∈ words, word ≠ []) (hfree : ∀ word ∈ words, '-' ∉ word) :
    Neat (hyphenated words) := by
  induction words with
  | nil => exact .of_notMem (by simp)
  | cons word words ih =>
    obtain ⟨hword, hwords⟩ := List.forall_mem_cons.1 hne
    obtain ⟨hwordFree, hwordsFree⟩ := List.forall_mem_cons.1 hfree
    cases words with
    | nil => rw [hyphenated_singleton]; exact .of_notMem hwordFree
    | cons next words =>
      rw [hyphenated_cons_cons]
      refine (Neat.of_notMem hwordFree).join (ih hwords hwordsFree) hword fun h => ?_
      exact List.cons_ne_nil _ _ ((hyphenated_eq_nil_iff hwords).1 h)

/-! ### The lower-case forms of characters -/

theorem lowerChar_ne_nil (c : Char) : lowerChar c ≠ [] := by
  unfold lowerChar
  split_ifs
  · simp
  · simp
  · split <;> simp

set_option maxRecDepth 2000 in
/-- Every run of upper-case letters has its lower-case letters behind `-`. -/
theorem lowerRuns_shift : ∀ r ∈ lowerRuns, 0x2D < (r.1 : Int) + r.2.2.2 := by decide

theorem notMem_ofNat {n : Nat} (h : 0x2D < n) : '-' ∉ [Char.ofNat n] := by
  rw [List.mem_singleton]
  intro hdash
  by_cases hvalid : n.isValidChar
  · have hof : Char.ofNat n = Char.ofNatAux n hvalid := dif_pos hvalid
    exact h.ne (congrArg Char.toNat (hdash.trans hof))
  · have hof : Char.ofNat n = '\x00' := dif_neg hvalid
    exact absurd (hdash.trans hof) (by decide)

/-- The lower-case form of an alphanumeric character holds no `-`. -/
theorem notMem_lowerChar {c : Char} (hc : isAlphanumeric c = true) : '-' ∉ lowerChar c := by
  unfold lowerChar
  split_ifs with hascii hdotted
  · rw [isAlphanumeric, if_pos hascii] at hc
    have hall : ∀ n : Fin 0x80, (Char.ofNat n).isAlphanum = true →
        '-' ≠ (Char.ofNat n).toLower := by decide
    have h := hall ⟨c.toNat, hascii⟩
    rw [Char.ofNat_toNat] at h
    simpa using h hc
  · decide
  · split
    · rename_i first last step shift hfind
      have hshift : (0x2D : Int) < first + shift :=
        lowerRuns_shift _ (List.mem_of_find?_eq_some hfind)
      have hfirst : first ≤ c.toNat := by
        have hcond := List.find?_some hfind
        simp only [Bool.and_eq_true, decide_eq_true_eq] at hcond
        exact hcond.1.1
      exact notMem_ofNat (by omega)
    · simp only [List.mem_singleton]
      rintro rfl
      exact hascii (by decide)

/-- The word of a run: its characters in lower case. -/
def lowerRun (run : List Char) : List Char := run.flatMap lowerChar

theorem lowerRun_ne_nil (hne : run ≠ []) : lowerRun run ≠ [] := by
  obtain ⟨c, run, rfl⟩ := List.exists_cons_of_ne_nil hne
  simp [lowerRun, lowerChar_ne_nil c]

theorem notMem_lowerRun (hrun : ∀ c ∈ run, isAlphanumeric c = true) : '-' ∉ lowerRun run := by
  intro h
  obtain ⟨c, hc, hdash⟩ := List.mem_flatMap.1 h
  exact notMem_lowerChar (hrun c hc) hdash

theorem Runs.words_lowerRun (h : Runs cs runs) :
    ∀ word ∈ runs.map lowerRun, word ≠ [] ∧ '-' ∉ word := by
  induction h with
  | gap => simp
  | run _ _ hne hrun _ _ ih =>
    exact List.forall_mem_cons.2 ⟨⟨lowerRun_ne_nil hne, notMem_lowerRun hrun⟩, ih⟩

/-! ### The loop -/

/-- Characters that are not alphanumeric write one `-`, unless one stands there already. -/
theorem foldl_slugStep_gap {s : List Char} (hgap : ∀ c ∈ gap, isAlphanumeric c = false)
    (hs : s.head? ≠ some '-') :
    gap.foldl slugStep s = if gap = [] then s else '-' :: s := by
  have hrest : ∀ gap : List Char, (∀ c ∈ gap, isAlphanumeric c = false) →
      gap.foldl slugStep ('-' :: s) = '-' :: s := by
    intro gap hgap
    induction gap with
    | nil => rfl
    | cons c gap ih =>
      obtain ⟨hc, hgap⟩ := List.forall_mem_cons.1 hgap
      rw [List.foldl_cons, show slugStep ('-' :: s) c = '-' :: s by simp [slugStep, hc]]
      exact ih hgap
  cases gap with
  | nil => rfl
  | cons c gap =>
    obtain ⟨hc, hgap⟩ := List.forall_mem_cons.1 hgap
    rw [List.foldl_cons, show slugStep s c = '-' :: s by simp [slugStep, hc, hs]]
    exact hrest gap hgap

/-- A run writes its word. -/
theorem foldl_slugStep_run (hrun : ∀ c ∈ run, isAlphanumeric c = true) (s : List Char) :
    run.foldl slugStep s = (lowerRun run).reverse ++ s := by
  induction run generalizing s with
  | nil => rfl
  | cons c run ih =>
    obtain ⟨hc, hrun⟩ := List.forall_mem_cons.1 hrun
    rw [List.foldl_cons, ih hrun]
    simp [slugStep, hc, lowerRun]

/-- The loop writes the words of the runs with one `-` between any two.  It may write a `-` at
either end too, and writes one in front of the words if the text does not start with a run. -/
theorem Runs.foldl_slugStep (h : Runs cs runs) {s : List Char} (hs : s.head? ≠ some '-') :
    ∃ front back, (∀ c ∈ front, c = '-') ∧ (∀ c ∈ back, c = '-') ∧
      cs.foldl slugStep s =
        back ++ ((hyphenated (runs.map lowerRun)).reverse ++ (front ++ s)) ∧
      (runs ≠ [] → (∀ c ∈ cs.head?, isAlphanumeric c = false) → front = ['-']) := by
  induction h generalizing s with
  | @gap gap hgap =>
    refine ⟨if gap = [] then [] else ['-'], [], ?_, by simp, ?_, fun h => absurd rfl h⟩
    · split <;> simp
    · rw [foldl_slugStep_gap hgap hs]
      split <;> simp
  | @run gap run rest runs hgap hne hrun hrest h ih =>
    -- What the first run has written ends in no `-`, so the rest goes on from there.
    have hs' : ((lowerRun run).reverse ++ (gap.foldl slugStep s)).head? ≠ some '-' := by
      obtain ⟨front, c, hc⟩ := (lowerRun run).eq_nil_or_concat.resolve_left (lowerRun_ne_nil hne)
      rintro hhead
      obtain rfl : c = '-' := by simpa [hc] using hhead
      exact notMem_lowerRun hrun (by simp [hc])
    obtain ⟨front', back', hfront', hback', hfold, hlead⟩ := ih hs'
    refine ⟨if gap = [] then [] else ['-'], if runs = [] then back' ++ front' else back',
      ?_, ?_, ?_, ?_⟩
    · split <;> simp
    · split
      · exact fun c hc => (List.mem_append.1 hc).elim (hback' c) (hfront' c)
      · exact hback'
    · rw [List.foldl_append, List.foldl_append, foldl_slugStep_run hrun, hfold,
        foldl_slugStep_gap hgap hs]
      cases runs with
      | nil => split <;> simp
      | cons next runs =>
        rw [hlead (List.cons_ne_nil _ _) hrest, if_neg (List.cons_ne_nil _ _)]
        simp only [List.map_cons, hyphenated_cons_cons]
        split <;> simp
    · -- A text that starts with its first run has no gap in front.
      rintro - hhead
      split
      · rename_i hnil
        obtain ⟨x, run, rfl⟩ := List.exists_cons_of_ne_nil hne
        have hx := hhead x (by simp [hnil])
        rw [hrun x List.mem_cons_self] at hx
        cases hx
      · rfl

/-- A character is stripped from both ends, and the text between them is kept. -/
theorem stripChar_append {x : Char} {front inner back : List Char} (hfront : ∀ c ∈ front, c = x)
    (hback : ∀ c ∈ back, c = x) (hhead : inner.head? ≠ some x) (hlast : inner.getLast? ≠ some x) :
    stripChar x (front ++ (inner ++ back)) = inner := by
  have hkeep {a : List Char} (ha : a.head? ≠ some x) : a.dropWhile (· == x) = a := by
    cases a with
    | nil => rfl
    | cons c a => exact List.dropWhile_cons_of_neg (by simpa using ha)
  have hdrop : (front ++ (inner ++ back)).dropWhile (· == x) = (inner ++ back).dropWhile (· == x) :=
    List.dropWhile_append_of_pos (by simpa using hfront)
  rw [stripChar, hdrop]
  by_cases hinner : inner = []
  · subst hinner
    have hnil : back.dropWhile (· == x) = [] := List.dropWhile_eq_nil_iff.2 (by simpa using hback)
    rw [List.nil_append, hnil]
    rfl
  · have hinnerBack : (inner ++ back).head? ≠ some x := by
      rwa [List.head?_append_of_ne_nil _ hinner]
    rw [hkeep hinnerBack, List.reverse_append,
      List.dropWhile_append_of_pos (by simpa using hback), hkeep (by simpa using hlast),
      List.reverse_reverse]

/-- The words of a text's runs stand apart from one another. -/
theorem Runs.neat (h : Runs cs runs) : Neat (hyphenated (runs.map lowerRun)) :=
  neat_hyphenated (fun word hword => (h.words_lowerRun word hword).1)
    fun word hword => (h.words_lowerRun word hword).2

/-- What the loop has written, stripped, is the words of the runs. -/
theorem Runs.slug_eq (h : Runs cs runs) : slug cs = hyphenated (runs.map lowerRun) := by
  obtain ⟨front, back, hfront, hback, hfold, -⟩ := h.foldl_slugStep (s := []) (by simp)
  rw [slug, hfold]
  simp only [List.append_nil, List.reverse_append, List.reverse_reverse, List.append_assoc]
  exact stripChar_append (by simpa using hfront) (by simpa using hback) h.neat.start h.neat.finish

/-- The slug is empty if the text has no alphanumeric character. -/
theorem slug_eq_nil_iff (cs : List Char) :
    slug cs = [] ↔ ∀ c ∈ cs, isAlphanumeric c = false := by
  obtain ⟨runs, h⟩ := exists_runs cs
  rw [h.slug_eq, hyphenated_eq_nil_iff fun word hword => (h.words_lowerRun word hword).1,
    List.map_eq_nil_iff, h.eq_nil_iff]

end Text

/-! ### Names of files and workflows -/

/-- A name stays a name when its extension is cut off. -/
theorem Path.splitExtension_ne_nil {name : List Char} (hne : name ≠ []) :
    (splitExtension name).1 ≠ [] := by
  unfold splitExtension
  split
  · exact hne
  · exact hne
  · rename_i after before hkeep hcut
    simpa using hkeep

/-- No file has an empty name. -/
theorem Path.stem?_ne_empty (path : String) : stem? path ≠ some "" := by
  intro h
  obtain ⟨name, hname, hstem⟩ := Option.map_eq_some_iff.1 h
  have hmem : name ∈ components path := List.mem_of_getLast? (Option.filter_eq_some_iff.1 hname).1
  have hne : name ≠ [] := by
    have hcomp := (List.mem_filter.1 hmem).2
    rintro rfl
    simp at hcomp
  exact splitExtension_ne_nil hne (by simpa using hstem)

namespace Workflow

/-- A workflow whose metadata gives it no id has the slug of its stem, or of its description. -/
theorem id_identify {w : Workflow} {stem : Option String}
    (hid : ∀ value, w.metadata.get? "id" = some value → value = "") (hstem : stem ≠ some "") :
    (w.identify stem).id = String.ofList (Text.slug (stem.getD w.description).toList) := by
  have hnone : w.metadata? "id" = none := by
    rw [metadata?, Option.filter_eq_none_iff]
    intro value hvalue
    simp [hid value hvalue]
  have hbase : stem.filter (fun s => !s.isEmpty) = stem := by
    cases stem with
    | none => rfl
    | some s => simpa [Option.filter] using hstem
  rw [identify, hnone, hbase]
  rfl

/-- **The slug of a text is made of its maximal runs of alphanumeric characters, each in lower
case, with one `-` between any two.**  It starts and ends with no `-` and has no two side by
side, and it is empty if the text has no alphanumeric character.  A workflow without an id in
its metadata is known by the slug of the name of its file, which is never empty, or of its
description if it comes from no file. -/
theorem parseAs_slug :
    (∀ cs, ∃ runs, (∀ runs', Text.Runs cs runs' ↔ runs' = runs) ∧
      Text.slug cs = ['-'].intercalate (runs.map fun run => run.flatMap Text.lowerChar) ∧
      (Text.slug cs).head? ≠ some '-' ∧ (Text.slug cs).getLast? ≠ some '-' ∧
      ¬ ['-', '-'] <:+: Text.slug cs ∧
      (Text.slug cs = [] ↔ ∀ c ∈ cs, Text.isAlphanumeric c = false)) ∧
    (∀ stem text, stem ≠ some "" →
      (∀ value, (parseAs stem text).metadata.get? "id" = some value → value = "") →
      (parseAs stem text).id =
        String.ofList (Text.slug (stem.getD (parseAs stem text).description).toList)) ∧
    ∀ path, Path.stem? path ≠ some "" := by
  refine ⟨fun cs => ?_, fun stem text hstem hid => id_identify hid hstem, Path.stem?_ne_empty⟩
  obtain ⟨runs, h⟩ := Text.exists_runs cs
  have hneat := h.neat
  rw [← h.slug_eq] at hneat
  refine ⟨runs, fun runs' => ⟨fun h' => h'.unique h, fun heq => heq ▸ h⟩, h.slug_eq, hneat.start,
    hneat.finish, fun hinfix => ?_, Text.slug_eq_nil_iff cs⟩
  simpa using hneat.apart.infix hinfix

/-- A heading whose letters include one with a lower-case form of two characters. -/
theorem parseAs_slug_sample :
    (parseAs none "# İz & ÖL 2!\n".toList).id = "i̇z-öl-2" ∧
    (parseAs (Path.stem? "plans/My Plan.md") "---\nid:\n---\n# x".toList).id = "my-plan" := by
  refine ⟨?_, ?_⟩
  · rw [parseAs_slug.2.1 none _ (by decide) (by decide)]
    decide
  · rw [parseAs_slug.2.1 (Path.stem? "plans/My Plan.md") _ (by decide) (by decide)]
    decide

end Workflow

end Runbook
