/-
# What a reference leads to

An expression is looked up without the blanks around it: what follows `job.` in the
parameters of the job, anything else in the results (`Scope.resolve_exact`).  Names may
hold dots, so a text can have several of them in front of its dots.  In a dictionary it
has exactly one answer (`Answers`):

| the text                     | its answer                                              |
|------------------------------|---------------------------------------------------------|
| is a name                    | the value of that name                                  |
| has names in front of dots   | what the rest leads to from the value of the longest one |
| neither                      | nothing                                                 |

The longest name decides: if the rest leads nowhere from its value, there is no answer,
whatever a shorter name would give.
-/

import Runbook.Engine.Reference
import Runbook.Proofs.Text.Parts
import Runbook.Proofs.Text.Trim

namespace Runbook

/-! ### Paths -/

namespace Text

/-- A segment is an index: decimal digits, after a plus sign if there is one, that denote a
number below 2⁶⁴. -/
def IsIndex (segment : List Char) (n : Nat) : Prop :=
  ∃ digits, (segment = digits ∨ segment = '+' :: digits) ∧ digits ≠ [] ∧
    (∀ c ∈ digits, c.isDigit = true) ∧ Nat.ofDigitChars 10 digits 0 = n ∧ n < UInt64.size

/-- The digits of a segment that is an index. -/
theorem IsIndex.getD_dropStart? {segment digits : List Char}
    (h : segment = digits ∨ segment = '+' :: digits) (hdigits : ∀ c ∈ digits, c.isDigit = true) :
    (dropStart? ['+'] segment).getD segment = digits := by
  rcases h with rfl | rfl
  · cases hplus : dropStart? ['+'] segment with
    | none => rfl
    | some rest =>
      have hmem : '+' ∈ segment := by
        rw [dropStart?_eq_some_iff.1 hplus]
        exact List.mem_cons_self
      exact absurd (hdigits '+' hmem) (by decide)
  · rfl

theorem natural?_eq_some_iff {segment : List Char} {n : Nat} :
    natural? segment = some n ↔ IsIndex segment n := by
  have hvalue : ∀ digits, digitsValue digits = Nat.ofDigitChars 10 digits 0 := fun digits =>
    Nat.ofDigitChars_eq_foldl.symm
  rw [natural?]
  simp only [Option.ite_none_left_eq_some, Bool.or_eq_true, List.isEmpty_iff, Bool.not_eq_true',
    decide_eq_true_eq, not_or, Bool.not_eq_false, List.all_eq_true, Option.some.injEq, hvalue]
  constructor
  · rintro ⟨⟨⟨hne, hdigits⟩, hlt⟩, rfl⟩
    refine ⟨_, ?_, hne, hdigits, rfl, Nat.lt_of_not_le hlt⟩
    cases hplus : dropStart? ['+'] segment with
    | none => exact .inl rfl
    | some rest => exact .inr (dropStart?_eq_some_iff.1 hplus)
  · rintro ⟨digits, hsegment, hne, hdigits, rfl, hlt⟩
    rw [IsIndex.getD_dropStart? hsegment hdigits]
    exact ⟨⟨⟨hne, hdigits⟩, Nat.not_le_of_lt hlt⟩, rfl⟩

end Text

namespace Json

/-- A segment leads from an object to the field that has its name, and from an array to the
item at the index that it is. -/
inductive Member : Json → List Char → Json → Prop where
  | field {fields : List (String × Json)} {segment : List Char} {v : Json}
      (h : lookupEntry (String.ofList segment) fields = some v) : Member (.object fields) segment v
  | item {items : List Json} {segment : List Char} {i : Nat} {v : Json}
      (hi : Text.IsIndex segment i) (h : items[i]? = some v) : Member (.array items) segment v

/-- Segments lead from one value to another. -/
inductive Leads : Json → List (List Char) → Json → Prop where
  | nil (v : Json) : Leads v [] v
  | cons {u v w : Json} {segment : List Char} {segments : List (List Char)}
      (h : Member u segment v) (hrest : Leads v segments w) : Leads u (segment :: segments) w

theorem member?_eq_some_iff {u v : Json} {segment : List Char} :
    u.member? segment = some v ↔ u.Member segment v := by
  constructor
  · intro h
    cases u with
    | object fields => exact .field h
    | array items =>
      obtain ⟨i, hi, hv⟩ := Option.bind_eq_some_iff.1 h
      exact .item (Text.natural?_eq_some_iff.1 hi) hv
    | null | bool | number | string => cases h
  · rintro (h | ⟨hi, h⟩)
    · exact h
    · exact Option.bind_eq_some_iff.2 ⟨_, Text.natural?_eq_some_iff.2 hi, h⟩

theorem foldlM_member?_eq_some_iff {u w : Json} {segments : List (List Char)} :
    segments.foldlM member? u = some w ↔ u.Leads segments w := by
  induction segments generalizing u with
  | nil =>
    constructor
    · rintro ⟨⟩
      exact .nil _
    · rintro ⟨⟩
      rfl
  | cons segment segments ih =>
    rw [List.foldlM_cons, Option.bind_eq_bind, Option.bind_eq_some_iff]
    constructor
    · rintro ⟨v, hv, hw⟩
      exact .cons (member?_eq_some_iff.1 hv) (ih.1 hw)
    · rintro (_ | ⟨hv, hw⟩)
      exact ⟨_, member?_eq_some_iff.2 hv, ih.2 hw⟩

/-- A path is walked along the segments between its dots. -/
theorem walk?_eq_some_iff {u w : Json} {path : List Char} {segments : List (List Char)}
    (h : Text.Separates '.' path segments) : u.walk? path = some w ↔ u.Leads segments w := by
  rw [walk?, Text.separates_iff.1 h, foldlM_member?_eq_some_iff]

end Json

/-! ### The longest name -/

theorem mem_cutsAtDots {text name path : List Char} :
    (name, path) ∈ cutsAtDots text ↔ text = name ++ '.' :: path := by
  induction text generalizing name with
  | nil => simp [cutsAtDots]
  | cons c cs ih =>
    have hlater : (name, path) ∈ (cutsAtDots cs).map (fun x => (c :: x.1, x.2)) ↔
        ∃ rest, name = c :: rest ∧ cs = rest ++ '.' :: path := by
      rw [List.mem_map]
      constructor
      · rintro ⟨⟨rest, path⟩, hmem, ⟨⟩⟩
        exact ⟨rest, rfl, ih.1 hmem⟩
      · rintro ⟨rest, rfl, hcs⟩
        exact ⟨(rest, path), ih.2 hcs, rfl⟩
    rw [cutsAtDots]
    cases name with
    | nil =>
      by_cases hc : c = '.'
      · simp [hc, eq_comm]
      · simp [hc]
    | cons d name =>
      by_cases hc : c = '.'
      · simp only [if_pos hc, List.mem_cons, hlater]
        simp [hc, eq_comm]
      · simp only [if_neg hc, hlater]
        simp [eq_comm]

/-- The later a cut, the longer the name in front of it. -/
theorem pairwise_cutsAtDots (text : List Char) :
    (cutsAtDots text).Pairwise fun a b => a.1.length < b.1.length := by
  induction text with
  | nil => exact .nil
  | cons c cs ih =>
    have hlater : ((cutsAtDots cs).map fun x => (c :: x.1, x.2)).Pairwise
        fun a b => a.1.length < b.1.length :=
      List.pairwise_map.2 (ih.imp fun h => Nat.succ_lt_succ h)
    rw [cutsAtDots]
    split
    · refine List.pairwise_cons.2 ⟨fun x hx => ?_, hlater⟩
      obtain ⟨y, -, rfl⟩ := List.mem_map.1 hx
      exact Nat.succ_pos _
    · exact hlater

/-- The longest of the names in front of the dots of a text, its value, and the path behind
it. -/
structure Heads (values : Dict Json) (text name path : List Char) (root : Json) : Prop where
  cut : text = name ++ '.' :: path
  value : values.get? (String.ofList name) = some root
  longest : ∀ longer rest, text = longer ++ '.' :: rest → name.length < longer.length →
    values.get? (String.ofList longer) = none

/-- What a text leads to in a dictionary. -/
inductive Answers (values : Dict Json) (text : List Char) : Option Json → Prop where
  | named {v : Json} (h : values.get? (String.ofList text) = some v) :
      Answers values text (some v)
  | reached {name path : List Char} {root v : Json} {segments : List (List Char)}
      (hwhole : values.get? (String.ofList text) = none) (hheads : Heads values text name path root)
      (hpath : Text.Separates '.' path segments) (h : root.Leads segments v) :
      Answers values text (some v)
  | lost {name path : List Char} {root : Json} {segments : List (List Char)}
      (hwhole : values.get? (String.ofList text) = none) (hheads : Heads values text name path root)
      (hpath : Text.Separates '.' path segments) (h : ∀ v, ¬root.Leads segments v) :
      Answers values text none
  | unknown (hwhole : values.get? (String.ofList text) = none)
      (h : ∀ name path, text = name ++ '.' :: path → values.get? (String.ofList name) = none) :
      Answers values text none

section

variable {values : Dict Json} {text : List Char}

/-- The search from the last dot on ends at the longest name. -/
theorem findSome?_cutsAtDots {root : Json} {path : List Char} :
    ((cutsAtDots text).reverse.findSome? fun x =>
        (values.get? (String.ofList x.1)).map fun v => (v, x.2)) = some (root, path) ↔
      ∃ name, Heads values text name path root := by
  have horder : (cutsAtDots text).reverse.Pairwise fun a b => b.1.length < a.1.length :=
    List.pairwise_reverse.2 (pairwise_cutsAtDots text)
  have hmem : ∀ x, x ∈ (cutsAtDots text).reverse ↔ text = x.1 ++ '.' :: x.2 := fun x =>
    List.mem_reverse.trans mem_cutsAtDots
  rw [List.findSome?_eq_some_iff]
  constructor
  · rintro ⟨before, ⟨name, path'⟩, behind, hsplit, hfound, hnone⟩
    obtain ⟨v, hv, ⟨⟩⟩ := Option.map_eq_some_iff.1 hfound
    rw [hsplit] at hmem horder
    refine ⟨name, (hmem (name, path')).1 (by simp), hv, fun longer rest hcut hlength => ?_⟩
    obtain hbefore | hbehind := List.mem_append.1 ((hmem (longer, rest)).2 hcut)
    · exact Option.map_eq_none_iff.1 (hnone _ hbefore)
    · -- what comes from the found cut on is not longer
      have hle := (List.pairwise_cons.1 (List.pairwise_append.1 horder).2.1).1
      rcases List.mem_cons.1 hbehind with hsame | hbehind
      · cases hsame
        exact absurd hlength (Nat.lt_irrefl _)
      · exact absurd hlength (Nat.lt_asymm (hle _ hbehind))
  · rintro ⟨name, hheads⟩
    obtain ⟨before, behind, hsplit⟩ := List.append_of_mem ((hmem (name, path)).2 hheads.cut)
    refine ⟨before, (name, path), behind, hsplit, by simp [hheads.value], fun x hx => ?_⟩
    have hlonger := (List.pairwise_append.1 (hsplit ▸ horder)).2.2 x hx _ List.mem_cons_self
    have hcut := (hmem x).1 (hsplit ▸ List.mem_append_left _ hx)
    rw [hheads.longest x.1 x.2 hcut hlonger, Option.map_none]

/-- From the longest name on, the rest of the text decides. -/
theorem Heads.resolveIn {name path : List Char} {root : Json}
    (h : Heads values text name path root)
    (hwhole : values.get? (String.ofList text) = none) :
    Runbook.resolveIn values text = root.walk? path := by
  have hroot := findSome?_cutsAtDots.2 ⟨name, h⟩
  simp only [Runbook.resolveIn, hwhole, hroot, Option.bind_some]

/-- A text either has a longest name or none at all. -/
theorem heads_or_unknown (values : Dict Json) (text : List Char) :
    (∃ name path root, Heads values text name path root) ∨
      ∀ name path, text = name ++ '.' :: path → values.get? (String.ofList name) = none := by
  cases hroot : (cutsAtDots text).reverse.findSome? fun x =>
      (values.get? (String.ofList x.1)).map fun v => (v, x.2) with
  | some found =>
    obtain ⟨name, hheads⟩ := findSome?_cutsAtDots.1 hroot
    exact .inl ⟨name, found.2, found.1, hheads⟩
  | none =>
    refine .inr fun name path hcut => ?_
    have hmem := List.mem_reverse.2 (mem_cutsAtDots.2 hcut)
    exact Option.map_eq_none_iff.1 (List.findSome?_eq_none_iff.1 hroot _ hmem)

theorem resolveIn_of_unknown (hwhole : values.get? (String.ofList text) = none)
    (h : ∀ name path, text = name ++ '.' :: path → values.get? (String.ofList name) = none) :
    resolveIn values text = none := by
  have hroot : ((cutsAtDots text).reverse.findSome? fun x =>
      (values.get? (String.ofList x.1)).map fun v => (v, x.2)) = none := by
    refine List.findSome?_eq_none_iff.2 fun x hx => ?_
    rw [h x.1 x.2 (mem_cutsAtDots.1 (List.mem_reverse.1 hx)), Option.map_none]
  simp only [resolveIn, hwhole, hroot, Option.bind_none]

/-- **A text is resolved to its answer**, and to nothing else. -/
theorem answers_iff {answer : Option Json} :
    Answers values text answer ↔ resolveIn values text = answer := by
  constructor
  · rintro (h | ⟨hwhole, hheads, hpath, h⟩ | ⟨hwhole, hheads, hpath, h⟩ | ⟨hwhole, h⟩)
    · simp only [resolveIn, h]
    · rw [hheads.resolveIn hwhole, Json.walk?_eq_some_iff hpath]
      exact h
    · rw [hheads.resolveIn hwhole, Option.eq_none_iff_forall_ne_some]
      exact fun v hv => h v ((Json.walk?_eq_some_iff hpath).1 hv)
    · exact resolveIn_of_unknown hwhole h
  · rintro rfl
    cases hwhole : values.get? (String.ofList text) with
    | some v =>
      simp only [resolveIn, hwhole]
      exact .named hwhole
    | none =>
      obtain ⟨name, path, root, hheads⟩ | hunknown := heads_or_unknown values text
      · have hpath : Text.Separates '.' path _ := Text.separates_iff.2 rfl
        rw [hheads.resolveIn hwhole]
        cases hwalk : root.walk? path with
        | some v => exact .reached hwhole hheads hpath ((Json.walk?_eq_some_iff hpath).1 hwalk)
        | none =>
          refine .lost hwhole hheads hpath fun v hv => ?_
          rw [(Json.walk?_eq_some_iff hpath).2 hv] at hwalk
          cases hwalk
      · rw [resolveIn_of_unknown hwhole hunknown]
        exact .unknown hwhole hunknown

end

namespace Scope

/-- **What an expression resolves to.**  It is trimmed; the rest behind `job.` is looked up in
the parameters of the job, any other text in the results, and the answer is the one that the
longest name gives, if there is a name at all. -/
theorem resolve_exact (s : Scope) (expression : List Char) (answer : Option Json) :
    s.resolve expression = answer ↔ ∃ text, Text.Trims expression text ∧
      ((∃ rest, text = "job.".toList ++ rest ∧ Answers s.parameters rest answer) ∨
        ¬"job.".toList <+: text ∧ Answers s.results text answer) := by
  have hone : ∀ P : List Char → Prop,
      (∃ text, Text.Trims expression text ∧ P text) ↔ P (Text.trim expression) := fun P => by
    simp only [Text.trims_iff, exists_eq_left']
  rw [hone, resolve]
  cases hjob : Text.dropStart? "job.".toList (Text.trim expression) with
  | some rest =>
    have htext := Text.dropStart?_eq_some_iff.1 hjob
    have hno : ¬(¬"job.".toList <+: Text.trim expression ∧
        Answers s.results (Text.trim expression) answer) := fun h => h.1 ⟨rest, htext.symm⟩
    rw [or_iff_left hno, htext]
    simp only [List.append_cancel_left_eq, exists_eq_left', answers_iff]
  | none =>
    have hnot : ¬"job.".toList <+: Text.trim expression := by
      rintro ⟨rest, hrest⟩
      rw [Text.dropStart?_eq_some_iff.2 hrest.symm] at hjob
      cases hjob
    have hno : ¬∃ rest, Text.trim expression = "job.".toList ++ rest ∧
        Answers s.parameters rest answer := by
      rintro ⟨rest, hrest, -⟩
      exact hnot ⟨rest, hrest.symm⟩
    rw [or_iff_right hno, and_iff_right hnot, answers_iff]

/-- The longest name is not given up for a shorter one, though that one alone would do. -/
example :
    let short : String × Json := ("a", .object [("b", .object [("c", .null)])])
    let long : String × Json := ("a.b", .object [("d", .null)])
    ((Scope.mk .empty (.ofList [short, long])).resolve "a.b.c".toList).isNone = true ∧
      ((Scope.mk .empty (.ofList [short])).resolve "a.b.c".toList).isSome = true := by
  decide

end Scope
end Runbook
