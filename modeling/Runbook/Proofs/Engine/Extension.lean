/-
# References that go on

A path is walked segment by segment, so two paths with a dot between them lead where the
second leads from the value of the first (`Json.walk?_append`).  A text that is resolved in
a dictionary starts at a name, and that name is chosen by the text as a whole: the longest
one that ends before a dot or at the end (`Decides`).  Where the text `e` goes on by a path
`q`, longer names may come into question.

| the names in `e.q` that end before a dot or at the end | where `e.q` leads                     |
|:-------------------------------------------------------|:--------------------------------------|
| the one that decides `e`, and prefixes of it           | where `q` leads from the value of `e` |
| others besides                                         | where the longest of them takes it    |

In the first case, and in no other, the name that decides `e` decides `e.q` as well
(`Decides.append_iff`).  In the second the name reaches into `q` (`Decides.append_cases`),
and the value of `e` has no say.
-/

import Runbook.Proofs.Dictionary
import Runbook.Proofs.Engine.Lookup

namespace Runbook

/-- Two paths with a dot between them lead where the second leads from the value of the
first. -/
theorem Json.walk?_append (v : Json) (p q : List Char) :
    v.walk? (p ++ '.' :: q) = (v.walk? p).bind (·.walk? q) := by
  rw [walk?, Text.splitAll_append, List.foldlM_append]
  rfl

/-! ### The name that decides -/

/-- A front of a text ends before one of its dots, or is the whole text. -/
def IsFront (front text : List Char) : Prop := front = text ∨ front ++ ['.'] <+: text

instance (front text : List Char) : Decidable (IsFront front text) :=
  inferInstanceAs (Decidable (_ ∨ _))

section

variable {front text path : List Char}

theorem isFront_iff : IsFront front text ↔ front = text ∨ ∃ path, text = front ++ '.' :: path := by
  simp only [IsFront, List.IsPrefix, List.append_assoc, List.singleton_append, eq_comm]

theorem isFront_append_cons (front path : List Char) : IsFront front (front ++ '.' :: path) :=
  isFront_iff.2 (.inr ⟨path, rfl⟩)

theorem IsFront.isPrefix (h : IsFront front text) : front <+: text := by
  rcases h with rfl | h
  · exact List.prefix_rfl
  · exact (List.prefix_append _ _).trans h

/-- The fronts of a text stay fronts where it goes on. -/
theorem IsFront.append (h : IsFront front text) (path : List Char) :
    IsFront front (text ++ '.' :: path) := by
  rcases isFront_iff.1 h with rfl | ⟨between, rfl⟩
  · exact isFront_append_cons front path
  · rw [List.append_assoc]
    exact isFront_append_cons front (between ++ '.' :: path)

/-- The fronts of what a text goes on by make fronts with it. -/
theorem IsFront.beyond {beyond : List Char} (h : IsFront beyond path) (text : List Char) :
    IsFront (text ++ '.' :: beyond) (text ++ '.' :: path) := by
  rcases h with rfl | h
  · exact .inl rfl
  · refine .inr ?_
    rw [List.append_assoc, List.prefix_append_right_inj]
    exact List.cons_prefix_cons.2 ⟨rfl, h⟩

/-- Where a text goes on, there are no other fronts than these. -/
theorem isFront_append_iff : IsFront front (text ++ '.' :: path) ↔
    IsFront front text ∨ ∃ beyond, IsFront beyond path ∧ front = text ++ '.' :: beyond := by
  constructor
  · intro h
    rcases isFront_iff.1 h with rfl | ⟨rest, hcut⟩
    · exact .inr ⟨path, .inl rfl, rfl⟩
    -- the two dots are one and the same, or one of them is in front of the other
    rcases List.append_eq_append_iff.1 hcut with ⟨between, rfl, hrest⟩ | ⟨between, rfl, hpath⟩
    · cases between with
      | nil => exact .inl (.inl (List.append_nil text))
      | cons c beyond =>
        obtain ⟨rfl, rfl⟩ := List.cons.inj hrest
        exact .inr ⟨beyond, isFront_append_cons beyond rest, rfl⟩
    · cases between with
      | nil => exact .inl (.inl (List.append_nil front).symm)
      | cons c behind =>
        obtain ⟨rfl, -⟩ := List.cons.inj hpath
        exact .inl (isFront_append_cons front behind)
  · rintro (h | ⟨beyond, h, rfl⟩)
    · exact h.append path
    · exact h.beyond text

/-- Of two fronts of a text, the one that is not longer is a prefix of the other. -/
theorem IsFront.isPrefix_of_length_le {other : List Char} (h : IsFront front text)
    (hother : IsFront other text) (hlength : other.length ≤ front.length) : other <+: front :=
  List.prefix_of_prefix_length_le hother.isPrefix h.isPrefix hlength

end

/-- The name that decides what a text is resolved to: the longest of the names that are
fronts of it. -/
structure Decides (values : Dict Json) (text : List Char) (name : String) : Prop where
  named : name ∈ values.keys
  front : IsFront name.toList text
  longest : ∀ other ∈ values.keys, IsFront other.toList text →
    other.toList.length ≤ name.toList.length

section

variable {values : Dict Json} {text path : List Char} {name : String}

/-- A text that is a name is decided by itself. -/
theorem decides_of_named {v : Json} (h : values.get? (String.ofList text) = some v) :
    Decides values text (String.ofList text) := by
  refine ⟨Dict.mem_keys.2 (Option.isSome_iff_exists.2 ⟨v, h⟩), .inl String.toList_ofList,
    fun other _ hfront => ?_⟩
  rw [String.toList_ofList]
  exact hfront.isPrefix.length_le

/-- One that is none is decided by the longest name in front of a dot. -/
theorem Heads.decides {front : List Char} {root : Json} (h : Heads values text front path root)
    (hwhole : values.get? (String.ofList text) = none) :
    Decides values text (String.ofList front) := by
  refine ⟨Dict.mem_keys.2 (Option.isSome_iff_exists.2 ⟨root, h.value⟩), ?_,
    fun other hother hfront => ?_⟩
  · rw [String.toList_ofList, h.cut]
    exact isFront_append_cons front path
  · rw [String.toList_ofList]
    by_contra hlonger
    have hnone : values.get? (String.ofList other.toList) = none := by
      rcases isFront_iff.1 hfront with heq | ⟨rest, hcut⟩
      · rw [heq, hwhole]
      · exact h.longest other.toList rest hcut (Nat.lt_of_not_le hlonger)
    have hsome := Dict.mem_keys.1 hother
    rw [String.ofList_toList] at hnone
    rw [Dict.contains, hnone] at hsome
    cases hsome

/-- What is resolved has a name that decides it. -/
theorem exists_decides {v : Json} (h : resolveIn values text = some v) :
    ∃ name, Decides values text name := by
  cases answers_iff.2 h with
  | named hname => exact ⟨_, decides_of_named hname⟩
  | reached hwhole hheads => exact ⟨_, hheads.decides hwhole⟩

namespace Decides

/-- Only one name decides. -/
theorem unique {other : String} (h : Decides values text name)
    (hother : Decides values text other) : other = name := by
  have hle := h.longest other hother.named hother.front
  have hge := hother.longest name h.named h.front
  have hpre := h.front.isPrefix_of_length_le hother.front hle
  exact String.toList_injective (hpre.eq_of_length (Nat.le_antisymm hle hge))

/-- A longer front is no name. -/
theorem get?_eq_none {longer : List Char} (h : Decides values text name)
    (hfront : IsFront longer text) (hlength : name.toList.length < longer.length) :
    values.get? (String.ofList longer) = none := by
  rw [← Option.not_isSome_iff_eq_none]
  intro hsome
  have hle := h.longest (String.ofList longer) (Dict.mem_keys.2 hsome)
    (by rwa [String.toList_ofList])
  rw [String.toList_ofList] at hle
  exact absurd hlength (Nat.not_lt_of_le hle)

/-- A name is resolved to its value. -/
theorem resolveIn_whole (h : Decides values name.toList name) :
    resolveIn values name.toList = values.get? name := by
  obtain ⟨v, hv⟩ := Option.isSome_iff_exists.1 (Dict.mem_keys.1 h.named)
  simp only [resolveIn, String.ofList_toList, hv]

/-- What is behind the name that decides is walked from its value. -/
theorem resolveIn_cut (h : Decides values (name.toList ++ '.' :: path) name) :
    resolveIn values (name.toList ++ '.' :: path) = (values.get? name).bind (·.walk? path) := by
  obtain ⟨root, hroot⟩ := Option.isSome_iff_exists.1 (Dict.mem_keys.1 h.named)
  have hheads : Heads values (name.toList ++ '.' :: path) name.toList path root := by
    refine ⟨rfl, by rwa [String.ofList_toList], fun longer rest hcut hlength => ?_⟩
    exact h.get?_eq_none (isFront_iff.2 (.inr ⟨rest, hcut⟩)) hlength
  have hwhole : values.get? (String.ofList (name.toList ++ '.' :: path)) = none := by
    refine h.get?_eq_none (.inl rfl) ?_
    rw [List.length_append, List.length_cons]
    omega
  rw [hheads.resolveIn hwhole, hroot, Option.bind_some]

/-- The name that decides a text still decides where the text goes on, exactly if all names
that are fronts then are prefixes of it. -/
theorem append_iff (h : Decides values text name) :
    Decides values (text ++ '.' :: path) name ↔
      ∀ other ∈ values.keys, IsFront other.toList (text ++ '.' :: path) →
        other.toList <+: name.toList := by
  constructor
  · intro hon other hother hfront
    exact hon.front.isPrefix_of_length_le hfront (hon.longest other hother hfront)
  · intro hpre
    exact ⟨h.named, h.front.append path, fun other hother hfront =>
      (hpre other hother hfront).length_le⟩

/-- If it does, the path is walked from what the text is resolved to. -/
theorem resolveIn_append (h : Decides values text name)
    (hon : Decides values (text ++ '.' :: path) name) :
    resolveIn values (text ++ '.' :: path) = (resolveIn values text).bind (·.walk? path) := by
  rcases isFront_iff.1 h.front with rfl | ⟨between, rfl⟩
  · rw [hon.resolveIn_cut, h.resolveIn_whole]
  · have hassoc : name.toList ++ '.' :: between ++ '.' :: path =
        name.toList ++ '.' :: (between ++ '.' :: path) := List.append_assoc ..
    rw [hassoc] at hon ⊢
    rw [hon.resolveIn_cut, h.resolveIn_cut, Option.bind_assoc]
    exact congrArg _ (funext fun v => v.walk?_append between path)

/-- If it does not, a name decides that reaches into the path. -/
theorem append_cases {other : String} (h : Decides values text name)
    (hon : Decides values (text ++ '.' :: path) other) :
    other = name ∨ ∃ beyond, IsFront beyond path ∧ other.toList = text ++ '.' :: beyond := by
  refine (isFront_append_iff.1 hon.front).imp (fun hfront => ?_) id
  refine h.unique ⟨hon.named, hfront, fun third hthird hfront' => ?_⟩
  exact hon.longest third hthird (hfront'.append path)

end Decides

end

/-- **Walking a path composes, and so does resolving a text, as long as the same name
decides.**  Two paths with a dot between them lead where the second leads from the value of
the first, and nowhere if that has none.  A text that is resolved to a value is decided by
one name.  If the text goes on by a path, the path is walked from that value, provided that
no name is a front of the whole but the one that decides and prefixes of it.  A different
name can decide the whole only if it reaches into the path. -/
theorem resolveIn_composes :
    (∀ (v : Json) (p q : List Char),
      v.walk? (p ++ '.' :: q) = (v.walk? p).bind (·.walk? q)) ∧
    ∀ (values : Dict Json) (e : List Char) (w : Json), resolveIn values e = some w →
      ∃ k, (∀ k', Decides values e k' ↔ k' = k) ∧ ∀ q : List Char,
        ((∀ name ∈ values.keys, IsFront name.toList (e ++ '.' :: q) →
            name.toList <+: k.toList) →
          resolveIn values (e ++ '.' :: q) = w.walk? q) ∧
        ∀ k', Decides values (e ++ '.' :: q) k' →
          k' = k ∨ ∃ beyond, IsFront beyond q ∧ k'.toList = e ++ '.' :: beyond := by
  refine ⟨Json.walk?_append, fun values e w hw => ?_⟩
  obtain ⟨k, hk⟩ := exists_decides hw
  refine ⟨k, fun k' => ⟨fun hk' => hk.unique hk', fun heq => heq ▸ hk⟩, fun q => ⟨fun hnames => ?_,
    fun k' => hk.append_cases⟩⟩
  rw [hk.resolveIn_append (hk.append_iff.2 hnames), hw, Option.bind_some]

/-- Results under names of which one is a prefix of another, and a third goes on from it. -/
def Sample.scans : Dict Json :=
  .ofList [("scan", .object []),
    ("scan.v1", .object [("hosts", .array [.null, .object [("name", .string "db")]])]),
    ("scan.v1.ports", .array [])]

theorem resolveIn_composes_sample :
    Decides Sample.scans "scan.v1.hosts".toList "scan.v1" ∧
    (∀ name ∈ Sample.scans.keys, IsFront name.toList "scan.v1.hosts.1.name".toList →
      name.toList <+: "scan.v1".toList) ∧
    resolveIn Sample.scans "scan.v1.hosts.1.name".toList = some (.string "db") := by
  have hosts : resolveIn Sample.scans "scan.v1.hosts".toList =
      some (.array [.null, .object [("name", .string "db")]]) := rfl
  have decides : Decides Sample.scans "scan.v1.hosts".toList "scan.v1" :=
    ⟨by decide, by decide, by decide⟩
  have names : ∀ name ∈ Sample.scans.keys, IsFront name.toList "scan.v1.hosts.1.name".toList →
      name.toList <+: "scan.v1".toList := by decide
  obtain ⟨k, hk, hon⟩ := resolveIn_composes.2 Sample.scans "scan.v1.hosts".toList _ hosts
  obtain rfl : "scan.v1" = k := (hk "scan.v1").1 decides
  exact ⟨decides, names, (hon "1.name".toList).1 names⟩

/-- A name that goes on from another takes the paths that open like it, also those that lead
somewhere from the value of the other. -/
example :
    let short : String × Json := ("a", .object [("b", .object [("c", .null)])])
    let long : String × Json := ("a.b", .null)
    (resolveIn (.ofList [short]) "a.b.c".toList).isSome = true ∧
      (resolveIn (.ofList [short, long]) "a.b.c".toList).isNone = true := by
  decide

end Runbook
