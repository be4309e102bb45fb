/-
# The fields of a task

A property line sets one field of the open task and leaves all others as they are
(`Property.content_apply_of_ne`, `Property.rest_apply`).  What it sets depends on nothing but
the value and what the field had (`Property.content_apply_congr`).  Since a task is what it
has in its fields (`Task.ext_content`), lines that set different fields can be taken in either
order (`Property.apply_comm`).

| property                                 | accepts                       | its field then has       |
|------------------------------------------|-------------------------------|--------------------------|
| target, command, tool, options or schema | any value                     | the value as a parameter |
| timeout                                  | a number from 1 to 2⁶⁴-1      | that many seconds        |
| retries                                  | a number up to 2⁶⁴-1          | that many retries        |
| critical, continue flag                  | any value                     | whether it is true       |
| output                                   | any value                     | the value                |
| dependencies                             | any value                     | its names and the old    |

Seconds and retries have an upper bound.  Only dependencies look at what they had before; any
other field has what the last accepted value gives it (`Property.Last`).
-/

import Runbook.Proofs.Text.Parts
import Runbook.Proofs.Text.Trim
import Runbook.Proofs.Workflow.Warning

namespace Runbook

theorem NameSet.mem_insertAll {s : NameSet} {ks : List String} {name : String} :
    name ∈ s.insertAll ks ↔ name ∈ s ∨ name ∈ ks := by
  induction ks generalizing s with
  | nil => simp [insertAll]
  | cons k ks ih =>
    rw [insertAll, List.foldl_cons, ← insertAll, ih, mem_insert, List.mem_cons]
    tauto

/-- Whichever comes first. -/
theorem NameSet.insertAll_comm (s : NameSet) (ks ls : List String) :
    (s.insertAll ks).insertAll ls = (s.insertAll ls).insertAll ks := by
  refine ext_mem fun name => ?_
  simp only [mem_insertAll]
  tauto

/-- What a task has in one of its fields. -/
inductive Content where
  | parameter (p : Option Parameter)
  | names (ns : NameSet)
  | number (n : Nat)
  | flag (b : Bool)
  | text (t : Option String)

namespace Property

/-- The parameter that a property sets, if it sets one. -/
def parameter? : Property → Option String
  | .target => some "target"
  | .command => some "command"
  | .tool => some "tool"
  | .options => some "options"
  | .schema => some "schema"
  | _ => none

/-- What a task has in the field of a property. -/
def content (p : Property) (t : Task) : Content :=
  match p with
  | .target => .parameter (t.parameters.get? "target")
  | .command => .parameter (t.parameters.get? "command")
  | .tool => .parameter (t.parameters.get? "tool")
  | .options => .parameter (t.parameters.get? "options")
  | .schema => .parameter (t.parameters.get? "schema")
  | .dependencies => .names t.dependencies
  | .timeout => .number t.timeoutMs
  | .retries => .number t.retries
  | .critical => .flag t.critical
  | .continueFlag => .flag t.continueFlag
  | .output => .text t.output

end Property

/-- What a task has besides the fields of properties. -/
def Task.rest (t : Task) :
    String × String × WorkerKind × Action × Option String × (String → Option Parameter) :=
  (t.name, t.phase, t.worker, t.action, t.code, fun key =>
    if Property.all.any fun p => p.parameter? = some key then none else t.parameters.get? key)

theorem Property.mem_all (p : Property) : p ∈ all := by cases p <;> decide

theorem Property.content_of_parameter? {p : Property} {key : String} (h : p.parameter? = some key)
    (t : Task) : p.content t = .parameter (t.parameters.get? key) := by
  cases p <;> cases h <;> rfl

/-- **A task is what it has.** -/
theorem Task.ext_content {t u : Task} (hrest : t.rest = u.rest)
    (h : ∀ p : Property, p.content t = p.content u) : t = u := by
  obtain ⟨hname, hphase, hworker, haction, hcode, hothers⟩ : t.name = u.name ∧
      t.phase = u.phase ∧ t.worker = u.worker ∧ t.action = u.action ∧ t.code = u.code ∧ _ := by
    simpa only [rest, Prod.mk.injEq] using hrest
  have hparameters : t.parameters = u.parameters := by
    refine Dict.ext_get? fun key => ?_
    by_cases hkey : Property.all.any (fun p => p.parameter? = some key) = true
    · obtain ⟨p, -, hp⟩ := List.any_eq_true.1 hkey
      have hp := of_decide_eq_true hp
      have hcontent := h p
      rw [Property.content_of_parameter? hp, Property.content_of_parameter? hp] at hcontent
      exact Content.parameter.inj hcontent
    · have hsame := congrFun hothers key
      simpa only [hkey, if_false, Bool.false_eq_true] using hsame
  have hdependencies : t.dependencies = u.dependencies := Content.names.inj (h .dependencies)
  have htimeout : t.timeoutMs = u.timeoutMs := Content.number.inj (h .timeout)
  have hretries : t.retries = u.retries := Content.number.inj (h .retries)
  have hcritical : t.critical = u.critical := Content.flag.inj (h .critical)
  have hcontinue : t.continueFlag = u.continueFlag := Content.flag.inj (h .continueFlag)
  have houtput : t.output = u.output := Content.text.inj (h .output)
  cases t
  cases u
  simp_all

namespace Property

variable {p q : Property} {value : List Char} {t u : Task}

/-- A key names the property of which it is a spelling. -/
theorem ofKey?_eq_some_iff {key : String} : ofKey? key = some p ↔ key ∈ p.spellings := by
  have hall : ∀ p ∈ all, ∀ key ∈ p.spellings, ofKey? key = some p := by decide +kernel
  exact ⟨mem_spellings_of_ofKey?, hall p p.mem_all key⟩

theorem ofKey?_eq_none_iff {key : String} :
    ofKey? key = none ↔ ∀ p : Property, key ∉ p.spellings := by
  simp only [← ofKey?_eq_some_iff]
  exact Option.eq_none_iff_forall_ne_some

/-- No two properties set one parameter. -/
theorem parameter?_inj (h : p.parameter? = q.parameter?) (hp : p.parameter? ≠ none) : p = q := by
  revert h hp
  cases p <;> cases q <;> decide

theorem apply_of_parameter? {key : String} (h : p.parameter? = some key) (value : List Char)
    (t : Task) : p.apply value t = t.withParameter key (.ofText value) := by
  cases p <;> cases h <;> rfl

theorem content_withParameter_of_ne {key : String} (h : q.parameter? ≠ some key) (v : Parameter)
    (t : Task) : q.content (t.withParameter key v) = q.content t := by
  cases hq : q.parameter? with
  | none =>
    cases q with
    | target | command | tool | options | schema => cases hq
    | _ => rfl
  | some other =>
    have hne : other ≠ key := fun hsame => h (hsame ▸ hq)
    rw [content_of_parameter? hq, content_of_parameter? hq, Task.withParameter, Dict.get?_insert,
      if_neg hne]

/-- Whatever the value, no more than the timeout changes. -/
theorem exists_apply_timeout_eq (value : List Char) (t : Task) :
    ∃ timeoutMs, timeout.apply value t = { t with timeoutMs } := by
  simp only [apply]
  split
  · exact ⟨t.timeoutMs, rfl⟩
  · exact ⟨t.timeoutMs, rfl⟩
  · exact ⟨_, rfl⟩

/-- Whatever the value, no more than the number of retries changes. -/
theorem exists_apply_retries_eq (value : List Char) (t : Task) :
    ∃ retries, Property.retries.apply value t = { t with retries } := by
  simp only [apply]
  split
  · exact ⟨t.retries, rfl⟩
  · exact ⟨_, rfl⟩

/-- **A property leaves what is in other fields.** -/
theorem content_apply_of_ne (h : q ≠ p) (value : List Char) (t : Task) :
    q.content (p.apply value t) = q.content t := by
  cases hp : p.parameter? with
  | some key =>
    rw [apply_of_parameter? hp]
    refine content_withParameter_of_ne (fun hq => h ?_) _ t
    exact parameter?_inj (hq.trans hp.symm) (hq ▸ Option.some_ne_none key)
  | none =>
    cases p with
    | target | command | tool | options | schema => cases hp
    | dependencies => cases q with | dependencies => exact absurd rfl h | _ => rfl
    | critical => cases q with | critical => exact absurd rfl h | _ => rfl
    | continueFlag => cases q with | continueFlag => exact absurd rfl h | _ => rfl
    | output => cases q with | output => exact absurd rfl h | _ => rfl
    | timeout =>
      obtain ⟨ms, happly⟩ := exists_apply_timeout_eq value t
      rw [happly]
      cases q with | timeout => exact absurd rfl h | _ => rfl
    | retries =>
      obtain ⟨n, happly⟩ := exists_apply_retries_eq value t
      rw [happly]
      cases q with | retries => exact absurd rfl h | _ => rfl

/-- **A property leaves what is no field of a property.** -/
theorem rest_apply (p : Property) (value : List Char) (t : Task) :
    (p.apply value t).rest = t.rest := by
  cases hp : p.parameter? with
  | some key =>
    rw [apply_of_parameter? hp]
    have hothers : ∀ other, ¬(all.any fun p => p.parameter? = some other) = true → other ≠ key := by
      rintro other hother rfl
      exact hother (List.any_eq_true.2 ⟨p, p.mem_all, decide_eq_true hp⟩)
    simp only [Task.rest, Task.withParameter, Dict.get?_insert, Prod.mk.injEq, true_and]
    funext other
    split
    · rfl
    · rename_i hother
      rw [if_neg (hothers other hother)]
  | none =>
    cases p with
    | target | command | tool | options | schema => cases hp
    | dependencies | critical | continueFlag | output => rfl
    | timeout =>
      obtain ⟨ms, happly⟩ := exists_apply_timeout_eq value t
      rw [happly, Task.rest, Task.rest]
    | retries =>
      obtain ⟨n, happly⟩ := exists_apply_retries_eq value t
      rw [happly, Task.rest, Task.rest]

/-- What a property sets depends on what its field had, and on nothing else of the task. -/
theorem content_apply_congr (p : Property) (value : List Char) (h : p.content t = p.content u) :
    p.content (p.apply value t) = p.content (p.apply value u) := by
  cases hp : p.parameter? with
  | some key =>
    rw [content_of_parameter? hp, content_of_parameter? hp, apply_of_parameter? hp,
      apply_of_parameter? hp]
    simp [Task.withParameter]
  | none =>
    cases p with
    | target | command | tool | options | schema => cases hp
    | dependencies =>
      have hnames : t.dependencies = u.dependencies := Content.names.inj h
      simp only [content, apply, hnames]
    | critical | continueFlag | output => rfl
    | timeout =>
      simp only [apply]
      split
      · exact h
      · exact h
      · rfl
    | retries =>
      simp only [apply]
      split
      · exact h
      · rfl

/-- **Lines of different fields can be taken in either order**, and so can two lines of
dependencies. -/
theorem apply_comm (h : p = q → p = .dependencies) (value other : List Char) (t : Task) :
    p.apply value (q.apply other t) = q.apply other (p.apply value t) := by
  by_cases hpq : p = q
  · obtain rfl := hpq
    obtain rfl := h rfl
    simp only [apply, NameSet.insertAll_comm]
  · refine Task.ext_content (by simp only [rest_apply]) fun r => ?_
    by_cases hrp : r = p
    · subst hrp
      rw [content_apply_of_ne hpq]
      exact content_apply_congr r value (content_apply_of_ne hpq other t)
    · rw [content_apply_of_ne hrp]
      by_cases hrq : r = q
      · subst hrq
        exact content_apply_congr r other (content_apply_of_ne hrp value t).symm
      · rw [content_apply_of_ne hrq, content_apply_of_ne hrq, content_apply_of_ne hrp]

/-! ### What lines make of a field -/

/-- A value is accepted, and what the field has then, whatever it had. -/
inductive Accepts : Property → List Char → Content → Prop where
  | parameter {p : Property} {key : String} (h : p.parameter? = some key) (value : List Char) :
      Accepts p value (.parameter (some (.ofText value)))
  | timeout {value : List Char} {n : Nat} (h : Opens value n) (hpos : 1 ≤ n) (hlt : n < 2 ^ 64) :
      Accepts .timeout value (.number (min (1000 * n) (2 ^ 64 - 1)))
  | retries {value : List Char} {n : Nat} (h : Opens value n) (hlt : n < 2 ^ 64) :
      Accepts .retries value (.number (min n (2 ^ 32 - 1)))
  | critical (value : List Char) : Accepts .critical value (.flag (isTrue value))
  | continueFlag (value : List Char) : Accepts .continueFlag value (.flag (isTrue value))
  | output (value : List Char) : Accepts .output value (.text (some (String.ofList value)))

/-- An accepted value says what the field has, any other leaves it as it is. -/
theorem accepts_or_content_eq (hp : p ≠ .dependencies) (value : List Char) (t : Task) :
    p.Accepts value (p.content (p.apply value t)) ∨
      (∀ c, ¬p.Accepts value c) ∧ p.content (p.apply value t) = p.content t := by
  cases hkey : p.parameter? with
  | some key =>
    rw [content_of_parameter? hkey, apply_of_parameter? hkey, Task.withParameter, Dict.get?_insert,
      if_pos rfl]
    exact .inl (.parameter hkey value)
  | none =>
    cases p with
    | target | command | tool | options | schema => cases hkey
    | dependencies => exact absurd rfl hp
    | critical => exact .inl (.critical value)
    | continueFlag => exact .inl (.continueFlag value)
    | output => exact .inl (.output value)
    | timeout =>
      -- Zero can be read, but is not accepted.
      cases hn : leadingNumber? value with
      | none =>
        refine .inr ⟨?_, by simp only [apply, hn]⟩
        rintro _ (⟨⟨⟩, _⟩ | ⟨h, _, hlt⟩)
        cases hn.symm.trans (h.leadingNumber?_of_lt hlt)
      | some n =>
        obtain ⟨hopens, hlt⟩ := leadingNumber?_eq_some_iff.1 hn
        by_cases hpos : 1 ≤ n
        · rw [hopens.apply_timeout hpos, if_pos hlt]
          exact .inl (.timeout hopens hpos hlt)
        · obtain rfl : n = 0 := by omega
          refine .inr ⟨?_, by simp only [apply, hn]⟩
          rintro _ (⟨⟨⟩, _⟩ | ⟨h, hpos, -⟩)
          exact absurd (h.unique hopens) (by omega)
    | retries =>
      cases hn : leadingNumber? value with
      | none =>
        refine .inr ⟨?_, by simp only [apply, hn]⟩
        rintro _ (⟨⟨⟩, _⟩ | _ | ⟨h, hlt⟩)
        cases hn.symm.trans (h.leadingNumber?_of_lt hlt)
      | some n =>
        obtain ⟨hopens, hlt⟩ := leadingNumber?_eq_some_iff.1 hn
        rw [hopens.apply_retries, if_pos hlt]
        exact .inl (.retries hopens hlt)

/-- What the field of a property has from the first: what a task has after its heading. -/
def initial : Property → Content
  | .target | .command | .tool | .options | .schema => .parameter none
  | .dependencies => .names .empty
  | .timeout => .number defaultTimeoutMs
  | .retries => .number 0
  | .critical | .continueFlag => .flag false
  | .output => .text none

theorem content_newTask (p : Property) (phase : Option (List Char)) (name : List Char) :
    p.content (Draft.newTask phase name) = p.initial := by
  cases p <;> rfl

/-- What a field has after some values: what the last one that is accepted gives it, and what
it has from the first if none is. -/
inductive Last (p : Property) (values : List (List Char)) : Content → Prop where
  | initial (h : ∀ value ∈ values, ∀ c, ¬p.Accepts value c) : Last p values p.initial
  | accepted {before after : List (List Char)} {value : List Char} {c : Content}
      (h : values = before ++ value :: after) (haccepts : p.Accepts value c)
      (hafter : ∀ later ∈ after, ∀ c, ¬p.Accepts later c) : Last p values c

/-- A value that is not accepted changes nothing. -/
theorem Last.concat {values : List (List Char)} {c : Content} (h : Last p values c)
    (hvalue : ∀ c, ¬p.Accepts value c) : Last p (values ++ [value]) c := by
  cases h with
  | initial hnone =>
    refine .initial fun other hother => ?_
    rcases List.mem_append.1 hother with hother | hother
    · exact hnone other hother
    · exact List.mem_singleton.1 hother ▸ hvalue
  | @accepted before after accepted _ hsplit haccepts hafter =>
    have hsplit' : values ++ [value] = before ++ accepted :: (after ++ [value]) := by
      rw [hsplit, List.append_assoc, List.cons_append]
    refine .accepted hsplit' haccepts fun other hother => ?_
    rcases List.mem_append.1 hother with hother | hother
    · exact hafter other hother
    · exact List.mem_singleton.1 hother ▸ hvalue

/-- A name stands in a list: it is one of the parts between commas, trimmed and not empty. -/
def Lists (value : List Char) (name : String) : Prop :=
  ∃ parts part, Text.Separates ',' value parts ∧ part ∈ parts ∧ Text.Trims part name.toList ∧
    name ≠ ""

theorem mem_names_iff {name : String} : name ∈ names value ↔ Lists value name := by
  simp only [Lists, names, Text.separates_iff, Text.trims_iff, List.mem_map, List.mem_filter,
    Bool.not_eq_true', List.isEmpty_eq_false_iff]
  constructor
  · rintro ⟨_, ⟨⟨part, hpart, rfl⟩, hne⟩, rfl⟩
    refine ⟨_, part, rfl, hpart, String.toList_ofList.symm, fun hempty => hne ?_⟩
    rw [← String.toList_ofList (l := Text.trim part), hempty]
    rfl
  · rintro ⟨_, part, rfl, hpart, htrim, hne⟩
    refine ⟨Text.trim part, ⟨⟨part, hpart, rfl⟩, fun hnil => hne ?_⟩, ?_⟩
    · exact String.toList_eq_nil_iff.1 (htrim.symm.trans hnil)
    · rw [htrim, String.ofList_toList]

end Property
end Runbook
