/-
# Numbers in property lines

A value may start with a number, whatever stands behind its last digit.  Two properties
take it (`Workflow.parseAs_number`).

| property | number             | what the open task gets                           |
|----------|--------------------|---------------------------------------------------|
| timeout  | 0                  | nothing, but the document gets a warning          |
| timeout  | from 1 to below 2⁶⁴ | that many seconds in milliseconds, at most 2⁶⁴ - 1 |
| retries  | below 2⁶⁴          | that many retries, at most 2³² - 1                |
| either   | 2⁶⁴ and more       | nothing                                           |

Below 2⁶⁴ a larger number never gives less.  Beyond, a number is passed over although
both properties have a greatest value at which they could stop: the task keeps what it
had, and the workflow gets no warning, other than for a timeout of zero.
-/

import Mathlib.Algebra.Group.Nat.Defs
import Mathlib.Data.List.TakeWhile
import Runbook.Proofs.Workflow.Juncture

namespace Runbook

namespace Property

/-- A value starts with the number `n`: with digits that denote it, up to the end of the
value or to what is no digit. -/
def Opens (value : List Char) (n : Nat) : Prop :=
  ∃ digits rest, value = digits ++ rest ∧ digits ≠ [] ∧ (∀ c ∈ digits, c.isDigit = true) ∧
    (∀ c ∈ rest.head?, c.isDigit = false) ∧ Nat.ofDigitChars 10 digits 0 = n

theorem maxNumber_eq : maxNumber = 2 ^ 64 - 1 := rfl

theorem maxRetries_eq : maxRetries = 2 ^ 32 - 1 := rfl

theorem digitsValue_eq (digits : List Char) :
    Text.digitsValue digits = Nat.ofDigitChars 10 digits 0 := Nat.ofDigitChars_eq_foldl.symm

/-- The digits in front of a value are followed by none. -/
theorem head?_dropWhile_isDigit (value : List Char) :
    ∀ c ∈ (value.dropWhile Char.isDigit).head?, c.isDigit = false := by
  intro c hc
  have h := List.head?_dropWhile_not Char.isDigit value
  rw [Option.mem_def.1 hc] at h
  simpa using h

/-- The number is that of all digits in front. -/
theorem opens_iff {value : List Char} {n : Nat} :
    Opens value n ↔ value.takeWhile Char.isDigit ≠ [] ∧
      Text.digitsValue (value.takeWhile Char.isDigit) = n := by
  rw [digitsValue_eq]
  constructor
  · rintro ⟨digits, rest, rfl, hne, hdigits, hrest, hn⟩
    have hnone : rest.takeWhile Char.isDigit = [] := by
      cases rest with
      | nil => rfl
      | cons c rest => exact List.takeWhile_cons_of_neg (by simp [hrest c rfl])
    rw [List.takeWhile_append_of_pos hdigits, hnone, List.append_nil]
    exact ⟨hne, hn⟩
  · rintro ⟨hne, hn⟩
    exact ⟨_, _, List.takeWhile_append_dropWhile.symm, hne,
      fun c hc => List.mem_takeWhile_imp hc, head?_dropWhile_isDigit value, hn⟩

/-- A value starts with one number at most. -/
theorem Opens.unique {value : List Char} {m n : Nat} (hm : Opens value m) (hn : Opens value n) :
    m = n := (opens_iff.1 hm).2.symm.trans (opens_iff.1 hn).2

/-- What can be read is a number below 2⁶⁴. -/
theorem leadingNumber?_eq_some_iff {value : List Char} {n : Nat} :
    leadingNumber? value = some n ↔ Opens value n ∧ n < 2 ^ 64 := by
  rw [opens_iff, leadingNumber?, maxNumber_eq]
  simp only [Option.ite_none_left_eq_some, Bool.or_eq_true, List.isEmpty_iff, decide_eq_true_eq,
    Option.some.injEq]
  constructor
  · rintro ⟨hread, rfl⟩
    exact ⟨⟨fun hnil => hread (.inl hnil), rfl⟩, by omega⟩
  · rintro ⟨⟨hne, rfl⟩, hlt⟩
    exact ⟨fun h => h.elim hne (by omega), rfl⟩

variable {value : List Char} {n : Nat}

theorem Opens.leadingNumber?_of_lt (h : Opens value n) (hn : n < 2 ^ 64) :
    leadingNumber? value = some n := leadingNumber?_eq_some_iff.2 ⟨h, hn⟩

/-- A larger number cannot be read. -/
theorem Opens.leadingNumber?_of_le (h : Opens value n) (hn : 2 ^ 64 ≤ n) :
    leadingNumber? value = none := by
  refine Option.eq_none_iff_forall_ne_some.2 fun m hm => ?_
  obtain ⟨hopens, hlt⟩ := leadingNumber?_eq_some_iff.1 hm
  have hmn : m = n := hopens.unique h
  omega

theorem Opens.apply_timeout (h : Opens value n) (hpos : 1 ≤ n) (t : Task) :
    Property.timeout.apply value t = { t with
      timeoutMs := if n < 2 ^ 64 then min (1000 * n) (2 ^ 64 - 1) else t.timeoutMs } := by
  by_cases hn : n < 2 ^ 64
  · obtain ⟨m, rfl⟩ := Nat.exists_eq_add_of_le' hpos
    simp only [apply, h.leadingNumber?_of_lt hn, if_pos hn, maxNumber_eq]
  · simp only [apply, h.leadingNumber?_of_le (Nat.le_of_not_lt hn), if_neg hn]

theorem Opens.apply_retries (h : Opens value n) (t : Task) :
    Property.retries.apply value t
      = { t with retries := if n < 2 ^ 64 then min n (2 ^ 32 - 1) else t.retries } := by
  by_cases hn : n < 2 ^ 64
  · simp only [apply, h.leadingNumber?_of_lt hn, if_pos hn, maxRetries_eq]
  · simp only [apply, h.leadingNumber?_of_le (Nat.le_of_not_lt hn), if_neg hn]

/-- A larger timeout that can be read is no shorter. -/
theorem Opens.timeoutMs_le {value' : List Char} {n' : Nat} (h : Opens value n)
    (h' : Opens value' n') (hpos : 1 ≤ n) (hle : n ≤ n') (hlt : n' < 2 ^ 64) (t : Task) :
    (Property.timeout.apply value t).timeoutMs ≤ (Property.timeout.apply value' t).timeoutMs := by
  rw [h.apply_timeout hpos, h'.apply_timeout (by omega), if_pos (by omega), if_pos hlt]
  show min (1000 * n) (2 ^ 64 - 1) ≤ min (1000 * n') (2 ^ 64 - 1)
  omega

/-- A larger number of retries that can be read gives no fewer. -/
theorem Opens.retries_le {value' : List Char} {n' : Nat} (h : Opens value n)
    (h' : Opens value' n') (hle : n ≤ n') (hlt : n' < 2 ^ 64) (t : Task) :
    (Property.retries.apply value t).retries ≤ (Property.retries.apply value' t).retries := by
  rw [h.apply_retries, h'.apply_retries, if_pos (by omega), if_pos hlt]
  show min n (2 ^ 32 - 1) ≤ min n' (2 ^ 32 - 1)
  omega

theorem Opens.isZeroTimeout (h : Opens value n) (hpos : 1 ≤ n) (p : Property) :
    p.isZeroTimeout value = false := by
  have hzero : leadingNumber? value ≠ some 0 := fun hz => by
    have hn : 0 = n := (leadingNumber?_eq_some_iff.1 hz).1.unique h
    omega
  simp [Property.isZeroTimeout, hzero]

end Property

namespace Workflow

/-- The workflow of a document of which one line, between those before and those after it,
has made the open task what it is now. -/
def resumed (stem : Option String) (before : List (List Char)) (t : Task)
    (after : List (List Char)) : Workflow :=
  ({ ({} : Draft).addLines 1 before with openTask := some t }.addLines (before.length + 2)
    after).finish.identify stem

variable {text raw key value : List Char} {before after : List (List Char)} {t : Task}

/-- A line of the body that gives the open task a property makes it that task and does
nothing else, unless it is a timeout of zero. -/
theorem parseAs_of_property (stem : Option String) {p : Property}
    (hlines : Text.lines (dropMark text) = before ++ raw :: after)
    (hbody : Region.body.after 1 before = .body)
    (hopen : (({} : Draft).addLines 1 before).openTask = some t)
    (hline : Line.read (Text.trim raw) = .property key value)
    (hp : Property.ofKey? (String.ofList key) = some p) (hz : p.isZeroTimeout value = false) :
    parseAs stem text = resumed stem before (p.apply value t) after := by
  have hpart : (({} : Draft).addLines 1 before).part = .body :=
    Section.region_eq_body.1 ((Draft.region_addLines {} 1 before).trans hbody)
  rw [parseAs, hlines, Draft.addLines_append, Draft.addLines, Draft.addLine_property hpart _ hline,
    Draft.setProperty_of_open hp hopen hz, show 1 + before.length + 1 = before.length + 2 by omega]
  rfl

/-- **What a number gives the open task.**  The line is one of the body, and its value starts
with the number `n`.  A timeout is that many seconds and retries are that many, up to a
greatest value each; but a number from 2⁶⁴ on gives nothing.  Short of that a larger number
never gives less. -/
theorem parseAs_number (stem : Option String) {n : Nat}
    (hlines : Text.lines (dropMark text) = before ++ raw :: after)
    (hbody : Region.body.after 1 before = .body)
    (hopen : (({} : Draft).addLines 1 before).openTask = some t)
    (hline : Line.read (Text.trim raw) = .property key value) (hn : Property.Opens value n) :
    (key = "timeout".toList → 1 ≤ n → parseAs stem text = resumed stem before
      { t with timeoutMs := if n < 2 ^ 64 then min (1000 * n) (2 ^ 64 - 1) else t.timeoutMs }
      after) ∧
    (key = "retry".toList ∨ key = "retries".toList → parseAs stem text = resumed stem before
      { t with retries := if n < 2 ^ 64 then min n (2 ^ 32 - 1) else t.retries } after) ∧
    ∀ value' n', Property.Opens value' n' → n ≤ n' → n' < 2 ^ 64 →
      (1 ≤ n → (Property.timeout.apply value t).timeoutMs
        ≤ (Property.timeout.apply value' t).timeoutMs) ∧
      (Property.retries.apply value t).retries ≤ (Property.retries.apply value' t).retries := by
  refine ⟨?_, fun hkey => ?_, fun value' n' hn' hle hlt => ⟨fun hpos => ?_, ?_⟩⟩
  · rintro rfl hpos
    rw [← hn.apply_timeout hpos]
    exact parseAs_of_property stem hlines hbody hopen hline (by decide +kernel)
      (hn.isZeroTimeout hpos .timeout)
  · have hp : Property.ofKey? (String.ofList key) = some .retries := by
      rcases hkey with rfl | rfl <;> decide +kernel
    rw [← hn.apply_retries]
    exact parseAs_of_property stem hlines hbody hopen hline hp rfl
  · exact hn.timeoutMs_le hn' hpos hle hlt t
  · exact hn.retries_le hn' hle hlt t

/-- Text behind the digits does not matter, and the greatest timeout is reached. -/
theorem parseAs_number_sample :
    ∃ t, (({} : Draft).addLines 1 ["### Do Things".toList]).openTask = some t ∧
      Property.Opens "020000000000000000s".toList 20000000000000000 ∧
      parseAs none "### Do Things\n- **Timeout:** 020000000000000000s\nRetry: 2".toList
        = resumed none ["### Do Things".toList] { t with timeoutMs := 2 ^ 64 - 1 }
            ["Retry: 2".toList] ∧
      (Property.retries.apply "020000000000000000s".toList t).retries
        ≤ (Property.retries.apply "18446744073709551615".toList t).retries := by
  obtain ⟨t, hopen⟩ := Option.isSome_iff_exists.1
    (show (({} : Draft).addLines 1 ["### Do Things".toList]).openTask.isSome = true by
      decide +kernel)
  have hlines : Text.lines
      (dropMark "### Do Things\n- **Timeout:** 020000000000000000s\nRetry: 2".toList)
        = ["### Do Things".toList] ++ "- **Timeout:** 020000000000000000s".toList
            :: ["Retry: 2".toList] := by
    decide +kernel
  have hline : Line.read (Text.trim "- **Timeout:** 020000000000000000s".toList)
      = .property "timeout".toList "020000000000000000s".toList := rfl
  have hn : Property.Opens "020000000000000000s".toList 20000000000000000 :=
    Property.opens_iff.2 (by decide +kernel)
  have hmax : Property.Opens "18446744073709551615".toList (2 ^ 64 - 1) :=
    Property.opens_iff.2 (by decide +kernel)
  obtain ⟨htimeout, -, hle⟩ := parseAs_number none hlines (by decide +kernel) hopen hline hn
  exact ⟨t, hopen, hn, htimeout rfl (by omega), (hle _ _ hmax (by omega) (by omega)).2⟩

/-- With one second more than can be read the task keeps the timeout that it had before, with
one retry more it gets none. -/
theorem number_beyond_is_passed_over :
    Property.Opens "18446744073709551616".toList (2 ^ 64) ∧
      (parse ("### Do Things\nTimeout: 18446744073709551616\n"
        ++ "Retry: 18446744073709551616\n").toList).tasks.map
          (fun t => (t.timeoutMs, t.retries)) = [(300000, 0)] ∧
      (parse ("### Do Things\nTimeout: 18446744073709551615\n"
        ++ "Retry: 18446744073709551615\n").toList).tasks.map
          (fun t => (t.timeoutMs, t.retries)) = [(2 ^ 64 - 1, 2 ^ 32 - 1)] := by
  refine ⟨Property.opens_iff.2 ?_, ?_, ?_⟩ <;> decide +kernel

end Workflow
end Runbook
