/-
# Which texts are references

A text that opens with a dollar sign and a brace and closes with a brace is read as a
reference, whatever stands between these marks; every other text is a literal
(`Parameter.ofText_exact`).  A single reference has no closing brace between its marks.

| the text                                    | what it is meant to be | what it is read as |
|---------------------------------------------|------------------------|--------------------|
| marks around a text without a closing brace | a reference            | a reference        |
| marks around a text with a closing brace    | a literal              | a reference        |
| any other                                   | a literal              | a literal          |

The texts of the second row are put together of several references, or of a reference and
other text that happens to end in a brace.  They are read as one reference, to the name
that the whole text between the outermost marks makes.
-/

import Runbook.Proofs.Text.Trim
import Runbook.Workflow.Parameter

namespace Runbook

/-- A text ends with `finish` exactly when it is the rest and `finish`. -/
theorem Text.dropEnd?_eq_some_iff {finish cs rest : List Char} :
    dropEnd? finish cs = some rest ↔ cs = rest ++ finish := by
  rw [dropEnd?, Option.map_eq_some_iff]
  constructor
  · rintro ⟨back, hback, rfl⟩
    rw [← List.reverse_inj, dropStart?_eq_some_iff.1 hback]
    simp
  · rintro rfl
    refine ⟨rest.reverse, dropStart?_eq_some_iff.2 ?_, List.reverse_reverse rest⟩
    simp

namespace Parameter

/-- The text is an inner text between the marks of a reference. -/
def Encloses (raw inner : List Char) : Prop := raw = '$' :: '\x7b' :: (inner ++ ['\x7d'])

/-- What a text is meant to be: a reference if it is a single one as a whole, and otherwise
what it says. -/
inductive Intends (raw : List Char) : Parameter → Prop where
  | reference {inner : List Char} {e : String} (h : Encloses raw inner) (hone : '\x7d' ∉ inner)
      (he : Text.Trims inner e.toList) : Intends raw (.reference e)
  | literal (h : ∀ inner, Encloses raw inner → '\x7d' ∈ inner) :
      Intends raw (.literal (String.ofList raw))

variable {raw inner : List Char}

theorem expression?_eq_some_iff : expression? raw = some inner ↔ Encloses raw inner := by
  rw [expression?, Option.bind_eq_some_iff]
  constructor
  · rintro ⟨rest, hrest, hinner⟩
    rw [Text.dropStart?_eq_some_iff.1 hrest, Text.dropEnd?_eq_some_iff.1 hinner]
    rfl
  · rintro rfl
    exact ⟨inner ++ ['\x7d'], rfl, Text.dropEnd?_eq_some_iff.2 rfl⟩

/-- A text lies between the marks in one way at most. -/
theorem Encloses.unique {inner' : List Char} (h : Encloses raw inner)
    (h' : Encloses raw inner') : inner = inner' :=
  Option.some.inj ((expression?_eq_some_iff.2 h).symm.trans (expression?_eq_some_iff.2 h'))

theorem Encloses.ofText (h : Encloses raw inner) :
    ofText raw = .reference (String.ofList (Text.trim inner)) := by
  rw [Parameter.ofText, expression?_eq_some_iff.2 h]

theorem ofText_of_not_encloses (h : ∀ inner, ¬Encloses raw inner) :
    ofText raw = .literal (String.ofList raw) := by
  have hnone : expression? raw = none :=
    Option.eq_none_iff_forall_ne_some.2 fun inner hinner =>
      h inner (expression?_eq_some_iff.1 hinner)
  rw [ofText, hnone]

/-- Between the marks or not. -/
theorem encloses_or_not (raw : List Char) :
    (∃ inner, Encloses raw inner) ∨ ∀ inner, ¬Encloses raw inner := by
  rw [← not_exists]
  exact Classical.em _

theorem ofText_eq_reference_iff {e : String} :
    ofText raw = .reference e ↔ ∃ inner, Encloses raw inner ∧ Text.Trims inner e.toList := by
  simp only [Text.trims_iff]
  obtain ⟨inner, h⟩ | h := encloses_or_not raw
  · rw [h.ofText, reference.injEq]
    constructor
    · rintro rfl
      exact ⟨inner, h, String.toList_ofList.symm⟩
    · rintro ⟨inner', h', htrim⟩
      rw [h.unique h', htrim, String.ofList_toList]
  · rw [ofText_of_not_encloses h]
    exact iff_of_false Parameter.noConfusion fun ⟨inner, hinner, _⟩ => h inner hinner

theorem ofText_eq_literal_iff {t : String} :
    ofText raw = .literal t ↔ (∀ inner, ¬Encloses raw inner) ∧ t = String.ofList raw := by
  obtain ⟨inner, h⟩ | h := encloses_or_not raw
  · rw [h.ofText]
    exact iff_of_false Parameter.noConfusion fun hnone => hnone.1 inner h
  · rw [ofText_of_not_encloses h, literal.injEq, and_iff_right h, eq_comm]

/-- A text is misread if there is a closing brace between its marks, and only then. -/
theorem intends_ofText_iff :
    Intends raw (ofText raw) ↔ ∀ inner, Encloses raw inner → '\x7d' ∉ inner := by
  obtain ⟨inner, h⟩ | h := encloses_or_not raw
  · rw [h.ofText]
    constructor
    · rintro (⟨h', hone, -⟩ | _) inner' h''
      exact h'.unique h'' ▸ hone
    · intro hone
      refine .reference h (hone inner h) ?_
      rw [String.toList_ofList]
      exact Text.trims_trim inner
  · rw [ofText_of_not_encloses h]
    exact iff_of_true (.literal fun inner hinner => absurd hinner (h inner))
      fun inner hinner => absurd hinner (h inner)

/-- **Which texts are references.**  They are those between the marks of a reference, and the
expression is what stands between, trimmed; all others are literals as they stand.  That is
what is meant, except for texts with a closing brace between the marks. -/
theorem ofText_exact (raw : List Char) :
    (∀ e, ofText raw = .reference e ↔
      ∃ inner, Encloses raw inner ∧ Text.Trims inner e.toList) ∧
    (∀ t, ofText raw = .literal t ↔ (∀ inner, ¬Encloses raw inner) ∧ t = String.ofList raw) ∧
    (Intends raw (ofText raw) ↔ ¬∃ inner, Encloses raw inner ∧ '\x7d' ∈ inner) := by
  refine ⟨fun e => ofText_eq_reference_iff, fun t => ofText_eq_literal_iff, ?_⟩
  rw [intends_ofText_iff, not_exists]
  exact forall_congr' fun inner => not_and.symm

/-- Two references with a colon between them are read as one. -/
theorem pair_read_as_one :
    let raw := "$\x7bjob.host\x7d:$\x7bjob.port\x7d".toList
    Intends raw (.literal "$\x7bjob.host\x7d:$\x7bjob.port\x7d") ∧
      ofText raw = .reference "job.host\x7d:$\x7bjob.port" ∧ ¬Intends raw (ofText raw) := by
  have h : Encloses "$\x7bjob.host\x7d:$\x7bjob.port\x7d".toList
      "job.host\x7d:$\x7bjob.port".toList := rfl
  have hbrace : '\x7d' ∈ "job.host\x7d:$\x7bjob.port".toList := by decide
  refine ⟨.literal fun inner hinner => h.unique hinner ▸ hbrace, by decide +kernel,
    fun hmeant => ?_⟩
  exact intends_ofText_iff.1 hmeant _ h hbrace

end Parameter
end Runbook
