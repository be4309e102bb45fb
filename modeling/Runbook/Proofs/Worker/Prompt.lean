/-
# What a prompt says

A prompt is made of sentences, and whatever stands in a sentence stands in the prompt
(`PromptWorker.says_of_sentence`).  There is one on each of tool, command, options, code and
output if the task has it, and one on what is to be done, which names the target:

| action                   | what the first sentence names        | without it                   |
|--------------------------|--------------------------------------|------------------------------|
| recon, scan, enumerate   | target                               | a word in its place          |
| exploit                  | target                               | vulnerability, else a word   |
| analyze                  | data, else input                     | a word in its place          |
| all others               | name of the task, then the target    | nothing on the target        |

So an analysis is the one action whose prompt does not depend on the target at all
(`PromptWorker.conveys`).
-/

import Mathlib.Data.List.Infix
import Runbook.Worker.Prompt

namespace Runbook

/-- Another parameter's text is not touched. -/
theorem Assignment.parameterText?_withParameter (a : Assignment) {key other : String} (v : Json)
    (h : other ≠ key) : (a.withParameter key v).parameterText? other = a.parameterText? other := by
  have hget : (a.withParameter key v).parameter? other = a.parameter? other := by
    rw [parameter?, parameter?, withParameter, Dict.get?_insert, if_neg h]
  rw [parameterText?, parameterText?, hget]

namespace PromptWorker

/-- A text has another one in it. -/
def Says (text part : String) : Prop := part.toList <:+: text.toList

/-- The sentences of a prompt on what the task says. -/
def sentences (a : Assignment) : List String :=
  [instruction a, clause "Use tool: " (a.parameterText? "tool") ". ",
   clause "Execute command: " (a.parameterText? "command") ". ",
   clause "Parameters: " (a.parameterText? "options") ". ",
   clause "\n\nCode to execute or analyze:\n" a.code "\n",
   clause "\n\nExpected output: " a.output "."]

/-- How every prompt starts. -/
def greeting (kind : WorkerKind) : String :=
  "As a professional " ++ specialist kind ++ " specialist, "

variable {kind : WorkerKind} {a : Assignment}

theorem toList_prompt (kind : WorkerKind) (a : Assignment) :
    (prompt kind a).toList
      = (greeting kind).toList ++ ((sentences a).map String.toList).flatten
        ++ requirements.toList := by
  unfold prompt greeting sentences
  simp only [String.toList_append, List.map_cons, List.map_nil, List.flatten_cons,
    List.flatten_nil, List.append_assoc, List.append_nil]

/-- What a sentence says the prompt says. -/
theorem says_of_sentence {sentence part : String} (hs : sentence ∈ sentences a)
    (h : Says sentence part) : Says (prompt kind a) part := by
  have hinner : sentence.toList <:+: ((sentences a).map String.toList).flatten :=
    List.infix_of_mem_flatten (List.mem_map_of_mem hs)
  have hall : ((sentences a).map String.toList).flatten <:+: (prompt kind a).toList :=
    ⟨_, _, (toList_prompt kind a).symm⟩
  exact h.trans (hinner.trans hall)

theorem says_append (before part after : String) : Says (before ++ part ++ after) part :=
  ⟨before.toList, after.toList, by rw [String.toList_append, String.toList_append]⟩

/-- A clause has what it is on in it. -/
theorem says_clause {said : Option String} {part : String} (h : said = some part)
    (before after : String) : Says (clause before said after) part := by
  rw [h]
  exact says_append before part after

/-- The sentence on what is to be done ends with the target, unless that is to analyze. -/
theorem exists_instruction_eq {target : String} (h : a.action ≠ .analyze)
    (ht : a.parameterText? "target" = some target) :
    ∃ start, instruction a = start ++ target ++ ". " := by
  unfold instruction
  rw [ht]
  cases ha : a.action with
  | analyze => exact absurd ha h
  | recon | exploit | scan | enumerate => exact ⟨_, rfl⟩
  | test | validate | report | execute | monitor =>
    refine ⟨"execute the following task: " ++ a.name ++ ". " ++ "Target: ", ?_⟩
    simp only [Option.map_some, Option.getD_some, String.append_assoc]

/-- How the sentence on what is to be done starts where a target is needed. -/
def lead : Action → String
  | .recon => "perform reconnaissance on target: "
  | .exploit => "generate exploit code for: "
  | .scan => "perform scanning on: "
  | .enumerate => "perform enumeration on: "
  | _ => ""

theorem instruction_of_targeted {target : String} (h : a.action ∈ targeted)
    (ht : a.parameterText? "target" = some target) :
    instruction a = lead a.action ++ target ++ ". " := by
  unfold instruction
  rw [ht]
  cases ha : a.action with
  | recon | exploit | scan | enumerate => rfl
  | analyze | test | validate | report | execute | monitor =>
    rw [ha] at h
    exact absurd h (by decide)

/-- What passes the check has the target that its action needs. -/
theorem exists_target_of_check (h : a.action ∈ targeted) (hcheck : (check a).valid = true) :
    ∃ target, a.parameterText? "target" = some target := by
  refine Option.ne_none_iff_exists'.1 fun hnone => ?_
  rw [check, if_pos ⟨h, hnone⟩] at hcheck
  have hempty := List.isEmpty_iff.1 hcheck
  exact absurd (List.append_eq_nil_iff.1 hempty).2 (List.cons_ne_nil _ _)

/-- An analysis is not told its target. -/
theorem prompt_withParameter_target (h : a.action = .analyze) (v : Json) :
    prompt kind (a.withParameter "target" v) = prompt kind a := by
  have hother : ∀ key, key ≠ "target" →
      (a.withParameter "target" v).parameterText? key = a.parameterText? key :=
    fun key hkey => a.parameterText?_withParameter v hkey
  have haction : (a.withParameter "target" v).action = .analyze := h
  have hinstruction : instruction (a.withParameter "target" v) = instruction a := by
    unfold instruction
    rw [haction, h]
    simp only [hother "data" (by decide), hother "input" (by decide)]
  have hcode : (a.withParameter "target" v).code = a.code := rfl
  have houtput : (a.withParameter "target" v).output = a.output := rfl
  unfold prompt
  rw [hinstruction, hother "tool" (by decide), hother "command" (by decide),
    hother "options" (by decide), hcode, houtput]

/-- What a prompt conveys of an assignment: all that the parameters for tool, command and
options say, the code and the output, and the target unless it is an analysis.  If the action
needs a target and the assignment passes the check, the target is where the prompt says what
to do, and no word in its place. -/
structure Conveys (kind : WorkerKind) (a : Assignment) : Prop where
  parameters : ∀ key ∈ ["tool", "command", "options"], ∀ x, a.parameterText? key = some x →
    Says (prompt kind a) x
  code : ∀ x, a.code = some x → Says (prompt kind a) x
  output : ∀ x, a.output = some x → Says (prompt kind a) x
  target : a.action ≠ .analyze → ∀ x, a.parameterText? "target" = some x → Says (prompt kind a) x
  analysis : a.action = .analyze → ∀ v, prompt kind (a.withParameter "target" v) = prompt kind a
  checked : a.action ∈ targeted → (check a).valid = true → ∃ x rest,
    a.parameterText? "target" = some x ∧
      prompt kind a = greeting kind ++ lead a.action ++ x ++ ". " ++ rest

/-- **What a prompt conveys.**  Nothing that a task says is lost but the target of an
analysis, which no prompt for it depends on. -/
theorem conveys (kind : WorkerKind) (a : Assignment) : Conveys kind a := by
  refine ⟨fun key hkey x hx => ?_, fun x hx => ?_, fun x hx => ?_, fun h x hx => ?_,
    fun h v => prompt_withParameter_target h v, fun h hcheck => ?_⟩
  · have hclause : ∃ before, clause before (a.parameterText? key) ". " ∈ sentences a := by
      simp only [List.mem_cons, List.not_mem_nil, or_false] at hkey
      rcases hkey with rfl | rfl | rfl
      · exact ⟨_, .tail _ (.head _)⟩
      · exact ⟨_, .tail _ (.tail _ (.head _))⟩
      · exact ⟨_, .tail _ (.tail _ (.tail _ (.head _)))⟩
    obtain ⟨before, hclause⟩ := hclause
    exact says_of_sentence hclause (says_clause hx before ". ")
  · have hclause : clause "\n\nCode to execute or analyze:\n" a.code "\n" ∈ sentences a :=
      .tail _ (.tail _ (.tail _ (.tail _ (.head _))))
    exact says_of_sentence hclause (says_clause hx _ _)
  · have hclause : clause "\n\nExpected output: " a.output "." ∈ sentences a :=
      .tail _ (.tail _ (.tail _ (.tail _ (.tail _ (.head _)))))
    exact says_of_sentence hclause (says_clause hx _ _)
  · obtain ⟨start, hstart⟩ := exists_instruction_eq h hx
    exact says_of_sentence List.mem_cons_self (hstart ▸ says_append start x ". ")
  · obtain ⟨x, hx⟩ := exists_target_of_check h hcheck
    refine ⟨x, String.ofList (((sentences a).tail.map String.toList).flatten
      ++ requirements.toList), hx, String.toList_injective ?_⟩
    simp only [toList_prompt, sentences, instruction_of_targeted h hx, String.toList_append,
      String.toList_ofList, List.tail_cons, List.map_cons, List.flatten_cons, List.append_assoc]

/-- A target need not be a text to pass the check. -/
example :
    let a : Assignment :=
      { jobId := "job-1", name := "Scan Ports", worker := .scan, action := .scan,
        parameters := .ofList [("target", .array [.bool true, .string "b"])] }
    check a = .ok ∧ a.parameterText? "target" = some "[true,\"b\"]" := by
  decide +kernel

/-- An analysis of which only the target is given. -/
def targetedAnalysis : Assignment :=
  { jobId := "job-1", name := "Analyze Host", worker := .analysis, action := .analyze,
    parameters := .ofList [("target", .string "10.0.0.7")] }

/-- The target of an analysis is lost: its prompt has no seven. -/
theorem analysis_loses_target :
    targetedAnalysis.parameterText? "target" = some "10.0.0.7" ∧
      ¬Says (prompt .analysis targetedAnalysis) "10.0.0.7" := by
  have hseven : '7' ∉ (prompt .analysis targetedAnalysis).toList := by
    rw [toList_prompt]
    unfold requirements
    simp only [String.toList_append, List.append_assoc]
    decide +kernel
  exact ⟨by decide +kernel, fun h => hseven (h.subset (by decide))⟩

end PromptWorker
end Runbook
