/-
# Histories of simulations

All that can happen to a simulation (`Simulation.Next`): what is due is done, runs take
up their outcomes, time goes by, a job is started, or the orchestrator is used from
outside.  In whatever order that happens, an orderly simulation stays orderly, and what
is due of a flight changes only when something of that flight is done
(`Simulation.Next.keeps`).
-/

import Runbook.Proofs.Simulation.Agenda

namespace Runbook
namespace Simulation

/-- What can happen next to a simulation; with what was due, if that is what is done. -/
inductive Next : Simulation → Option Due → Simulation → Prop where
  /-- What is due is done. -/
  | perform {s : Simulation} {time : Nat} {d : Due} {agenda : List (Nat × Due)}
      (head : s.agenda = (time, d) :: agenda) (due : time ≤ s.clock) :
      Next s (some d) (perform { s with agenda } d)
  /-- The runs take up their outcomes. -/
  | takeUp (s : Simulation) : Next s none s.takeUpAll
  /-- Time goes by in which nothing is due. -/
  | pass {s : Simulation} {time : Nat} (later : s.clock ≤ time)
      (idle : ∀ e ∈ s.agenda, time ≤ e.1) : Next s none { s with clock := time }
  /-- A job is started. -/
  | start (s : Simulation) (workflowId : String) (parameters : Dict Json) :
      Next s none (s.start workflowId parameters).2
  /-- A workflow is registered, or refused. -/
  | register (s : Simulation) (w : Workflow) :
      Next s none { s with orchestrator := (s.orchestrator.register w).2 }
  /-- A job is stopped from outside, or cannot be. -/
  | stop (s : Simulation) (jobId : String) :
      Next s none { s with orchestrator := (s.orchestrator.stop jobId s.now).2 }
  /-- Nobody listens any more. -/
  | deafen (s : Simulation) :
      Next s none { s with orchestrator := { s.orchestrator with listening := false } }

/-- A simulation in which nothing has happened. -/
structure Blank (s : Simulation) : Prop where
  agenda : s.agenda = []
  runs : s.runs = []

/-- A simulation that can come of another. -/
def Reaches (s t : Simulation) : Prop :=
  Relation.ReflTransGen (fun s t => ∃ d, Next s d t) s t

variable {s t : Simulation}

/-- Where nothing has happened there is order. -/
theorem Blank.orderly (h : s.Blank) : s.Orderly := by
  have hids : s.jobIds = [] := by rw [jobIds, h.runs, List.map_nil]
  refine ⟨by simp [h.agenda], by simp [h.agenda], by simp [h.agenda], by simp [h.agenda],
    by simp [h.agenda], by simp [hids], by simp [hids], by simp [h.runs]⟩

theorem jobName_inj {m n : Nat} (h : jobName m = jobName n) : m = n := by
  have htext : toString m = toString n := (String.append_right_inj _).1 h
  rw [Nat.toString_eq_ofList_toDigits, Nat.toString_eq_ofList_toDigits] at htext
  have hdigits := congrArg (fun text => Nat.ofDigitChars 10 text.toList 0) htext
  simpa using hdigits

/-- A run of another job is added. -/
theorem keeps_enroll {o : Orchestrator} {r : Run} (h : s.orchestrator.Persists o)
    (hnew : r.jobId ∉ s.jobIds) (hnamed : ∃ k ≤ o.jobs.length, r.jobId = jobName k)
    (hstocked : r.IsStocked) (own : Nat → Prop) :
    s.Keeps own { s with orchestrator := o, runs := s.runs ++ [⟨r, []⟩] } := by
  have hids : jobIds { s with orchestrator := o, runs := s.runs ++ [⟨r, []⟩] }
      = s.jobIds ++ [r.jobId] := List.map_append
  refine ⟨Nat.le_refl _, rfl, rfl, h, Nat.le_refl _, hids ▸ List.prefix_append _ _, List.prefix_rfl,
    fun _ _ => rfl, fun hs => ?_⟩
  refine ⟨hs.sorted, hs.ahead, hs.numbered, fun e he => ?_, hs.alone, fun id hid => ?_, ?_,
    fun t ht => ?_⟩
  · rw [hids]
    exact List.mem_append_left _ (hs.housed e he)
  · rw [hids] at hid
    rcases List.mem_append.1 hid with hid | hid
    · obtain ⟨k, hk, rfl⟩ := hs.named id hid
      exact ⟨k, Nat.le_trans hk h.jobs, rfl⟩
    · obtain rfl := List.mem_singleton.1 hid
      exact hnamed
  · rw [hids, ← List.concat_eq_append]
    exact hs.distinct.concat hnew
  · rcases List.mem_append.1 ht with ht | ht
    · exact hs.stocked t ht
    · obtain rfl := List.mem_singleton.1 ht
      exact hstocked

/-- A job that is started has a run that there was not. -/
theorem keeps_start (hs : s.Orderly) (workflowId : String) (parameters : Dict Json) :
    s.Keeps (s.flights ≤ ·) (s.start workflowId parameters).2 := by
  rw [start]
  dsimp only
  cases hstart : s.orchestrator.start workflowId (jobName (s.orchestrator.jobs.length + 1))
      parameters s.now with
  | mk started o =>
    cases started with
    | error e =>
      dsimp only
      exact keeps_orchestrator (Run.persists_start_error hstart) _
    | ok r =>
      obtain ⟨hpersists, hjobs, hid, hstocked⟩ := Run.of_start hstart
      have hnew : r.jobId ∉ s.jobIds := fun hin => by
        obtain ⟨k, hk, heq⟩ := hs.named _ hin
        have := jobName_inj (hid.symm.trans heq)
        omega
      refine Keeps.andThen ?_ hs fun hs' => (keeps_settle hs' ?_ hstocked []).mono ?_
      · exact keeps_enroll hpersists hnew ⟨_, Nat.le_of_eq hjobs.symm, hid⟩ hstocked _
      · simp [jobIds]
      · exact fun _ => id

/-- Time goes by. -/
theorem keeps_pass {time : Nat} (later : s.clock ≤ time) (idle : ∀ e ∈ s.agenda, time ≤ e.1)
    (own : Nat → Prop) : s.Keeps own { s with clock := time } :=
  ⟨later, rfl, rfl, .refl _, Nat.le_refl _, List.prefix_rfl, List.prefix_rfl, fun _ _ => rfl,
    fun hs => ⟨hs.sorted, idle, hs.numbered, hs.housed, hs.alone, hs.named, hs.distinct, hs.stocked⟩⟩

/-- **What happens concerns few flights**: that of which something is done, or else those
that are launched. -/
theorem Next.keeps {d : Option Due} (h : Next s d t) (hs : s.Orderly) :
    s.Keeps (fun n => s.flights ≤ n ∨ ∃ e, d = some e ∧ e.flight.number = n) t := by
  cases h with
  | perform head due => exact keeps_perform hs head (Or.inr ⟨_, rfl, rfl⟩)
  | takeUp => exact (keeps_takeUpAll hs).mono fun _ => Or.inl
  | pass later idle => exact keeps_pass later idle _
  | start workflowId parameters => exact (keeps_start hs workflowId parameters).mono fun _ => Or.inl
  | register w => exact keeps_orchestrator (Orchestrator.persists_register _ w) _
  | stop jobId => exact keeps_orchestrator (Orchestrator.persists_stop _ jobId s.now) _
  | deafen =>
    exact keeps_orchestrator (o := { s.orchestrator with listening := false })
      ⟨rfl, Nat.le_refl _⟩ _

/-- **Order lasts.** -/
theorem Reaches.orderly (h : s.Reaches t) (hs : s.Orderly) : t.Orderly := by
  induction h with
  | refl => exact hs
  | tail _ hnext ih =>
    obtain ⟨d, hnext⟩ := hnext
    exact (hnext.keeps ih).orderly ih

/-! ### Doing one thing after the other -/

/-- What is due at this instant and is done next. -/
def atHand (s : Simulation) : Option Due :=
  match s.agenda with
  | [] => none
  | (time, d) :: _ => if time ≤ s.clock then some d else none

theorem atHand_of_nil (h : s.agenda = []) : s.atHand = none := by rw [atHand, h]

theorem atHand_of_cons {time : Nat} {d : Due} {agenda : List (Nat × Due)}
    (h : s.agenda = (time, d) :: agenda) :
    s.atHand = if time ≤ s.clock then some d else none := by rw [atHand, h]

/-- A tick is something that can happen. -/
theorem next_of_tick (hs : s.Orderly) {horizon : Option Nat} (h : s.tick horizon = some t) :
    Next s s.atHand t := by
  rw [tick] at h
  split at h
  · rename_i hagenda
    rw [atHand_of_nil hagenda]
    split at h
    · cases h
      exact .takeUp s
    · cases h
  · rename_i time d agenda hagenda
    rw [atHand_of_cons hagenda]
    split at h
    · rename_i hdue
      cases h
      rw [if_pos hdue]
      exact .perform hagenda hdue
    · rename_i hdue
      rw [if_neg hdue]
      split at h
      · cases h
        exact .takeUp s
      · split at h
        · cases h
          refine .pass (by omega) fun e he => ?_
          have hsorted := hs.sorted
          rw [hagenda] at hsorted he
          rcases List.mem_cons.1 he with rfl | he
          · exact Nat.le_refl _
          · exact (List.pairwise_cons.1 hsorted).1 e he
        · cases h

/-- So is all that is done until an end. -/
theorem reaches_runUntil (hs : s.Orderly) (fuel : Nat) (ended : Simulation → Bool)
    (horizon : Option Nat) : s.Reaches (runUntil fuel ended horizon s) := by
  induction fuel generalizing s with
  | zero => exact .refl
  | succ fuel ih =>
    rw [runUntil]
    split
    · exact .refl
    · split
      · exact .refl
      · rename_i t htick
        have hnext : ∃ d, Next s d t := ⟨_, next_of_tick hs htick⟩
        exact .head hnext (ih (Reaches.orderly (.single hnext) hs))

end Simulation
end Runbook
