/-
# What an attempt does

Left alone, an attempt ends after a while or never (`Behaviour`).  Which it is depends on
its plan and on what the plan is told: what the service replies, what is in the files,
and what the clock shows (`Plan.behaviour`).  A simulation carries a plan out as far as it
goes at one instant: to the end of the attempt, to the next wait, or to where it hangs
(`Carried`).  Meanwhile nothing happens but that the inference service is asked and
jobs are stopped (`Simulation.Calm`).
-/

import Mathlib.Logic.Relation
import Runbook.Engine.Simulation
import Runbook.Proofs.Simulation.Advance

namespace Runbook

/-! ### How attempts behave -/

/-- How an attempt behaves that is left alone: it ends after a while, or never. -/
inductive Behaviour where
  | ends (ms : Nat) (e : AttemptEnd)
  | never

namespace Behaviour

/-- The behaviour seen from some time before. -/
def delayed (ms : Nat) : Behaviour → Behaviour
  | .ends rest e => .ends (ms + rest) e
  | .never => .never

@[simp] theorem delayed_zero (b : Behaviour) : b.delayed 0 = b := by
  cases b <;> simp [delayed]

@[simp] theorem delayed_delayed (b : Behaviour) (m n : Nat) :
    (b.delayed n).delayed m = b.delayed (m + n) := by
  cases b <;> simp [delayed, Nat.add_assoc]

end Behaviour

namespace Plan

/-- How the plan behaves that is carried out from an instant on, if the service gives these
replies to its requests and there are these files. -/
def behaviour (files : String → Option ByteArray) :
    Plan → (replies : Nat → Except InferenceError Json) → (time : Nat) → Behaviour
  | .answer (.ok v), _, _ => .ends 0 (.value v)
  | .answer (.error cause), _, _ => .ends 0 (.error cause)
  | .panic message, _, _ => .ends 0 (.panic message)
  | .hang, _, _ => .never
  | .wait ms next, replies, time => (behaviour files next replies (time + ms)).delayed ms
  | .stop _ next, replies, time => behaviour files next replies time
  | .ask _ next, replies, time =>
    behaviour files (next (replies 0)) (fun i => replies (i + 1)) time
  | .load path next, replies, time => behaviour files (next (files path)) replies time
  | .now next, replies, time => behaviour files (next ⟨time⟩) replies time

/-- The one plan is what the other goes on with. -/
inductive Part : Plan → Plan → Prop where
  | wait (ms : Nat) (next : Plan) : Part next (.wait ms next)
  | stop (jobId : String) (next : Plan) : Part next (.stop jobId next)
  | ask (request : InferenceRequest) (next : Except InferenceError Json → Plan)
      (reply : Except InferenceError Json) : Part (next reply) (.ask request next)
  | load (path : String) (next : Option ByteArray → Plan) (bytes : Option ByteArray) :
      Part (next bytes) (.load path next)
  | now (next : Instant → Plan) (t : Instant) : Part (next t) (.now next)

/-- No plan goes on for ever. -/
theorem wellFounded_part : WellFounded Part := by
  refine ⟨fun plan => ?_⟩
  induction plan with
  | answer result => exact ⟨_, fun _ h => nomatch h⟩
  | panic message => exact ⟨_, fun _ h => nomatch h⟩
  | hang => exact ⟨_, fun _ h => nomatch h⟩
  | wait ms next ih => exact ⟨_, fun | _, .wait .. => ih⟩
  | stop jobId next ih => exact ⟨_, fun | _, .stop .. => ih⟩
  | ask request next ih => exact ⟨_, fun | _, .ask _ _ reply => ih reply⟩
  | load path next ih => exact ⟨_, fun | _, .load _ _ bytes => ih bytes⟩
  | now next ih => exact ⟨_, fun | _, .now _ t => ih t⟩

end Plan

/-! ### What happens at one instant -/

/-- The attempt that the entry notes. -/
def LogEntry.call? : LogEntry → Option (Assignment × Nat)
  | .call a number _ => some (a, number)
  | .stop .. => none

namespace Simulation

/-- The reply to a request that is made after as many others. -/
def reply (s : Simulation) (i : Nat) : Except InferenceError Json :=
  (s.replies[i]?).getD (.ok .null)

/-- At one instant the inference service was asked so many times and jobs were stopped; nothing
else happened. -/
structure Calm (asked : Nat) (s t : Simulation) : Prop where
  agenda : t.agenda = s.agenda
  clock : t.clock = s.clock
  runs : t.runs = s.runs
  flights : t.flights = s.flights
  files : t.files = s.files
  panicMark : t.panicMark = s.panicMark
  orchestrator : s.orchestrator.Persists t.orchestrator
  log : ∃ stops, t.log = s.log ++ stops ∧ stops.filterMap LogEntry.call? = []
  requests : t.requests.length = s.requests.length + asked
  reply : ∀ i, t.reply i = s.reply (asked + i)

namespace Calm

variable {s t u : Simulation} {m n : Nat}

theorem refl (s : Simulation) : Calm 0 s s :=
  ⟨rfl, rfl, rfl, rfl, rfl, rfl, .refl _, ⟨[], by simp, rfl⟩, rfl, fun i => by rw [Nat.zero_add]⟩

theorem trans (h : Calm m s t) (h' : Calm n t u) : Calm (m + n) s u := by
  obtain ⟨stops, hlog, hnone⟩ := h.log
  obtain ⟨stops', hlog', hnone'⟩ := h'.log
  refine ⟨h'.agenda.trans h.agenda, h'.clock.trans h.clock, h'.runs.trans h.runs,
    h'.flights.trans h.flights, h'.files.trans h.files, h'.panicMark.trans h.panicMark,
    h.orchestrator.trans h'.orchestrator, ⟨stops ++ stops', ?_, ?_⟩, ?_, fun i => ?_⟩
  · rw [hlog', hlog, List.append_assoc]
  · rw [List.filterMap_append, hnone, hnone', List.append_nil]
  · rw [h'.requests, h.requests, Nat.add_assoc]
  · rw [h'.reply, h.reply, Nat.add_assoc]

end Calm

theorem calm_ask (s : Simulation) (request : InferenceRequest) : Calm 1 s (s.ask request).2 := by
  rw [ask]
  dsimp only
  split
  · rename_i hnone
    refine ⟨rfl, rfl, rfl, rfl, rfl, rfl, .refl _, ⟨[], by simp, rfl⟩, by simp, fun i => ?_⟩
    rw [reply, reply, show s.replies = [] from hnone]
    rfl
  · rename_i hsome
    refine ⟨rfl, rfl, rfl, rfl, rfl, rfl, .refl _, ⟨[], by simp, rfl⟩, by simp, fun i => ?_⟩
    rw [reply, reply, show s.replies = _ from hsome, Nat.add_comm 1 i, List.getElem?_cons_succ]

/-- The service gives the first of its replies. -/
theorem ask_fst (s : Simulation) (request : InferenceRequest) :
    (s.ask request).1 = s.reply 0 := by
  rw [ask, reply]
  dsimp only
  split
  · rename_i hnone
    rw [show s.replies = [] from hnone]
    rfl
  · rename_i hsome
    rw [show s.replies = _ from hsome]
    rfl

theorem calm_stopFor (s : Simulation) (byJob jobId : String) :
    Calm 0 s (s.stopFor byJob jobId) :=
  ⟨rfl, rfl, rfl, rfl, rfl, rfl, Orchestrator.persists_stop .., ⟨_, rfl, rfl⟩, rfl,
    fun i => by rw [Nat.zero_add]; rfl⟩

end Simulation

/-! ### Carrying a plan out -/

/-- The end of an attempt as a simulation reports it. -/
def AttemptEnd.reported (mark : String) : AttemptEnd → AttemptEnd
  | .panic message => .panic (panicReport mark message)
  | e => e

namespace Simulation

/-- The replies are those that the simulation gives to so many requests. -/
def Gives (s : Simulation) (asked : Nat) (replies : Nat → Except InferenceError Json) : Prop :=
  ∀ i < asked, replies i = s.reply i

/-- How far a plan is carried out at one instant.  What it comes to depends only on the replies
that are given meanwhile, and on those that will be given to what is left of it. -/
inductive Carried (f : Flight) (plan : Plan) (s : Simulation) :
    Option AttemptEnd × Simulation → Prop where
  /-- The attempt ends. -/
  | ended {t : Simulation} {asked : Nat} (e : AttemptEnd) (calm : Calm asked s t)
      (behaves : ∀ r, s.Gives asked r → plan.behaviour s.files r s.clock = .ends 0 e) :
      Carried f plan s (some (e.reported s.panicMark), t)
  /-- It will never end. -/
  | hangs {t : Simulation} {asked : Nat} (calm : Calm asked s t)
      (behaves : ∀ r, s.Gives asked r → plan.behaviour s.files r s.clock = .never) :
      Carried f plan s (none, t)
  /-- It goes on later with a part of the plan. -/
  | waits {t : Simulation} {asked : Nat} (ms : Nat) (next : Plan) (calm : Calm asked s t)
      (part : Relation.TransGen Plan.Part next plan)
      (behaves : ∀ r, s.Gives asked r → plan.behaviour s.files r s.clock
        = (next.behaviour s.files (fun i => r (asked + i)) (s.clock + (ms + 1))).delayed (ms + 1)) :
      Carried f plan s (none, t.later (ms + 1) (.proceed f next))

namespace Carried

variable {f : Flight} {plan next : Plan} {s t : Simulation} {m : Nat}
  {result : Option AttemptEnd × Simulation}

/-- The replies to the first requests, and those to the others. -/
theorem gives_add {n : Nat} {r : Nat → Except InferenceError Json} (calm : Calm m s t)
    (h : s.Gives (m + n) r) : s.Gives m r ∧ t.Gives n fun i => r (m + i) :=
  ⟨fun i hi => h i (Nat.lt_add_right n hi), fun i hi =>
    (h (m + i) (Nat.add_lt_add_left hi m)).trans (calm.reply i).symm⟩

/-- Something is done at once before the rest of the plan is carried out. -/
theorem after (h : Carried f next t result) (calm : Calm m s t) (part : Plan.Part next plan)
    (behaves : ∀ r, s.Gives m r → plan.behaviour s.files r s.clock
      = next.behaviour s.files (fun i => r (m + i)) s.clock) :
    Carried f plan s result := by
  cases h with
  | ended e calm' hb =>
    rw [calm.panicMark]
    refine .ended e (calm.trans calm') fun r hr => ?_
    obtain ⟨hfirst, hothers⟩ := gives_add calm hr
    rw [behaves r hfirst, ← calm.files, ← calm.clock]
    exact hb _ hothers
  | hangs calm' hb =>
    refine .hangs (calm.trans calm') fun r hr => ?_
    obtain ⟨hfirst, hothers⟩ := gives_add calm hr
    rw [behaves r hfirst, ← calm.files, ← calm.clock]
    exact hb _ hothers
  | waits ms rest calm' hpart hb =>
    refine .waits ms rest (calm.trans calm') (hpart.tail part) fun r hr => ?_
    obtain ⟨hfirst, hothers⟩ := gives_add calm hr
    rw [behaves r hfirst, ← calm.files, ← calm.clock]
    simpa only [Nat.add_assoc] using hb _ hothers

end Carried

/-- A plan is carried out to the end of the attempt, to a wait, or to where it hangs. -/
theorem carried (f : Flight) (plan : Plan) (s : Simulation) :
    Carried f plan s (carry f plan s) := by
  -- What makes no request is told of the same replies.
  have hsame : ∀ r : Nat → Except InferenceError Json, (fun i => r (0 + i)) = r := fun r => by
    simp only [Nat.zero_add]
  induction plan generalizing s with
  | answer result =>
    cases result with
    | ok v => exact .ended (.value v) (.refl s) fun _ _ => rfl
    | error cause => exact .ended (.error cause) (.refl s) fun _ _ => rfl
  | panic message => exact .ended (.panic message) (.refl s) fun _ _ => rfl
  | hang => exact .hangs (.refl s) fun _ _ => rfl
  | wait ms next ih =>
    cases ms with
    | zero =>
      refine (ih s).after (.refl s) (.wait 0 next) fun r _ => ?_
      rw [hsame, Plan.behaviour, Behaviour.delayed_zero, Nat.add_zero]
    | succ ms =>
      refine .waits ms next (.refl s) (.single (.wait _ next)) fun r _ => ?_
      rw [hsame, Plan.behaviour]
  | stop jobId next ih =>
    refine (ih _).after (calm_stopFor ..) (.stop jobId next) fun r _ => ?_
    rw [hsame, Plan.behaviour]
  | ask request next ih =>
    have hfirst : (s.ask request).1 = s.reply 0 := ask_fst s request
    refine (ih (s.ask request).1 _).after (calm_ask s request) (.ask request next _) fun r hr => ?_
    rw [Plan.behaviour, hfirst, hr 0 Nat.zero_lt_one]
    simp only [Nat.add_comm]
  | load path next ih =>
    refine (ih _ s).after (.refl s) (.load path next _) fun r _ => ?_
    rw [hsame, Plan.behaviour]
  | now next ih =>
    refine (ih _ s).after (.refl s) (.now next s.now) fun r _ => ?_
    rw [hsame, Plan.behaviour, now]

end Simulation
end Runbook
