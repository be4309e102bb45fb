/-
# Efforts on a host and in simulated time

A host attempts what was started until no other attempt follows (`Host.attempts`), and so does a
simulation, one thing due after the other (`Simulation.afterAttempt`).  Both do what an effort
does: an attempt ends it, or makes the next one due (`Host.attempts_eq`,
`Simulation.afterAttempt_effort`).

On a host that does one thing after the other, as that in memory does (`Host.InTurn`), whatever is
begun comes to an outcome that its effort can have.
-/

import Runbook.Execution
import Runbook.Host.InMemory
import Runbook.Proofs.Engine.Workshop
import Runbook.Proofs.Simulation.Sighting

namespace Runbook

/-! ### Efforts and their attempts -/

/-- Whether an attempt can end so: only a limit cuts one off. -/
def Prepared.Allows (p : Prepared) (e : Option AttemptEnd) : Prop := e = none → p.limitMs.isSome

namespace Effort

/-- The effort after an attempt that ends so. -/
def attempt (e : Option AttemptEnd) (a : Effort) : Effort := a.begin.conclude e

/-- What some attempts can make of an effort. -/
inductive ComesTo : Effort → Option AttemptEnd → Prop where
  | ended {a : Effort} {e : Option AttemptEnd} (h : a.standing = .ended e) : ComesTo a e
  | attempt {a : Effort} {e e' : Option AttemptEnd} (allowed : a.prepared.Allows e')
      (after : ComesTo (a.attempt e') e) : ComesTo a e

/-- The outcome is one that the effort can have. -/
def Yields (a : Effort) (outcome : Outcome) : Prop :=
  ∃ e, a.ComesTo e ∧ outcome = a.prepared.outcomeOf e

/-- No attempt has been made at this, which is a task or the final report. -/
def IsNew (a : Effort) (p : Prepared) : Prop := ∃ report, a = .new report p

@[simp] theorem prepared_attempt (a : Effort) (e : Option AttemptEnd) :
    (a.attempt e).prepared = a.prepared :=
  (a.begin.leads_conclude e).prepared.trans a.leads_begin.prepared

/-- **After an attempt** that was due, another is, or the effort has ended. -/
theorem attempt_cases {a : Effort} (due : a.standing = .due) (e : Option AttemptEnd) :
    (∃ left, a.left = left + 1 ∧ a.prepared.after a.left e = none ∧
      a.attempt e = { a with left, calls := a.calls + 1 }) ∨
    (a.prepared.after a.left e = some (a.prepared.outcomeOf e) ∧
      a.attempt e = { a with calls := a.calls + 1, standing := .ended e }) := by
  obtain ⟨p, report, left, calls, standing⟩ := a
  obtain rfl : standing = .due := due
  cases hafter : p.after left e with
  | none =>
    cases left with
    | zero => cases hafter
    | succ left =>
      refine Or.inl ⟨left, rfl, rfl, ?_⟩
      simp only [attempt, begin, conclude, hafter]
      rfl
  | some outcome =>
    have houtcome : outcome = p.outcomeOf e := by
      rw [Prepared.after] at hafter
      split at hafter
      · cases hafter
      · exact (Option.some.inj hafter).symm
    exact Or.inr ⟨by rw [houtcome], by simp only [attempt, begin, conclude, hafter]⟩

end Effort

namespace Host

variable {m : Type → Type} [Monad m]

/-- **What is attempted on a host is an effort**: after each attempt, the effort has ended, or
another attempt follows the backoff. -/
theorem attempts_eq (h : Host m) (client : InferenceClient) (backoffMs : Nat) {a : Effort}
    (due : a.standing = .due) :
    h.attempts client backoffMs a.prepared a.left (a.calls + 1) = (do
      let e ← h.attempt client a.prepared (a.calls + 1)
      match (a.attempt e).end? with
      | some e => return a.prepared.outcomeOf e
      | none =>
        h.sleep backoffMs
        h.attempts client backoffMs a.prepared (a.attempt e).left ((a.attempt e).calls + 1)) := by
  have hafter : h.attempts client backoffMs a.prepared a.left (a.calls + 1) = (do
      let e ← h.attempt client a.prepared (a.calls + 1)
      (a.prepared.after a.left e).elim
        (do
          h.sleep backoffMs
          h.attempts client backoffMs a.prepared (a.left - 1) (a.calls + 1 + 1))
        pure) := by
    cases a.left with
    | zero => rfl
    | succ left =>
      rw [attempts]
      congr 1
      funext e
      cases a.prepared.after (left + 1) e <;> rfl
  rw [hafter]
  congr 1
  funext e
  rcases a.attempt_cases due e with ⟨left, hleft, hnone, hattempt⟩ | ⟨hsome, hattempt⟩
  · have hend : (a.attempt e).end? = none := by rw [hattempt, Effort.end?, due]
    rw [hnone, hend, hattempt, hleft]
    rfl
  · have hend : (a.attempt e).end? = some e := by rw [hattempt]; rfl
    rw [hsome, hend]
    rfl

end Host

/-! ### Attempts in simulated time -/

/-- The effort of a flight whose next attempt is due. -/
def Flight.effort (f : Flight) (report : Bool) : Effort :=
  { prepared := f.prepared, report, left := f.left, calls := f.prepared.retries - f.left }

/-- **What follows an attempt in simulated time is what an effort makes of it**: its outcome is
given to the run, or all that is due of the flight is the next attempt, after the backoff. -/
theorem Simulation.afterAttempt_effort {s : Simulation} {f : Flight} (hosts : s.Hosts f)
    (counted : f.left ≤ f.prepared.retries) (report : Bool) (e : Option AttemptEnd) :
    (((f.effort report).attempt e).standing = .ended e ∧
      (s.afterAttempt f e).dueOf f.number = [] ∧
      Adds f.prepared.assignment.jobId s (s.afterAttempt f e) [] [f.prepared.outcomeOf e]) ∨
    ∃ g : Flight, (f.effort report).attempt e = g.effort report ∧
      (s.afterAttempt f e).dueOf f.number
        = [(s.clock + s.orchestrator.settings.retryBackoffMs, .begin g)] ∧
      Adds f.prepared.assignment.jobId s (s.afterAttempt f e) [] [] := by
  rcases afterAttempt_cases hosts e with ⟨outcome, hafter, hdue, hadds⟩ | ⟨hafter, hdue, hadds⟩ <;>
    rcases (f.effort report).attempt_cases rfl e with
      ⟨left, hleft, hnone, hattempt⟩ | ⟨hsome, hattempt⟩
  · exact absurd (hafter.symm.trans hnone) (Option.some_ne_none _)
  · obtain rfl : outcome = f.prepared.outcomeOf e := Option.some.inj (hafter.symm.trans hsome)
    exact Or.inl ⟨by rw [hattempt], hdue, hadds⟩
  · have hleft : f.left = left + 1 := hleft
    refine Or.inr ⟨_, ?_, hdue, hadds⟩
    rw [hattempt, Flight.effort, Flight.effort]
    simp only [Effort.mk.injEq, true_and, and_true]
    omega
  · exact absurd (hsome.symm.trans hafter) (Option.some_ne_none _)

/-! ### Hosts that do one thing after the other -/

section

variable {σ : Type} {α β : Type} {queue : σ → List Outcome}

/-- The outcomes that wait to be taken up are left as they are. -/
def Leaves (queue : σ → List Outcome) (x : StateM σ α) : Prop := ∀ s, queue (x s).2 = queue s

theorem StateM.bind_apply (x : StateM σ α) (f : α → StateM σ β) (s : σ) :
    (x >>= f) s = f (x s).1 (x s).2 := rfl

theorem StateM.get_apply (s : σ) : (get : StateM σ σ) s = (s, s) := rfl

namespace Leaves

theorem pure (a : α) : Leaves queue (Pure.pure a) := fun _ => rfl

theorem bind {x : StateM σ α} {f : α → StateM σ β} (hx : Leaves queue x)
    (hf : ∀ a, Leaves queue (f a)) : Leaves queue (x >>= f) := fun s =>
  (hf (x s).1 (x s).2).trans (hx s)

theorem map {x : StateM σ α} (f : α → β) (hx : Leaves queue x) : Leaves queue (f <$> x) :=
  fun s => hx s

theorem forM {f : α → StateM σ PUnit} (hf : ∀ a, Leaves queue (f a)) (as : List α) :
    Leaves queue (as.forM f) := by
  induction as with
  | nil => exact .pure ()
  | cons a as ih => exact (hf a).bind fun _ => ih

end Leaves

/-- **The host attempts one thing after the other**: what is begun ends at once, and what it comes
to waits behind what has waited before; nothing else changes what waits. -/
structure Host.InTurn (h : Host (StateM σ)) (queue : σ → List Outcome) : Prop where
  now : Leaves queue h.now
  newId : Leaves queue h.newId
  load : ∀ path, Leaves queue (h.load path)
  send : ∀ secs r, Leaves queue (h.send secs r)
  sleep : ∀ ms, Leaves queue (h.sleep ms)
  within : ∀ ms x, Leaves queue x → Leaves queue (h.within ms x)
  spawn : ∀ x, Leaves queue x → ∀ s, queue (h.spawn x s).2 = queue s ++ [(x s).1]
  await : ∀ s, (h.await s).1 = (queue s).head? ∧ queue (h.await s).2 = (queue s).tail

namespace Host.InTurn

variable {h : Host (StateM σ)} (turn : h.InTurn queue) (client : InferenceClient)
include turn

theorem follow (secs : Nat) (limit : Nat) (r : WebRequest) :
    Leaves queue (r.follow (h.send secs) limit) := by
  induction limit generalizing r with
  | zero =>
    rw [WebRequest.follow]
    refine (turn.send secs r).bind fun reply => ?_
    split
    · exact .pure _
    · split <;> exact .pure _
  | succ limit ih =>
    rw [WebRequest.follow]
    refine (turn.send secs r).bind fun reply => ?_
    split
    · exact .pure _
    · split
      · exact .pure _
      · exact .pure _
      · exact ih _

theorem invoke (r : InferenceRequest) : Leaves queue (client.invoke h.web r) := by
  rw [InferenceClient.invoke]
  split
  · exact .pure _
  · rename_i post _
    refine Leaves.bind ?_ fun answer => ?_
    · change Leaves queue (post.carryOut (h.send post.timeoutSecs))
      rw [WebPost.carryOut]
      split
      · exact .pure _
      · exact (turn.follow _ _ _).bind fun _ => .pure _
    · split <;> exact .pure _

theorem perform (plan : Plan) : Leaves queue (plan.perform (h.performer client)) := by
  induction plan with
  | answer result => cases result <;> exact .pure _
  | panic message => exact .pure _
  | hang => exact (turn.sleep _).bind fun _ => .pure _
  | wait ms next ih => exact (turn.sleep ms).bind fun _ => ih
  | stop jobId next ih => exact (Leaves.pure ()).bind fun _ => ih
  | ask request next ih => exact (turn.invoke client request).bind fun reply => ih reply
  | load path next ih =>
    exact ((turn.load path).bind fun _ => .pure _).bind fun bytes => ih bytes
  | now next ih => exact turn.now.bind fun t => ih t

theorem attempt (p : Prepared) (number : Nat) : Leaves queue (h.attempt client p number) := by
  rw [Host.attempt]
  split
  · exact (turn.perform client _).map _
  · exact turn.within _ _ (turn.perform client _)

omit turn in
/-- Only a limit cuts an attempt off. -/
theorem allows_attempt (p : Prepared) (number : Nat) (s : σ) :
    p.Allows (h.attempt client p number s).1 := by
  intro hnone
  cases hlimit : p.limitMs with
  | some ms => rfl
  | none =>
    rw [Host.attempt] at hnone
    simp only [hlimit] at hnone
    cases hnone

/-- **What is attempted on the host comes to what an effort can come to.** -/
theorem attempts (backoffMs : Nat) {a : Effort} (due : a.standing = .due) (s : σ) :
    a.Yields (h.attempts client backoffMs a.prepared a.left (a.calls + 1) s).1 ∧
      queue (h.attempts client backoffMs a.prepared a.left (a.calls + 1) s).2 = queue s := by
  induction hleft : a.left using Nat.strong_induction_on generalizing a s with
  | _ left ih =>
    rw [← hleft]
    have hallowed := allows_attempt (h := h) client a.prepared (a.calls + 1) s
    have hqueue := turn.attempt client a.prepared (a.calls + 1) s
    rw [attempts_eq h client backoffMs due, StateM.bind_apply]
    generalize h.attempt client a.prepared (a.calls + 1) s = result at hallowed hqueue ⊢
    obtain ⟨e, s'⟩ := result
    rcases a.attempt_cases due e with ⟨left', hleft', -, hattempt⟩ | ⟨-, hattempt⟩
    · have hend : (a.attempt e).end? = none := by rw [hattempt, Effort.end?, due]
      have hdue : (a.attempt e).standing = .due := by rw [hattempt, due]
      have hfewer : (a.attempt e).left = left' := by rw [hattempt]
      obtain ⟨⟨e', hcomes, hyields⟩, hrest⟩ :=
        ih left' (by omega) hdue (h.sleep backoffMs s').2 hfewer
      rw [a.prepared_attempt] at hyields hrest
      rw [← hfewer] at hyields hrest
      dsimp only
      rw [hend]
      exact ⟨⟨e', .attempt hallowed hcomes, hyields⟩,
        hrest.trans ((turn.sleep backoffMs s').trans hqueue)⟩
    · have hend : (a.attempt e).end? = some e := by rw [hattempt]; rfl
      dsimp only
      rw [hend]
      exact ⟨⟨e, .attempt hallowed (.ended (by rw [hattempt])), rfl⟩, hqueue⟩

/-- All that a run has launched is begun. -/
theorem spawnAll (backoffMs : Nat) {as : List Effort} {ps : List Prepared}
    (new : List.Forall₂ Effort.IsNew as ps) (s : σ) :
    ∃ outcomes, List.Forall₂ Effort.Yields as outcomes ∧
      queue ((ps.forM fun p => h.spawn (h.attempts client backoffMs p p.retries 1)) s).2
        = queue s ++ outcomes := by
  induction new generalizing s with
  | nil => exact ⟨[], .nil, (List.append_nil _).symm⟩
  | @cons a p as ps hnew _ ih =>
    obtain ⟨report, rfl⟩ := hnew
    have hattempts := fun s => turn.attempts client backoffMs (a := .new report p) rfl s
    have hspawn := turn.spawn _ (fun s => (hattempts s).2) s
    obtain ⟨outcomes, hyields, hqueue⟩ :=
      ih (h.spawn (h.attempts client backoffMs p p.retries 1) s).2
    refine ⟨_ :: outcomes, .cons (hattempts s).1 hyields, ?_⟩
    calc queue (((p :: ps).forM fun p => h.spawn (h.attempts client backoffMs p p.retries 1)) s).2
      _ = queue (h.spawn (h.attempts client backoffMs p p.retries 1) s).2 ++ outcomes := hqueue
      _ = _ := (congrArg (· ++ outcomes) hspawn).trans (List.append_assoc ..)

/-- What was begun first is what is taken up first. -/
theorem await_first {as : List Effort} {s : σ} (yields : List.Forall₂ Effort.Yields as (queue s))
    (some_begun : 0 < as.length) :
    ∃ a rest outcome, as = a :: rest ∧ a.Yields outcome ∧ (h.await s).1 = some outcome ∧
      List.Forall₂ Effort.Yields rest (queue (h.await s).2) := by
  obtain ⟨htaken, hleft⟩ := turn.await s
  rw [hleft, htaken]
  generalize queue s = waiting at yields
  cases yields with
  | nil => cases some_begun
  | cons hyields hrest => exact ⟨_, _, _, rfl, hyields, rfl, hrest⟩

end Host.InTurn

/-- The host in memory does one thing after the other. -/
theorem InMemory.inTurn : InMemory.host.InTurn (·.outcomes) where
  now := fun _ => rfl
  newId := fun _ => rfl
  load := fun _ _ => rfl
  send := fun _ r s => by
    show (InMemory.send r s).2.outcomes = s.outcomes
    rw [InMemory.send, StateM.bind_apply, StateM.get_apply]
    dsimp only
    split
    · rfl
    · cases s.replies with
      | nil => rfl
      | cons reply replies =>
        dsimp only
        rw [StateM.bind_apply]
        cases reply.arriving? <;> rfl
  sleep := fun _ _ => rfl
  within := fun ms x hx s => by
    show (InMemory.within ms x s).2.outcomes = s.outcomes
    rw [InMemory.within]
    change ((ite ((x s).2.clock ≤ s.clock + ms) _ _ : StateM InMemory (Option AttemptEnd))
      (x s).2).2.outcomes = s.outcomes
    split <;> exact hx s
  spawn := fun x hx s => congrArg (· ++ [(x s).1]) (hx s)
  await := fun s => by
    show (InMemory.await s).1 = s.outcomes.head? ∧ (InMemory.await s).2.outcomes = s.outcomes.tail
    rw [InMemory.await, StateM.bind_apply, StateM.get_apply]
    cases hs : s.outcomes with
    | nil => exact ⟨rfl, hs⟩
    | cons outcome outcomes => exact ⟨rfl, rfl⟩

end

end Runbook
