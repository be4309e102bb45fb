/-
# What is seen of a flight

A flight is watched on its way: of all that happens, what is done of the flight itself adds to
the log the attempts that begin, has the inference service reply to them, and gives the run of
its job an outcome (`Simulation.Witnessed`).  What one operation adds is `Simulation.Adds`; the
end of an attempt adds the outcome, or nothing but another attempt that is due
(`afterAttempt_cases`).
-/

import Runbook.Proofs.Simulation.History

namespace Runbook

/-- An attempt: when it began, what the worker was given, and which attempt at the task it was. -/
structure Call where
  time : Nat
  assignment : Assignment
  number : Nat

/-- What is seen of a flight: its attempts, what the service replied to each of them, and the
outcomes that its run was given. -/
structure Sightings where
  calls : List Call := []
  heard : List (Nat × Except InferenceError Json) := []
  outcomes : List (Nat × Outcome) := []

namespace Sightings

/-- First the ones, then the others. -/
def append (w w' : Sightings) : Sightings :=
  ⟨w.calls ++ w'.calls, w.heard ++ w'.heard, w.outcomes ++ w'.outcomes⟩

/-- What the service replied to the attempt of a number, one request after the other. -/
def heardBy (w : Sightings) (number : Nat) : List (Except InferenceError Json) :=
  (w.heard.filter fun h => h.1 == number).map (·.2)

/-- These are the replies that the service gave to the attempts, as far as they asked it. -/
def Agrees (w : Sightings) (replies : Nat → Nat → Except InferenceError Json) : Prop :=
  ∀ number i reply, (w.heardBy number)[i]? = some reply → replies number i = reply

@[simp] theorem append_empty (w : Sightings) : w.append {} = w := by simp [append]

theorem append_assoc (w w' w'' : Sightings) :
    (w.append w').append w'' = w.append (w'.append w'') := by
  simp [append]

theorem heardBy_append (w w' : Sightings) (number : Nat) :
    (w.append w').heardBy number = w.heardBy number ++ w'.heardBy number := by
  simp [append, heardBy]

/-- What agrees with all that is seen agrees with what was seen first. -/
theorem Agrees.of_append {w w' : Sightings} {replies : Nat → Nat → Except InferenceError Json}
    (h : (w.append w').Agrees replies) : w.Agrees replies := fun number i reply hi => by
  refine h number i reply ?_
  obtain ⟨hlt, -⟩ := List.getElem?_eq_some_iff.1 hi
  rw [heardBy_append, List.getElem?_append_left hlt]
  exact hi

end Sightings

namespace Simulation

/-- The outcomes that the run of a job has not taken up yet. -/
def queue (s : Simulation) (jobId : String) : List Outcome := (s.run? jobId).elim [] (·.outcomes)

/-- How many requests were made on the way from one simulation to another. -/
def asked (s t : Simulation) : Nat := t.requests.length - s.requests.length

/-- What is seen of a flight when something happens: if something of it is done, what comes to
the log and to the outcomes of its run, and the replies to the requests that are made. -/
def sightings (number : Nat) (s : Simulation) (d : Option Due) (t : Simulation) : Sightings :=
  match d with
  | none => {}
  | some d =>
    if d.flight.number = number then
      { calls := (t.log.drop s.log.length).filterMap fun entry =>
          entry.call?.map fun call => ⟨s.clock, call.1, call.2⟩
        heard := (List.range (s.asked t)).map fun i => (d.flight.attempt, s.reply i)
        outcomes :=
          ((t.queue d.flight.prepared.assignment.jobId).drop
            (s.queue d.flight.prepared.assignment.jobId).length).map fun o => (s.clock, o) }
    else {}

/-- What has been seen of a flight on the way from one simulation to another. -/
inductive Witnessed (number : Nat) (s₀ : Simulation) : Sightings → Simulation → Prop where
  | start : Witnessed number s₀ {} s₀
  | next {w : Sightings} {s t : Simulation} {d : Option Due} (before : Witnessed number s₀ w s)
      (next : Next s d t) : Witnessed number s₀ (w.append (sightings number s d t)) t

/-- Order lasts on the way. -/
theorem Witnessed.orderly {number : Nat} {s₀ s : Simulation} {w : Sightings}
    (seen : s₀.Witnessed number w s) (hs : s₀.Orderly) : s.Orderly := by
  induction seen with
  | start => exact hs
  | next _ hnext ih => exact (hnext.keeps ih).orderly ih

/-- What is seen of a flight until an end. -/
def watch (number : Nat) : (fuel : Nat) → (ended : Simulation → Bool) → (horizon : Option Nat) →
    Simulation → Sightings
  | 0, _, _, _ => {}
  | fuel + 1, ended, horizon, s =>
    if ended s then {}
    else
      match s.tick horizon with
      | none => {}
      | some t => (sightings number s s.atHand t).append (watch number fuel ended horizon t)

/-- From one instant of time to the same, some attempts are noted and the run of a job is given
some outcomes. -/
structure Adds (jobId : String) (s t : Simulation) (calls : List (Assignment × Nat))
    (outcomes : List Outcome) : Prop where
  log : ∃ entries, t.log = s.log ++ entries ∧ entries.filterMap LogEntry.call? = calls
  queue : t.queue jobId = s.queue jobId ++ outcomes

variable {s t u : Simulation} {f : Flight} {jobId : String}

namespace Adds

/-- Neither the log nor the runs change. -/
theorem of_same (hlog : t.log = s.log) (hruns : t.runs = s.runs) : Adds jobId s t [] [] :=
  ⟨⟨[], by simpa using hlog, rfl⟩, by
    rw [Simulation.queue, Simulation.queue, run?, run?, hruns, List.append_nil]⟩

theorem trans {cs cs' : List (Assignment × Nat)} {os os' : List Outcome} (h : Adds jobId s t cs os)
    (h' : Adds jobId t u cs' os') : Adds jobId s u (cs ++ cs') (os ++ os') := by
  obtain ⟨entries, hlog, hcalls⟩ := h.log
  obtain ⟨entries', hlog', hcalls'⟩ := h'.log
  refine ⟨⟨entries ++ entries', ?_, ?_⟩, ?_⟩
  · rw [hlog', hlog, List.append_assoc]
  · rw [List.filterMap_append, hcalls, hcalls']
  · rw [h'.queue, h.queue, List.append_assoc]

/-- What is seen of the flight by which it is added. -/
theorem sightings {cs : List (Assignment × Nat)} {os : List Outcome} {d : Due}
    (h : Adds d.flight.prepared.assignment.jobId s t cs os) :
    sightings d.flight.number s (some d) t
      = ⟨cs.map fun call => ⟨s.clock, call.1, call.2⟩,
        (List.range (s.asked t)).map fun i => (d.flight.attempt, s.reply i),
        os.map fun o => (s.clock, o)⟩ := by
  obtain ⟨entries, hlog, rfl⟩ := h.log
  rw [Simulation.sightings]
  simp only [if_true, hlog, h.queue, List.drop_left, List.map_filterMap]

end Adds

theorem Calm.adds {n : Nat} (h : Calm n s t) (jobId : String) : Adds jobId s t [] [] := by
  refine ⟨h.log, ?_⟩
  rw [queue, queue, run?, run?, h.runs]
  simp

theorem Calm.asked {n : Nat} (h : Calm n s t) : s.asked t = n := by
  rw [Simulation.asked, h.requests, Nat.add_sub_cancel_left]

/-- An attempt is noted. -/
theorem adds_note (s : Simulation) (f : Flight) :
    Adds f.prepared.assignment.jobId s (s.note f) [(f.prepared.assignment, f.attempt)] [] :=
  ⟨⟨_, rfl, rfl⟩, (List.append_nil _).symm⟩

@[simp] theorem clock_limit (s : Simulation) (f : Flight) : (s.limit f).clock = s.clock := by
  rw [limit]
  split <;> rfl

@[simp] theorem requests_limit (s : Simulation) (f : Flight) :
    (s.limit f).requests = s.requests := by
  rw [limit]
  split <;> rfl

@[simp] theorem reply_limit (s : Simulation) (f : Flight) : (s.limit f).reply = s.reply := by
  rw [limit]
  split <;> rfl

/-- What the limit puts on the agenda is not seen yet. -/
theorem adds_limit (s : Simulation) (f : Flight) (jobId : String) :
    Adds jobId s (s.limit f) [] [] := by
  rw [limit]
  split <;> exact .of_same rfl rfl

/-- An outcome is given to the run of a job. -/
theorem adds_post (h : jobId ∈ s.jobIds) (outcome : Outcome) :
    Adds jobId s (s.post jobId outcome) [] [outcome] := by
  refine ⟨⟨[], by simp [post], rfl⟩, ?_⟩
  obtain ⟨x, hx, hid⟩ := List.mem_map.1 h
  obtain ⟨y, hy⟩ : ∃ y, s.run? jobId = some y :=
    Option.isSome_iff_exists.1 (List.find?_isSome.2 ⟨x, hx, beq_iff_eq.2 hid⟩)
  obtain ⟨-, hyid⟩ := run?_eq_some hy
  have hpost : (s.post jobId outcome).run? jobId
      = some { y with outcomes := y.outcomes ++ [outcome] } := by
    rw [run?, post, List.find?_map]
    have hcongr : ((fun t : Traveller => t.run.jobId == jobId) ∘ fun t =>
        if t.run.jobId == jobId then { t with outcomes := t.outcomes ++ [outcome] } else t)
        = fun t => t.run.jobId == jobId := by
      funext t
      rw [Function.comp_apply]
      split <;> rfl
    rw [hcongr, show s.runs.find? _ = _ from hy]
    simp [hyid]
  rw [queue, queue, hpost, hy]
  rfl

/-- **What follows an attempt**: the outcome is given to the run and nothing more is due of the
flight, or all that is due of it is another attempt after the backoff. -/
theorem afterAttempt_cases (hosts : s.Hosts f) (e : Option AttemptEnd) :
    (∃ outcome, f.prepared.after f.left e = some outcome ∧
      (s.afterAttempt f e).dueOf f.number = [] ∧
      Adds f.prepared.assignment.jobId s (s.afterAttempt f e) [] [outcome]) ∨
    (f.prepared.after f.left e = none ∧
      (s.afterAttempt f e).dueOf f.number
        = [(s.clock + s.orchestrator.settings.retryBackoffMs,
            .begin { f with left := f.left - 1 })] ∧
      Adds f.prepared.assignment.jobId s (s.afterAttempt f e) [] []) := by
  have hcancel : Adds f.prepared.assignment.jobId s (s.cancel f.number) [] [] := .of_same rfl rfl
  have hnone : (s.cancel f.number).dueOf f.number = [] := dueOf_cancel_self ..
  have hids : f.prepared.assignment.jobId ∈ (s.cancel f.number).jobIds := hosts.housed
  have hclock : (s.cancel f.number).clock = s.clock := rfl
  have hbackoff : (s.cancel f.number).orchestrator.settings.retryBackoffMs
      = s.orchestrator.settings.retryBackoffMs := rfl
  rw [afterAttempt, ← hclock, ← hbackoff]
  dsimp only
  generalize s.cancel f.number = t at *
  cases hafter : f.prepared.after f.left e with
  | some outcome => exact Or.inl ⟨outcome, rfl, hnone, hcancel.trans (adds_post hids outcome)⟩
  | none =>
    refine Or.inr ⟨rfl, ?_⟩
    dsimp only
    cases t.orchestrator.settings.retryBackoffMs with
    | zero =>
      refine ⟨?_, hcancel.trans (.of_same rfl rfl)⟩
      change dueOf (t.next (.begin { f with left := f.left - 1 })) f.number = _
      rw [dueOf, Simulation.next, List.filter_cons_of_pos (by simp [Due.flight])]
      exact congrArg _ hnone
    | succ ms =>
      refine ⟨?_, hcancel.trans (.of_same rfl rfl)⟩
      have hperm := perm_dueOf_later t (ms + 1) (.begin { f with left := f.left - 1 })
      rw [Due.flight, hnone] at hperm
      exact List.perm_singleton.1 hperm

/-- Nothing is asked after an attempt. -/
theorem requests_afterAttempt (s : Simulation) (f : Flight) (e : Option AttemptEnd) :
    (s.afterAttempt f e).requests = s.requests := by
  rw [afterAttempt]
  dsimp only
  split
  · rfl
  · split <;> rfl

/-- What is seen of a flight until an end is seen after what was seen before. -/
theorem witnessed_runUntil {s₀ : Simulation} {number : Nat} {w : Sightings}
    (seen : s₀.Witnessed number w s) (hs : s.Orderly) (fuel : Nat) (ended : Simulation → Bool)
    (horizon : Option Nat) :
    s₀.Witnessed number (w.append (s.watch number fuel ended horizon))
      (runUntil fuel ended horizon s) := by
  induction fuel generalizing s w with
  | zero =>
    rw [watch, runUntil, Sightings.append_empty]
    exact seen
  | succ fuel ih =>
    rw [watch, runUntil]
    split
    · rw [Sightings.append_empty]
      exact seen
    · cases htick : s.tick horizon with
      | none =>
        dsimp only
        rw [Sightings.append_empty]
        exact seen
      | some t =>
        have hnext := next_of_tick hs htick
        dsimp only
        rw [← Sightings.append_assoc]
        exact ih (seen.next hnext) ((hnext.keeps hs).orderly hs)

end Simulation
end Runbook
