/-
# Attempts and retries

A task is attempted until an attempt gives a value or panics, or has been attempted once
more often than it may be retried.  The next attempt begins exactly the backoff after the end
of the one before, whatever else goes on meanwhile.

Only what is done of a flight takes it from one phase to the next (`Trial.Told.next`), and so
along the whole way.  As every simulation comes to rest, and nothing is due then, every flight
comes to its end.
-/

import Runbook.Proofs.Simulation.Rest
import Runbook.Proofs.Simulation.Trial

namespace Runbook
namespace Trial

open Simulation

variable {x : Trial} {s t : Simulation} {start : Nat}

/-- The attempts made up to a moment, in a simulation that they fit. -/
structure Notes (x : Trial) (start : Nat) (s : Simulation) (w : Sightings) : Prop where
  fits : x.Fits s
  made : x.Made start w.calls
  heard : ∀ h ∈ w.heard, h.1 ≤ x.earlier + w.calls.length

/-- The attempts made up to a moment, and the phase that the flight is in. -/
structure Told (x : Trial) (start : Nat) (s : Simulation) (w : Sightings) : Prop
    extends Notes x start s w where
  phase : x.Phase start s w.calls (w.heardBy (x.earlier + w.calls.length)).length w.outcomes

section

variable {w : Sightings} {cs : List Call} {number n left : Nat} {os : List (Nat × Outcome)}
  {replies : Nat → Nat → Except InferenceError Json}

theorem Notes.mono (h : x.Notes start s w) {own : Nat → Prop} (hk : s.Keeps own t) :
    x.Notes start t w :=
  { h with fits := h.fits.mono hk }

/-- Nothing is heard by an attempt that has not begun. -/
theorem Notes.heardBy_next (h : x.Notes start s w) :
    w.heardBy (x.earlier + w.calls.length + 1) = [] := by
  rw [Sightings.heardBy, List.map_eq_nil_iff, List.filter_eq_nil_iff]
  intro r hr
  have hle := h.heard r hr
  rw [beq_iff_eq]
  omega

/-- What an attempt has heard when the service has replied to it. -/
theorem heardBy_replied :
    (w.append ⟨cs, (List.range n).map fun i => (number, s.reply i), os⟩).heardBy number
      = w.heardBy number ++ (List.range n).map s.reply := by
  rw [Sightings.heardBy_append]
  congr 1
  rw [Sightings.heardBy, List.filter_eq_self.2 (by simp), List.map_map]
  rfl

/-- What agrees with all that is heard agrees with the last replies. -/
theorem gives_of_agrees
    (h : (w.append ⟨cs, (List.range n).map fun i => (number, s.reply i), os⟩).Agrees replies) :
    s.Gives n fun i => replies number ((w.heardBy number).length + i) := fun i hi => by
  refine h number _ _ ?_
  rw [heardBy_replied, List.getElem?_append_right (Nat.le_add_right ..), Nat.add_sub_cancel_left]
  simp [hi]

/-- What is done of the flight at one instant is told of it. -/
theorem Notes.told (h : x.Notes start s w) (fits : x.Fits t) (hnone : w.outcomes = [])
    (made : x.Made start (w.calls ++ cs)) (hnumber : number = x.earlier + (w.calls ++ cs).length)
    (phase : x.Phase start t (w.calls ++ cs) ((w.heardBy number).length + n) os) :
    x.Told start t (w.append ⟨cs, (List.range n).map fun i => (number, s.reply i), os⟩) := by
  refine ⟨⟨fits, made, fun r hr => ?_⟩, ?_⟩
  · rcases List.mem_append.1 hr with hr | hr
    · have hle := h.heard r hr
      simp only [Sightings.append, List.length_append]
      omega
    · obtain ⟨i, -, rfl⟩ := List.mem_map.1 hr
      exact Nat.le_of_eq hnumber
  · change x.Phase start t (w.calls ++ cs)
      (Sightings.heardBy _ (x.earlier + (w.calls ++ cs).length)).length (w.outcomes ++ os)
    rw [← hnumber, heardBy_replied, hnone, List.length_append, List.length_map, List.length_range]
    exact phase

/-- What is seen of the flight when something is done of it. -/
theorem sightings_of_adds (d : Due) (cs : List Call) {outcomes : List Outcome}
    (hd : d.flight = x.flight left)
    (hadds : Adds x.jobId s t (cs.map fun c => (c.assignment, c.number)) outcomes)
    (htime : ∀ c ∈ cs, c.time = s.clock) :
    sightings x.number s (some d) t
      = ⟨cs, (List.range (s.asked t)).map fun i => ((x.flight left).attempt, s.reply i),
        outcomes.map fun o => (s.clock, o)⟩ := by
  have hcs : (cs.map fun c => (c.assignment, c.number)).map
      (fun call => (⟨s.clock, call.1, call.2⟩ : Call)) = cs := by
    rw [List.map_map]
    refine (List.map_congr_left fun c hc => ?_).trans (List.map_id cs)
    rw [Function.comp_apply, ← htime c hc]
    rfl
  have hadds' : Adds d.flight.prepared.assignment.jobId s t
      (cs.map fun c => (c.assignment, c.number)) outcomes := by
    rw [hd]
    exact hadds
  have hseen := hadds'.sightings
  rw [hcs, hd] at hseen
  exact hseen

/-- The attempt that is due begins. -/
theorem Notes.begin (h : x.Notes start s w) (hnone : w.outcomes = [])
    (none_due : s.dueOf x.number = []) (count : left + w.calls.length = x.prepared.retries)
    (first : w.calls = [] → s.clock = start)
    (later : ∀ c ∈ w.calls.getLast?, s.clock = c.time + x.lasts c + x.backoffMs ∧ x.fails c)
    (fits : x.Fits (s.beginAttempt (x.flight left)))
    (agrees : (w.append (sightings x.number s (some (.begin (x.flight left)))
      (s.beginAttempt (x.flight left)))).Agrees x.replies)
    (fair : ∀ c ∈ (w.append (sightings x.number s (some (.begin (x.flight left)))
      (s.beginAttempt (x.flight left)))).calls, x.IsFair c) :
    x.Told start (s.beginAttempt (x.flight left)) (w.append
      (sightings x.number s (some (.begin (x.flight left))) (s.beginAttempt (x.flight left)))) := by
  obtain ⟨os, hadds, hphase⟩ := phase_of_begin start h.fits none_due count
  have hlength : (w.calls ++ [x.call s left]).length = w.calls.length + 1 := List.length_append
  have hnumber : (x.flight left).attempt = x.earlier + (w.calls ++ [x.call s left]).length := by
    rw [flight, Flight.attempt, hlength]
    dsimp only
    omega
  have hseen := sightings_of_adds (.begin (x.flight left)) [x.call s left] rfl hadds
    (by simp [call])
  rw [hseen] at agrees fair ⊢
  have hears := gives_of_agrees agrees
  have hheard : w.heardBy (x.flight left).attempt = [] := by
    rw [hnumber, hlength, ← Nat.add_assoc]
    exact h.heardBy_next
  refine h.told fits hnone (h.made.concat rfl ?_ first later) hnumber ?_
  · rw [call, hnumber, hlength, Nat.add_assoc]
  · rw [hheard] at hears ⊢
    rw [List.length_nil, Nat.zero_add]
    exact hphase (fair _ (by simp [Sightings.append])) hears

/-- The number of the attempt under way. -/
theorem attempt_flight (count : left + w.calls.length = x.prepared.retries + 1)
    (hne : w.calls ≠ []) : (x.flight left).attempt = x.earlier + w.calls.length := by
  have hpos := List.length_pos_of_ne_nil hne
  rw [flight, Flight.attempt]
  dsimp only
  omega

/-- The attempt under way is the last one. -/
theorem Notes.number_of_last (h : x.Notes start s w) {c : Call} (last : w.calls.getLast? = some c) :
    c.number = x.earlier + w.calls.length := by
  have hlast := congrArg List.getLast? h.made.numbers
  rw [List.getLast?_map, last, List.getLast?_range'] at hlast
  have hne : w.calls ≠ [] := fun hnil => by simp [hnil] at last
  simp [hne] at hlast
  omega

/-- The attempt under way goes on. -/
theorem Notes.proceed (h : x.Notes start s w) (hnone : w.outcomes = []) {c : Call} {plan : Plan}
    (last : w.calls.getLast? = some c) (count : left + w.calls.length = x.prepared.retries + 1)
    (only : (s.dueOf x.number).Perm (x.limit left c))
    (on : x.GoesOn c (w.heardBy (x.earlier + w.calls.length)).length plan s.clock)
    (fits : x.Fits (s.proceed (x.flight left) plan))
    (agrees : (w.append (sightings x.number s (some (.proceed (x.flight left) plan))
      (s.proceed (x.flight left) plan))).Agrees x.replies)
    (fair : ∀ c ∈ (w.append (sightings x.number s (some (.proceed (x.flight left) plan))
      (s.proceed (x.flight left) plan))).calls, x.IsFair c) :
    x.Told start (s.proceed (x.flight left) plan) (w.append
      (sightings x.number s (some (.proceed (x.flight left) plan))
        (s.proceed (x.flight left) plan))) := by
  have hin : c ∈ w.calls := List.mem_of_getLast? last
  have hnumber : (x.flight left).attempt = x.earlier + w.calls.length :=
    attempt_flight count (List.ne_nil_of_mem hin)
  obtain ⟨os, hadds, hphase⟩ := phase_of_proceed start h.fits last count only on
  have hseen := sightings_of_adds (.proceed (x.flight left) plan) [] rfl hadds (by simp)
  rw [hseen] at agrees fair ⊢
  have hears := gives_of_agrees agrees
  refine h.told fits hnone ((List.append_nil w.calls).symm ▸ h.made) (by rwa [List.append_nil]) ?_
  rw [List.append_nil, hnumber]
  refine hphase (fair c (List.mem_append_left _ hin)) ?_
  rw [hnumber, ← h.number_of_last last] at hears
  rw [← h.number_of_last last]
  exact hears

/-- The limit of the attempt under way is reached. -/
theorem Notes.expire (h : x.Notes start s w) (hnone : w.outcomes = []) {c : Call}
    (last : w.calls.getLast? = some c) (count : left + w.calls.length = x.prepared.retries + 1)
    (ending : x.IsFair c → x.ending c = none ∧ s.clock = c.time + x.lasts c)
    (fits : x.Fits (s.afterAttempt (x.flight left) none))
    (fair : ∀ c ∈ (w.append (sightings x.number s (some (.expire (x.flight left)))
      (s.afterAttempt (x.flight left) none))).calls, x.IsFair c) :
    x.Told start (s.afterAttempt (x.flight left) none) (w.append
      (sightings x.number s (some (.expire (x.flight left)))
        (s.afterAttempt (x.flight left) none))) := by
  have hin : c ∈ w.calls := List.mem_of_getLast? last
  obtain ⟨os, hadds, hphase⟩ := phase_of_end start
    ((w.heardBy (x.flight left).attempt).length + s.asked (s.afterAttempt (x.flight left) none))
    h.fits last count none
  have hseen := sightings_of_adds (.expire (x.flight left)) [] rfl hadds (by simp)
  rw [hseen] at fair ⊢
  have hfair := fair c (List.mem_append_left _ hin)
  obtain ⟨hending, hclock⟩ := ending hfair
  refine h.told fits hnone ((List.append_nil w.calls).symm ▸ h.made) ?_ ?_
  · rw [List.append_nil]
    exact attempt_flight count (List.ne_nil_of_mem hin)
  · rw [List.append_nil]
    exact hphase hfair hending hclock

end

/-- Doing what is due of a flight. -/
theorem Told.perform {w : Sightings} {time : Nat} {d : Due} {agenda : List (Nat × Due)}
    (h : x.Told start s w) (head : s.agenda = (time, d) :: agenda) (due : time ≤ s.clock)
    (number : d.flight.number = x.number)
    (agrees : (w.append (sightings x.number s (some d) (perform { s with agenda } d))).Agrees
      x.replies)
    (fair : ∀ c ∈ (w.append (sightings x.number s (some d) (perform { s with agenda } d))).calls,
      x.IsFair c) :
    x.Told start (perform { s with agenda } d)
      (w.append (sightings x.number s (some d) (perform { s with agenda } d))) := by
  obtain ⟨notes, phase⟩ := h
  have hkeeps : s.Keeps (fun _ => True) (Simulation.perform { s with agenda } d) :=
    keeps_perform notes.fits.orderly head trivial
  have hpop : s.Keeps (fun _ => True) { s with agenda } :=
    (keeps_pop notes.fits.orderly head trivial).1
  have fits := notes.fits.mono hkeeps
  have popped := notes.mono hpop
  have hdue : s.dueOf x.number = (time, d) :: dueOf { s with agenda } x.number := by
    rw [dueOf, head, List.filter_cons_of_pos (by simpa using number)]
    rfl
  have hclock : s.clock = time := Nat.le_antisymm
    (notes.fits.orderly.ahead (time, d) (head ▸ List.mem_cons_self)) due
  generalize hos : w.outcomes = outcomes at phase
  cases phase with
  | due _ left only count first later =>
    rw [hdue] at only
    obtain ⟨heq, hrest⟩ := List.cons.inj only
    cases heq
    refine popped.begin hos hrest count (fun hnil => hclock.trans (first hnil)) (fun c hc => ?_)
      fits agrees fair
    obtain ⟨htime, hfails⟩ := later c hc
    exact ⟨hclock.trans htime, hfails⟩
  | @underWay c left rest last count remains only =>
    have hmem : (time, d) ∈ rest ++ x.limit left c := only.mem_iff.1 (by simp [hdue])
    rcases List.mem_append.1 hmem with hgoes | hlimit
    · cases remains with
      | hangs never => cases hgoes
      | goes on =>
        cases List.mem_singleton.1 hgoes
        rw [hdue] at only
        exact popped.proceed hos last count only.cons_inv (hclock ▸ on) fits agrees fair
    · obtain ⟨ms, hms, heq⟩ := mem_limit.1 hlimit
      cases heq
      refine popped.expire hos last count (fun hfair => ?_) fits fair
      obtain ⟨hending, hlasts⟩ := ending_of_expire hfair notes.fits.orderly remains only hms hclock
      exact ⟨hending, by rw [hlasts]; exact hclock⟩
  | ended c last none_due count exhausted =>
    rw [hdue] at none_due
    cases none_due

/-- **A flight goes on by what is done of it, and by nothing else.** -/
theorem Told.next {w : Sightings} {d : Option Due} (h : x.Told start s w) (hnext : Next s d t)
    (agrees : (w.append (sightings x.number s d t)).Agrees x.replies)
    (fair : ∀ c ∈ (w.append (sightings x.number s d t)).calls, x.IsFair c) :
    x.Told start t (w.append (sightings x.number s d t)) := by
  by_cases hown : ∃ e, d = some e ∧ e.flight.number = x.number
  · obtain ⟨e, rfl, hnumber⟩ := hown
    cases hnext with
    | perform head due => exact h.perform head due hnumber agrees fair
  · have hkeeps := hnext.keeps h.fits.orderly
    have hnone : sightings x.number s d t = {} := by
      rw [sightings.eq_def]
      split
      · rfl
      · exact if_neg fun he => hown ⟨_, rfl, he⟩
    have hdue := hkeeps.spares x.number fun hn =>
      hn.elim (Nat.not_le_of_lt h.fits.hosts.numbered) hown
    rw [hnone, Sightings.append_empty]
    exact ⟨h.toNotes.mono hkeeps, h.phase.congr hdue⟩

/-- So it is on the whole way. -/
theorem Told.witnessed (h : x.Told start s {}) {w : Sightings} (seen : s.Witnessed x.number w t)
    (agrees : w.Agrees x.replies) (fair : ∀ c ∈ w.calls, x.IsFair c) : x.Told start t w := by
  induction seen with
  | start => exact h
  | next _ hnext ih =>
    have htold := ih agrees.of_append fun c hc => fair c (List.mem_append_left _ hc)
    exact htold.next hnext agrees fair

/-- The trial that a flight is in a simulation, if the service gives these replies to its
attempts. -/
def of (s : Simulation) (f : Flight) (replies : Nat → Nat → Except InferenceError Json) :
    Trial where
  number := f.number
  prepared := f.prepared
  earlier := f.earlier
  files := s.files
  replies := replies
  backoffMs := s.orchestrator.settings.retryBackoffMs
  panicMark := s.panicMark

variable {f : Flight} {replies : Nat → Nat → Except InferenceError Json}

/-- Where the first attempt is due, nothing has been seen of the flight. -/
theorem told_of_due (replies : Nat → Nat → Except InferenceError Json) (hs : s.Orderly)
    (due : (start, .begin f) ∈ s.agenda) (first : f.left = f.prepared.retries) :
    (Trial.of s f replies).Told start s {} where
  fits := ⟨hs, ⟨hs.numbered _ due, hs.housed _ due⟩, rfl, rfl, rfl⟩
  made := ⟨by simp, rfl, by simp, .nil⟩
  heard := by simp
  phase := .due start f.left (hs.alone _ due rfl) first (fun _ => rfl) (by simp)

end Trial

/-! ### The law -/

/-- None of the attempts at a task goes on for ever without a limit, and none ends at the very
instant of its limit. -/
structure Sightings.Fair (w : Sightings) (t : Task) (settings : EngineSettings)
    (B : Call → Behaviour) : Prop where
  ends : settings.enforceTimeouts = false → ∀ c ∈ w.calls, B c ≠ .never
  untied : settings.enforceTimeouts → ∀ c ∈ w.calls, ∀ e, B c ≠ .ends t.timeoutMs e

/-- The limit and the ties of a task's attempts are those of the task. -/
theorem Sightings.Fair.isFair {s : Simulation} {f : Flight} {t : Task} {w : Sightings}
    {replies : Nat → Nat → Except InferenceError Json}
    (h : w.Fair t s.orchestrator.settings (f.prepared.behaviour s.files replies))
    (made : f.prepared.MadeFrom s.orchestrator.settings t) {c : Call} (hc : c ∈ w.calls) :
    (Trial.of s f replies).IsFair c := by
  have hlimit : (Trial.of s f replies).prepared.limitMs = t.limitMs s.orchestrator.settings :=
    made.limitMs
  rw [Task.limitMs] at hlimit
  split at hlimit
  · rename_i hkeep
    refine ⟨fun hnone => ?_, fun ms e hb hms => ?_⟩
    · rw [hlimit] at hnone
      cases hnone
    · obtain rfl : t.timeoutMs = ms := Option.some.inj (hlimit.symm.trans hms)
      exact h.untied hkeep c hc e hb
  · rename_i hkeep
    refine ⟨fun _ => h.ends (Bool.eq_false_of_not_eq_true hkeep) c hc, fun ms e _ hms => ?_⟩
    rw [hlimit] at hms
    cases hms

/-- What came of the attempts at a task: the outcome is given at the end of the last of them, which
does not fail or after which no retry is left, and it is the verdict on that attempt. -/
structure Sightings.Concluded (w : Sightings) (t : Task) (settings : EngineSettings) (mark : String)
    (B : Call → Behaviour) (c : Call) (outcome : Outcome) : Prop where
  last : w.calls.getLast? = some c
  exhausted : (B c).fails (t.limitMs settings) → w.calls.length = t.retries + 1
  outcomes : w.outcomes = [(c.time + (B c).lasts (t.limitMs settings), outcome)]
  task : outcome.task = t.name
  result : outcome.result = (B c).verdict t settings mark

/-- **What is seen of the attempts at a task** from where the first one was due at an instant.
Each is given the same assignment, and they are numbered without a gap; the first one begins when
it is due, and each other one exactly the backoff after the end of the one before, which has
failed; there is at most one more than the task may be retried. -/
structure Sightings.Retried (w : Sightings) (t : Task) (settings : EngineSettings) (f : Flight)
    (time : Nat) (B : Call → Behaviour) : Prop where
  assignment : ∀ c ∈ w.calls, c.assignment = f.prepared.assignment
  numbers : w.calls.map (·.number) = List.range' (f.earlier + 1) w.calls.length
  first : ∀ c ∈ w.calls.head?, c.time = time
  chain : w.calls.IsChain (Call.Precedes B (t.limitMs settings) settings.retryBackoffMs)
  length_le : w.calls.length ≤ t.retries + 1

namespace Simulation

variable {s : Simulation}

/-- Whatever has been seen of a flight, the simulation comes to a point at which nothing is
due. -/
theorem exists_witnessed_rest {s₀ : Simulation} {number : Nat} {w : Sightings}
    (seen : s₀.Witnessed number w s) (hs : s.Orderly) :
    ∃ fuel w', s₀.Witnessed number (w.append w') (runUntil fuel (fun _ => false) none s) ∧
      (runUntil fuel (fun _ => false) none s).agenda = [] := by
  obtain ⟨fuel, hrest⟩ := exists_rest hs (fun _ => false) none
  exact ⟨fuel, _, witnessed_runUntil seen hs fuel (fun _ => false) none,
    agenda_of_tick (hrest.resolve_left Bool.false_ne_true)⟩

/-- **The law of retries.**  Whatever has been seen of a flight from where the first attempt at
a task was due: if the service gives these replies to the attempts, as it has done so far, and
they are fair, then the attempts have been made as the task says (`Sightings.Retried`); either
there is no outcome and something of the flight is due, or the outcome is that of the last
attempt (`Sightings.Concluded`).  Left to itself, the simulation comes to give it. -/
theorem retry_law {s₀ s₁ : Simulation} (blank : s₀.Blank) (reached : s₀.Reaches s₁) {time : Nat}
    {f : Flight} (due : (time, .begin f) ∈ s₁.agenda) (first : f.left = f.prepared.retries)
    {t : Task} (made : f.prepared.MadeFrom s₁.orchestrator.settings t) {w : Sightings}
    (seen : s₁.Witnessed f.number w s) :
    (∀ replies, w.Agrees replies →
      w.Fair t s₁.orchestrator.settings (f.prepared.behaviour s₁.files replies) →
      w.Retried t s₁.orchestrator.settings f time (f.prepared.behaviour s₁.files replies) ∧
        (w.outcomes = [] ∧ s.dueOf f.number ≠ [] ∨ ∃ last outcome,
          w.Concluded t s₁.orchestrator.settings s₁.panicMark
            (f.prepared.behaviour s₁.files replies) last outcome)) ∧
      ∃ fuel w', s₁.Witnessed f.number (w.append w') (runUntil fuel (fun _ => false) none s) ∧
        ∀ replies, (w.append w').Agrees replies →
          (w.append w').Fair t s₁.orchestrator.settings (f.prepared.behaviour s₁.files replies) →
          (w.append w').outcomes ≠ [] := by
  have orderly := reached.orderly blank.orderly
  have hlimit : f.prepared.limitMs = t.limitMs s₁.orchestrator.settings := made.limitMs
  have told : ∀ {w s}, s₁.Witnessed f.number w s → ∀ replies, w.Agrees replies →
      w.Fair t s₁.orchestrator.settings (f.prepared.behaviour s₁.files replies) →
      (Trial.of s₁ f replies).Told time s w := fun seen replies agrees fair =>
    (Trial.told_of_due replies orderly due first).witnessed seen agrees fun _ => fair.isFair made
  refine ⟨fun replies agrees fair => ?_, ?_⟩
  · have htold := told seen replies agrees fair
    refine ⟨⟨htold.made.assignment, htold.made.numbers, htold.made.first, hlimit ▸ htold.made.chain,
      made.retries ▸ htold.phase.length_le⟩, ?_⟩
    rcases htold.phase.outcomes_eq with hnone | ⟨c, hlast, exhausted, heq⟩
    · refine Or.inl ⟨hnone, fun hdue => ?_⟩
      exact htold.phase.ended_of_nil (fun _ => fair.isFair made) hdue hnone
    · have hfair := fair.isFair made (List.mem_of_getLast? hlast)
      refine Or.inr ⟨c, _, hlast, ?_, ?_, ?_, Trial.result_outcomeOf made hfair⟩
      · rw [← hlimit, ← made.retries]
        exact exhausted
      · rw [← hlimit]
        exact heq
      · exact (f.prepared.task_outcomeOf _).trans made.name
  · obtain ⟨fuel, w', hseen, hagenda⟩ := exists_witnessed_rest seen (seen.orderly orderly)
    refine ⟨fuel, w', hseen, fun replies agrees fair => ?_⟩
    refine (told hseen replies agrees fair).phase.ended_of_nil (fun _ => fair.isFair made) ?_
    rw [Trial.of, dueOf, hagenda, List.filter_nil]

end Simulation

/-! ### A task to try -/

namespace Sample

/-- A worker whose second attempt hangs, and whose others take a while over the reply to a
question. -/
def moody : Worker :=
  { kind := .general, capabilities := [], check := fun _ => .ok
    attempt := fun _ k =>
      if k = 2 then .hang
      else .ask { prompt := "How is the ground?" } fun
        | .ok v => .wait 3 (.answer (.ok v))
        | .error e => .wait 5 (.answer (.error (.inference e))) }

/-- A task that may be retried twice. -/
def patience : Task := { task "survey" [] with retries := 2, timeoutMs := 100 }

/-- A simulation with a workflow of that task alone, in which the service fails once. -/
def idle : Simulation :=
  { orchestrator :=
      { registry := .ofList [moody], settings := {}
        workflows := .ofList
          [("patient", { id := "patient", name := "Patient", tasks := [patience] })] }
    replies := [.error .rateLimited, .ok (.string "firm")] }

/-- A job has been started on the workflow. -/
def busy : Simulation := (idle.start "patient" .empty).2

/-- The first attempt that is due then. -/
def survey : Flight where
  number := 0
  prepared := idle.orchestrator.readied patience moody
    (patience.assignment (Simulation.jobName 1) ⟨.empty, .empty⟩)
  earlier := 0
  left := 2

/-- The replies to the first attempt and to the others. -/
def answers : Nat → Nat → Except InferenceError Json
  | 1, _ => .error .rateLimited
  | _, _ => .ok (.string "firm")

end Sample

namespace Simulation

/-- In the sample, the first attempt fails, the second one is cut off, and the third one gives the
value that the service replies. -/
theorem retry_law_sample :
    ∃ w s outcome, Sample.busy.Witnessed 0 w s ∧ w.Agrees Sample.answers ∧
      w.Retried Sample.patience {} Sample.survey 0
        (Sample.survey.prepared.behaviour Sample.busy.files Sample.answers) ∧
      w.calls.map (fun c => (c.number, c.time)) = [(1, 0), (2, 5 + 1000), (3, 1005 + 100 + 1000)] ∧
      w.outcomes = [(2105 + 3, outcome)] ∧ outcome.result = .ok (.string "firm") := by
  have blank : Sample.idle.Blank := ⟨rfl, rfl⟩
  have reached : Sample.idle.Reaches Sample.busy := .single ⟨none, .start ..⟩
  have due : (0, .begin Sample.survey) ∈ Sample.busy.agenda :=
    List.mem_singleton.2 (rfl : (0, Due.begin Sample.survey) = (0, Due.begin Sample.survey))
  have made : Sample.survey.prepared.MadeFrom Sample.busy.orchestrator.settings Sample.patience :=
    ⟨⟨rfl, rfl, rfl⟩, rfl, rfl⟩
  have seen : Sample.busy.Witnessed 0 (Sample.busy.watch 0 20 (fun _ => false) none) _ :=
    witnessed_runUntil .start (reached.orderly blank.orderly) 20 (fun _ => false) none
  generalize hw : Sample.busy.watch 0 20 (fun _ => false) none = w at seen
  have hcalls : w.calls = [⟨0, Sample.survey.prepared.assignment, 1⟩,
      ⟨1005, Sample.survey.prepared.assignment, 2⟩,
      ⟨2105, Sample.survey.prepared.assignment, 3⟩] := by
    subst hw
    rfl
  have hheard : w.heard = [(1, .error .rateLimited), (3, .ok (.string "firm"))] := by
    subst hw
    rfl
  have houtcomes : w.outcomes ≠ [] := by
    subst hw
    exact List.cons_ne_nil _ _
  have agrees : w.Agrees Sample.answers := fun number i reply hi => by
    obtain ⟨r, hr, rfl⟩ := List.mem_map.1 (List.mem_of_getElem? hi)
    obtain ⟨hmem, hnumber⟩ := List.mem_filter.1 hr
    obtain rfl : r.1 = number := eq_of_beq hnumber
    rw [hheard] at hmem
    simp only [List.mem_cons, List.not_mem_nil, or_false] at hmem
    obtain rfl | rfl := hmem <;> rfl
  have fair : w.Fair Sample.patience {}
      (Sample.survey.prepared.behaviour Sample.busy.files Sample.answers) := by
    refine ⟨nofun, fun _ c hc e he => ?_⟩
    rw [hcalls] at hc
    simp only [List.mem_cons, List.not_mem_nil, or_false] at hc
    obtain rfl | rfl | rfl := hc <;> cases he
  obtain ⟨law, -⟩ := retry_law blank reached due rfl made seen
  obtain ⟨retried, ⟨hnone, -⟩ | ⟨last, outcome, concluded⟩⟩ := law _ agrees fair
  · exact absurd hnone houtcomes
  · have hlast := concluded.last
    rw [hcalls] at hlast
    cases hlast
    refine ⟨w, _, outcome, seen, agrees, retried, ?_, concluded.outcomes, concluded.result⟩
    rw [hcalls]
    rfl

end Simulation
end Runbook
