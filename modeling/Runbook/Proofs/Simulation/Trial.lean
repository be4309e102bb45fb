/-
# Trials

An attempt that has not ended when its limit is reached is cut off there.  A flight is in one
of three phases (`Trial.Phase`):

| phase | what is due of the flight |
| --- | --- |
| an attempt is due | the beginning of that attempt |
| an attempt is under way | its limit, and what is left of its plan |
| it has ended | nothing |

An attempt begins (`phase_of_begin`), goes on (`phase_of_proceed`), and ends (`phase_of_end`);
its end is followed by another attempt, or by nothing and the outcome.
-/

import Mathlib.Data.List.Chain
import Runbook.Proofs.Engine.Origin
import Runbook.Proofs.Simulation.Sighting

namespace Runbook

/-! ### How attempts end -/

/-- The limit of a task's attempts. -/
def Task.limitMs (t : Task) (settings : EngineSettings) : Option Nat :=
  if settings.enforceTimeouts then some t.timeoutMs else none

namespace Behaviour

/-- Whether an attempt has not ended when its limit is reached. -/
def timesOut (limitMs : Option Nat) : Behaviour → Bool
  | .ends ms _ => limitMs.any (· < ms)
  | .never => limitMs.isSome

/-- How long an attempt lasts. -/
def lasts (limitMs : Option Nat) : Behaviour → Nat
  | .ends ms _ => limitMs.elim ms (min ms)
  | .never => limitMs.getD 0

/-- How an attempt ends, none if it times out. -/
def ending (limitMs : Option Nat) (mark : String) (b : Behaviour) : Option AttemptEnd :=
  match b with
  | .ends _ e => if b.timesOut limitMs then none else some (e.reported mark)
  | .never => none

/-- Whether an attempt gives neither a value nor a panic. -/
def fails (limitMs : Option Nat) (b : Behaviour) : Bool :=
  match b with
  | .ends _ (.error _) => true
  | _ => b.timesOut limitMs

/-- What comes of a task after an attempt that is not followed by another. -/
def verdict (t : Task) (settings : EngineSettings) (mark : String) (b : Behaviour) :
    Except ExecutionError Json :=
  match b.ending (t.limitMs settings) mark with
  | some (.value v) => .ok v
  | some (.error cause) => .error (.taskFailed t.name cause)
  | some (.panic message) => .error (.taskPanicked t.name message)
  | none => .error (.taskTimeout t.name t.timeoutMs)

variable {limitMs : Option Nat} {b : Behaviour}

/-- An attempt that does not time out ends as it does when it is left alone. -/
theorem ending_of_inTime {ms : Nat} {e : AttemptEnd}
    (h : timesOut limitMs (.ends ms e) = false) (mark : String) :
    ending limitMs mark (.ends ms e) = some (e.reported mark) ∧ lasts limitMs (.ends ms e) = ms := by
  refine ⟨by simp [ending, h], ?_⟩
  cases limitMs with
  | none => rfl
  | some limit => exact Nat.min_eq_left (by simpa [timesOut] using h)

/-- An attempt that times out is cut off at its limit. -/
theorem ending_of_timesOut {ms : Nat} (h : b.timesOut (some ms)) (mark : String) :
    b.ending (some ms) mark = none ∧ b.lasts (some ms) = ms := by
  cases b with
  | never => exact ⟨rfl, rfl⟩
  | ends later e =>
    have hlater : ms < later := by simpa [timesOut] using h
    exact ⟨if_pos h, Nat.min_eq_right (Nat.le_of_lt hlater)⟩

/-- Another attempt may follow exactly one that fails. -/
theorem allowsRetry_ending (ends : limitMs = none → b ≠ .never) (mark : String) :
    AttemptEnd.allowsRetry (b.ending limitMs mark) = b.fails limitMs := by
  cases b with
  | never =>
    cases limitMs with
    | none => exact absurd rfl (ends rfl)
    | some ms => rfl
  | ends ms e =>
    rw [ending]
    cases htime : timesOut limitMs (.ends ms e) with
    | true => cases e <;> simp [AttemptEnd.allowsRetry, fails, htime]
    | false => cases e <;> simp [AttemptEnd.allowsRetry, fails, htime, AttemptEnd.reported]

end Behaviour

/-- How an attempt at a prepared task behaves, if the service gives these replies to the attempt
of each number, and there are these files. -/
def Prepared.behaviour (p : Prepared) (files : String → Option ByteArray)
    (replies : Nat → Nat → Except InferenceError Json) (c : Call) : Behaviour :=
  (p.worker.attempt c.assignment c.number).behaviour files (replies c.number) c.time

/-- Of two attempts, one after the other: the first one has failed, and the second one begins
the backoff after its end. -/
structure Call.Precedes (B : Call → Behaviour) (limitMs : Option Nat) (backoffMs : Nat)
    (c c' : Call) : Prop where
  failed : (B c).fails limitMs
  time : c'.time = c.time + (B c).lasts limitMs + backoffMs

/-! ### The phases of a flight -/

/-- What the attempts of a flight depend on: its number, the task, how many attempts there were
before, the files, the replies to each attempt, how long is waited between the attempts, and how
panics are reported. -/
structure Trial where
  number : Nat
  prepared : Prepared
  earlier : Nat
  files : String → Option ByteArray
  replies : Nat → Nat → Except InferenceError Json
  backoffMs : Nat
  panicMark : String

namespace Trial

open Simulation

variable (x : Trial)

/-- The flight while some attempts may follow. -/
def flight (left : Nat) : Flight := ⟨x.number, x.prepared, x.earlier, left⟩

/-- The job that the task belongs to. -/
def jobId : String := x.prepared.assignment.jobId

/-- How an attempt behaves. -/
def behaviour (c : Call) : Behaviour := x.prepared.behaviour x.files x.replies c

/-- How long an attempt lasts. -/
def lasts (c : Call) : Nat := (x.behaviour c).lasts x.prepared.limitMs

/-- Whether an attempt fails. -/
def fails (c : Call) : Bool := (x.behaviour c).fails x.prepared.limitMs

/-- How an attempt ends. -/
def ending (c : Call) : Option AttemptEnd :=
  (x.behaviour c).ending x.prepared.limitMs x.panicMark

/-- The attempt that would begin at this instant. -/
def call (s : Simulation) (left : Nat) : Call :=
  ⟨s.clock, x.prepared.assignment, (x.flight left).attempt⟩

/-- The attempt does not go on for ever without a limit, and does not end at the very instant of
its limit. -/
structure IsFair (c : Call) : Prop where
  ends : x.prepared.limitMs = none → x.behaviour c ≠ .never
  untied : ∀ ms e, x.behaviour c = .ends ms e → x.prepared.limitMs ≠ some ms

/-- The simulation in which the attempts are made. -/
structure Fits (s : Simulation) : Prop where
  orderly : s.Orderly
  hosts : s.Hosts (x.flight 0)
  files : s.files = x.files
  backoffMs : s.orchestrator.settings.retryBackoffMs = x.backoffMs
  panicMark : s.panicMark = x.panicMark

/-- The end of an attempt at its limit, if it has one. -/
def limit (left : Nat) (c : Call) : List (Nat × Due) :=
  x.prepared.limitMs.toList.map fun ms => (c.time + ms, .expire (x.flight left))

/-- The replies to an attempt that follow those it has heard. -/
def repliesAfter (c : Call) (told : Nat) (i : Nat) : Except InferenceError Json :=
  x.replies c.number (told + i)

/-- The rest of the plan at an instant makes the attempt behave as it does. -/
def GoesOn (c : Call) (told : Nat) (plan : Plan) (time : Nat) : Prop :=
  c.time ≤ time ∧
    (plan.behaviour x.files (x.repliesAfter c told) time).delayed (time - c.time) = x.behaviour c

/-- What is left to do of an attempt that has been told so many replies. -/
inductive Remains (left : Nat) (c : Call) (told : Nat) : List (Nat × Due) → Prop where
  | hangs (never : x.behaviour c = .never) : Remains left c told []
  | goes {time : Nat} {plan : Plan} (on : x.GoesOn c told plan time) :
      Remains left c told [(time, .proceed (x.flight left) plan)]

/-- The attempts that have been made. -/
structure Made (start : Nat) (calls : List Call) : Prop where
  assignment : ∀ c ∈ calls, c.assignment = x.prepared.assignment
  numbers : calls.map (·.number) = List.range' (x.earlier + 1) calls.length
  first : ∀ c ∈ calls.head?, c.time = start
  chain : calls.IsChain (Call.Precedes x.behaviour x.prepared.limitMs x.backoffMs)

/-- **Where a flight is**, the last attempt of which has been told so many replies. -/
inductive Phase (start : Nat) (s : Simulation) (calls : List Call) (told : Nat) :
    List (Nat × Outcome) → Prop where
  /-- An attempt is due. -/
  | due (time left : Nat) (only : s.dueOf x.number = [(time, .begin (x.flight left))])
      (count : left + calls.length = x.prepared.retries) (first : calls = [] → time = start)
      (later : ∀ c ∈ calls.getLast?, time = c.time + x.lasts c + x.backoffMs ∧ x.fails c) :
      Phase start s calls told []
  /-- The last attempt is under way. -/
  | underWay (c : Call) (left : Nat) {rest : List (Nat × Due)} (last : calls.getLast? = some c)
      (count : left + calls.length = x.prepared.retries + 1) (remains : x.Remains left c told rest)
      (only : (s.dueOf x.number).Perm (rest ++ x.limit left c)) : Phase start s calls told []
  /-- The last attempt has ended, and no other follows. -/
  | ended (c : Call) (last : calls.getLast? = some c) (none_due : s.dueOf x.number = [])
      (count : calls.length ≤ x.prepared.retries + 1)
      (exhausted : x.fails c → calls.length = x.prepared.retries + 1) :
      Phase start s calls told [(c.time + x.lasts c, x.prepared.outcomeOf (x.ending c))]

variable {x} {s t : Simulation} {start told : Nat} {calls : List Call} {c : Call} {left : Nat}
  {os : List (Nat × Outcome)}

/-- The simulation goes on to be one in which the attempts are made. -/
theorem Fits.mono (h : x.Fits s) {own : Nat → Prop} (hk : s.Keeps own t) : x.Fits t :=
  ⟨hk.orderly h.orderly, h.hosts.mono hk, hk.files.trans h.files,
    hk.orchestrator.settings ▸ h.backoffMs, hk.panicMark.trans h.panicMark⟩

/-- Only what is due of the flight matters. -/
theorem Phase.congr (h : x.Phase start s calls told os)
    (hdue : t.dueOf x.number = s.dueOf x.number) : x.Phase start t calls told os := by
  cases h with
  | due time left only count first later => exact .due time left (hdue.trans only) count first later
  | underWay c left last count remains only =>
    exact .underWay c left last count remains (hdue ▸ only)
  | ended c last none_due count exhausted =>
    exact .ended c last (hdue.trans none_due) count exhausted

theorem repliesAfter_add (told n : Nat) :
    (fun i => x.repliesAfter c told (n + i)) = x.repliesAfter c (told + n) := by
  funext i
  rw [repliesAfter, repliesAfter, Nat.add_assoc]

theorem mem_limit {e : Nat × Due} : e ∈ x.limit left c ↔
    ∃ ms, x.prepared.limitMs = some ms ∧ e = (c.time + ms, .expire (x.flight left)) := by
  simp [limit, eq_comm]

/-- **An attempt ends**: the flight has ended, or all that is due of it is the next attempt. -/
theorem phase_of_end (start told : Nat) (fits : x.Fits s) (last : calls.getLast? = some c)
    (count : left + calls.length = x.prepared.retries + 1) (e : Option AttemptEnd) :
    ∃ os, Adds x.jobId s (s.afterAttempt (x.flight left) e) [] os ∧
      (x.IsFair c → x.ending c = e → s.clock = c.time + x.lasts c →
        x.Phase start (s.afterAttempt (x.flight left) e) calls told
          (os.map fun o => (s.clock, o))) := by
  have hosts : s.Hosts (x.flight left) := ⟨fits.hosts.numbered, fits.hosts.housed⟩
  have hretry : x.IsFair c → AttemptEnd.allowsRetry (x.ending c) = x.fails c := fun fair =>
    Behaviour.allowsRetry_ending fair.ends _
  have hne : calls ≠ [] := fun h => by simp [h] at last
  rcases afterAttempt_cases hosts e with ⟨outcome, hafter, hdue, hadds⟩ | ⟨hafter, hdue, hadds⟩
  · refine ⟨[outcome], hadds, fun fair hending clock => ?_⟩
    subst hending
    have hafter' : x.prepared.after left (x.ending c) = some outcome := hafter
    rw [Prepared.after] at hafter'
    split at hafter'
    · cases hafter'
    · rename_i hnot
      cases hafter'
      rw [List.map_singleton, clock]
      refine .ended c last hdue (by omega) fun hfails => ?_
      have hzero : left = 0 := by simpa [hretry fair, hfails] using hnot
      omega
  · refine ⟨[], hadds, fun fair hending clock => ?_⟩
    subst hending
    have hafter' : x.prepared.after left (x.ending c) = none := hafter
    rw [Prepared.after] at hafter'
    split at hafter'
    · rename_i hboth
      have hfails : left ≠ 0 ∧ x.fails c = true := by simpa [hretry fair] using hboth
      rw [fits.backoffMs] at hdue
      refine .due _ (left - 1) hdue (by omega) (fun h => absurd h hne) fun c' hc' => ?_
      obtain rfl : c = c' := Option.some.inj (last.symm.trans hc')
      exact ⟨by rw [clock], hfails.2⟩
    · cases hafter'

/-- An attempt that ends of itself has not reached its limit before. -/
theorem ending_of_carried (fits : x.Fits s) {e : AttemptEnd}
    (only : (s.dueOf x.number).Perm (x.limit left c)) (began : c.time ≤ s.clock)
    (hb : x.behaviour c = .ends (s.clock - c.time) e) :
    x.ending c = some (e.reported x.panicMark) ∧ s.clock = c.time + x.lasts c := by
  have htime : Behaviour.timesOut x.prepared.limitMs (.ends (s.clock - c.time) e) = false := by
    rw [Behaviour.timesOut]
    cases hlimit : x.prepared.limitMs with
    | none => rfl
    | some ms =>
      -- What the limit put on the agenda is not past.
      have hmem := only.mem_iff.2 (mem_limit.2 ⟨ms, hlimit, rfl⟩)
      have hahead := fits.orderly.ahead _ (mem_dueOf.1 hmem).1
      simp only [Option.any_some, decide_eq_false_iff_not]
      dsimp only at hahead
      omega
  obtain ⟨hending, hlasts⟩ := Behaviour.ending_of_inTime htime x.panicMark
  rw [ending, lasts, hb]
  exact ⟨hending, by rw [hlasts]; omega⟩

/-- **An attempt goes on** of which only the limit is due: it is under way still, or it ends. -/
theorem phase_of_proceed (start : Nat) (fits : x.Fits s) {plan : Plan}
    (last : calls.getLast? = some c) (count : left + calls.length = x.prepared.retries + 1)
    (only : (s.dueOf x.number).Perm (x.limit left c)) (on : x.GoesOn c told plan s.clock) :
    ∃ os, Adds x.jobId s (s.proceed (x.flight left) plan) [] os ∧
      (x.IsFair c → s.Gives (s.asked (s.proceed (x.flight left) plan)) (x.repliesAfter c told) →
        x.Phase start (s.proceed (x.flight left) plan) calls
          (told + s.asked (s.proceed (x.flight left) plan)) (os.map fun o => (s.clock, o))) := by
  obtain ⟨began, hrest⟩ := on
  rw [← fits.files] at hrest
  rw [proceed]
  cases hcarry : carry (x.flight left) plan s with
  | mk e t =>
    have hcarried := carried (x.flight left) plan s
    rw [hcarry] at hcarried
    cases hcarried with
    | ended e calm hends =>
      have hkeeps := calm.keeps fun _ => False
      obtain ⟨os, hadds, hphase⟩ := phase_of_end (c := c) start (told + s.asked t)
        (fits.mono hkeeps) last count (some (e.reported s.panicMark))
      have hasked : s.asked (t.afterAttempt (x.flight left) (some (e.reported s.panicMark)))
          = s.asked t := by
        rw [asked, requests_afterAttempt, asked]
      refine ⟨os, (calm.adds _).trans hadds, fun fair hears => ?_⟩
      dsimp only at hears ⊢
      rw [hasked] at hears ⊢
      rw [calm.clock] at hphase
      rw [calm.asked] at hears
      rw [hends _ hears] at hrest
      have hb : x.behaviour c = .ends (s.clock - c.time) e := hrest.symm
      obtain ⟨hending, hlasts⟩ := ending_of_carried fits only began hb
      exact hphase fair (by rw [hending, fits.panicMark]) hlasts
    | hangs calm hnever =>
      refine ⟨[], calm.adds _, fun _ hears => ?_⟩
      dsimp only at hears ⊢
      rw [calm.asked] at hears
      have hb : x.behaviour c = .never := by
        rw [← hrest, hnever _ hears]
        rfl
      have hdue : t.dueOf x.number = s.dueOf x.number := by rw [dueOf, dueOf, calm.agenda]
      exact .underWay c left last count (.hangs hb) (hdue ▸ only)
    | @waits t n ms next calm _ hwaits =>
      have hperm := perm_dueOf_later t (ms + 1) (.proceed (x.flight left) next)
      have hdue : t.dueOf x.number = s.dueOf x.number := by rw [dueOf, dueOf, calm.agenda]
      have hasked : s.asked (t.later (ms + 1) (.proceed (x.flight left) next)) = n := calm.asked
      rw [Due.flight, flight, hdue, calm.clock] at hperm
      refine ⟨[], (calm.adds _).trans (.of_same rfl rfl), fun _ hears => ?_⟩
      dsimp only at hears ⊢
      rw [hasked] at hears ⊢
      have hon : x.GoesOn c (told + n) next (s.clock + (ms + 1)) := by
        refine ⟨by omega, ?_⟩
        have htime : s.clock + (ms + 1) - c.time = s.clock - c.time + (ms + 1) := by omega
        rw [hwaits _ hears, Behaviour.delayed_delayed, fits.files, repliesAfter_add] at hrest
        rw [htime, hrest]
      exact .underWay c left last count (.goes hon) (hperm.trans (only.cons _))

/-- When an attempt begins, all that is due of it is its limit. -/
theorem dueOf_limit (none_due : s.dueOf x.number = []) (clock : s.clock = c.time) :
    ((s.limit (x.flight left)).dueOf x.number).Perm (x.limit left c) := by
  rw [Simulation.limit, limit]
  cases hlimit : (x.flight left).prepared.limitMs with
  | none =>
    rw [flight] at hlimit
    rw [hlimit, none_due]
    exact .nil
  | some ms =>
    have hperm := perm_dueOf_later s ms (.expire (x.flight left))
    rw [Due.flight, flight, none_due, clock] at hperm
    rw [flight] at hlimit
    rw [hlimit]
    exact hperm

/-- **An attempt begins** where nothing else is due of the flight: it is under way, or it ends
at once. -/
theorem phase_of_begin (start : Nat) (fits : x.Fits s) (none_due : s.dueOf x.number = [])
    (count : left + calls.length = x.prepared.retries) :
    ∃ os, Adds x.jobId s (s.beginAttempt (x.flight left))
        [((x.call s left).assignment, (x.call s left).number)] os ∧
      (x.IsFair (x.call s left) →
        s.Gives (s.asked (s.beginAttempt (x.flight left))) (x.repliesAfter (x.call s left) 0) →
        x.Phase start (s.beginAttempt (x.flight left)) (calls ++ [x.call s left])
          (s.asked (s.beginAttempt (x.flight left))) (os.map fun o => (s.clock, o))) := by
  have hosts : s.Hosts (x.flight left) := ⟨fits.hosts.numbered, fits.hosts.housed⟩
  have hnote := keeps_note s (x.flight left) fun _ => True
  have hway : (s.note (x.flight left)).IsUnderWay x.number := fun e he =>
    absurd (none_due ▸ he) List.not_mem_nil
  have hlimit : (s.note (x.flight left)).Keeps (fun _ => True) _ :=
    keeps_limit (hosts.mono hnote) hway trivial
  have hadds : Adds x.jobId s ((s.note (x.flight left)).limit (x.flight left))
      [((x.call s left).assignment, (x.call s left).number)] [] :=
    (adds_note s (x.flight left)).trans (adds_limit ..)
  have honly : (((s.note (x.flight left)).limit (x.flight left)).dueOf x.number).Perm
      (x.limit left (x.call s left)) := dueOf_limit (s := s.note (x.flight left)) none_due rfl
  have hon : x.GoesOn (x.call s left) 0 (x.prepared.worker.attempt x.prepared.assignment
      (x.flight left).attempt) ((s.note (x.flight left)).limit (x.flight left)).clock := by
    have hreplies : x.repliesAfter (x.call s left) 0 = x.replies (x.call s left).number := by
      funext i
      rw [repliesAfter, Nat.zero_add]
    rw [clock_limit]
    refine ⟨Nat.le_refl _, ?_⟩
    rw [hreplies, show (s.note (x.flight left)).clock = (x.call s left).time from rfl,
      Nat.sub_self, Behaviour.delayed_zero]
    rfl
  have hcount : left + (calls ++ [x.call s left]).length = x.prepared.retries + 1 := by
    simp only [List.length_append, List.length_singleton]
    omega
  obtain ⟨os, hmore, hphase⟩ := phase_of_proceed start ((fits.mono hnote).mono hlimit)
    (List.getLast?_concat ..) hcount honly hon
  refine ⟨os, hadds.trans hmore, fun fair hears => ?_⟩
  rw [clock_limit, Nat.zero_add] at hphase
  have hasked : ((s.note (x.flight left)).limit (x.flight left)).asked
      = s.asked := by
    funext t
    rw [asked, asked, requests_limit]
    rfl
  rw [hasked] at hphase
  refine hphase fair fun i hi => (hears i hi).trans ?_
  rw [reply_limit]
  rfl

/-- An attempt is made when it is due. -/
theorem Made.concat (h : x.Made start calls) (assignment : c.assignment = x.prepared.assignment)
    (number : c.number = x.earlier + calls.length + 1) (first : calls = [] → c.time = start)
    (later : ∀ b ∈ calls.getLast?, c.time = b.time + x.lasts b + x.backoffMs ∧ x.fails b) :
    x.Made start (calls ++ [c]) := by
  refine ⟨fun b hb => ?_, ?_, fun b hb => ?_, ?_⟩
  · rcases List.mem_append.1 hb with hb | hb
    · exact h.assignment b hb
    · rw [List.mem_singleton.1 hb]
      exact assignment
  · rw [List.map_append, h.numbers, List.length_append, List.length_singleton, List.range'_concat,
      List.map_singleton, number, Nat.one_mul]
    congr 2
    omega
  · cases calls with
    | nil =>
      cases hb
      exact first rfl
    | cons c' cs => exact h.first b hb
  · refine List.isChain_append.2 ⟨h.chain, List.isChain_singleton _, fun b hb c' hc' => ?_⟩
    cases hc'
    obtain ⟨htime, hfails⟩ := later b hb
    exact ⟨hfails, htime⟩

/-- An attempt whose limit is reached while it is under way is cut off there. -/
theorem ending_of_expire (fair : x.IsFair c) (orderly : s.Orderly) {rest : List (Nat × Due)}
    {ms : Nat} (remains : x.Remains left c told rest)
    (only : (s.dueOf x.number).Perm (rest ++ x.limit left c)) (limit : x.prepared.limitMs = some ms)
    (clock : s.clock = c.time + ms) : x.ending c = none ∧ x.lasts c = ms := by
  have htime : (x.behaviour c).timesOut (some ms) := by
    cases remains with
    | hangs never =>
      rw [never]
      rfl
    | @goes time plan on =>
      -- The attempt would go on at an instant that is not past.
      have hmem := only.mem_iff.2 (List.mem_append_left _ (List.mem_singleton_self _))
      have hahead := orderly.ahead _ (mem_dueOf.1 hmem).1
      obtain ⟨hstart, hrest⟩ := on
      cases hb : x.behaviour c with
      | never => rfl
      | ends later e =>
        have huntied : ms ≠ later := fun he => fair.untied later e hb (he ▸ limit)
        rw [hb] at hrest
        dsimp only at hahead
        generalize plan.behaviour _ _ _ = b at hrest
        cases b with
        | never => cases hrest
        | ends ms' e' =>
          simp only [Behaviour.delayed, Behaviour.ends.injEq] at hrest
          simp only [Behaviour.timesOut, Option.any_some, decide_eq_true_eq]
          omega
  rw [ending, lasts, limit]
  exact Behaviour.ending_of_timesOut htime _

/-- A flight of which nothing is due has ended. -/
theorem Phase.ended_of_nil (fair : ∀ c ∈ calls, x.IsFair c) (h : x.Phase start s calls told os)
    (hnone : s.dueOf x.number = []) : os ≠ [] := by
  cases h with
  | due time left only count first later =>
    rw [hnone] at only
    cases only
  | underWay c left last count remains only =>
    rw [hnone] at only
    obtain ⟨hrest, hlimit⟩ := List.append_eq_nil_iff.1 (List.nil_perm.1 only)
    cases remains with
    | hangs never =>
      have hends := (fair c (List.mem_of_getLast? last)).ends
      rw [limit, List.map_eq_nil_iff, Option.toList_eq_nil_iff] at hlimit
      exact absurd never (hends hlimit)
    | goes on => cases hrest
  | ended c last none_due count exhausted => exact nofun

theorem Phase.length_le (h : x.Phase start s calls told os) :
    calls.length ≤ x.prepared.retries + 1 := by
  cases h with
  | due time left only count first later => omega
  | underWay c left last count remains only => omega
  | ended c last none_due count exhausted => exact count

/-- There is an outcome when the flight has ended, and then only. -/
theorem Phase.outcomes_eq (h : x.Phase start s calls told os) :
    os = [] ∨ ∃ c, calls.getLast? = some c ∧
      (x.fails c → calls.length = x.prepared.retries + 1) ∧
      os = [(c.time + x.lasts c, x.prepared.outcomeOf (x.ending c))] := by
  cases h with
  | due time left only count first later => exact Or.inl rfl
  | underWay c left last count remains only => exact Or.inl rfl
  | ended c last none_due count exhausted => exact Or.inr ⟨c, last, exhausted, rfl⟩

/-- The outcome after an attempt is the verdict on it. -/
theorem result_outcomeOf {settings : EngineSettings} {t : Task}
    (made : x.prepared.MadeFrom settings t) (fair : x.IsFair c) :
    (x.prepared.outcomeOf (x.ending c)).result
      = (x.behaviour c).verdict t settings x.panicMark := by
  have hname : x.prepared.assignment.name = t.name := made.name
  have hlimit : x.prepared.limitMs = t.limitMs settings := made.limitMs
  rw [Behaviour.verdict, ← hlimit, ← hname,
    show (x.behaviour c).ending x.prepared.limitMs x.panicMark = x.ending c from rfl]
  cases hending : x.ending c with
  | some e => cases e <;> rfl
  | none =>
    -- Only a limit cuts an attempt off.
    have hsome : x.prepared.limitMs ≠ none := fun hnone => by
      have hends := fair.ends hnone
      rw [ending, hnone] at hending
      cases hb : x.behaviour c with
      | never => exact hends hb
      | ends ms e =>
        rw [hb] at hending
        cases hending
    have htimeout : x.prepared.limitMs.getD 0 = t.timeoutMs := by
      rw [hlimit, Task.limitMs] at hsome ⊢
      split at hsome
      · rename_i hkeep
        rw [if_pos hkeep, Option.getD_some]
      · exact absurd rfl hsome
    change Except.error (ExecutionError.taskTimeout _ (x.prepared.limitMs.getD 0)) = _
    rw [htimeout]

end Trial
end Runbook
