/-
# The agenda of a simulation

Whatever a simulation does, its agenda is in the order of time and lies ahead of the
clock, each thing on it belongs to a flight that there is and to a job with a run, and
an attempt that is to begin is all that is due of its flight (`Simulation.Orderly`).
Each operation keeps that, and what it concerns is known: what is due of other flights
stays as it is (`Simulation.Keeps`).
-/

import Mathlib.Data.List.Nodup
import Runbook.Proofs.Simulation.Plan

namespace Runbook

/-! ### Putting things down -/

/-- What is put down is on the agenda besides what was there. -/
theorem perm_schedule (time : Nat) (d : Due) (agenda : List (Nat × Due)) :
    (schedule time d agenda).Perm ((time, d) :: agenda) := by
  induction agenda with
  | nil => exact .refl _
  | cons e es ih =>
    rw [schedule]
    split
    · exact .refl _
    · exact (ih.cons e).trans (.swap ..)

theorem sorted_schedule (time : Nat) (d : Due) {agenda : List (Nat × Due)}
    (h : agenda.Pairwise fun e e' => e.1 ≤ e'.1) :
    (schedule time d agenda).Pairwise fun e e' => e.1 ≤ e'.1 := by
  induction agenda with
  | nil => exact List.pairwise_singleton _ _
  | cons e es ih =>
    obtain ⟨hfirst, hrest⟩ := List.pairwise_cons.1 h
    rw [schedule]
    split
    · rename_i hlt
      refine List.pairwise_cons.2 ⟨fun x hx => ?_, h⟩
      rcases List.mem_cons.1 hx with rfl | hx
      · exact Nat.le_of_lt hlt
      · exact Nat.le_trans (Nat.le_of_lt hlt) (hfirst x hx)
    · rename_i hnot
      refine List.pairwise_cons.2 ⟨fun x hx => ?_, ih hrest⟩
      rcases List.mem_cons.1 ((perm_schedule time d es).mem_iff.1 hx) with rfl | hx
      · exact Nat.le_of_not_lt hnot
      · exact hfirst x hx

theorem filter_schedule {p : Nat × Due → Bool} {time : Nat} {d : Due} (h : p (time, d) = false)
    (agenda : List (Nat × Due)) : (schedule time d agenda).filter p = agenda.filter p := by
  induction agenda with
  | nil => simp [schedule, h]
  | cons e es ih =>
    rw [schedule]
    split
    · simp [h]
    · simp only [List.filter_cons, ih]

/-- Whether an attempt is to begin. -/
def Due.isBegin : Due → Bool
  | .begin _ => true
  | _ => false

namespace Simulation

/-- What is due of a flight. -/
def dueOf (s : Simulation) (number : Nat) : List (Nat × Due) :=
  s.agenda.filter fun e => e.2.flight.number == number

/-- The jobs whose runs there are. -/
def jobIds (s : Simulation) : List String := s.runs.map (·.run.jobId)

variable {s t u : Simulation} {f : Flight} {d : Due} {n : Nat} {own : Nat → Prop}

theorem mem_dueOf {e : Nat × Due} :
    e ∈ s.dueOf n ↔ e ∈ s.agenda ∧ e.2.flight.number = n := by
  simp [dueOf]

@[simp] theorem dueOf_cancel_self (s : Simulation) (n : Nat) : (s.cancel n).dueOf n = [] := by
  simp [dueOf, cancel]

theorem dueOf_cancel {m : Nat} (h : n ≠ m) (s : Simulation) :
    (s.cancel m).dueOf n = s.dueOf n := by
  rw [dueOf, cancel, List.filter_filter]
  refine List.filter_congr fun e _ => ?_
  by_cases hn : e.2.flight.number = n <;> simp [hn, h]

/-- What is put down is due of its flight besides what was due. -/
theorem perm_dueOf_later (s : Simulation) (ms : Nat) (d : Due) :
    ((s.later ms d).dueOf d.flight.number).Perm
      ((s.clock + ms, d) :: s.dueOf d.flight.number) := by
  have h := (perm_schedule (s.clock + ms) d s.agenda).filter
    fun e => e.2.flight.number == d.flight.number
  simpa [dueOf, later] using h

/-- **Order.**  The agenda is sorted and ahead of the clock; what is on it belongs to
flights that there are and to jobs with a run; an attempt that is to begin is all that is
due of its flight.  The runs are those of different jobs, and have ready only what belongs
to their job. -/
structure Orderly (s : Simulation) : Prop where
  sorted : s.agenda.Pairwise fun e e' => e.1 ≤ e'.1
  ahead : ∀ e ∈ s.agenda, s.clock ≤ e.1
  numbered : ∀ e ∈ s.agenda, e.2.flight.number < s.flights
  housed : ∀ e ∈ s.agenda, e.2.flight.prepared.assignment.jobId ∈ s.jobIds
  alone : ∀ e ∈ s.agenda, e.2.isBegin → s.dueOf e.2.flight.number = [e]
  named : ∀ id ∈ s.jobIds, ∃ k ≤ s.orchestrator.jobs.length, id = jobName k
  distinct : s.jobIds.Nodup
  stocked : ∀ t ∈ s.runs, t.run.IsStocked

/-- **What an operation keeps** that concerns only some flights. -/
structure Keeps (own : Nat → Prop) (s t : Simulation) : Prop where
  clock : s.clock ≤ t.clock
  files : t.files = s.files
  panicMark : t.panicMark = s.panicMark
  orchestrator : s.orchestrator.Persists t.orchestrator
  flights : s.flights ≤ t.flights
  jobIds : s.jobIds <+: t.jobIds
  log : s.log <+: t.log
  spares : ∀ n, ¬ own n → t.dueOf n = s.dueOf n
  orderly : s.Orderly → t.Orderly

namespace Keeps

theorem refl (own : Nat → Prop) (s : Simulation) : s.Keeps own s :=
  ⟨Nat.le_refl _, rfl, rfl, .refl _, Nat.le_refl _, List.prefix_rfl, List.prefix_rfl,
    fun _ _ => rfl, id⟩

theorem trans (h : s.Keeps own t) (h' : t.Keeps own u) : s.Keeps own u where
  clock := Nat.le_trans h.clock h'.clock
  files := h'.files.trans h.files
  panicMark := h'.panicMark.trans h.panicMark
  orchestrator := h.orchestrator.trans h'.orchestrator
  flights := Nat.le_trans h.flights h'.flights
  jobIds := h.jobIds.trans h'.jobIds
  log := h.log.trans h'.log
  spares n hn := (h'.spares n hn).trans (h.spares n hn)
  orderly hs := h'.orderly (h.orderly hs)

/-- Another operation may need the order that the first one keeps. -/
theorem andThen (h : s.Keeps own t) (hs : s.Orderly) (h' : t.Orderly → t.Keeps own u) :
    s.Keeps own u :=
  h.trans (h' (h.orderly hs))

/-- More flights may be concerned. -/
theorem mono {own' : Nat → Prop} (h : s.Keeps own t) (hown : ∀ n, own n → own' n) :
    s.Keeps own' t :=
  { h with spares := fun n hn => h.spares n fun ho => hn (hown n ho) }

end Keeps

/-- The flight is one of those that there are, and its job has a run. -/
structure Hosts (s : Simulation) (f : Flight) : Prop where
  numbered : f.number < s.flights
  housed : f.prepared.assignment.jobId ∈ s.jobIds

theorem Hosts.mono (h : s.Hosts f) (hk : s.Keeps own t) : t.Hosts f :=
  ⟨Nat.lt_of_lt_of_le h.numbered hk.flights, hk.jobIds.subset h.housed⟩

/-- No attempt of the flight is to begin. -/
def IsUnderWay (s : Simulation) (n : Nat) : Prop := ∀ e ∈ s.dueOf n, e.2.isBegin = false

/-! ### The operations on flights -/

/-- Asking the service and stopping jobs concerns no flight. -/
theorem Calm.keeps {asked : Nat} (h : Calm asked s t) (own : Nat → Prop) : s.Keeps own t := by
  have hids : t.jobIds = s.jobIds := by rw [jobIds, jobIds, h.runs]
  have hdue : ∀ n, t.dueOf n = s.dueOf n := fun n => by rw [dueOf, dueOf, h.agenda]
  obtain ⟨stops, hlog, -⟩ := h.log
  refine ⟨Nat.le_of_eq h.clock.symm, h.files, h.panicMark, h.orchestrator,
    Nat.le_of_eq h.flights.symm,
    hids ▸ List.prefix_rfl, ⟨stops, hlog.symm⟩, fun n _ => hdue n, fun hs => ?_⟩
  refine ⟨?_, ?_, ?_, ?_, ?_, fun id hid => ?_, ?_, ?_⟩
  · rw [h.agenda]
    exact hs.sorted
  · rw [h.agenda, h.clock]
    exact hs.ahead
  · rw [h.agenda, h.flights]
    exact hs.numbered
  · rw [h.agenda, hids]
    exact hs.housed
  · intro e he hb
    rw [hdue]
    exact hs.alone e (h.agenda ▸ he) hb
  · obtain ⟨k, hk, rfl⟩ := hs.named id (hids ▸ hid)
    exact ⟨k, Nat.le_trans hk h.orchestrator.jobs, rfl⟩
  · rw [hids]
    exact hs.distinct
  · rw [h.runs]
    exact hs.stocked

/-- Something more of a flight is put on the agenda. -/
theorem keeps_put {time : Nat} {agenda : List (Nat × Due)}
    (hperm : agenda.Perm ((time, d) :: s.agenda))
    (hothers : ∀ n, d.flight.number ≠ n →
      agenda.filter (fun e => e.2.flight.number == n) = s.dueOf n)
    (hsorted : s.Orderly → agenda.Pairwise fun e e' => e.1 ≤ e'.1) (htime : s.clock ≤ time)
    (hosts : s.Hosts d.flight) (hway : s.IsUnderWay d.flight.number)
    (hbegin : d.isBegin → s.dueOf d.flight.number = []) (hown : own d.flight.number) :
    s.Keeps own { s with agenda } := by
  have hmem : ∀ e, e ∈ agenda ↔ e = (time, d) ∨ e ∈ s.agenda := fun e => by
    rw [hperm.mem_iff, List.mem_cons]
  refine ⟨Nat.le_refl _, rfl, rfl, .refl _, Nat.le_refl _, List.prefix_rfl, List.prefix_rfl,
    fun n hn => ?_, fun hs => ?_⟩
  · exact hothers n fun he => hn (he ▸ hown)
  · refine ⟨hsorted hs, fun e he => ?_, fun e he => ?_, fun e he => ?_, fun e he hb => ?_,
      hs.named, hs.distinct, hs.stocked⟩
    · rcases (hmem e).1 he with rfl | he
      · exact htime
      · exact hs.ahead e he
    · rcases (hmem e).1 he with rfl | he
      · exact hosts.numbered
      · exact hs.numbered e he
    · rcases (hmem e).1 he with rfl | he
      · exact hosts.housed
      · exact hs.housed e he
    · rcases (hmem e).1 he with rfl | he
      · have hdue := hperm.filter fun e => e.2.flight.number == d.flight.number
        rw [List.filter_cons_of_pos (by simp)] at hdue
        refine List.perm_singleton.1 (hdue.trans ?_)
        rw [show s.agenda.filter _ = [] from hbegin hb]
      · have hne : d.flight.number ≠ e.2.flight.number := fun hsame => by
          have hnot := hway e (mem_dueOf.2 ⟨he, hsame.symm⟩)
          rw [hb] at hnot
          cases hnot
        exact (hothers _ hne).trans (hs.alone e he hb)

theorem keeps_later (ms : Nat) (hosts : s.Hosts d.flight) (hway : s.IsUnderWay d.flight.number)
    (hbegin : d.isBegin → s.dueOf d.flight.number = []) (hown : own d.flight.number) :
    s.Keeps own (s.later ms d) :=
  keeps_put (perm_schedule ..) (fun n hn => filter_schedule (by simpa using hn) _)
    (fun hs => sorted_schedule _ _ hs.sorted) (Nat.le_add_right ..) hosts hway hbegin hown

theorem keeps_next (hosts : s.Hosts d.flight) (hway : s.IsUnderWay d.flight.number)
    (hbegin : d.isBegin → s.dueOf d.flight.number = []) (hown : own d.flight.number) :
    s.Keeps own (s.next d) := by
  refine keeps_put (.refl _) (fun n hn => ?_) (fun hs => ?_) (Nat.le_refl _) hosts hway hbegin hown
  · rw [List.filter_cons_of_neg (by simpa using hn)]
    rfl
  · exact List.pairwise_cons.2 ⟨hs.ahead, hs.sorted⟩

/-- Some of what is due of a flight is taken off the agenda, or all of it. -/
theorem keeps_drop {agenda : List (Nat × Due)} {m : Nat} (hsub : agenda.Sublist s.agenda)
    (hothers : ∀ n, m ≠ n → agenda.filter (fun e => e.2.flight.number == n) = s.dueOf n)
    (hway : s.Orderly → ∀ e ∈ agenda, e.2.flight.number = m → e.2.isBegin = false) (hown : own m) :
    s.Keeps own { s with agenda } := by
  refine ⟨Nat.le_refl _, rfl, rfl, .refl _, Nat.le_refl _, List.prefix_rfl, List.prefix_rfl,
    fun n hn => ?_, fun hs => ?_⟩
  · exact hothers n fun he => hn (he ▸ hown)
  · refine ⟨hs.sorted.sublist hsub, fun e he => hs.ahead e (hsub.subset he),
      fun e he => hs.numbered e (hsub.subset he), fun e he => hs.housed e (hsub.subset he),
      fun e he hb => ?_, hs.named, hs.distinct, hs.stocked⟩
    have hne : m ≠ e.2.flight.number := fun hsame => by
      have hnot := hway hs e he hsame.symm
      rw [hb] at hnot
      cases hnot
    exact (hothers _ hne).trans (hs.alone e (hsub.subset he) hb)

theorem keeps_cancel (hown : own n) : s.Keeps own (s.cancel n) := by
  refine keeps_drop (m := n) List.filter_sublist (fun m hm => dueOf_cancel (Ne.symm hm) s) ?_ hown
  intro _ e he hn
  have hmem : e ∈ (s.cancel n).dueOf n := mem_dueOf.2 ⟨he, hn⟩
  rw [dueOf_cancel_self] at hmem
  exact absurd hmem List.not_mem_nil

/-- The runs remain those of their jobs. -/
theorem keeps_runs {runs : List Traveller} (hids : runs.map (·.run.jobId) = s.jobIds)
    (hstocked : s.Orderly → ∀ t ∈ runs, t.run.IsStocked) (own : Nat → Prop) :
    s.Keeps own { s with runs } := by
  refine ⟨Nat.le_refl _, rfl, rfl, .refl _, Nat.le_refl _, hids ▸ List.prefix_rfl, List.prefix_rfl,
    fun _ _ => rfl, fun hs => ?_⟩
  refine ⟨hs.sorted, hs.ahead, hs.numbered, fun e he => ?_, hs.alone, fun id hid => ?_, ?_,
    hstocked hs⟩
  · rw [show Simulation.jobIds { s with runs } = _ from hids]
    exact hs.housed e he
  · exact hs.named id (hids ▸ hid)
  · rw [show Simulation.jobIds { s with runs } = _ from hids]
    exact hs.distinct

theorem keeps_post (s : Simulation) (jobId : String) (outcome : Outcome) (own : Nat → Prop) :
    s.Keeps own (s.post jobId outcome) := by
  refine keeps_runs ?_ (fun hs t ht => ?_) own
  · rw [jobIds, List.map_map]
    refine List.map_congr_left fun t _ => ?_
    rw [Function.comp_apply]
    split <;> rfl
  · obtain ⟨u, hu, rfl⟩ := List.mem_map.1 ht
    split
    · exact hs.stocked u hu
    · exact hs.stocked u hu

/-- What follows an attempt concerns its flight. -/
theorem keeps_afterAttempt (hosts : s.Hosts f) (e : Option AttemptEnd) (hown : own f.number) :
    s.Keeps own (s.afterAttempt f e) := by
  have hcancel : s.Keeps own (s.cancel f.number) := keeps_cancel hown
  rw [afterAttempt]
  dsimp only
  split
  · exact hcancel.trans (keeps_post ..)
  · have hosts' : (s.cancel f.number).Hosts f := hosts.mono hcancel
    have hnone : (s.cancel f.number).dueOf f.number = [] := dueOf_cancel_self ..
    have hway : (s.cancel f.number).IsUnderWay f.number := fun e he =>
      absurd (hnone ▸ he) List.not_mem_nil
    split
    · exact hcancel.trans (keeps_next ⟨hosts'.numbered, hosts'.housed⟩ hway (fun _ => hnone) hown)
    · exact hcancel.trans
        (keeps_later _ ⟨hosts'.numbered, hosts'.housed⟩ hway (fun _ => hnone) hown)

/-- So does going on with an attempt. -/
theorem keeps_proceed (hosts : s.Hosts f) (hway : s.IsUnderWay f.number) (plan : Plan)
    (hown : own f.number) : s.Keeps own (s.proceed f plan) := by
  rw [proceed]
  cases hcarry : carry f plan s with
  | mk e t =>
    have hcarried := carried f plan s
    rw [hcarry] at hcarried
    cases hcarried with
    | ended e calm _ =>
      exact (calm.keeps own).trans
        (keeps_afterAttempt (hosts.mono (calm.keeps own)) _ hown)
    | hangs calm _ => exact calm.keeps own
    | waits ms next calm _ _ =>
      have hway' : IsUnderWay _ f.number := fun e he => hway e (by
        rwa [dueOf, calm.agenda] at he)
      exact (calm.keeps own).trans
        (keeps_later (d := .proceed f next) _ (hosts.mono (calm.keeps own)) hway' nofun hown)

/-- An attempt is noted. -/
def note (s : Simulation) (f : Flight) : Simulation :=
  { s with
    log := s.log ++
      [.call f.prepared.assignment f.attempt
        (s.orchestrator.job? f.prepared.assignment.jobId)] }

/-- The end of an attempt at its limit is put on the agenda. -/
def limit (s : Simulation) (f : Flight) : Simulation :=
  match f.prepared.limitMs with
  | none => s
  | some ms => s.later ms (.expire f)

/-- An attempt that begins is noted, then its limit is put down, then it goes on. -/
theorem beginAttempt_eq (s : Simulation) (f : Flight) :
    s.beginAttempt f = ((s.note f).limit f).proceed f
      (f.prepared.worker.attempt f.prepared.assignment f.attempt) :=
  rfl

theorem keeps_note (s : Simulation) (f : Flight) (own : Nat → Prop) : s.Keeps own (s.note f) := by
  refine ⟨Nat.le_refl _, rfl, rfl, .refl _, Nat.le_refl _, List.prefix_rfl, List.prefix_append _ _,
    fun _ _ => rfl, fun hs => ?_⟩
  exact ⟨hs.sorted, hs.ahead, hs.numbered, hs.housed, hs.alone, hs.named, hs.distinct, hs.stocked⟩

theorem keeps_limit (hosts : s.Hosts f) (hway : s.IsUnderWay f.number) (hown : own f.number) :
    s.Keeps own (s.limit f) := by
  rw [limit]
  split
  · exact .refl _ s
  · exact keeps_later (d := .expire f) _ hosts hway nofun hown

/-- With its limit put down, an attempt is still under way. -/
theorem isUnderWay_limit (hway : s.IsUnderWay f.number) : (s.limit f).IsUnderWay f.number := by
  rw [limit]
  split
  · exact hway
  · intro e he
    rcases List.mem_cons.1 ((perm_dueOf_later s _ (.expire f)).mem_iff.1 he) with rfl | he
    · rfl
    · exact hway e he

/-- So does the beginning of one. -/
theorem keeps_beginAttempt (hosts : s.Hosts f) (hnone : s.dueOf f.number = [])
    (hown : own f.number) : s.Keeps own (s.beginAttempt f) := by
  have hway : (s.note f).IsUnderWay f.number := fun e he => absurd (hnone ▸ he) List.not_mem_nil
  have hnote := keeps_note s f own
  have hlimit := keeps_limit (hosts.mono hnote) hway hown
  rw [beginAttempt_eq]
  refine (hnote.trans hlimit).trans (keeps_proceed ?_ (isUnderWay_limit hway) _ hown)
  exact (hosts.mono hnote).mono hlimit

/-! ### The next thing that is due -/

/-- What is left when the next thing is taken off the agenda. -/
theorem keeps_pop {time : Nat} {agenda : List (Nat × Due)} (hs : s.Orderly)
    (head : s.agenda = (time, d) :: agenda) (hown : own d.flight.number) :
    s.Keeps own { s with agenda } ∧ Hosts { s with agenda } d.flight ∧
      IsUnderWay { s with agenda } d.flight.number ∧
      (d.isBegin → dueOf { s with agenda } d.flight.number = []) := by
  have hin : (time, d) ∈ s.agenda := by simp [head]
  have hdue : s.dueOf d.flight.number
      = (time, d) :: dueOf { s with agenda } d.flight.number := by
    rw [dueOf, head, List.filter_cons_of_pos (by simp)]
    rfl
  -- If an attempt of the flight were still to begin, it would be all that is due of it.
  have hway : IsUnderWay { s with agenda } d.flight.number := fun e he => by
    obtain ⟨hmem, hnumber⟩ := mem_dueOf.1 he
    refine Bool.eq_false_iff.2 fun hb => ?_
    have halone := hs.alone e (head ▸ List.mem_cons_of_mem _ hmem) hb
    rw [hnumber, hdue] at halone
    rw [(List.cons.inj halone).2] at he
    exact List.not_mem_nil he
  refine ⟨keeps_drop (m := d.flight.number) (head ▸ List.sublist_cons_self _ _) (fun n hn => ?_)
    (fun _ e he hn => hway e (mem_dueOf.2 ⟨he, hn⟩)) hown,
    ⟨hs.numbered _ hin, hs.housed _ hin⟩, hway, fun hb => ?_⟩
  · rw [dueOf, head, List.filter_cons_of_neg (by simpa using hn)]
  · have halone := hs.alone _ hin hb
    rw [hdue] at halone
    exact (List.cons.inj halone).2

/-- Doing what is due concerns the flight that it belongs to. -/
theorem keeps_perform {time : Nat} {agenda : List (Nat × Due)} (hs : s.Orderly)
    (head : s.agenda = (time, d) :: agenda) (hown : own d.flight.number) :
    s.Keeps own (perform { s with agenda } d) := by
  obtain ⟨hpop, hosts, hway, hnone⟩ := keeps_pop hs head hown
  refine hpop.trans ?_
  cases d with
  | begin f => exact keeps_beginAttempt hosts (hnone rfl) hown
  | proceed f plan => exact keeps_proceed hosts hway plan hown
  | expire f => exact keeps_afterAttempt hosts none hown

/-! ### Runs -/

/-- A flight that is launched is one more than there are. -/
theorem keeps_launch (hs : s.Orderly) (r : Run) {p : Prepared}
    (hp : p.assignment.jobId ∈ s.jobIds) (hown : own s.flights) : s.Keeps own (s.launch r p) := by
  have hnew : s.Keeps own { s with flights := s.flights + 1 } := by
    refine ⟨Nat.le_refl _, rfl, rfl, .refl _, Nat.le_succ _, List.prefix_rfl, List.prefix_rfl,
      fun _ _ => rfl, fun hs => ?_⟩
    exact ⟨hs.sorted, hs.ahead, fun e he => Nat.lt_succ_of_lt (hs.numbered e he), hs.housed,
      hs.alone, hs.named, hs.distinct, hs.stocked⟩
  have hosts : Hosts { s with flights := s.flights + 1 } (s.newFlight p).1 :=
    ⟨Nat.lt_succ_self _, hp⟩
  have hnone : dueOf { s with flights := s.flights + 1 } s.flights = [] := by
    refine List.filter_eq_nil_iff.2 fun e he => ?_
    have hlt := hs.numbered e he
    simp only [beq_iff_eq]
    omega
  rw [launch]
  dsimp only [newFlight]
  refine hnew.trans ?_
  split
  · exact keeps_beginAttempt hosts hnone hown
  · exact keeps_later (d := .begin (s.newFlight p).1) 0 hosts
      (fun e he => absurd (hnone ▸ he) List.not_mem_nil) (fun _ => hnone) hown

theorem keeps_setRun {r : Run} (hstocked : r.IsStocked) (outcomes : List Outcome)
    (own : Nat → Prop) : s.Keeps own (s.setRun ⟨r, outcomes⟩) := by
  refine keeps_runs ?_ (fun hs t ht => ?_) own
  · rw [jobIds, List.map_map]
    refine List.map_congr_left fun t _ => ?_
    rw [Function.comp_apply]
    split
    · rename_i heq
      exact (eq_of_beq heq).symm
    · rfl
  · obtain ⟨u, hu, rfl⟩ := List.mem_map.1 ht
    split
    · exact hstocked
    · exact hs.stocked u hu

/-- The orchestrator has gone on. -/
theorem keeps_orchestrator {o : Orchestrator} (h : s.orchestrator.Persists o) (own : Nat → Prop) :
    s.Keeps own { s with orchestrator := o } := by
  refine ⟨Nat.le_refl _, rfl, rfl, h, Nat.le_refl _, List.prefix_rfl, List.prefix_rfl,
    fun _ _ => rfl, fun hs => ?_⟩
  refine ⟨hs.sorted, hs.ahead, hs.numbered, hs.housed, hs.alone, fun id hid => ?_, hs.distinct,
    hs.stocked⟩
  obtain ⟨k, hk, rfl⟩ := hs.named id hid
  exact ⟨k, Nat.le_trans hk h.jobs, rfl⟩

/-- A run that advances concerns only the flights that it launches. -/
theorem keeps_settle {r : Run} (hs : s.Orderly) (hr : r.jobId ∈ s.jobIds) (hstocked : r.IsStocked)
    (outcomes : List Outcome) : s.Keeps (s.flights ≤ ·) (s.settle r outcomes) := by
  have hleads := r.leads_advance s.orchestrator s.now
  rw [settle]
  generalize r.advance s.orchestrator s.now = result at hleads
  obtain ⟨o, r', launched⟩ := result
  dsimp only at hleads ⊢
  have hset : s.Keeps (s.flights ≤ ·) (setRun { s with orchestrator := o } ⟨r', outcomes⟩) :=
    (keeps_orchestrator hleads.orchestrator _).trans
      (keeps_setRun (hleads.stocked hstocked) outcomes _)
  -- One flight after the other is launched.
  have hfold : ∀ (ps : List Prepared) (t : Simulation), s.Keeps (s.flights ≤ ·) t →
      (∀ p ∈ ps, p.assignment.jobId = r.jobId) →
      s.Keeps (s.flights ≤ ·) (ps.foldl (fun s p => s.launch r' p) t) := by
    intro ps
    induction ps with
    | nil => exact fun t ht _ => ht
    | cons p ps ih =>
      intro t ht hps
      have hp : p.assignment.jobId ∈ t.jobIds := by
        rw [hps p List.mem_cons_self]
        exact ht.jobIds.subset hr
      exact ih _ (ht.trans (keeps_launch (ht.orderly hs) r' hp ht.flights))
        fun q hq => hps q (List.mem_cons_of_mem p hq)
  exact hfold launched _ hset (hleads.launched hstocked)

/-- The run of a job is one of the runs. -/
theorem run?_eq_some {id : String} {t : Traveller} (h : s.run? id = some t) :
    t ∈ s.runs ∧ t.run.jobId = id := by
  have hbeq := List.find?_some h
  exact ⟨List.mem_of_find?_eq_some h, eq_of_beq hbeq⟩

/-- Taking up outcomes concerns only the flights that are launched. -/
theorem keeps_takeUp (fuel : Nat) (jobId : String) (hs : s.Orderly) {base : Nat}
    (hbase : base ≤ s.flights) : s.Keeps (base ≤ ·) (takeUp fuel jobId s) := by
  induction fuel generalizing s with
  | zero => exact .refl _ s
  | succ fuel ih =>
    rw [takeUp]
    split
    · exact .refl _ s
    · exact .refl _ s
    · rename_i r outcome outcomes hrun
      obtain ⟨hmem, hid⟩ := run?_eq_some hrun
      have hleads := r.leads_deliver s.orchestrator outcome s.now
      dsimp only
      generalize r.deliver s.orchestrator outcome s.now = result at hleads
      obtain ⟨o, r'⟩ := result
      dsimp only at hleads ⊢
      have hdeliver : s.Keeps (base ≤ ·) { s with orchestrator := o } :=
        keeps_orchestrator hleads.orchestrator _
      have hr' : r'.jobId ∈ s.jobIds := by
        rw [hleads.jobId]
        exact List.mem_map.2 ⟨_, hmem, rfl⟩
      have hsettle := keeps_settle (hdeliver.orderly hs) hr' (hleads.stocked (hs.stocked _ hmem))
        outcomes
      have hgo := hdeliver.trans (hsettle.mono fun _ => Nat.le_trans hbase)
      exact hgo.trans (ih (hgo.orderly hs) (Nat.le_trans hbase hgo.flights))

theorem keeps_takeUpAll (hs : s.Orderly) : s.Keeps (s.flights ≤ ·) s.takeUpAll := by
  have hfold : ∀ (ts : List Traveller) (t : Simulation), s.Keeps (s.flights ≤ ·) t →
      s.Keeps (s.flights ≤ ·)
        (ts.foldl (fun s t => takeUp (t.outcomes.length + 1) t.run.jobId s) t) := by
    intro ts
    induction ts with
    | nil => exact fun t ht => ht
    | cons x ts ih =>
      exact fun t ht => ih _ (ht.trans (keeps_takeUp _ _ (ht.orderly hs) ht.flights))
  exact hfold s.runs s (.refl _ s)

end Simulation
end Runbook
