/-
# Every simulation comes to rest

Left to itself a simulation does one thing after the other and then rests
(`Simulation.exists_rest`), whatever its workers do.  Each thing that is done comes from
one on the agenda and puts down only what is less (`Due.Follows`): a part of a plan, the
attempt itself in the place of its beginning, or the beginning of another attempt, of
which one less is left.  So an agenda is like a hydra that grows finitely many lesser
heads for one that is cut off.  Only a run that takes up an outcome can launch a flight,
and every time it does it has less left to do itself.
-/

import Mathlib.Logic.Hydra
import Runbook.Proofs.Simulation.History

namespace Runbook

open Relation (TransGen ReflTransGen CutExpand)

/-! ### What comes of one thing -/

/-- The one comes of the other: it is what a plan goes on with, belongs to an attempt that
begins, or is the beginning of another attempt after it. -/
inductive Due.Follows : Due → Due → Prop where
  | go (f : Flight) {next plan : Plan} (part : TransGen Plan.Part next plan) :
      Follows (.proceed f next) (.proceed f plan)
  | plan (f : Flight) (plan : Plan) : Follows (.proceed f plan) (.begin f)
  | limit (f : Flight) : Follows (.expire f) (.begin f)
  | again {d : Due} (left : d.flight.left ≠ 0) :
      Follows (.begin { d.flight with left := d.flight.left - 1 }) d

/-- The attempts that may follow, whether this one has yet to begin, and what is left of its
plan. -/
def Due.rank : Due → Nat × Nat × Plan
  | .begin f => (f.left, 1, .hang)
  | .expire f => (f.left, 0, .hang)
  | .proceed f plan => (f.left, 0, plan)

/-- Nothing comes of a thing for ever. -/
theorem Due.wellFounded_follows : WellFounded Due.Follows := by
  have hrank : WellFounded
      (Prod.Lex (· < ·) (Prod.Lex (· < ·) (TransGen Plan.Part)) : Nat × Nat × Plan → _ → Prop) :=
    Nat.lt_wfRel.wf.prod_lex (Nat.lt_wfRel.wf.prod_lex Plan.wellFounded_part.transGen)
  refine Subrelation.wf (fun {d' d} h => ?_) (InvImage.wf Due.rank hrank)
  cases h with
  | go f part => exact .right _ (.right _ part)
  | plan f plan => exact .right _ (.left _ _ Nat.zero_lt_one)
  | limit f => exact .right _ (.left _ _ Nat.zero_lt_one)
  | again left =>
    cases d with
    | begin f => exact .left _ _ (Nat.sub_one_lt left)
    | proceed f plan => exact .left _ _ (Nat.sub_one_lt left)
    | expire f => exact .left _ _ (Nat.sub_one_lt left)

/-- What is due has become less, by any number of cuts. -/
abbrev Due.Below : Multiset Due → Multiset Due → Prop := TransGen (CutExpand Due.Follows)

theorem Due.wellFounded_below : WellFounded Due.Below :=
  Due.wellFounded_follows.cutExpand.transGen

/-- One thing is cut off, others may go with it, and lesser ones grow back. -/
theorem Due.below_cut {kept all new : Multiset Due} {d : Due} (hkept : kept ≤ all)
    (hnew : ∀ e ∈ new, Due.Follows e d) : Due.Below (new + kept) (d ::ₘ all) := by
  obtain ⟨others, rfl⟩ := Multiset.le_iff_exists_add.1 hkept
  have hcut : CutExpand Due.Follows (new + (kept + others)) (d ::ₘ (kept + others)) :=
    (Relation.cutExpand_add_right _).2 (Relation.cutExpand_singleton hnew)
  refine .tail' ?_ hcut
  clear hcut hkept
  induction others using Multiset.induction_on with
  | empty => simp only [add_zero]; exact .refl
  | cons e others ih =>
    refine ih.tail ?_
    rw [Multiset.add_cons, Multiset.add_cons]
    have hcut := (Relation.cutExpand_add_right (new + (kept + others))).2
      (Relation.cutExpand_zero (r := Due.Follows) (x := e))
    rwa [zero_add, Multiset.singleton_add] at hcut

namespace Simulation

/-- All that is due. -/
def dues (s : Simulation) : Multiset Due := (s.agenda.map (·.2) : List Due)

variable {s t u : Simulation} {f : Flight} {d : Due}

theorem dues_later (s : Simulation) (ms : Nat) (d : Due) :
    (s.later ms d).dues = d ::ₘ s.dues :=
  Multiset.coe_eq_coe.2 ((perm_schedule (s.clock + ms) d s.agenda).map (·.2))

theorem dues_cancel_le (s : Simulation) (n : Nat) : (s.cancel n).dues ≤ s.dues :=
  Multiset.coe_le.2 (List.filter_sublist.map _).subperm

theorem Calm.dues {asked : Nat} (h : Calm asked s t) : t.dues = s.dues := by
  rw [Simulation.dues, Simulation.dues, h.agenda]

/-- After an attempt, what was due of it is replaced by the next attempt at most. -/
theorem below_afterAttempt (s : Simulation) (e : Option AttemptEnd) (hd : d.flight = f) :
    Due.Below (s.afterAttempt f e).dues (d ::ₘ s.dues) := by
  subst hd
  have hle := dues_cancel_le s d.flight.number
  rw [afterAttempt]
  dsimp only
  split
  · have hcut : Due.Below (0 + (s.cancel d.flight.number).dues) (d ::ₘ s.dues) :=
      Due.below_cut hle fun e he => absurd he (Multiset.notMem_zero e)
    rwa [zero_add] at hcut
  · rename_i hafter
    have hleft : d.flight.left ≠ 0 := fun h0 => by
      rw [Prepared.after, h0] at hafter
      cases hafter
    have hcut := Due.below_cut (d := d) hle fun e he =>
      Multiset.mem_singleton.1 he ▸ Due.Follows.again hleft
    rw [Multiset.singleton_add] at hcut
    split
    · exact hcut
    · rw [dues_later]
      exact hcut

theorem below_proceed (s : Simulation) (f : Flight) (plan : Plan) :
    Due.Below (s.proceed f plan).dues (.proceed f plan ::ₘ s.dues) := by
  rw [proceed]
  cases hcarry : carry f plan s with
  | mk e t =>
    have hcarried := carried f plan s
    rw [hcarry] at hcarried
    cases hcarried with
    | ended e calm _ =>
      rw [← calm.dues]
      exact below_afterAttempt t _ rfl
    | hangs calm _ =>
      dsimp only
      rw [calm.dues, ← zero_add s.dues]
      exact Due.below_cut (by simp) fun e he => absurd he (Multiset.notMem_zero e)
    | waits ms next calm part _ =>
      dsimp only
      rw [dues_later, calm.dues, ← Multiset.singleton_add]
      exact Due.below_cut le_rfl fun e he =>
        Multiset.mem_singleton.1 he ▸ .go f part

theorem below_beginAttempt (s : Simulation) (f : Flight) :
    Due.Below (s.beginAttempt f).dues (.begin f ::ₘ s.dues) := by
  have hnote : (s.note f).dues = s.dues := rfl
  rw [beginAttempt_eq, ← hnote]
  generalize f.prepared.worker.attempt _ _ = plan
  refine (below_proceed _ f plan).trans ?_
  rw [limit]
  split
  · rw [← Multiset.singleton_add]
    exact Due.below_cut le_rfl fun e he => Multiset.mem_singleton.1 he ▸ .plan f plan
  · rw [dues_later, ← Multiset.singleton_add, ← Multiset.singleton_add, ← add_assoc]
    refine Due.below_cut le_rfl fun e he => ?_
    rcases Multiset.mem_add.1 he with he | he
    · exact Multiset.mem_singleton.1 he ▸ .plan f plan
    · exact Multiset.mem_singleton.1 he ▸ .limit f

/-- **Doing what is due makes less of it.** -/
theorem below_perform (s : Simulation) (d : Due) : Due.Below (s.perform d).dues (d ::ₘ s.dues) := by
  cases d with
  | begin f => exact below_beginAttempt s f
  | proceed f plan => exact below_proceed s f plan
  | expire f => exact below_afterAttempt s none rfl

/-! ### Runs -/

/-- What the runs have still to do. -/
def load (s : Simulation) : Nat := ((s.runs.map (·.run)).map (·.weight)).sum

/-- The outcomes that are not taken up yet. -/
def backlog (s : Simulation) : Nat := (s.runs.map (·.outcomes.length)).sum

/-- The runs are where they were; they may have more outcomes to take up. -/
def SameRuns (s t : Simulation) : Prop := t.runs.map (·.run) = s.runs.map (·.run)

theorem SameRuns.load_eq (h : s.SameRuns t) : t.load = s.load := by rw [load, load, h]

theorem SameRuns.trans (h : s.SameRuns t) (h' : t.SameRuns u) : s.SameRuns u :=
  Eq.trans h' h

theorem Calm.sameRuns {asked : Nat} (h : Calm asked s t) : s.SameRuns t := by rw [SameRuns, h.runs]

theorem sameRuns_post (s : Simulation) (jobId : String) (outcome : Outcome) :
    s.SameRuns (s.post jobId outcome) := by
  rw [SameRuns, post]
  simp only [List.map_map]
  refine List.map_congr_left fun t _ => ?_
  rw [Function.comp_apply]
  split <;> rfl

theorem sameRuns_afterAttempt (s : Simulation) (f : Flight) (e : Option AttemptEnd) :
    s.SameRuns (s.afterAttempt f e) := by
  rw [afterAttempt]
  dsimp only
  split
  · exact sameRuns_post (s.cancel f.number) _ _
  · split <;> exact Eq.refl _

theorem sameRuns_proceed (s : Simulation) (f : Flight) (plan : Plan) :
    s.SameRuns (s.proceed f plan) := by
  rw [proceed]
  cases hcarry : carry f plan s with
  | mk e t =>
    have hcarried := carried f plan s
    rw [hcarry] at hcarried
    cases hcarried with
    | ended e calm _ => exact calm.sameRuns.trans (sameRuns_afterAttempt ..)
    | hangs calm _ => exact calm.sameRuns
    | waits ms next calm _ _ => exact calm.sameRuns

theorem sameRuns_beginAttempt (s : Simulation) (f : Flight) : s.SameRuns (s.beginAttempt f) := by
  have hlimit : s.SameRuns ((s.note f).limit f) := by
    rw [limit]
    split <;> exact Eq.refl _
  exact hlimit.trans (sameRuns_proceed ..)

theorem sameRuns_perform (s : Simulation) (d : Due) : s.SameRuns (s.perform d) := by
  cases d with
  | begin f => exact sameRuns_beginAttempt s f
  | proceed f plan => exact sameRuns_proceed s f plan
  | expire f => exact sameRuns_afterAttempt s f none

theorem sameRuns_launch (s : Simulation) (r : Run) (p : Prepared) : s.SameRuns (s.launch r p) := by
  rw [launch]
  dsimp only [newFlight]
  split
  · exact sameRuns_beginAttempt { s with flights := s.flights + 1 } _
  · exact Eq.refl _

/-- Where the run of a job stands among all runs. -/
theorem runs_setRun (hs : s.Orderly) {x y : Traveller} (hx : s.run? y.run.jobId = some x) :
    ∃ pre post, s.runs = pre ++ x :: post ∧ (s.setRun y).runs = pre ++ y :: post := by
  obtain ⟨hmem, hid⟩ := run?_eq_some hx
  obtain ⟨pre, post, hruns⟩ := List.append_of_mem hmem
  have hdistinct := hs.distinct
  rw [jobIds, hruns, List.map_append, List.map_cons] at hdistinct
  obtain ⟨hpre, hpost⟩ : (∀ z ∈ pre, z.run.jobId ≠ x.run.jobId) ∧
      ∀ z ∈ post, z.run.jobId ≠ x.run.jobId := by
    simp only [List.nodup_append, List.nodup_cons, List.mem_map, List.mem_cons] at hdistinct
    obtain ⟨-, ⟨hpost, -⟩, hpre⟩ := hdistinct
    exact ⟨fun z hz => hpre _ ⟨z, hz, rfl⟩ _ (Or.inl rfl), fun z hz he => hpost ⟨z, hz, he⟩⟩
  have hsame : ∀ zs : List Traveller, (∀ z ∈ zs, z.run.jobId ≠ x.run.jobId) →
      zs.map (fun z => if z.run.jobId == y.run.jobId then y else z) = zs := fun zs hzs => by
    refine (List.map_congr_left fun z hz => ?_).trans (List.map_id zs)
    rw [if_neg (by rw [beq_iff_eq, ← hid]; exact hzs z hz), id]
  refine ⟨pre, post, hruns, ?_⟩
  rw [setRun, hruns]
  simp only [List.map_append, List.map_cons, hsame pre hpre, hsame post hpost, hid, beq_self_eq_true,
    if_true]

/-- There is less left to do for the runs, or the same with fewer outcomes to take up and
the agenda as it was. -/
def Lighter (t s : Simulation) : Prop :=
  t.load < s.load ∨ t.load = s.load ∧ t.agenda = s.agenda ∧ t.backlog < s.backlog

theorem Lighter.trans (h : u.Lighter t) (h' : t.Lighter s) : u.Lighter s := by
  rcases h with h | ⟨h, ha, hb⟩ <;> rcases h' with h' | ⟨h', ha', hb'⟩
  · exact Or.inl (by omega)
  · exact Or.inl (by omega)
  · exact Or.inl (by omega)
  · exact Or.inr ⟨by omega, ha.trans ha', by omega⟩

theorem sameRuns_launchAll (ps : List Prepared) (r : Run) (s : Simulation) :
    s.SameRuns (ps.foldl (fun s p => s.launch r p) s) := by
  induction ps generalizing s with
  | nil => exact Eq.refl _
  | cons p ps ih => exact (sameRuns_launch s r p).trans (ih _)

/-- A run that advances after it has taken up an outcome makes the simulation lighter. -/
theorem lighter_settle (hs : s.Orderly) {x : Traveller} {r : Run} {outcomes : List Outcome}
    (hx : s.run? r.jobId = some x) (hweight : r.weight ≤ x.run.weight)
    (hfewer : outcomes.length < x.outcomes.length) : (s.settle r outcomes).Lighter s := by
  have hleads := r.leads_advance s.orchestrator s.now
  have hle := Run.weight_steps_le r.weight r s.orchestrator s.now
  have hrests := fun h : r.isAwaiting => r.advance_of_isAwaiting h s.orchestrator s.now
  have hlt := fun h : r.isAwaiting = false => r.weight_advance_lt h s.orchestrator s.now
  rw [← Run.advance] at hle
  rw [settle]
  generalize r.advance s.orchestrator s.now = result at *
  obtain ⟨o, r', launched⟩ := result
  dsimp only at *
  have hs' : Orderly { s with orchestrator := o } :=
    (keeps_orchestrator hleads.orchestrator fun _ => False).orderly hs
  obtain ⟨pre, post, hruns, hset⟩ := runs_setRun hs' (x := x) (y := ⟨r', outcomes⟩)
    (by rw [hleads.jobId]; exact hx)
  have hload : (setRun { s with orchestrator := o } ⟨r', outcomes⟩).load + x.run.weight
      = s.load + r'.weight := by
    rw [load, load, hset, show s.runs = _ from hruns]
    simp only [List.map_append, List.map_cons, List.sum_append, List.sum_cons]
    omega
  have hbacklog : (setRun { s with orchestrator := o } ⟨r', outcomes⟩).backlog
      + x.outcomes.length = s.backlog + outcomes.length := by
    rw [backlog, backlog, hset, show s.runs = _ from hruns]
    simp only [List.map_append, List.map_cons, List.sum_append, List.sum_cons]
    omega
  cases launched with
  | nil =>
    dsimp only [List.foldl_nil]
    rcases Nat.lt_or_ge r'.weight x.run.weight with hless | hsame
    · exact Or.inl (by omega)
    · exact Or.inr ⟨by omega, rfl, by omega⟩
  | cons p ps =>
    -- Only a run that goes on launches anything.
    have hgoes : r.isAwaiting = false := Bool.eq_false_iff.2 fun h => by
      have hnone := hrests h
      simp at hnone
    have hless := hlt hgoes
    have hsame := (sameRuns_launchAll (p :: ps) r'
      (setRun { s with orchestrator := o } ⟨r', outcomes⟩)).load_eq
    exact Or.inl (by omega)

/-- The run of a job takes up its outcomes, if it has any and may take up one. -/
theorem lighter_takeUp (hs : s.Orderly) (fuel : Nat) (jobId : String) :
    takeUp fuel jobId s = s ∧ (fuel = 0 ∨ ∀ x, s.run? jobId = some x → x.outcomes = []) ∨
      (takeUp fuel jobId s).Lighter s := by
  induction fuel generalizing s with
  | zero => exact Or.inl ⟨rfl, Or.inl rfl⟩
  | succ fuel ih =>
    rw [takeUp]
    split
    · rename_i hnone
      exact Or.inl ⟨rfl, Or.inr fun x hx => by rw [hnone] at hx; cases hx⟩
    · rename_i r hsome
      exact Or.inl ⟨rfl, Or.inr fun x hx => by rw [hsome] at hx; cases hx; rfl⟩
    · rename_i r outcome outcomes hrun
      obtain ⟨hmem, hid⟩ := run?_eq_some hrun
      have hleads := r.leads_deliver s.orchestrator outcome s.now
      have hle := r.weight_deliver_le s.orchestrator outcome s.now
      dsimp only
      generalize r.deliver s.orchestrator outcome s.now = result at *
      obtain ⟨o, r'⟩ := result
      dsimp only at *
      have hs' : Orderly { s with orchestrator := o } :=
        (keeps_orchestrator hleads.orchestrator fun _ => False).orderly hs
      have hr' : run? { s with orchestrator := o } r'.jobId = some ⟨r, outcome :: outcomes⟩ := by
        rw [hleads.jobId, hid]
        exact hrun
      have hlighter : (settle { s with orchestrator := o } r' outcomes).Lighter s :=
        lighter_settle hs' hr' hle (Nat.lt_succ_self _)
      have hstocked := hleads.stocked (hs.stocked _ hmem)
      have hin : r'.jobId ∈ jobIds { s with orchestrator := o } := by
        rw [hleads.jobId]
        exact List.mem_map.2 ⟨_, hmem, rfl⟩
      rcases ih ((keeps_settle hs' hin hstocked outcomes).orderly hs') with ⟨hsame, -⟩ | hmore
      · rw [hsame]
        exact Or.inr hlighter
      · exact Or.inr (hmore.trans hlighter)

theorem run?_of_mem (hs : s.Orderly) {x : Traveller} (hx : x ∈ s.runs) :
    s.run? x.run.jobId = some x := by
  have hfind : ∀ xs : List Traveller, (xs.map (·.run.jobId)).Nodup → x ∈ xs →
      xs.find? (fun y => y.run.jobId == x.run.jobId) = some x := by
    intro xs
    induction xs with
    | nil => exact fun _ hx => absurd hx List.not_mem_nil
    | cons y ys ih =>
      intro hdistinct hx
      obtain ⟨hfirst, hrest⟩ := List.nodup_cons.1 hdistinct
      rcases List.mem_cons.1 hx with rfl | hx
      · rw [List.find?_cons_of_pos (by simp)]
      · have hne : y.run.jobId ≠ x.run.jobId := fun he =>
          hfirst (List.mem_map.2 ⟨x, hx, he.symm⟩)
        rw [List.find?_cons_of_neg (by simpa using hne)]
        exact ih hrest hx
  exact hfind s.runs hs.distinct hx

/-- The runs take up their outcomes, if there are any. -/
theorem lighter_takeUpAll (hs : s.Orderly) (hany : ∃ x ∈ s.runs, x.outcomes ≠ []) :
    s.takeUpAll.Lighter s := by
  -- What is lighter once stays so.
  have hstays : ∀ (xs : List Traveller) (t : Simulation), t.Orderly → t.Lighter s →
      (xs.foldl (fun s x => takeUp (x.outcomes.length + 1) x.run.jobId s) t).Lighter s := by
    intro xs
    induction xs with
    | nil => exact fun t _ ht => ht
    | cons x xs ih =>
      intro t ho ht
      refine ih _ ((keeps_takeUp _ _ ho (Nat.zero_le _)).orderly ho) ?_
      rcases lighter_takeUp ho (x.outcomes.length + 1) x.run.jobId with ⟨hsame, -⟩ | hless
      · dsimp only
        rwa [hsame]
      · exact hless.trans ht
  have hfold : ∀ xs : List Traveller, (∀ x ∈ xs, x ∈ s.runs) → (∃ x ∈ xs, x.outcomes ≠ []) →
      (xs.foldl (fun s x => takeUp (x.outcomes.length + 1) x.run.jobId s) s).Lighter s := by
    intro xs
    induction xs with
    | nil => exact fun _ ⟨x, hx, _⟩ => absurd hx List.not_mem_nil
    | cons x xs ih =>
      rintro hruns ⟨y, hy, hne⟩
      rcases lighter_takeUp hs (x.outcomes.length + 1) x.run.jobId with ⟨hsame, hnone⟩ | hless
      · have hempty := hnone.resolve_left (Nat.succ_ne_zero _) x
          (run?_of_mem hs (hruns x List.mem_cons_self))
        rw [List.foldl_cons, hsame]
        refine ih (fun z hz => hruns z (List.mem_cons_of_mem x hz)) ⟨y, ?_, hne⟩
        rcases List.mem_cons.1 hy with rfl | hy
        · exact absurd hempty hne
        · exact hy
      · exact hstays xs _ ((keeps_takeUp _ _ hs (Nat.zero_le _)).orderly hs) hless
  exact hfold s.runs (fun _ hx => hx) hany

/-! ### Rest -/

/-- How long nothing is due. -/
def respite (s : Simulation) : Nat := s.agenda.head?.elim 0 fun e => e.1 - s.clock

/-- What a simulation has still to do: for the runs, on the agenda, and at this instant. -/
def prospect (s : Simulation) : Nat × Multiset Due × Nat × Nat :=
  (s.load, s.dues, s.backlog, s.respite)

/-- Less is left to do. -/
def Less : Nat × Multiset Due × Nat × Nat → Nat × Multiset Due × Nat × Nat → Prop :=
  Prod.Lex (· < ·) (Prod.Lex Due.Below (Prod.Lex (· < ·) (· < ·)))

theorem wellFounded_less : WellFounded Less :=
  Nat.lt_wfRel.wf.prod_lex
    (Due.wellFounded_below.prod_lex (Nat.lt_wfRel.wf.prod_lex Nat.lt_wfRel.wf))

theorem Lighter.less (h : t.Lighter s) : Less t.prospect s.prospect := by
  rcases h with hload | ⟨hload, hagenda, hbacklog⟩
  · exact .left _ _ hload
  · rw [prospect, prospect, hload, dues, dues, hagenda]
    exact .right _ (.right _ (.left _ _ hbacklog))

/-- **Each tick leaves less to do.** -/
theorem less_of_tick (hs : s.Orderly) {horizon : Option Nat} (h : s.tick horizon = some t) :
    Less t.prospect s.prospect := by
  have htakeUp : (s.runs.any fun x => !x.outcomes.isEmpty) = true →
      Less s.takeUpAll.prospect s.prospect := fun hany => by
    obtain ⟨x, hx, hne⟩ := List.any_eq_true.1 hany
    exact (lighter_takeUpAll hs ⟨x, hx, by simpa using hne⟩).less
  rw [tick] at h
  split at h
  · split at h
    · rename_i hany
      cases h
      exact htakeUp hany
    · cases h
  · rename_i time d agenda hagenda
    split at h
    · cases h
      have hbelow := below_perform { s with agenda } d
      have hload := (sameRuns_perform { s with agenda } d).load_eq
      have hdues : d ::ₘ dues { s with agenda } = s.dues := by
        rw [dues, dues, hagenda]
        rfl
      rw [hdues] at hbelow
      rw [prospect, prospect, hload]
      exact .right _ (.left _ _ hbelow)
    · split at h
      · rename_i hany
        cases h
        exact htakeUp hany
      · split at h
        · cases h
          refine .right _ (.right _ (.right _ ?_))
          rw [respite, respite, hagenda]
          simp only [List.head?_cons, Option.elim_some]
          omega
        · cases h

/-- **Every simulation comes to rest**: with enough fuel, it is not the fuel that ends it. -/
theorem exists_rest (hs : s.Orderly) (ended : Simulation → Bool) (horizon : Option Nat) :
    ∃ fuel, ended (runUntil fuel ended horizon s) ∨
      (runUntil fuel ended horizon s).tick horizon = none := by
  generalize hp : s.prospect = p
  induction p using wellFounded_less.induction generalizing s with
  | _ p ih =>
    subst hp
    by_cases hended : ended s = true
    · exact ⟨0, Or.inl hended⟩
    · cases htick : s.tick horizon with
      | none => exact ⟨0, Or.inr htick⟩
      | some t =>
        have ht : t.Orderly := Reaches.orderly (.single ⟨_, next_of_tick hs htick⟩) hs
        obtain ⟨fuel, hrest⟩ := ih _ (less_of_tick hs htick) ht rfl
        refine ⟨fuel + 1, ?_⟩
        rw [runUntil, if_neg hended, htick]
        exact hrest

/-- Where a simulation rests, nothing is due. -/
theorem agenda_of_tick (h : s.tick none = none) : s.agenda = [] := by
  rw [tick] at h
  split at h
  · assumption
  · split at h
    · cases h
    · split at h
      · cases h
      · simp at h

end Simulation
end Runbook
