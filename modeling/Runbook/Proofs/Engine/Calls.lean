/-
# How often workers are called

Behind each effort stands something that the run has started, a task or the final
report, and its calls and the retries left to it are counted together
(`Workshop.Serves`).  So no task is attempted more often than its retries allow, and
the final report once.
-/

import Mathlib.Algebra.Order.BigOperators.Group.List
import Runbook.Proofs.Engine.Closing
import Runbook.Proofs.Engine.Origin
import Runbook.Proofs.Engine.Workshop

namespace Runbook

/-- What is found first is what is taken out. -/
theorem perm_cons_eraseP {α : Type} {p : α → Bool} {l : List α} {a : α} (h : l.find? p = some a) :
    l.Perm (a :: l.eraseP p) := by
  obtain ⟨ha, before, after, rfl, hbefore⟩ := List.find?_eq_some_iff_append.1 h
  have hnot : ∀ b ∈ before, ¬ p b = true := by
    intro b hb hin
    simpa [hin] using hbefore b hb
  rw [List.eraseP_append_right _ hnot, List.eraseP_cons_of_pos ha]
  exact List.perm_middle

/-- Whether the run waits for its final report or has panicked with it. -/
def Stage.hangsOnReport : Stage → Bool
  | .awaitingReport | .panicked _ => true
  | _ => false

theorem Stage.ne_of_not_hangsOnReport {stage : Stage} (h : stage.hangsOnReport = false) :
    stage ≠ .awaitingReport ∧ ∀ message, stage ≠ .panicked message := by
  constructor
  · rintro rfl
    cases h
  · rintro message rfl
    cases h

namespace Run

/-- Nothing is launched: no report is begun or forgotten, and the run neither comes to
wait for one nor to panic. -/
structure Quiet (r r' : Run) : Prop where
  reports : r.stage.reportsBegun ≤ r'.stage.reportsBegun
  awaiting : r'.stage = .awaitingReport → r.stage = .awaitingReport
  panicked : ∀ message, r'.stage = .panicked message → r.stage = .panicked message

theorem Quiet.refl (r : Run) : r.Quiet r := ⟨Nat.le_refl _, fun h => h, fun _ h => h⟩

theorem Quiet.enter {r : Run} {stage : Stage}
    (hle : r.stage.reportsBegun ≤ stage.reportsBegun) (hs : stage.hangsOnReport = false) :
    r.Quiet (r.enter stage) where
  reports := hle
  awaiting hst := absurd hst (Stage.ne_of_not_hangsOnReport hs).1
  panicked message hst := absurd hst ((Stage.ne_of_not_hangsOnReport hs).2 message)

/-- Before the last stages no report is begun. -/
theorem Quiet.of_zero {r : Run} (h : r.stage.reportsBegun = 0) {stage : Stage}
    (hs : stage.hangsOnReport = false) : r.Quiet (r.enter stage) :=
  .enter (h ▸ Nat.zero_le _) hs

/-- The beginning of a round launches nothing. -/
theorem quiet_beginRound (r : Run) (o : Orchestrator) (j : Job) (pending : List Task)
    (h : r.stage.reportsBegun = 0) : r.Quiet (r.beginRound o j pending) := by
  rw [beginRound]
  split
  · exact .of_zero h rfl
  · split
    split
    · exact .of_zero h rfl
    · split <;> exact .of_zero h rfl

/-- **What a step launches**: nothing, the next of the tasks that are ready, or the
final report. -/
theorem launched_step (r : Run) (o : Orchestrator) (now : Instant) :
    (r.step o now).launched = none ∧ r.Quiet (r.step o now).run ∨
      (∃ p ready n pending, r.stage = .starting (p :: ready) n pending ∧
        (r.step o now).launched = some p ∧
        (r.step o now).run.stage = .starting ready (n + 1) pending) ∨
      ∃ worker j, r.stage = .reporting ∧
        (r.step o now).launched = some (o.prepareReport worker j) ∧
        (r.step o now).run.stage = .awaitingReport := by
  rw [step]
  split
  · exact Or.inl ⟨rfl, .refl r⟩
  · split
    · exact Or.inl ⟨rfl, .enter r.stage.reportsBegun_le rfl⟩
    · rename_i j _
      rw [stepOn]
      split
      · rename_i hst
        exact Or.inl ⟨rfl, .of_zero (by rw [hst]; rfl) rfl⟩
      · rename_i pending _ hst
        exact Or.inl ⟨rfl, r.quiet_beginRound o j pending (by rw [hst]; rfl)⟩
      · rename_i hst
        exact Or.inl ⟨rfl, .of_zero (by rw [hst]; rfl) rfl⟩
      · rename_i p ready n pending hst
        exact Or.inr (Or.inl ⟨p, ready, n, pending, hst, rfl, rfl⟩)
      · rename_i hst
        exact Or.inl ⟨rfl, .of_zero (by rw [hst]; rfl) rfl⟩
      · rename_i outcome n pending hst
        refine Or.inl ?_
        rw [recordOutcome]
        split
        · exact ⟨rfl, .of_zero (by rw [hst]; rfl) rfl⟩
        · refine ⟨rfl, ?_⟩
          dsimp only
          split <;> exact .of_zero (by rw [hst]; rfl) rfl
      · rename_i hst
        exact Or.inl ⟨rfl, .of_zero (by rw [hst]; rfl) rfl⟩
      · rename_i hst
        exact Or.inl ⟨rfl, .of_zero (by rw [hst]; rfl) rfl⟩
      · rename_i hst
        split
        · exact Or.inl ⟨rfl, .of_zero (by rw [hst]; rfl) rfl⟩
        · refine Or.inl ⟨rfl, ?_⟩
          dsimp only
          split <;> exact .of_zero (by rw [hst]; rfl) rfl
      · rename_i hst
        split
        · exact Or.inl ⟨rfl, .of_zero (by rw [hst]; rfl) rfl⟩
        · rename_i worker _
          exact Or.inr (Or.inr ⟨worker, j, hst, rfl, rfl⟩)
      · exact Or.inl ⟨rfl, .enter r.stage.reportsBegun_le rfl⟩
      · exact Or.inl ⟨rfl, .refl r⟩
      · exact Or.inl ⟨rfl, .refl r⟩
      · exact Or.inl ⟨rfl, .refl r⟩
      · exact Or.inl ⟨rfl, .refl r⟩

/-- **What a delivery comes to**: no report is forgotten, and a run panics only by the
panic of its final report. -/
theorem quiet_deliver (r : Run) (o : Orchestrator) (p : Prepared) (e : Option AttemptEnd)
    (now : Instant) (takes : r.stage.takesOutcomes) :
    r.stage.reportsBegun ≤ (r.deliver o (p.outcomeOf e) now).2.stage.reportsBegun ∧
      (r.deliver o (p.outcomeOf e) now).2.stage ≠ .awaitingReport ∧
      ∀ message, (r.deliver o (p.outcomeOf e) now).2.stage = .panicked message →
        r.stage = .awaitingReport ∧ ∃ text, e = some (.panic text) := by
  have calm : ∀ {stage : Stage}, r.stage.reportsBegun ≤ stage.reportsBegun →
      stage.hangsOnReport = false →
      r.stage.reportsBegun ≤ stage.reportsBegun ∧ stage ≠ .awaitingReport ∧
        ∀ message, stage = .panicked message →
          r.stage = .awaitingReport ∧ ∃ text, e = some (.panic text) := by
    intro stage hle hs
    obtain ⟨hawait, hpanic⟩ := Stage.ne_of_not_hangsOnReport hs
    exact ⟨hle, hawait, fun message hst => absurd hst (hpanic message)⟩
  rw [Stage.takesOutcomes.eq_def] at takes
  split at takes
  · rename_i n pending hst
    rw [hst] at calm ⊢
    rw [deliver, hst]
    dsimp only
    split
    · exact calm (Nat.zero_le _) rfl
    · split <;> exact calm (Nat.zero_le _) rfl
  · rename_i hst
    rw [hst] at calm ⊢
    rw [deliver, hst]
    dsimp only
    split
    · rename_i task message herr
      refine ⟨Nat.le_refl 1, (fun hst => by cases hst), fun _ _ => ⟨rfl, ?_⟩⟩
      rcases e with _ | v | cause | text
      · cases herr
      · cases herr
      · cases herr
      · exact ⟨text, rfl⟩
    · exact calm (Nat.le_refl 1) rfl
    · split <;> exact calm (Nat.le_refl 1) rfl
  · cases takes

end Run

namespace Effort

/-- What an effort is about. -/
def kind (a : Effort) : Bool × Prepared := (a.report, a.prepared)

/-- What comes of some efforts is about the same things. -/
theorem map_kind_of_leads {as bs : List Effort} (h : List.Forall₂ Leads as bs) :
    bs.map kind = as.map kind := by
  induction h with
  | nil => rfl
  | cons hab _ ih => rw [List.map_cons, List.map_cons, ih, kind, hab.report, hab.prepared, kind]

theorem counted_of_leads {as bs : List Effort} (h : List.Forall₂ Leads as bs)
    (ha : ∀ a ∈ as, a.Counted) : ∀ b ∈ bs, b.Counted := by
  induction h with
  | nil => exact ha
  | cons hab _ ih =>
    intro b hb
    rcases List.mem_cons.1 hb with rfl | hb
    · exact hab.counted (ha _ List.mem_cons_self)
    · exact ih (fun a hin => ha a (List.mem_cons_of_mem _ hin)) b hb

/-- The things that some efforts of one sort are about. -/
theorem map_prepared_filter (as : List Effort) (report : Bool) :
    (as.filter fun a => a.report == report).map (·.prepared)
      = ((as.map kind).filter fun k => k.1 == report).map (·.2) := by
  rw [List.filter_map, List.map_map]
  rfl

end Effort

namespace Workshop

variable {id : String} {env : Orchestrator} {s : Workshop} {c : Course}

/-- One effort goes on and the others stay as they are. -/
theorem leads_alter {g : Effort → Effort} (hg : ∀ a : Effort, a.Leads (g a)) (task : String)
    (as : List Effort) : List.Forall₂ Effort.Leads as (alter task g as) := by
  induction as with
  | nil => exact .nil
  | cons a as ih =>
    rw [alter]
    split
    · exact .cons (hg a) (List.forall₂_same.2 fun b _ => .refl b)
    · exact .cons (.refl a) ih

/-- What is taken up is the same effort as before. -/
theorem perm_all_take {task : String} {a : Effort}
    (ha : s.efforts.find? (fun b => b.name == task) = some a) :
    (s.done ++ [a] ++ s.efforts.eraseP fun b => b.name == task).Perm s.all := by
  rw [List.append_assoc]
  exact (perm_cons_eraseP ha).symm.append_left s.done

/-- **Behind each effort stands what the run has started.**  The efforts are about what
is in flight; with those that were taken up they are about all tasks that were started
and at most one final report; each has its calls counted; and a run panics only by the
panic of its final report. -/
structure Serves (env : Orchestrator) (s : Workshop) (c : Course) : Prop where
  flight : s.efforts.map (·.prepared) = c.inFlight
  tasks : (s.tasks.map (·.prepared)).Perm (c.started.map (·.2))
  reports : s.reports.length ≤ c.run.stage.reportsBegun
  report : ∀ a ∈ s.reports, ∃ worker j, a.prepared = env.prepareReport worker j
  awaited : c.run.stage = .awaitingReport → ∀ a ∈ s.efforts, a.report
  counted : ∀ a ∈ s.all, a.Counted
  panicked : ∀ message, c.run.stage = .panicked message →
    ∃ a ∈ s.done, a.report ∧ ∃ text, a.standing = .ended (some (.panic text))

/-- The efforts of one sort, with one more. -/
theorem allOf_concat (w : World) (report : Bool) (a : Effort) :
    allOf report { s with world := w, efforts := s.efforts ++ [a] }
      = s.allOf report ++ if a.report == report then [a] else [] := by
  have hall : all { s with world := w, efforts := s.efforts ++ [a] } = s.all ++ [a] :=
    (List.append_assoc s.done s.efforts [a]).symm
  rw [allOf, hall, List.filter_append, allOf, List.filter_singleton]
  cases a.report == report <;> rfl

namespace Serves

/-- A run that has just been started has nothing in flight. -/
theorem starts (he : s.efforts = []) (hd : s.done = []) (w : Workflow) (jobId : String)
    (pending : List Task) :
    s.Serves env { workflow := w, run := ⟨jobId, .round pending⟩ } := by
  have hall : s.all = [] := by rw [all, he, hd]; rfl
  have hnone : ∀ report, s.allOf report = [] := fun report => by rw [allOf, hall]; rfl
  refine ⟨by rw [he]; rfl, ?_, ?_, fun a ha => ?_, nofun, fun a ha => ?_, nofun⟩
  · rw [Workshop.tasks, hnone]
    exact .nil
  · rw [Workshop.reports, hnone]
    exact Nat.le_refl 0
  · rw [Workshop.reports, hnone] at ha
    exact absurd ha List.not_mem_nil
  · rw [hall] at ha
    exact absurd ha List.not_mem_nil

/-- Attempts go on. -/
theorem goes (h : s.Serves env c) {w : World} {as : List Effort}
    (hl : List.Forall₂ Effort.Leads s.efforts as) :
    Serves env { s with world := w, efforts := as } c := by
  have hall : List.Forall₂ Effort.Leads s.all (s.done ++ as) :=
    List.rel_append (List.forall₂_same.2 fun b _ => .refl b) hl
  have hkind := Effort.map_kind_of_leads hl
  have hkinds : (all { s with world := w, efforts := as }).map Effort.kind = s.all.map Effort.kind :=
    Effort.map_kind_of_leads hall
  have hsame : ∀ report, (allOf report { s with world := w, efforts := as }).map (·.prepared)
      = (s.allOf report).map (·.prepared) := fun report => by
    rw [allOf, allOf, Effort.map_prepared_filter, Effort.map_prepared_filter, hkinds]
  refine ⟨?_, ?_, ?_, fun a ha => ?_, fun hst a ha => ?_, Effort.counted_of_leads hall h.counted,
    h.panicked⟩
  · have hprepared := congrArg (List.map Prod.snd) hkind
    rw [List.map_map, List.map_map] at hprepared
    exact hprepared.trans h.flight
  · rw [Workshop.tasks, hsame]
    exact h.tasks
  · rw [Workshop.reports, ← List.length_map (·.prepared), hsame, List.length_map]
    exact h.reports
  · have hmem : a.prepared ∈ (s.allOf true).map (·.prepared) := by
      rw [← hsame]
      exact List.mem_map_of_mem ha
    obtain ⟨b, hb, hname⟩ := List.mem_map.1 hmem
    rw [← hname]
    exact h.report b hb
  · have hmem : a.kind ∈ s.efforts.map Effort.kind := by
      rw [← hkind]
      exact List.mem_map_of_mem ha
    obtain ⟨b, hb, hname⟩ := List.mem_map.1 hmem
    rw [show a.report = b.report from (congrArg Prod.fst hname).symm]
    exact h.awaited hst b hb

/-- Nothing is launched. -/
theorem quiet (h : s.Serves env c) {w : World} {c' : Course} (hr : c.run.Quiet c'.run)
    (hf : c'.inFlight = c.inFlight) (hs : c'.started = c.started) :
    Serves env { s with world := w } c' := by
  refine ⟨?_, ?_, Nat.le_trans h.reports hr.reports, h.report, fun hst => h.awaited (hr.awaiting hst),
    h.counted, fun message hst => h.panicked message (hr.panicked message hst)⟩
  · rw [hf]
    exact h.flight
  · rw [hs]
    exact h.tasks

/-- A task is launched. -/
theorem launches (h : s.Serves env c) {w : World} {c' : Course} {p : Prepared}
    (hf : c'.inFlight = c.inFlight ++ [p])
    (hs : c'.started.map (·.2) = c.started.map (·.2) ++ [p])
    (hr : c.run.stage.reportsBegun ≤ c'.run.stage.reportsBegun)
    (ha : c'.run.stage ≠ .awaitingReport) (hp : ∀ message, c'.run.stage ≠ .panicked message) :
    Serves env { s with world := w, efforts := s.efforts ++ [.new false p] } c' := by
  refine ⟨?_, ?_, ?_, ?_, fun hst => absurd hst ha, fun a hin => ?_,
    fun message hst => absurd hst (hp message)⟩
  · rw [hf, List.map_append, h.flight]
    rfl
  · rw [Workshop.tasks, allOf_concat, hs, List.map_append]
    exact h.tasks.append_right [p]
  · rw [Workshop.reports, allOf_concat]
    show (s.allOf true ++ []).length ≤ _
    rw [List.append_nil]
    exact Nat.le_trans h.reports hr
  · rw [Workshop.reports, allOf_concat]
    show ∀ a ∈ s.allOf true ++ [], _
    rw [List.append_nil]
    exact h.report
  · rcases List.mem_append.1 hin with hin | hin
    · exact h.counted a (List.mem_append_left _ hin)
    · rcases List.mem_append.1 hin with hin | hin
      · exact h.counted a (List.mem_append_right _ hin)
      · rw [List.mem_singleton.1 hin]
        exact Nat.zero_add _

/-- The final report is launched, and nothing else is in flight. -/
theorem reports_launched (h : s.Serves env c) {w : World} {c' : Course} {worker : Worker} {j : Job}
    (landed : c.inFlight = []) (hf : c'.inFlight = c.inFlight ++ [env.prepareReport worker j])
    (hs : c'.started = c.started) (hr : c.run.stage.reportsBegun = 0)
    (hst : c'.run.stage = .awaitingReport) :
    Serves env
      { s with world := w, efforts := s.efforts ++ [.new true (env.prepareReport worker j)] }
      c' := by
  have hnone : s.reports = [] :=
    List.eq_nil_of_length_eq_zero (Nat.le_zero.1 (hr ▸ h.reports))
  have hefforts : s.efforts = [] := List.map_eq_nil_iff.1 (h.flight.trans landed)
  have hone : Workshop.reports
      { s with world := w, efforts := s.efforts ++ [.new true (env.prepareReport worker j)] }
      = [.new true (env.prepareReport worker j)] := by
    rw [Workshop.reports, allOf_concat]
    exact congrArg (· ++ _) hnone
  refine ⟨?_, ?_, ?_, fun a hin => ?_, fun _ a hin => ?_, fun a hin => ?_,
    fun message hp => by rw [hst] at hp; cases hp⟩
  · rw [hf, List.map_append, h.flight]
    rfl
  · rw [Workshop.tasks, allOf_concat, hs]
    show ((s.allOf false ++ []).map _).Perm _
    rw [List.append_nil]
    exact h.tasks
  · rw [hone, hst]
    exact Nat.le_refl 1
  · rw [hone] at hin
    rw [List.mem_singleton.1 hin]
    exact ⟨worker, j, rfl⟩
  · have hin : a ∈ s.efforts ++ _ := hin
    rw [hefforts] at hin
    rw [List.mem_singleton.1 hin]
    rfl
  · rcases List.mem_append.1 hin with hin | hin
    · exact h.counted a (List.mem_append_left _ hin)
    · have hin : a ∈ s.efforts ++ _ := hin
      rw [hefforts] at hin
      rw [List.mem_singleton.1 hin]
      exact Nat.zero_add _

/-- What an effort came to is taken up. -/
theorem takes (h : s.Serves env c) {c' : Course} {w : World} {task : String} {a : Effort}
    {e : Option AttemptEnd} (ha : s.efforts.find? (fun b => b.name == task) = some a)
    (he : a.standing = .ended e)
    (hf : c'.inFlight = c.inFlight.eraseP fun q => q.name == task)
    (hs : c'.started = c.started) (hr : c.run.stage.reportsBegun ≤ c'.run.stage.reportsBegun)
    (hne : c'.run.stage ≠ .awaitingReport)
    (hp : ∀ message, c'.run.stage = .panicked message →
      c.run.stage = .awaitingReport ∧ ∃ text, e = some (.panic text)) :
    Serves env
      { world := w
        efforts := s.efforts.eraseP fun b => b.name == task
        done := s.done ++ [a] } c' := by
  have hmem := List.mem_of_find?_eq_some ha
  have hall := perm_all_take ha
  have hof : ∀ report, (allOf report ⟨w, s.efforts.eraseP fun b => b.name == task, s.done ++ [a]⟩
      ).Perm (s.allOf report) := fun report => hall.filter _
  refine ⟨?_, ((hof false).map _).trans (hs ▸ h.tasks), ?_, fun b hb => ?_,
    fun hst => absurd hst hne, fun b hb => h.counted b (hall.mem_iff.1 hb), fun message hst => ?_⟩
  · rw [hf, ← h.flight, List.eraseP_map]
    rfl
  · rw [Workshop.reports, (hof true).length_eq]
    exact Nat.le_trans h.reports hr
  · exact h.report b ((hof true).mem_iff.1 hb)
  · obtain ⟨hwas, text, rfl⟩ := hp message hst
    exact ⟨a, List.mem_append_right _ List.mem_cons_self, h.awaited hwas a hmem, text, he⟩

/-- **A step of the run is served**: what it launches becomes an effort. -/
theorem steps (h : s.Serves env c) (hc : s.course? id = some c)
    (hs : s.world.orchestrator.settings = env.settings)
    (landed : c.run.stage = .reporting → c.inFlight = []) (now : Instant) :
    Serves env (s.act id (.move (.step id now)))
      (c.follow (c.run.step s.world.orchestrator now)) := by
  have hc : s.world.courses.get? id = some c := hc
  rw [act_step, launches_step hc]
  rcases c.run.launched_step s.world.orchestrator now with ⟨hnone, hquiet⟩ |
    ⟨p, ready, n, pending, hst, hsome, hnext⟩ | ⟨worker, j, hst, hsome, hnext⟩
  · rw [hnone, Course.follow, hnone]
    show Serves env { s with world := _, efforts := s.efforts ++ [] } _
    rw [List.append_nil]
    exact h.quiet hquiet rfl rfl
  · rw [hsome, Course.follow, hsome, hst]
    refine h.launches rfl List.map_append ?_ ?_ fun message => ?_
    · rw [hst]
      exact Nat.zero_le _
    · rw [hnext]
      exact fun hst => by cases hst
    · rw [hnext]
      exact fun hst => by cases hst
  · have hsame : s.world.orchestrator.prepareReport worker j = env.prepareReport worker j :=
      Orchestrator.prepareReport_congr (congrArg EngineSettings.withoutReport hs) worker j
    rw [hsome, Course.follow, hsome, hst, hsame]
    exact h.reports_launched (landed hst) rfl rfl (by rw [hst]; rfl) hnext

/-- **A delivery to the run is served**: what is over is taken up. -/
theorem delivers (h : s.Serves env c) {w : World} {task : String} {a : Effort} {p : Prepared}
    {e : Option AttemptEnd} (hp : c.awaited? task = some p)
    (ha : s.efforts.find? (fun b => b.name == task) = some a) (he : a.standing = .ended e)
    (now : Instant) :
    Serves env
      { world := w
        efforts := s.efforts.eraseP fun b => b.name == task
        done := s.done ++ [a] }
      (c.receive p e (c.run.deliver s.world.orchestrator (p.outcomeOf e) now).2) := by
  rw [Course.awaited?] at hp
  split at hp
  · rename_i takes
    have hname : (p.name == task) = true := List.find?_some (p := fun q : Prepared => q.name == task) hp
    obtain ⟨hreports, hne, hpanic⟩ :=
      c.run.quiet_deliver s.world.orchestrator p e now takes
    exact h.takes ha he (by rw [← eq_of_beq hname]; rfl) rfl hreports hne hpanic
  · cases hp

end Serves

/-! ### Counting the calls -/

/-- What is made ready from different tasks may be attempted as often as the tasks may. -/
theorem sum_retries_le {ps : List Prepared} {ts : List Task} (hn : (ps.map (·.name)).Nodup)
    (h : ∀ p ∈ ps, ∃ t ∈ ts, p.name = t.name ∧ p.retries = t.retries) :
    (ps.map fun p => p.retries + 1).sum ≤ (ts.map fun t => t.retries + 1).sum := by
  have hnodup : (ps.map fun p => (p.name, p.retries)).Nodup :=
    List.Nodup.of_map Prod.fst (by rw [List.map_map]; exact hn)
  have hsub : (ps.map fun p => (p.name, p.retries)) ⊆ ts.map fun t => (t.name, t.retries) := by
    intro k hk
    obtain ⟨p, hp, rfl⟩ := List.mem_map.1 hk
    obtain ⟨t, ht, hname, hretries⟩ := h p hp
    exact List.mem_map.2 ⟨t, ht, by rw [hname, hretries]⟩
  obtain ⟨l, hperm, hl⟩ := List.subperm_of_subset hnodup hsub
  have hsum := (hperm.map fun k : String × Nat => k.2 + 1).sum_eq
  have hle := (hl.map fun k : String × Nat => k.2 + 1).sum_le_sum fun _ _ => Nat.zero_le _
  rw [hsum, List.map_map, List.map_map] at hle
  exact hle

/-- Efforts have as many calls as their retries allow. -/
theorem calls_le {as : List Effort} (h : ∀ a ∈ as, a.Counted) :
    calls as ≤ ((as.map (·.prepared)).map fun p => p.retries + 1).sum := by
  rw [List.map_map]
  exact List.sum_le_sum fun a ha => (h a ha).calls_le

/-- The efforts at a task. -/
def attemptsAt (s : Workshop) (task : String) : List Effort :=
  s.tasks.filter fun a => a.name == task

/-- **No worker is called too often.**  Each task is attempted at most once more than
its retries, the final report at most once, and all of them together as often as that
allows. -/
structure Bounded (s : Workshop) (w : Workflow) : Prop where
  task : ∀ t ∈ w.tasks, calls (s.attemptsAt t.name) ≤ t.retries + 1
  report : calls s.reports ≤ 1
  all : calls s.all ≤ (w.tasks.map fun t => t.retries + 1).sum + 1

/-- The calls are those of tasks and those of the final report. -/
theorem calls_all (s : Workshop) : calls s.all = calls s.tasks + calls s.reports := by
  have hflags : ∀ report, s.allOf report = s.all.filter fun a => a.report == report := fun _ => rfl
  have hperm := List.filter_append_perm (fun a : Effort => a.report == false) s.all
  have hnot : (fun a : Effort => !(a.report == false)) = fun a => a.report == true := by
    funext a
    cases a.report <;> rfl
  rw [hnot, ← hflags, ← hflags] at hperm
  rw [calls, ← (hperm.map (·.calls)).sum_eq, List.map_append, List.sum_append]
  rfl

/-- **It holds of efforts behind which stands what the run has started.** -/
theorem Serves.bounded (h : s.Serves env c) {j : Job} {told : List JobEvent}
    (hs : Scene.Sound ⟨j, c, told⟩) (hd : Scene.Descended env ⟨j, c, told⟩) :
    s.Bounded c.workflow := by
  have hnames : ((s.tasks.map (·.prepared)).map (·.name)).Nodup := by
    refine (h.tasks.map (·.name)).nodup_iff.2 ?_
    have hbegun := (hs.wellFormed.nodup_schedule c.rounds).sublist (hs.inOrder.sublist.map _)
    rw [Scene.started, List.map_map] at hbegun
    rw [List.map_map]
    exact hbegun
  have hmade : ∀ p ∈ s.tasks.map (·.prepared),
      ∃ t ∈ c.workflow.tasks, p.name = t.name ∧ p.retries = t.retries := fun p hp => by
    obtain ⟨x, hx, rfl⟩ := List.mem_map.1 (h.tasks.mem_iff.1 hp)
    obtain ⟨t, ht, hfrom⟩ := hd.started x hx
    exact ⟨t, ht, hfrom.name, hfrom.retries⟩
  have hcounted : ∀ report, ∀ a ∈ s.allOf report, a.Counted :=
    fun report a ha => h.counted a (List.mem_filter.1 ha).1
  have hreport : calls s.reports ≤ 1 := by
    refine (calls_le (hcounted true)).trans ?_
    have hone : ∀ p ∈ s.reports.map (·.prepared), p.retries = 0 := fun p hp => by
      obtain ⟨a, ha, rfl⟩ := List.mem_map.1 hp
      obtain ⟨worker, k, hprepared⟩ := h.report a ha
      rw [hprepared]
      rfl
    have hlen : (s.reports.map (·.prepared)).length ≤ 1 := by
      rw [List.length_map]
      exact Nat.le_trans h.reports (Stage.reportsBegun_le _)
    refine (List.sum_le_card_nsmul _ 1 fun k hk => ?_).trans ?_
    · obtain ⟨p, hp, rfl⟩ := List.mem_map.1 hk
      rw [hone p hp]
    · rw [List.length_map, nsmul_eq_mul, Nat.cast_id, Nat.mul_one]
      exact hlen
  refine ⟨fun t ht => ?_, hreport, ?_⟩
  · have hsub : (s.attemptsAt t.name).Sublist s.tasks := List.filter_sublist
    have hle : calls (s.attemptsAt t.name) ≤ ([t].map fun u => u.retries + 1).sum := by
      refine (calls_le fun a ha => hcounted false a (hsub.subset ha)).trans
        (sum_retries_le (hnames.sublist ((hsub.map _).map _)) fun p hp => ?_)
      obtain ⟨a, ha, rfl⟩ := List.mem_map.1 hp
      have hname : a.name = t.name := eq_of_beq (List.mem_filter.1 ha).2
      obtain ⟨u, hu, hu', hretries⟩ := hmade _ (List.mem_map_of_mem (hsub.subset ha))
      obtain rfl := hs.wellFormed.eq_of_name hu ht (hu'.symm.trans hname)
      exact ⟨u, List.mem_singleton_self u, hu', hretries⟩
    exact hle
  · rw [calls_all]
    exact Nat.add_le_add ((calls_le (hcounted false)).trans (sum_retries_le hnames hmade)) hreport

/-- The efforts serve the job's run, if it has been started. -/
structure Manned (env : Orchestrator) (id : String) (s : Workshop) : Prop where
  idle : s.course? id = none → s.efforts = [] ∧ s.done = []
  serves : ∀ c, s.course? id = some c → s.Serves env c

namespace Manned

/-- The course of the run stays as it is, and attempts go on. -/
theorem goes (h : s.Manned env id) {w : World} {as : List Effort}
    (hc : w.courses.get? id = s.course? id) (hl : List.Forall₂ Effort.Leads s.efforts as) :
    Manned env id { s with world := w, efforts := as } where
  idle := fun hn => by
    obtain ⟨he, hd⟩ := h.idle (hc.symm.trans hn)
    rw [he] at hl
    exact ⟨List.forall₂_nil_left_iff.1 hl, hd⟩
  serves := fun c hs => (h.serves c (hc.symm.trans hs)).goes hl

/-- The run has this course. -/
theorem runs {t : Workshop} (hc : t.course? id = some c) (hs : t.Serves env c) :
    t.Manned env id where
  idle := fun hn => by rw [hc] at hn; cases hn
  serves := fun c' hc' => by
    cases hc.symm.trans hc'
    exact hs

/-- A move that is neither a step of the run nor a delivery to it. -/
theorem others (h : s.Manned env id) {m : Move}
    (hstep : ∀ now, m = .step id now → s.course? id = none)
    (hdeliver : ∀ task e now, m ≠ .deliver id task e now) : (s.act id (.move m)).Manned env id := by
  rw [act_move hdeliver, launches_eq_nil hstep, List.append_nil]
  rcases World.courses_act hstep fun task e now he => absurd he (hdeliver task e now) with
    hsame | ⟨hnone, w, pending, hsome⟩
  · exact h.goes hsame (List.forall₂_same.2 fun a _ => .refl a)
  · obtain ⟨he, hd⟩ := h.idle hnone
    exact runs hsome (Serves.starts (s := ⟨s.world.act m, s.efforts, s.done⟩) he hd w id pending)

/-- **A deed keeps it.** -/
theorem act (h : s.Manned env id) (ht : s.world.Tracked env fun _ _ => True) (d : Deed) :
    (s.act id d).Manned env id := by
  have hwork : ∀ {g : Effort → Effort} (task : String), (∀ a : Effort, a.Leads (g a)) →
      Manned env id { s with efforts := alter task g s.efforts } := fun task hg =>
    h.goes rfl (leads_alter hg task s.efforts)
  cases d with
  | begin task => exact hwork task Effort.leads_begin
  | finish task e => exact hwork task fun a => a.leads_conclude (some e)
  | expire task => exact hwork task Effort.leads_expire
  | take task now =>
    cases hripe : s.ripe? id task with
    | none =>
      rw [Workshop.act, hripe]
      exact h
    | some x =>
      obtain ⟨a, e⟩ := x
      obtain ⟨c, p, hc, hp, ha, he⟩ := of_ripe? hripe
      refine runs (course?_take hc hp hripe now) ?_
      rw [Workshop.act, hripe]
      exact (h.serves c hc).delivers hp ha he now
  | move m =>
    by_cases hown : ∃ now c, m = .step id now ∧ s.course? id = some c
    · obtain ⟨now, c, rfl, hc⟩ := hown
      obtain ⟨-, j, told, -, hreach, -⟩ := ht.scene id c hc
      exact runs (course?_step hc now)
        ((h.serves c hc).steps hc ht.settings hreach.closing.landed now)
    · by_cases hdeliver : ∃ task e now, m = .deliver id task e now
      · obtain ⟨task, e, now, rfl⟩ := hdeliver
        rw [Workshop.act, if_pos rfl]
        exact h
      · refine h.others (fun now he => ?_) fun task e now he => hdeliver ⟨task, e, now, he⟩
        exact Option.eq_none_iff_forall_ne_some.2 fun c hc => hown ⟨now, c, he, hc⟩

end Manned

/-! ### Sequences of deeds -/

/-- A deed keeps a world tracked. -/
theorem tracked_act (h : s.world.Tracked env fun _ _ => True) (d : Deed) :
    (s.act id d).world.Tracked env fun _ _ => True := by
  rcases world_act id s d with hsame | ⟨m, hm, -⟩
  · rw [hsame]
    exact h
  · rw [hm]
    exact h.act_freely m

/-- Deeds keep a world tracked and a workshop manned. -/
theorem manned_play (ht : s.world.Tracked env fun _ _ => True) (h : s.Manned env id)
    (deeds : List Deed) :
    (s.play id deeds).world.Tracked env (fun _ _ => True) ∧ (s.play id deeds).Manned env id := by
  induction deeds generalizing s with
  | nil => exact ⟨ht, h⟩
  | cons d ds ih => exact ih (tracked_act ht d) (h.act ht d)

/-- The workshop of any deeds is tracked and manned. -/
theorem manned_of_play (registry : Registry) (settings : EngineSettings) (listening : Bool)
    (id : String) (deeds : List Deed) :
    ((initial registry settings listening).play id deeds).world.Tracked
        { registry, settings, listening } (fun _ _ => True) ∧
      ((initial registry settings listening).play id deeds).Manned
        { registry, settings, listening } id :=
  manned_play (World.tracked_initial registry settings listening _)
    ⟨fun _ => ⟨rfl, rfl⟩, fun _ h => by cases h⟩ deeds

end Workshop
end Runbook
