/-
# A stop wins

While a run waits for the tasks of a round, its job can be stopped.  From then on
only two things can happen to the run (`act_waits`, `act_parted`):

| the workshop | what has happened | what is left |
| --- | --- | --- |
| `Waits` | attempts went on, nobody took anything up | whatever comes in next |
| `Parted` | one outcome came in and was put aside | handing over the stopped job |

Whatever comes in first, a value, an error or a panic, and whether it was there before
the stop or came after it, the run parts from its job (`act_take_waits`) and its next
step hands the job over as the stop left it (`stop_wins`).
-/

import Runbook.Proofs.Engine.Epilogue
import Runbook.Proofs.Engine.Failure
import Runbook.Proofs.Engine.Policy
import Runbook.Proofs.Engine.Return
import Runbook.Proofs.Engine.Stop

namespace Runbook

/-! ### Turns of a stopped job -/

/-- All that a run does with a job that ended while it waited is to put an outcome aside. -/
theorem Turn.of_waiting {env : Orchestrator} {s s' : Scene} (h : Turn env s s') {n : Nat}
    {pending : List Task} (stage : s.stage = .waiting (n + 1) pending)
    (terminal : s.job.isTerminal) :
    ∃ p ∈ s.course.inFlight, s' = { s with course := (s.course.land p).enter .leaving } := by
  cases h with
  | pass pass =>
    cases pass with
    | discard _ flight => exact ⟨_, flight, rfl⟩
    | close here | finish here | leave here | await here | fall here | fallLate here
    | succeedLate here | reportMissing here | reportBegin here | reportPanic here
    | reportFail here | reportDone here | depart here =>
      rw [stage] at here
      cases here
  | takeUp _ _ running =>
    rw [terminal] at running
    cases running
  | starve here | reject here | begin here | launch here | complete here | overcome here
  | fail here | overlook here | refuse here | refuseLate here | succeed here =>
    rw [stage] at here
    cases here

/-- Whether the run is about to hand over its job or is over. -/
def Stage.isLast : Stage → Bool
  | .leaving | .ended _ => true
  | _ => false

/-- All that a run does that parts from its job is to hand the job over. -/
theorem Turn.of_handsOver {env : Orchestrator} {s s' : Scene} (h : Turn env s s')
    (stage : s.stage.HandsOver s.job) : s' = s.enter (.ended (.ok s.job)) := by
  have hlast : s.stage.isLast := by rcases stage with hst | hst <;> rw [hst] <;> rfl
  have hleft : ∀ {here : Stage}, s.stage = here → here.isLast = false → False := by
    rintro here rfl hnot
    rw [hlast] at hnot
    cases hnot
  cases h with
  | pass pass =>
    cases pass with
    | depart => rfl
    | discard here | close here | finish here | leave here | await here | fall here
    | fallLate here | succeedLate here | reportMissing here | reportBegin here
    | reportPanic here | reportFail here | reportDone here => exact (hleft here rfl).elim
  | takeUp here | starve here | reject here | begin here | launch here | complete here
  | overcome here | fail here | overlook here | refuse here | refuseLate here | succeed here =>
    exact (hleft here rfl).elim

namespace Effort

/-- Nothing more is done about an effort that has come to an end. -/
theorem Leads.eq_of_ended {a b : Effort} (h : a.Leads b) {e : Option AttemptEnd}
    (he : a.standing = .ended e) : b = a := by
  rcases h.rest with heq | hlt
  · exact heq
  · simp [Effort.rest, he] at hlt

/-- Efforts that have come to an end stay among the others. -/
theorem mem_of_leads {as bs : List Effort} (h : List.Forall₂ Leads as bs) {a : Effort}
    (ha : a ∈ as) {e : Option AttemptEnd} (he : a.standing = .ended e) : a ∈ bs := by
  induction h with
  | nil => exact ha
  | cons hab _ ih =>
    rcases List.mem_cons.1 ha with rfl | ha
    · simp [hab.eq_of_ended he]
    · exact List.mem_cons_of_mem _ (ih ha)

/-- What comes of what has come of an effort. -/
theorem Leads.trans {a b c : Effort} (h : a.Leads b) (h' : b.Leads c) : a.Leads c where
  prepared := h'.prepared.trans h.prepared
  report := h'.report.trans h.report
  counted := fun ha => h'.counted (h.counted ha)
  rest := by
    rcases h'.rest with rfl | hlt
    · exact h.rest
    · rcases h.rest with rfl | hlt'
      · exact Or.inr hlt
      · exact Or.inr (by omega)

theorem forall₂_leads_trans {as bs cs : List Effort} (h : List.Forall₂ Leads as bs)
    (h' : List.Forall₂ Leads bs cs) : List.Forall₂ Leads as cs := by
  induction h generalizing cs with
  | nil => exact h'
  | cons hab _ ih =>
    cases h' with
    | cons hbc hrest => exact .cons (hab.trans hbc) (ih hrest)

end Effort

namespace Workshop

variable {id : String} {env : Orchestrator} {s t : Workshop} {x : Scene}

/-! ### What is launched -/

/-- A run launches something only while it starts tasks or is about to have its report
written. -/
theorem launches_of_stage {s : World} {c : Course} (hc : s.courses.get? id = some c)
    (hstart : c.run.stage.startsTasks = false) (hreport : c.run.stage ≠ .reporting) (m : Move) :
    launches id s m = [] := by
  by_cases hm : ∃ now, m = .step id now
  · obtain ⟨now, rfl⟩ := hm
    rw [launches_step hc]
    rcases c.run.launched_step s.orchestrator now with ⟨hnone, -⟩ | ⟨p, ready, n, pending, hst, -⟩ |
      ⟨worker, j, hst, -⟩
    · simp [hnone]
    · simp [hst, Stage.startsTasks] at hstart
    · exact absurd hst hreport
  · exact launches_eq_nil fun now he => absurd ⟨now, he⟩ hm

/-- A deed that launches nothing leaves the efforts about what they were about. -/
theorem kinds_act {d : Deed} (h : ∀ m, launches id s.world m = []) :
    ((s.act id d).all.map Effort.kind).Perm (s.all.map Effort.kind) := by
  have hwork : ∀ {w : World} {as : List Effort}, List.Forall₂ Effort.Leads s.efforts as →
      ((all { s with world := w, efforts := as }).map Effort.kind).Perm (s.all.map Effort.kind) := by
    intro w as hl
    simp [all, Effort.map_kind_of_leads hl]
  cases d with
  | begin task => exact hwork (leads_alter Effort.leads_begin task s.efforts)
  | finish task e => exact hwork (leads_alter (fun a => a.leads_conclude (some e)) task s.efforts)
  | expire task => exact hwork (leads_alter Effort.leads_expire task s.efforts)
  | take task now =>
    cases hripe : s.ripe? id task with
    | none => simp [act, hripe]
    | some y =>
      obtain ⟨a, e⟩ := y
      obtain ⟨c, p, -, -, ha, -⟩ := of_ripe? hripe
      rw [act, hripe]
      exact (perm_all_take ha).map Effort.kind
  | move m =>
    by_cases hm : ∃ task e now, m = .deliver id task e now
    · obtain ⟨task, e, now, rfl⟩ := hm
      simp [act]
    · rw [act_move fun task e now he => hm ⟨task, e, now, he⟩, h, List.append_nil]
      exact .refl _

/-- Where a run waits, nothing but an outcome that is taken up changes its course, and
attempts go on. -/
theorem goes_of_awaiting {c : Course} (hc : s.course? id = some c) (rest : c.run.isAwaiting)
    {d : Deed} (hd : ∀ task now, d ≠ .take task now) :
    (s.act id d).course? id = some c ∧ List.Forall₂ Effort.Leads s.efforts (s.act id d).efforts ∧
      (s.act id d).done = s.done := by
  have hsame : List.Forall₂ Effort.Leads s.efforts s.efforts :=
    List.forall₂_same.2 fun a _ => .refl a
  have hcourse : s.world.courses.get? id = some c := hc
  cases d with
  | begin task => exact ⟨hc, leads_alter Effort.leads_begin task s.efforts, rfl⟩
  | finish task e => exact ⟨hc, leads_alter (fun a => a.leads_conclude (some e)) task s.efforts, rfl⟩
  | expire task => exact ⟨hc, leads_alter Effort.leads_expire task s.efforts, rfl⟩
  | take task now => exact absurd rfl (hd task now)
  | move m =>
    by_cases hm : ∃ task e now, m = .deliver id task e now
    · obtain ⟨task, e, now, rfl⟩ := hm
      rw [act, if_pos rfl]
      exact ⟨hc, hsame, rfl⟩
    · have hm : ∀ task e now, m ≠ .deliver id task e now := fun task e now he =>
        hm ⟨task, e, now, he⟩
      by_cases hstep : ∃ now, m = .step id now
      · obtain ⟨now, rfl⟩ := hstep
        refine ⟨?_, ?_, rfl⟩
        · rw [course?_step hc, Course.follow_of_isAwaiting rest]
        · rw [act_step, launches_step hcourse, Run.step, rest, if_pos rfl]
          simpa using hsame
      · have hstep : ∀ now, m = .step id now → s.world.courses.get? id = none := fun now he =>
          absurd ⟨now, he⟩ hstep
        rw [act_move hm, launches_eq_nil hstep, List.append_nil]
        refine ⟨?_, hsame, rfl⟩
        rcases World.courses_act hstep fun task e now he => absurd he (hm task e now) with
          hkept | ⟨hnone, -⟩
        · exact hkept.trans hc
        · rw [hcourse] at hnone
          cases hnone

/-! ### After the stop -/

/-- Nothing has been taken up since: the job and its run are as they were, and attempts
have gone on. -/
structure Waits (s : Workshop) (id : String) (x : Scene) (t : Workshop) : Prop where
  shows : t.world.Shows id x
  efforts : List.Forall₂ Effort.Leads s.efforts t.efforts
  done : t.done = s.done

/-- One outcome has been put aside, and the run hands over the job or has done so. -/
structure Parted (s : Workshop) (id : String) (x : Scene) (t : Workshop) : Prop where
  shows : ∃ p ∈ x.course.inFlight, ∃ stage, Stage.HandsOver stage x.job ∧
    t.world.Shows id { x with course := (x.course.land p).enter stage }
  efforts : (t.all.map Effort.kind).Perm (s.all.map Effort.kind)

variable {n : Nat} {pending : List Task}

/-- **What a deed does to the job**: nothing, a turn of it, or a stop of it. -/
theorem shows_act (ht : t.world.Tracked env fun _ _ => True) (hx : t.world.Shows id x) (d : Deed) :
    ∃ x', (t.act id d).world.Shows id x' ∧ (x' = x ∨ Turn env x x' ∨
      ∃ now, d = .move (.stop id now) ∧ x.job.isTerminal = false ∧ x' = x.stop now) := by
  rcases world_act id t d with hsame | ⟨m, hm, hstop⟩
  · rw [hsame]
    exact ⟨x, hx, Or.inl rfl⟩
  · rw [hm]
    obtain ⟨x', hx', hmove⟩ := ht.shows_act hx m
    refine ⟨x', hx', hmove.imp_right fun hmove => hmove.imp_right ?_⟩
    rintro ⟨now, he, running, rfl⟩
    exact ⟨now, by rw [hstop id now he, he], running, rfl⟩

/-- A job that has ended cannot be stopped. -/
theorem shows_act_of_terminal (ht : t.world.Tracked env fun _ _ => True)
    (hx : t.world.Shows id x) (terminal : x.job.isTerminal) (d : Deed) :
    ∃ x', (t.act id d).world.Shows id x' ∧ (x' = x ∨ Turn env x x') := by
  obtain ⟨x', hx', rfl | hturn | ⟨now, -, running, -⟩⟩ := shows_act ht hx d
  · exact ⟨x', hx', Or.inl rfl⟩
  · exact ⟨x', hx', Or.inr hturn⟩
  · simp [running] at terminal

/-- **As long as nothing is taken up, the run waits.** -/
theorem Waits.act (h : s.Waits id x t) (ht : t.world.Tracked env fun _ _ => True)
    (stage : x.stage = .waiting (n + 1) pending) (terminal : x.job.isTerminal) {d : Deed}
    (hd : ∀ task now, d ≠ .take task now) : s.Waits id x (t.act id d) := by
  have rest : x.course.run.isAwaiting := by
    rw [Run.isAwaiting, show x.course.run.stage = _ from stage]
  obtain ⟨hcourse, hefforts, hdone⟩ := goes_of_awaiting h.shows.course rest hd
  obtain ⟨x', hx', rfl | hturn⟩ := shows_act_of_terminal ht h.shows terminal d
  · exact ⟨hx', Effort.forall₂_leads_trans h.efforts hefforts, hdone.trans h.done⟩
  · -- A turn would take the run away from where it waits.
    obtain ⟨p, -, rfl⟩ := hturn.of_waiting stage terminal
    have hsame := Option.some.inj (hx'.course.symm.trans hcourse)
    have hst : x.stage = .leaving := by
      rw [Scene.stage, ← hsame]
      rfl
    rw [stage] at hst
    cases hst

/-- **With the first outcome that is taken up, the run parts from its job.** -/
theorem Waits.take (h : s.Waits id x t) (ht : t.world.Tracked env fun _ _ => True)
    (stage : x.stage = .waiting (n + 1) pending) (terminal : x.job.isTerminal) {task : String}
    {a : Effort} {e : Option AttemptEnd} (hripe : t.ripe? id task = some (a, e)) (now : Instant) :
    s.Parted id x (t.act id (.take task now)) := by
  obtain ⟨c, p, hc, hp, ha, -⟩ := of_ripe? hripe
  obtain rfl : x.course = c := Option.some.inj (h.shows.course.symm.trans hc)
  have hkinds : (t.all.map Effort.kind) = s.all.map Effort.kind := by
    simp [all, h.done, Effort.map_kind_of_leads h.efforts]
  refine ⟨?_, ?_⟩
  · obtain ⟨x', hx', rfl | hturn⟩ := shows_act_of_terminal ht h.shows terminal (.take task now)
    · -- The run has become lighter, so something has happened to it.
      have hlt := Course.weight_receive_lt hp t.world.orchestrator e now
      rw [← Option.some.inj (hx'.course.symm.trans (course?_take hc hp hripe now))] at hlt
      exact absurd hlt (Nat.lt_irrefl _)
    · obtain ⟨q, hq, rfl⟩ := hturn.of_waiting stage terminal
      exact ⟨q, hq, .leaving, Or.inl rfl, hx'⟩
  · rw [← hkinds, Workshop.act, hripe]
    exact (perm_all_take ha).map Effort.kind

/-- **A run that parts from its job does nothing but hand it over.** -/
theorem Parted.act (h : s.Parted id x t) (ht : t.world.Tracked env fun _ _ => True)
    (terminal : x.job.isTerminal) (d : Deed) : s.Parted id x (t.act id d) := by
  obtain ⟨p, hp, stage, hover, hx⟩ := h.shows
  refine ⟨?_, ?_⟩
  · obtain ⟨x', hx', rfl | hturn⟩ := shows_act_of_terminal ht hx terminal d
    · exact ⟨p, hp, stage, hover, hx'⟩
    · obtain rfl := hturn.of_handsOver hover
      exact ⟨p, hp, _, Or.inr rfl, hx'⟩
  · refine (kinds_act fun m => launches_of_stage hx.course ?_ ?_ m).trans h.efforts
    · rcases hover with rfl | rfl <;> rfl
    · rcases hover with rfl | rfl <;> exact nofun

/-- Any deed leaves a stopped job with a run that waits or parts from it. -/
theorem Waits.goes (h : s.Waits id x t) (ht : t.world.Tracked env fun _ _ => True)
    (stage : x.stage = .waiting (n + 1) pending) (terminal : x.job.isTerminal) (d : Deed) :
    s.Waits id x (t.act id d) ∨ s.Parted id x (t.act id d) := by
  by_cases hd : ∃ task now, d = .take task now
  · obtain ⟨task, now, rfl⟩ := hd
    cases hripe : t.ripe? id task with
    | none =>
      rw [Workshop.act, hripe]
      exact Or.inl h
    | some y => exact Or.inr (h.take ht stage terminal hripe now)
  · exact Or.inl (h.act ht stage terminal fun task now he => hd ⟨task, now, he⟩)

/-- A run that parts from its job goes on doing so. -/
theorem Parted.play (h : s.Parted id x t) (ht : t.world.Tracked env fun _ _ => True)
    (terminal : x.job.isTerminal) (deeds : List Deed) : s.Parted id x (t.play id deeds) := by
  induction deeds generalizing t with
  | nil => exact h
  | cons d ds ih => exact ih (h.act ht terminal d) (tracked_act ht d)

/-- After any deeds, the run waits or parts from its job. -/
theorem Waits.play (h : s.Waits id x t) (ht : t.world.Tracked env fun _ _ => True)
    (stage : x.stage = .waiting (n + 1) pending) (terminal : x.job.isTerminal)
    (deeds : List Deed) : s.Waits id x (t.play id deeds) ∨ s.Parted id x (t.play id deeds) := by
  induction deeds generalizing t with
  | nil => exact Or.inl h
  | cons d ds ih =>
    have hnext : (t.act id d).world.Tracked env fun _ _ => True := tracked_act ht d
    rcases h.goes ht stage terminal d with hwaits | hparted
    · exact ih hwaits hnext
    · exact Or.inr (hparted.play hnext terminal ds)

/-- The next step hands the job over. -/
theorem Parted.step (h : s.Parted id x t) (ht : t.world.Tracked env fun _ _ => True)
    (now : Instant) :
    ∃ c', (t.act id (.move (.step id now))).course? id = some c' ∧
      c'.run.stage = .ended (.ok x.job) := by
  obtain ⟨p, -, stage, hover, hx⟩ := h.shows
  have hhas : t.world.Has id _ x.job := ⟨hx.course, (ht.scene id _ hx.course).1, hx.job⟩
  obtain ⟨c', hc', hended⟩ := hhas.step_of_handsOver hover now
  exact ⟨c', hc'.course, hended⟩

/-- No two efforts that a waiting run has in flight are of one name. -/
theorem Manned.ripe (hm : t.Manned env id) (ht : t.world.Tracked env fun _ _ => True) {c : Course}
    (hc : t.course? id = some c) (stage : c.run.stage = .waiting (n + 1) pending) {a : Effort}
    (ha : a ∈ t.efforts) {e : Option AttemptEnd} (he : a.standing = .ended e) :
    t.ripe? id a.name = some (a, e) := by
  obtain ⟨-, j, told, -, hreach, -⟩ := ht.scene id c hc
  have hflight := (hm.serves c hc).flight
  have hnodup : (t.efforts.map (·.name)).Nodup := by
    have hout := (hreach.sound.underWay pending (by rw [Scene.stage, stage]; rfl)).nodup
    have hnames : t.efforts.map (·.name) = c.inFlight.map (·.name) := by
      rw [← hflight, List.map_map]
      rfl
    rw [hnames]
    exact hout.sublist ((List.sublist_append_right _ _).trans (List.sublist_append_left _ _))
  obtain ⟨b, hb⟩ : ∃ b, t.efforts.find? (fun b => b.name == a.name) = some b :=
    Option.isSome_iff_exists.1 (List.find?_isSome.2 ⟨a, ha, beq_self_eq_true _⟩)
  have hname : b.name = a.name := eq_of_beq (List.find?_some (p := fun b : Effort => b.name == a.name) hb)
  obtain rfl : b = a :=
    List.inj_on_of_nodup_map hnodup (List.mem_of_find?_eq_some hb) ha hname
  obtain ⟨p, hp⟩ : ∃ p, c.awaited? b.name = some p := by
    refine Option.isSome_iff_exists.1 ?_
    rw [Course.awaited?, stage, Stage.takesOutcomes, if_pos rfl, ← hflight]
    exact List.find?_isSome.2 ⟨b.prepared, List.mem_map_of_mem ha, beq_self_eq_true _⟩
  exact ripe?_eq hc hp hb he

/-- **What a stop leaves of a run that waited.**  Since the workshop `s`, in which the run
had the course `c`, its job has been stopped as `k`.  Nothing has been told since or
launched, and the run waits as it did or has put one outcome aside and parts from its job.
As long as it waits, something is in flight, and whatever of it has come to an end, before
the stop or after it, can be taken up. -/
structure Halted (s : Workshop) (id : String) (c : Course) (k : Job) (t : Workshop) : Prop where
  job : t.world.orchestrator.job? id = some k
  told : s.world.orchestrator.listening →
    t.world.orchestrator.told id = s.world.orchestrator.told id ++ [.jobStopped id]
  efforts : (t.all.map Effort.kind).Perm (s.all.map Effort.kind)
  reports : t.reports = []
  course : ∃ c', t.course? id = some c' ∧ c'.rounds = c.rounds ∧ c'.started = c.started ∧
    c'.taken = c.taken ∧
    (c'.run.stage = c.run.stage ∧ c'.inFlight = c.inFlight ∨
      c'.run.stage.HandsOver k ∧ ∃ p ∈ c.inFlight, c'.inFlight = (c.land p).inFlight)
  waits : ∀ c', t.course? id = some c' → c'.run.stage.takesOutcomes →
    t.efforts ≠ [] ∧ (∀ a ∈ s.efforts, ∀ e, a.standing = .ended e → a ∈ t.efforts) ∧
      ∀ a ∈ t.efforts, ∀ e, a.standing = .ended e → t.ripe? id a.name = some (a, e)

/-- Where no report is begun, none is begun by what is about the same things. -/
theorem reports_eq_nil (h : (t.all.map Effort.kind).Perm (s.all.map Effort.kind))
    (hs : s.reports = []) : t.reports = [] := by
  have hnone : s.reports.map (·.prepared) = [] := by simp [hs]
  have hperm := (h.filter fun k => k.1 == true).map (·.2)
  rw [reports, allOf, Effort.map_prepared_filter] at hnone
  rw [hnone] at hperm
  have hmap : t.reports.map (·.prepared) = [] := by
    rw [reports, allOf, Effort.map_prepared_filter]
    exact hperm.eq_nil
  exact List.map_eq_nil_iff.1 hmap

section Stopped

variable {c : Course} {k : Job} {told : List JobEvent}

/-- Where the run waits, the stop is all that has happened. -/
theorem Waits.halted (h : s.Waits id ⟨k, c, told⟩ t) (ht : t.world.Tracked env fun _ _ => True)
    (hm : t.Manned env id) (stage : c.run.stage = .waiting (n + 1) pending)
    (hlistening : t.world.orchestrator.listening = s.world.orchestrator.listening)
    (htold : s.world.orchestrator.listening →
      told = s.world.orchestrator.told id ++ [.jobStopped id])
    (hreports : s.reports = []) : Halted s id c k t := by
  have hkinds : t.all.map Effort.kind = s.all.map Effort.kind := by
    simp [all, h.done, Effort.map_kind_of_leads h.efforts]
  refine ⟨h.shows.job, fun hl => ?_, .of_eq hkinds, reports_eq_nil (.of_eq hkinds) hreports,
    ⟨c, h.shows.course, rfl, rfl, rfl, Or.inl ⟨rfl, rfl⟩⟩, fun c' hc' _ => ?_⟩
  · rw [h.shows.told (hlistening ▸ hl), htold hl]
  · obtain rfl : c = c' := Option.some.inj (h.shows.course.symm.trans hc')
    refine ⟨?_, fun a ha e he => Effort.mem_of_leads h.efforts ha he,
      fun a ha e he => hm.ripe ht hc' stage ha he⟩
    -- As many efforts go on as tasks are out.
    obtain ⟨-, j, told', -, hreach, -⟩ := ht.scene id c hc'
    have hcount := (hreach.sound.underWay pending (by rw [Scene.stage, stage]; rfl)).count
    rw [Scene.stage, stage, ← (hm.serves c hc').flight] at hcount
    intro hnil
    simp [hnil, Stage.count] at hcount

/-- Where the run parts from its job, one outcome has been put aside. -/
theorem Parted.halted (h : s.Parted id ⟨k, c, told⟩ t)
    (hlistening : t.world.orchestrator.listening = s.world.orchestrator.listening)
    (htold : s.world.orchestrator.listening →
      told = s.world.orchestrator.told id ++ [.jobStopped id])
    (hreports : s.reports = []) : Halted s id c k t := by
  obtain ⟨p, hp, stage, hover, hx⟩ := h.shows
  refine ⟨hx.job, fun hl => ?_, h.efforts, reports_eq_nil h.efforts hreports,
    ⟨_, hx.course, rfl, rfl, rfl, Or.inr ⟨hover, p, hp, rfl⟩⟩, fun c' hc' takes => ?_⟩
  · rw [hx.told (hlistening ▸ hl), htold hl]
  · obtain rfl := Option.some.inj (hx.course.symm.trans hc')
    have hnot : stage.takesOutcomes = false := hover.not_takes
    have takes : stage.takesOutcomes = true := takes
    rw [hnot] at takes
    cases takes

end Stopped

/-- **A stop wins over every later outcome.**  Whatever has been registered, loaded,
started, attempted and taken up before: if a job is stopped while its run waits for the
tasks of a round, it is stopped as it is, and it stays so.  Nothing is told of it after
the stop, and no task and no report is launched.  As soon as anything that was in flight
is taken up, be it a value, an error or a panic, and whether it had come to an end before
the stop or not, the run puts it aside, and with its next step it ends and hands over the
stopped job. -/
theorem stop_wins (registry : Registry) (settings : EngineSettings) (listening : Bool)
    (id : String) (before : List Deed) (now : Instant) (c : Course) (n : Nat)
    (pending : List Task) (k : Job) (o : Orchestrator)
    (hc : ((initial registry settings listening).play id before).course? id = some c)
    (waits : c.run.stage = .waiting (n + 1) pending)
    (stopped : ((initial registry settings listening).play id before).world.orchestrator.stop id now
      = (.ok k, o)) :
    (∃ j, ((initial registry settings listening).play id before).world.orchestrator.job? id
        = some j ∧ j.status = .running ∧ k = j.endedAs .stopped now) ∧
      ∀ after : List Deed,
        Halted ((initial registry settings listening).play id before) id c k
            ((initial registry settings listening).play id
              (before ++ .move (.stop id now) :: after)) ∧
          ∀ task a e, ((initial registry settings listening).play id
              (before ++ .move (.stop id now) :: after)).ripe? id task = some (a, e) →
            ∀ (t₁ t₂ : Instant) (rest more : List Deed), ∃ c',
              ((initial registry settings listening).play id
                (before ++ .move (.stop id now) :: after
                  ++ .take task t₁ :: rest ++ .move (.step id t₂) :: more)).course? id = some c' ∧
                c'.run.stage = .ended (.ok k) := by
  obtain ⟨ht, hm⟩ := manned_of_play registry settings listening id before
  generalize hs : (initial registry settings listening).play id before = s at *
  obtain ⟨j, hj, running, rfl, -⟩ := Orchestrator.changes_of_stop stopped
  have hid := (ht.scene id c hc).1
  -- The workshop right after the stop.
  have hshows : (s.act id (.move (.stop id now))).world.Shows id
      ⟨j.endedAs .stopped now, c, s.world.orchestrator.told id ++ [.jobStopped id]⟩ := by
    have hx := World.Tracked.shows_stop
      (x := ⟨j, c, s.world.orchestrator.told id⟩) ⟨hc, hj, fun _ => rfl⟩ hid running now
    rw [Scene.stop, Scene.id, hid] at hx
    exact hx
  have hstop : s.Waits id
      ⟨j.endedAs .stopped now, c, s.world.orchestrator.told id ++ [.jobStopped id]⟩ (s.act id (.move (.stop id now))) := by
    refine ⟨hshows, ?_, rfl⟩
    show List.Forall₂ _ s.efforts (s.efforts ++ [])
    rw [List.append_nil]
    exact List.forall₂_same.2 fun a _ => .refl a
  have hreports : s.reports = [] := by
    have hle := (hm.serves c hc).reports
    rw [waits] at hle
    exact List.eq_nil_of_length_eq_zero (Nat.le_zero.1 hle)
  have hplay : ∀ deeds, (initial registry settings listening).play id
      (before ++ .move (.stop id now) :: deeds) = (s.act id (.move (.stop id now))).play id deeds :=
    fun deeds => by rw [play_append, hs]; rfl
  refine ⟨⟨j, hj, Job.isTerminal_eq_false.1 running, rfl⟩, fun after => ?_⟩
  obtain ⟨ht', hm'⟩ := manned_play (tracked_act ht (.move (.stop id now)))
    (hm.act ht (.move (.stop id now))) after
  have hlistening := ht'.listening.trans ht.listening.symm
  rw [hplay after]
  rcases hstop.play (tracked_act ht _) waits rfl after with hwaits | hparted
  · refine ⟨hwaits.halted ht' hm' waits hlistening (fun _ => rfl) hreports,
      fun task a e hripe t₁ t₂ rest more => ?_⟩
    have hparted := hwaits.take ht' waits rfl hripe t₁
    have hnext := hparted.play (tracked_act ht' _) rfl rest
    have htracked := (manned_play (tracked_act ht' (.take task t₁)) (hm'.act ht' _) rest).1
    obtain ⟨c', hc', hended⟩ := hnext.step htracked t₂
    refine ⟨c', ?_, hended⟩
    have hover : c'.run.isOver := by rw [Run.isOver, hended]
    rw [play_append, play_append, hplay]
    exact over_play hc' hover more
  · refine ⟨hparted.halted hlistening (fun _ => rfl) hreports, fun task a e hripe => ?_⟩
    -- Nothing is ripe any more.
    obtain ⟨p, -, stage, hover, hx⟩ := hparted.shows
    obtain ⟨c', q, hc', hq, -⟩ := of_ripe? hripe
    obtain rfl := Option.some.inj (hx.course.symm.trans hc')
    simp [Course.awaited?, Course.enter, Run.enter, hover.not_takes] at hq

/-- In the sample, one of two tasks in flight has failed when the job is stopped, and the
other one panics after that.  The failure is taken up, and the stopped job is handed over. -/
theorem stop_wins_sample :
    ∃ c k, (Sample.empty.play "job" (Sample.mishap.take 9)).course? "job" = some c ∧
      k.status = .stopped ∧
      Halted (Sample.empty.play "job" (Sample.mishap.take 9)) "job" c k
        (Sample.empty.play "job" (Sample.mishap.take 9 ++
          .move (.stop "job" ⟨2⟩) :: [.finish "survey" (.panic "lost")])) ∧
      ∃ c', (Sample.empty.play "job" (Sample.mishap.take 9 ++
          .move (.stop "job" ⟨2⟩) :: [.finish "survey" (.panic "lost")] ++
          .take "probe" ⟨3⟩ :: [] ++ .move (.step "job" ⟨4⟩) :: [])).course? "job" = some c' ∧
        c'.run.stage = .ended (.ok k) := by
  have hstage : ((Sample.empty.play "job" (Sample.mishap.take 9)).course? "job").map
      (·.run.stage) = some (.waiting 2 [Sample.task "summary" ["survey", "probe"]]) := rfl
  obtain ⟨c, hc, hst⟩ := Option.map_eq_some_iff.1 hstage
  obtain ⟨k, o, hstop, hstatus⟩ : ∃ k o, (Sample.empty.play "job" (Sample.mishap.take 9)
      ).world.orchestrator.stop "job" ⟨2⟩ = (.ok k, o) ∧ k.status = .stopped :=
    ⟨_, _, rfl, rfl⟩
  have hwins := (stop_wins (.ofList [Sample.worker]) {} true "job" (Sample.mishap.take 9) ⟨2⟩ c 1
    [Sample.task "summary" ["survey", "probe"]] k o hc hst hstop).2
    [.finish "survey" (.panic "lost")]
  exact ⟨c, k, hc, hstatus, hwins.1,
    hwins.2 "probe" _ (some (.error (.failed "no signal"))) rfl ⟨3⟩ ⟨4⟩ [] []⟩

end Workshop
end Runbook
