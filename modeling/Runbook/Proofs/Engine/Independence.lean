/-
# The order in which tasks end does not matter

Two runs of one workflow with the same parameters, whose workers give the same task
the same end whenever they are asked, start the same tasks in the same rounds and
hand over the same assignments.  Their jobs come to the same status with the same
record (`schedule_independent`), in whatever order and whenever the tasks end.
Neither run is compared with the other step by step: both go as rehearsed, and the
rehearsal leaves one way to end (`Performed.started_eq`, `Performed.completed_iff`).
-/

import Runbook.Proofs.Engine.Performance
import Runbook.Proofs.Engine.Record

namespace Runbook

/-- What is handed over when the task of a name is started in a round. -/
def Rehearsal.dispatch? (r : Rehearsal) (x : Nat × String) : Option (Nat × Prepared) :=
  (r.workflow.task? x.2).bind fun t => (r.ready t).toOption.map fun p => (x.1, p)

namespace Scene

variable {r : Rehearsal} {s s₁ s₂ : Scene} {outs outs₁ outs₂ : List Outcome}

/-- What is known of a run that is over and whose job nobody stopped. -/
structure Performed (r : Rehearsal) (s : Scene) (outs : List Outcome) : Prop where
  suits : r.Suits s
  sound : s.Sound
  kept : s.Kept outs
  rehearsed : s.Rehearsed r
  concluded : s.Concluded r
  failed : s.job.status = .failed → s.job.FailedIn r.workflow s.rounds

namespace Performed

theorem wellFormed (h : s.Performed r outs) : r.workflow.WellFormed :=
  h.suits.workflow ▸ h.sound.wellFormed

/-- The job goes on after the tasks of the rounds before the last one. -/
theorem proceeds_of_lt (h : s.Performed r outs) {t : Task} (ht : t ∈ r.workflow.tasks)
    (hlt : r.workflow.depth t.name < s.rounds) : r.Proceeds t := by
  have hsettled := h.sound.settled
  rw [h.suits.workflow] at hsettled
  exact h.rehearsed.proceeds h.suits h.wellFormed h.kept ht (hsettled t ht hlt)

/-- What was handed over is what the rehearsal hands over. -/
theorem dispatched (h : s.Performed r outs) :
    s.course.started.map (fun x => (x.1, x.2.anonymous)) = s.started.filterMap r.dispatch? := by
  have hcall : ∀ x ∈ s.course.started,
      r.dispatch? (x.1, x.2.name) = some (x.1, x.2.anonymous) := by
    intro x hx
    obtain ⟨t, ht, hready⟩ := h.rehearsed.started x hx
    have hname : x.2.name = t.name := Rehearsal.name_of_ready hready
    unfold Rehearsal.dispatch?
    rw [hname, h.wellFormed.task?_name (Workflow.mem_layer.1 ht).1, Option.bind_some, hready]
    rfl
  unfold Scene.started
  rw [List.filterMap_map, ← List.filterMap_eq_map]
  exact List.filterMap_congr fun x hx => (hcall x hx).symm

/-- **What is started in the last round** is all of it or, if one of its tasks cannot
be made ready, nothing. -/
theorem started_eq (h : s.Performed r outs) :
    ((∃ t ∈ r.workflow.layer s.rounds, ∃ e, r.ready t = .error e) →
      s.started = r.workflow.schedule (s.rounds - 1)) ∧
    ((¬ ∃ t ∈ r.workflow.layer s.rounds, ∃ e, r.ready t = .error e) →
      s.started = r.workflow.schedule s.rounds) := by
  cases h.concluded with
  | completed status fate started all =>
    refine ⟨?_, fun _ => started⟩
    rintro ⟨t, ht, e, he⟩
    exact absurd (all t (Workflow.mem_layer.1 ht).1).2 (Rehearsal.not_proceeds_of_error he)
  | refused status refuses => exact ⟨fun _ => refuses.1, fun hn => absurd refuses.2 hn⟩
  | struck status strikes =>
    refine ⟨?_, fun _ => strikes.1⟩
    -- The task that cannot be made ready would have been started.
    rintro ⟨t, ht, e, he⟩
    obtain ⟨htask, hdepth⟩ := Workflow.mem_layer.1 ht
    have hin := h.wellFormed.mem_schedule_of_depth htask (Nat.le_of_eq hdepth)
    rw [← strikes.1] at hin
    obtain ⟨x, hx, hname⟩ := List.mem_map.1 hin
    obtain ⟨u, hu, hready⟩ := h.rehearsed.started x hx
    have hnames : u.name = t.name :=
      (Rehearsal.name_of_ready hready).symm.trans (congrArg Prod.snd hname)
    obtain rfl := h.wellFormed.eq_of_name (Workflow.mem_layer.1 hu).1 htask hnames
    rw [he] at hready
    cases hready

/-- **The job is completed exactly if it goes on after all tasks.** -/
theorem completed_iff (h : s.Performed r outs) :
    s.job.status = .completed ↔ ∀ t ∈ r.workflow.tasks, r.Proceeds t := by
  cases h.concluded with
  | completed status fate started all => exact ⟨fun _ t ht => (all t ht).2, fun _ => status⟩
  | refused status refuses =>
    obtain ⟨-, t, ht, e, he⟩ := refuses
    rw [status]
    refine ⟨nofun, fun hall => ?_⟩
    exact absurd (hall t (Workflow.mem_layer.1 ht).1) (Rehearsal.not_proceeds_of_error he)
  | struck status strikes =>
    obtain ⟨-, t, ht, hn⟩ := strikes
    rw [status]
    exact ⟨nofun, fun hall => absurd (hall t (Workflow.mem_layer.1 ht).1) hn⟩

/-- The job is completed or has failed. -/
theorem status (h : s.Performed r outs) :
    s.job.status = .completed ∨ s.job.status = .failed := by
  cases h.concluded with
  | completed status => exact Or.inl status
  | refused status => exact Or.inr status
  | struck status => exact Or.inr status

/-- The outcomes that a completed job gives an account of are those of the rehearsal. -/
theorem mem_outs (h : s.Performed r outs) (hdone : s.job.status = .completed) {o : Outcome} :
    o ∈ outs ↔ ∃ t ∈ r.workflow.tasks, r.outcome? t = some o := by
  have hfate : s.stage.fate? = none := by
    cases h.concluded with
    | completed status fate => exact fate
    | refused status => rw [hdone] at status; cases status
    | struck status => rw [hdone] at status; cases status
  have hproceeds := h.kept.proceeds hfate
  constructor
  · intro ho
    obtain ⟨t, ht, hname, -⟩ := h.kept.named o ho
    rw [h.suits.workflow] at ht
    have hends := h.kept.mem_ends ho (hproceeds o ho).1
    exact ⟨t, ht, h.rehearsed.outcome h.suits h.wellFormed hends ht hname⟩
  · rintro ⟨t, ht, ho⟩
    have hin := ((h.sound.whole hdone).2 t (h.suits.workflow ▸ ht)).2
    obtain ⟨o', ho', hname, hp⟩ := (h.kept.records.completed t.name).1 hin
    have hends := h.kept.mem_ends ho' hp
    rw [h.rehearsed.outcome h.suits h.wellFormed hends ht hname.symm] at ho
    obtain rfl := Option.some.inj ho
    exact ho'

/-- A round that one run has begun is begun by the other, too. -/
theorem rounds_le (h₁ : s₁.Performed r outs₁) (h₂ : s₂.Performed r outs₂) :
    s₁.rounds ≤ s₂.rounds := by
  by_contra hgt
  have hlt : s₂.rounds < s₁.rounds := Nat.lt_of_not_le hgt
  have hgoes : ∀ t ∈ r.workflow.layer s₂.rounds, r.Proceeds t := by
    intro t ht
    obtain ⟨htask, hdepth⟩ := Workflow.mem_layer.1 ht
    exact h₁.proceeds_of_lt htask (hdepth ▸ hlt)
  cases h₂.concluded with
  | completed status fate started all =>
    rcases h₁.sound.reached with hzero | ⟨t, ht, hdepth⟩
    · omega
    · rw [h₁.suits.workflow] at ht hdepth
      have hle := (all t ht).1
      omega
  | refused status refuses =>
    obtain ⟨-, t, ht, e, he⟩ := refuses
    exact Rehearsal.not_proceeds_of_error he (hgoes t ht)
  | struck status strikes =>
    obtain ⟨-, t, ht, hn⟩ := strikes
    exact hn (hgoes t ht)

/-- **Two runs that go as rehearsed come to the same.** -/
theorem agree (h₁ : s₁.Performed r outs₁) (h₂ : s₂.Performed r outs₂) :
    s₁.rounds = s₂.rounds ∧
      s₁.course.started.map (fun x => (x.1, x.2.anonymous))
        = s₂.course.started.map (fun x => (x.1, x.2.anonymous)) ∧
      s₁.job.status = s₂.job.status ∧
      (s₁.job.status = .completed → ∀ o, o ∈ outs₁ ↔ o ∈ outs₂) := by
  have hrounds : s₁.rounds = s₂.rounds := Nat.le_antisymm (h₁.rounds_le h₂) (h₂.rounds_le h₁)
  have hstarted : s₁.started = s₂.started := by
    obtain ⟨hnone₁, hall₁⟩ := h₁.started_eq
    obtain ⟨hnone₂, hall₂⟩ := h₂.started_eq
    rw [hrounds] at hnone₁ hall₁
    by_cases hrefused : ∃ t ∈ r.workflow.layer s₂.rounds, ∃ e, r.ready t = .error e
    · rw [hnone₁ hrefused, hnone₂ hrefused]
    · rw [hall₁ hrefused, hall₂ hrefused]
  have hdone : s₁.job.status = .completed ↔ s₂.job.status = .completed :=
    h₁.completed_iff.trans h₂.completed_iff.symm
  refine ⟨hrounds, ?_, ?_, fun hd o => ?_⟩
  · rw [h₁.dispatched, h₂.dispatched, hstarted]
  · rcases h₁.status with hd | hf
    · rw [hd, hdone.1 hd]
    · rcases h₂.status with hd | hf'
      · rw [hdone.2 hd, hd]
      · rw [hf, hf']
  · rw [h₁.mem_outs hd, h₂.mem_outs (hdone.1 hd)]

end Performed
end Scene

namespace World

/-- The moves bring the run of a job to its end, nobody stops the job, and the
attempts at each of its tasks come to what the answer to its assignment is, whatever
the job is called. -/
structure Performs (s : World) (moves : List Move) (id : String)
    (answer : Assignment → Option AttemptEnd) (c : Course) (j : Job) : Prop where
  course : (s.play moves).courses.get? id = some c
  job : (s.play moves).orchestrator.job? id = some j
  unstopped : ∀ now, .stop id now ∉ moves
  isOver : c.run.isOver
  answers : ∀ x ∈ c.taken, x.2 = answer x.1.assignment.anonymous

/-- Such a run goes as rehearsed. -/
theorem Performs.performed {registry : Registry} {settings : EngineSettings} {listening : Bool}
    {answer : Assignment → Option AttemptEnd} {moves : List Move} {id : String} {c : Course}
    {j : Job} (hcheck : ∀ kind worker, registry.worker? kind = some worker →
      ∀ a : Assignment, worker.check a.anonymous = worker.check a)
    (h : (initial registry settings listening).Performs moves id answer c j) :
    ∃ told outs,
      Scene.Performed ⟨c.workflow, j.parameters, registry, settings, answer⟩ ⟨j, c, told⟩ outs := by
  obtain ⟨-, k, told, hk, hreach, -⟩ :=
    reached_of_play (fun _ => False) (stopsOnly_of_notMem h.unstopped _ _) h.course
  obtain rfl := Option.some.inj (hk.symm.trans h.job)
  have hrests : Scene.Reached _ (fun r => r.isAwaiting) _ := hreach.mono fun _ ha => ha.elim
  obtain ⟨outs, hkept⟩ := hrests.kept
  have hsuits : Rehearsal.Suits ⟨c.workflow, k.parameters, registry, settings, answer⟩
      ⟨k, c, told⟩ := ⟨rfl, rfl, h.answers⟩
  have hrehearsed := hreach.rehearsed ⟨rfl, rfl, hcheck⟩ hsuits
  exact ⟨told, outs, hsuits, hreach.sound, hkept, hrehearsed,
    hrehearsed.concluded hsuits hreach.sound hkept hrests.timed hreach.not_stopped h.isOver,
    hkept.failedIn hreach.sound hrests.timed (Run.isAwaiting_of_isOver h.isOver)⟩

/-- **The order in which tasks end does not matter.**  Take two runs of one workflow
with the same parameters, workers and settings, whose jobs nobody stops, and in which
the attempts at a task come to what is a function of its assignment, the name of the
job aside.  In whatever histories they take place and in whatever order their tasks
end: they begin the same rounds, start the same tasks in each and hand over the same
for them; their jobs come to the same status; if that is failure, both fail by a task of
the same round; and if it is completion, they have the same tasks, results and
failures. -/
theorem schedule_independent (registry : Registry) (settings : EngineSettings)
    (answer : Assignment → Option AttemptEnd)
    (hcheck : ∀ kind worker, registry.worker? kind = some worker →
      ∀ a : Assignment, worker.check a.anonymous = worker.check a)
    (listening₁ listening₂ : Bool) (moves₁ moves₂ : List Move) (id₁ id₂ : String)
    (c₁ c₂ : Course) (j₁ j₂ : Job)
    (h₁ : (initial registry settings listening₁).Performs moves₁ id₁ answer c₁ j₁)
    (h₂ : (initial registry settings listening₂).Performs moves₂ id₂ answer c₂ j₂)
    (hworkflow : c₁.workflow = c₂.workflow) (hparameters : j₁.parameters = j₂.parameters) :
    c₁.rounds = c₂.rounds ∧
      c₁.started.map (fun x => (x.1, x.2.anonymous))
        = c₂.started.map (fun x => (x.1, x.2.anonymous)) ∧
      j₁.status = j₂.status ∧ (j₁.status = .completed ∨ j₁.status = .failed) ∧
      (j₁.status = .failed →
        j₁.FailedIn c₁.workflow c₁.rounds ∧ j₂.FailedIn c₂.workflow c₁.rounds) ∧
      (j₁.status = .completed →
        j₁.completedTasks = j₂.completedTasks ∧ j₁.failedTasks = j₂.failedTasks ∧
          j₁.results = j₂.results ∧
          ∀ n, (j₁.failures.get? n).map (fun f => (f.worker, f.error))
            = (j₂.failures.get? n).map fun f => (f.worker, f.error)) := by
  obtain ⟨told₁, outs₁, hp₁⟩ := h₁.performed hcheck
  obtain ⟨told₂, outs₂, hp₂⟩ := h₂.performed hcheck
  rw [hworkflow, hparameters] at hp₁
  obtain ⟨hrounds, hstarted, hstatus, houts⟩ := hp₁.agree hp₂
  have hrounds : c₁.rounds = c₂.rounds := hrounds
  refine ⟨hrounds, hstarted, hstatus, hp₁.status, fun hfailed => ⟨?_, ?_⟩,
    fun hdone => hp₁.kept.records.agree hp₂.kept.records (houts hdone)⟩
  · rw [hworkflow]
    exact hp₁.failed hfailed
  · rw [hrounds]
    exact hp₂.failed (hstatus.symm.trans hfailed)

end World

namespace Sample

/-- The first round with its tasks ending in the other order. -/
def swappedRound : List Move :=
  [step 1, step 1, step 1, step 1, .deliver "job" "survey" (some (.value .null)) ⟨2⟩, step 2,
    .deliver "job" "probe" none ⟨3⟩, step 3, step 3]

/-- What the attempts at the tasks come to, by their names. -/
def answer (a : Assignment) : Option AttemptEnd :=
  if a.name = "probe" then none else some (.value .null)

/-- The sample performs what its last world shows. -/
theorem performs (rest : List Move) {names : List String} {status : JobStatus}
    (hstop : ∀ now, .stop "job" now ∉ moves rest)
    (hcourse : ((world rest).courses.get? "job").map
      (fun c => (c.run.isOver, c.workflow, c.taken.map (·.1.name))) = some (true, workflow, names))
    (hanswers : ((world rest).courses.get? "job").map (fun c => c.taken.map (·.2))
      = ((world rest).courses.get? "job").map
        (fun c => c.taken.map fun x => answer x.1.assignment.anonymous))
    (hjob : ((world rest).orchestrator.job? "job").map (fun j => (j.status, j.parameters))
      = some (status, .empty)) :
    ∃ c j, (World.initial (.ofList [worker]) {} true).Performs (moves rest) "job" answer c j ∧
      c.workflow = workflow ∧ c.taken.map (·.1.name) = names ∧
      j.status = status ∧ j.parameters = .empty := by
  obtain ⟨c, hc, hshown⟩ := Option.map_eq_some_iff.1 hcourse
  obtain ⟨j, hj, htold⟩ := Option.map_eq_some_iff.1 hjob
  rw [hc, Option.map_some, Option.map_some, Option.some.injEq, List.map_inj_left] at hanswers
  rw [Prod.mk.injEq, Prod.mk.injEq] at hshown
  rw [Prod.mk.injEq] at htold
  obtain ⟨hover, hworkflow, hnames⟩ := hshown
  exact ⟨c, j, ⟨hc, hj, hstop, hover, hanswers⟩, hworkflow, hnames, htold.1, htold.2⟩

end Sample

namespace World

/-- In the sample, the tasks of the first round end in either order, and the job is
completed with the same results. -/
theorem schedule_independent_sample :
    ∃ c₁ c₂ j₁ j₂,
      (initial (.ofList [Sample.worker]) {} true).Performs
        (Sample.moves (Sample.firstRound ++ Sample.secondRound)) "job" Sample.answer c₁ j₁ ∧
      (initial (.ofList [Sample.worker]) {} true).Performs
        (Sample.moves (Sample.swappedRound ++ Sample.secondRound)) "job" Sample.answer c₂ j₂ ∧
      c₁.taken.map (·.1.name) = ["probe", "survey", "summary"] ∧
      c₂.taken.map (·.1.name) = ["survey", "probe", "summary"] ∧
      j₁.status = .completed ∧ j₁.failedTasks = j₂.failedTasks ∧ j₁.results = j₂.results := by
  have hstop : ∀ round, (∀ now, Move.stop "job" now ∉ round) →
      ∀ now, .stop "job" now ∉ Sample.moves (round ++ Sample.secondRound) := by
    intro round hround now
    simp [Sample.moves, Sample.secondRound, Sample.step, hround now]
  obtain ⟨c₁, j₁, h₁, hworkflow₁, hnames₁, hstatus₁, hparameters₁⟩ :=
    Sample.performs (Sample.firstRound ++ Sample.secondRound) (hstop Sample.firstRound (by
      simp [Sample.firstRound, Sample.step])) rfl rfl rfl
  obtain ⟨c₂, j₂, h₂, hworkflow₂, hnames₂, -, hparameters₂⟩ :=
    Sample.performs (Sample.swappedRound ++ Sample.secondRound) (hstop Sample.swappedRound (by
      simp [Sample.swappedRound, Sample.step])) rfl rfl rfl
  have hcheck : ∀ kind worker, (Registry.ofList [Sample.worker]).worker? kind = some worker →
      ∀ a : Assignment, worker.check a.anonymous = worker.check a := by
    intro kind worker hw a
    cases kind <;> cases hw
    rfl
  obtain ⟨-, -, -, -, -, hsame⟩ :=
    schedule_independent (.ofList [Sample.worker]) {} Sample.answer hcheck true true
      (Sample.moves (Sample.firstRound ++ Sample.secondRound))
      (Sample.moves (Sample.swappedRound ++ Sample.secondRound)) "job" "job" c₁ c₂ j₁ j₂ h₁ h₂
      (hworkflow₁.trans hworkflow₂.symm) (hparameters₁.trans hparameters₂.symm)
  obtain ⟨-, hfailed, hresults, -⟩ := hsame hstatus₁
  exact ⟨c₁, c₂, j₁, j₂, h₁, h₂, hnames₁, hnames₂, hstatus₁, hfailed, hresults⟩

end World
end Runbook
