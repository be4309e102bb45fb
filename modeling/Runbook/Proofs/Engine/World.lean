/-
# Histories of orchestrators

An orchestrator with the runs it has started, and everything that can happen to
them: workflows are registered or loaded, jobs are started and stopped, a run
makes one of its steps, or the outcome of a task that is in flight is delivered.
A history is any list of such moves in any order, so all runs proceed side by
side and come in between each other at every step.  A move that is not possible
changes nothing: an identifier of a job is used once, and only a run that waits
takes an outcome.

Beside the run stands what it has done so far (`Course`).  This is read off the
steps of the run and never read by them.
-/

import Runbook.Proofs.Engine.Jobs
import Runbook.Workflow.Library

namespace Runbook

/-- The name of the task. -/
def Prepared.name (p : Prepared) : String := p.assignment.name

namespace Stage

/-- Whether the stage waits for the outcome of something in flight. -/
def takesOutcomes : Stage → Bool
  | .waiting (_ + 1) _ | .awaitingReport => true
  | _ => false

/-- Whether going from one stage to the other is the beginning of a round: there
were ready tasks, whether or not all of them could be prepared. -/
def beginsRound : Stage → Stage → Bool
  | .round _, .starting .. | .round _, .rejecting .. => true
  | _, _ => false

end Stage

/-- A run on its way: the workflow that it was started on, the rounds that it has
begun, the tasks that it has started with the round of each, what is in flight,
and the ends of attempts that it has taken up, in order. -/
structure Course where
  workflow : Workflow
  run : Run
  rounds : Nat := 0
  started : List (Nat × Prepared) := []
  inFlight : List Prepared := []
  taken : List (Prepared × Option AttemptEnd) := []

namespace Course

/-- The course after a step of its run.  What is launched while a round starts is
a task; the final report is not. -/
def follow (c : Course) (s : Stepped) : Course :=
  match s.launched with
  | some p =>
    { c with
      run := s.run
      inFlight := c.inFlight ++ [p]
      started :=
        match c.run.stage with
        | .starting .. => c.started ++ [(c.rounds, p)]
        | _ => c.started }
  | none =>
    { c with
      run := s.run
      rounds := if c.run.stage.beginsRound s.run.stage then c.rounds + 1 else c.rounds }

/-- The task of a name whose outcome the run can take. -/
def awaited? (c : Course) (task : String) : Option Prepared :=
  if c.run.stage.takesOutcomes then c.inFlight.find? fun p => p.name == task else none

/-- The course after an outcome was delivered to its run.  An outcome that the
run does not record is not taken up. -/
def receive (c : Course) (p : Prepared) (e : Option AttemptEnd) (r : Run) : Course :=
  { c with
    run := r
    inFlight := c.inFlight.eraseP fun q => q.name == p.name
    taken :=
      match r.stage with
      | .recording .. => c.taken ++ [(p, e)]
      | _ => c.taken }

end Course

/-- Something that can happen. -/
inductive Move where
  | register (workflow : Workflow)
  | load (path : String) (text : Except String (List Char))
  | start (workflowId jobId : String) (parameters : Dict Json) (now : Instant)
  | stop (jobId : String) (now : Instant)
  | step (jobId : String) (now : Instant)
  | deliver (jobId task : String) (e : Option AttemptEnd) (now : Instant)

/-- The job that a move concerns; none if it concerns the registered workflows. -/
def Move.job? : Move → Option String
  | .register _ | .load .. => none
  | .start _ jobId _ _ | .stop jobId _ | .step jobId _ | .deliver jobId _ _ _ => some jobId

/-- The workflow that a move offers to be registered. -/
def Move.offered? : Move → Option Workflow
  | .register w => some w
  | .load path (.ok text) => some (.parseAs (Path.stem? path) text)
  | _ => none

/-- An orchestrator and the courses of its runs by the identifiers of their jobs. -/
structure World where
  orchestrator : Orchestrator
  courses : Dict Course := .empty

namespace World

/-- A world in which nothing has happened. -/
def initial (registry : Registry) (settings : EngineSettings) (listening : Bool) : World :=
  { orchestrator := { registry, settings, listening } }

/-- The world with a workflow registered, if it is valid. -/
def register (s : World) (w : Workflow) : World :=
  { s with orchestrator := (s.orchestrator.register w).2 }

/-- The world after a move.  Whatever an operation answers, the state that it leaves is
the one that the world goes on with. -/
def act (s : World) : Move → World
  | .register w => s.register w
  | .load path text =>
    { s with orchestrator := (s.orchestrator.load (Workflow.ofFile path text)).2 }
  | .start workflowId jobId parameters now =>
    match s.courses.get? jobId with
    | some _ => s
    | none =>
      let (started, o) := s.orchestrator.start workflowId jobId parameters now
      match started, s.orchestrator.workflows.get? workflowId with
      | .ok r, some w =>
        { orchestrator := o, courses := s.courses.insert jobId { workflow := w, run := r } }
      | _, _ => { s with orchestrator := o }
  | .stop jobId now => { s with orchestrator := (s.orchestrator.stop jobId now).2 }
  | .step jobId now =>
    match s.courses.get? jobId with
    | none => s
    | some c =>
      let stepped := c.run.step s.orchestrator now
      { orchestrator := stepped.orchestrator
        courses := s.courses.insert jobId (c.follow stepped) }
  | .deliver jobId task e now =>
    match s.courses.get? jobId with
    | none => s
    | some c =>
      match c.awaited? task with
      | none => s
      | some p =>
        let (o, r) := c.run.deliver s.orchestrator (p.outcomeOf e) now
        { orchestrator := o, courses := s.courses.insert jobId (c.receive p e r) }

/-- A workflow is registered if it is valid, and else nothing changes. -/
theorem register_cases (s : World) (w : Workflow) :
    w.validate.valid ∧ s.register w = { s with orchestrator := { s.orchestrator with
      workflows := s.orchestrator.workflows.insert w.id w } } ∨ s.register w = s := by
  by_cases hv : w.validate.valid
  · exact Or.inl ⟨hv, by rw [register, Orchestrator.register_of_valid hv]⟩
  · exact Or.inr (by rw [register, Orchestrator.register_of_not_valid hv])

/-- A job is started if it is new and its workflow is known, and else nothing changes. -/
theorem start_cases (s : World) (workflowId jobId : String) (parameters : Dict Json)
    (now : Instant) :
    (∃ w o, s.courses.get? jobId = none ∧ s.orchestrator.workflows.get? workflowId = some w ∧
      s.orchestrator.start workflowId jobId parameters now = (.ok ⟨jobId, .round w.tasks⟩, o) ∧
      s.act (.start workflowId jobId parameters now) =
        ⟨o, s.courses.insert jobId { workflow := w, run := ⟨jobId, .round w.tasks⟩ }⟩) ∨
      s.act (.start workflowId jobId parameters now) = s := by
  cases hc : s.courses.get? jobId with
  | some c => exact Or.inr (by rw [act, hc])
  | none =>
    cases hw : s.orchestrator.workflows.get? workflowId with
    | none => exact Or.inr (by rw [act, hc, Orchestrator.start_of_unknown hw])
    | some w =>
      have hstart := Orchestrator.start.eq_def s.orchestrator workflowId jobId parameters now
      rw [hw] at hstart
      exact Or.inl ⟨w, _, rfl, rfl, hstart, by rw [act, hc, hstart, hw]⟩

/-- A job is stopped if the orchestrator stops it, and else nothing changes. -/
theorem stop_cases (s : World) (jobId : String) (now : Instant) :
    (∃ j o, s.orchestrator.stop jobId now = (.ok j, o) ∧
      s.act (.stop jobId now) = { s with orchestrator := o }) ∨
      s.act (.stop jobId now) = s := by
  cases hj : s.orchestrator.job? jobId with
  | none => exact Or.inr (by rw [act, Orchestrator.stop_of_unknown hj])
  | some j =>
    cases ht : j.isTerminal with
    | true => exact Or.inr (by rw [act, Orchestrator.stop_of_terminal hj ht])
    | false =>
      have hstop := Orchestrator.stop_of_running hj ht now
      exact Or.inl ⟨_, _, hstop, by rw [act, hstop]⟩

/-- The workflow of a file that could be read is registered. -/
theorem act_load_ok (s : World) (path : String) (text : List Char) :
    s.act (.load path (.ok text)) = s.register (.parseAs (Path.stem? path) text) := by
  rw [act, Workflow.ofFile]
  -- comparing the two sides should not read the text
  generalize Workflow.parseAs (Path.stem? path) text = w
  rfl

/-- A move that concerns no job registers what it offers. -/
theorem act_of_unconcerned {m : Move} (hm : m.job? = none) (s : World) :
    s.act m = m.offered?.elim s s.register := by
  cases m with
  | register w => rfl
  | load path text => cases text <;> rfl
  | start workflowId jobId parameters now => cases hm
  | stop jobId now => cases hm
  | step jobId now => cases hm
  | deliver jobId task e now => cases hm

/-- The world after some moves. -/
def play (s : World) (moves : List Move) : World := moves.foldl act s

theorem play_cons (s : World) (m : Move) (moves : List Move) :
    s.play (m :: moves) = (s.act m).play moves := rfl

theorem play_append (s : World) (pre post : List Move) :
    s.play (pre ++ post) = (s.play pre).play post := List.foldl_append

/-- Wherever the moves stop the job of an identifier, its run may be stopped. -/
def StopsOnly (may : Run → Prop) (id : String) (s : World) (moves : List Move) : Prop :=
  ∀ pre now post, moves = pre ++ .stop id now :: post →
    ∀ c, (s.play pre).courses.get? id = some c → may c.run

theorem stopsOnly_nil (may : Run → Prop) (id : String) (s : World) : s.StopsOnly may id [] :=
  fun _ _ _ h => absurd h.symm (List.append_ne_nil_of_right_ne_nil _ (List.cons_ne_nil _ _))

/-- The first move and the others after it. -/
theorem stopsOnly_cons {may : Run → Prop} {id : String} {s : World} {m : Move} {ms : List Move} :
    s.StopsOnly may id (m :: ms) ↔
      (∀ now, m = .stop id now → ∀ c, s.courses.get? id = some c → may c.run) ∧
        (s.act m).StopsOnly may id ms := by
  constructor
  · intro h
    refine ⟨fun now hm => h [] now ms (by rw [hm]; rfl), fun pre now post heq => ?_⟩
    exact h (m :: pre) now post (by rw [heq]; rfl)
  · rintro ⟨hfirst, hrest⟩ pre now post heq
    cases pre with
    | nil =>
      cases heq
      exact hfirst now rfl
    | cons a pre =>
      cases heq
      exact hrest pre now post rfl

/-- Moves of which none stops the job stop it nowhere. -/
theorem stopsOnly_of_notMem {id : String} {moves : List Move} (h : ∀ now, .stop id now ∉ moves)
    (may : Run → Prop) (s : World) : s.StopsOnly may id moves := by
  rintro pre now post rfl
  exact absurd (List.mem_append_right pre List.mem_cons_self) (h now)

end World

/-! ### A workflow to try -/

namespace Sample

/-- A worker that finds no fault in any assignment. -/
def worker : Worker :=
  { kind := .general, capabilities := [], check := fun _ => .ok, attempt := fun _ _ => .hang }

/-- A task for that worker. -/
def task (name : String) (dependencies : List String) : Task :=
  { name, phase := "", worker := .general, action := .execute
    dependencies := .ofList dependencies }

/-- Two tasks side by side, the second of which may fail, and one after both. -/
def workflow : Workflow :=
  { id := "sample", name := "Sample"
    tasks := [task "survey" [], { task "probe" [] with continueFlag := true },
      task "summary" ["survey", "probe"]] }

/-- The workflow is registered, a job is started on it, and some moves follow. -/
def moves (rest : List Move) : List Move :=
  .register workflow :: .start "sample" "job" .empty ⟨0⟩ :: rest

/-- The world after these moves. -/
def world (rest : List Move) : World :=
  (World.initial (.ofList [worker]) {} true).play (moves rest)

/-- A step of the job at an instant. -/
def step (ms : Nat) : Move := .step "job" ⟨ms⟩

/-- The first round: the second task fails before the first one ends. -/
def firstRound : List Move :=
  [step 1, step 1, step 1, step 1, .deliver "job" "probe" none ⟨2⟩, step 2,
    .deliver "job" "survey" (some (.value .null)) ⟨3⟩, step 3, step 3]

/-- The job is stopped in the first round, while a task is in flight. -/
def stopped : List Move :=
  [step 1, step 1, step 1, step 1, .deliver "job" "probe" none ⟨2⟩, step 2, .stop "job" ⟨3⟩]

/-- The second round, up to the end of the run. -/
def secondRound : List Move :=
  [step 4, step 4, step 4, .deliver "job" "summary" (some (.value .null)) ⟨5⟩, step 5, step 5,
    step 5, step 5, step 5, step 5]

end Sample
end Runbook
