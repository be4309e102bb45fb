/-
# The workshop of a job

What a run starts is attempted beside it, and it goes on with whatever the attempts
come to.  The workshop of a job is a world together with the attempts at what its run
has started (`Effort`).  Beside the moves of the world, an attempt can begin, its
worker can let it end in any way or never, it can be cut off at its limit, and what it
came to can be taken up by the run (`Deed`).  A job takes outcomes from its workshop
only; all other jobs proceed as they like.

| deed             | what it changes                                   |
|------------------|---------------------------------------------------|
| `move m`         | the world, and what the job's run starts is due   |
| `begin task`     | one more call of the worker                       |
| `finish task e`  | the call ends: another one is due, or it is over  |
| `expire task`    | the same at the limit, if there is one            |
| `take task now`  | what is over is delivered                         |

The attempts are those at what is in flight, and with those that were taken up they
are the attempts at all that was started (`Workshop.Serves`).  What a host does to
execute a job is a history of such a workshop (`Host.InTurn.execute`).
-/

import Mathlib.Algebra.Order.Ring.Nat
import Mathlib.Data.List.Perm.Basic
import Runbook.Engine.Advance
import Runbook.Proofs.Engine.World

namespace Runbook

/-- Whether what is launched at the stage is a task. -/
def Stage.startsTasks : Stage → Bool
  | .starting .. => true
  | _ => false

/-- Where the attempts at something stand: another is due, one is being made, or none
follows. -/
inductive Effort.Standing where
  | due
  | underWay
  | ended (e : Option AttemptEnd)

/-- The attempts at something that was started: how many may still follow, and how
often its worker was called. -/
structure Effort where
  prepared : Prepared
  report : Bool
  left : Nat
  calls : Nat := 0
  standing : Effort.Standing := .due

namespace Effort

/-- No attempt has been made at what was started. -/
def new (report : Bool) (p : Prepared) : Effort := { prepared := p, report, left := p.retries }

/-- The name of what is attempted. -/
def name (a : Effort) : String := a.prepared.name

/-- An attempt begins: the worker is called. -/
def begin (a : Effort) : Effort :=
  match a.standing with
  | .due => { a with calls := a.calls + 1, standing := .underWay }
  | _ => a

/-- The attempt ends. -/
def conclude (e : Option AttemptEnd) (a : Effort) : Effort :=
  match a.standing, a.prepared.after a.left e with
  | .underWay, none => { a with left := a.left - 1, standing := .due }
  | .underWay, some _ => { a with standing := .ended e }
  | _, _ => a

/-- The attempt is cut off, if it has a limit. -/
def expire (a : Effort) : Effort := if a.prepared.limitMs.isSome then a.conclude none else a

/-- What the last attempt came to. -/
def end? (a : Effort) : Option (Option AttemptEnd) :=
  match a.standing with
  | .ended e => some e
  | _ => none

/-- How much can still be done about it, calls and their ends counted. -/
def rest (a : Effort) : Nat :=
  match a.standing with
  | .due => 2 * a.left + 2
  | .underWay => 2 * a.left + 1
  | .ended _ => 0

/-- The calls so far and those that may follow are one more than the retries. -/
def Counted (a : Effort) : Prop :=
  match a.standing with
  | .due => a.calls + a.left = a.prepared.retries
  | _ => a.calls + a.left = a.prepared.retries + 1

theorem Counted.calls_le {a : Effort} (h : a.Counted) : a.calls ≤ a.prepared.retries + 1 := by
  unfold Counted at h
  split at h <;> omega

/-- **What comes of an effort**: it is about the same thing, no call is lost, and if
anything happened, less can still be done about it. -/
structure Leads (a b : Effort) : Prop where
  prepared : b.prepared = a.prepared
  report : b.report = a.report
  counted : a.Counted → b.Counted
  rest : b = a ∨ b.rest < a.rest

theorem Leads.refl (a : Effort) : a.Leads a := ⟨rfl, rfl, fun h => h, Or.inl rfl⟩

theorem leads_begin (a : Effort) : a.Leads a.begin := by
  rw [begin]
  split
  · rename_i hdue
    refine ⟨rfl, rfl, fun h => ?_, Or.inr ?_⟩
    · rw [Counted, hdue] at h
      show a.calls + 1 + a.left = a.prepared.retries + 1
      omega
    · rw [rest, rest, hdue]
      dsimp only
      omega
  · exact .refl a

theorem leads_conclude (a : Effort) (e : Option AttemptEnd) : a.Leads (a.conclude e) := by
  rw [conclude]
  split
  · rename_i hway hafter
    have hleft : a.left ≠ 0 := by
      intro hzero
      rw [Prepared.after, hzero] at hafter
      cases hafter
    refine ⟨rfl, rfl, fun h => ?_, Or.inr ?_⟩
    · rw [Counted, hway] at h
      show a.calls + (a.left - 1) = a.prepared.retries
      have h : a.calls + a.left = a.prepared.retries + 1 := h
      omega
    · rw [rest, rest, hway]
      dsimp only
      omega
  · rename_i hway hafter
    refine ⟨rfl, rfl, fun h => ?_, Or.inr ?_⟩
    · rw [Counted, hway] at h
      exact h
    · rw [rest, rest, hway]
      dsimp only
      omega
  · exact .refl a

theorem leads_expire (a : Effort) : a.Leads a.expire := by
  rw [expire]
  split
  · exact a.leads_conclude none
  · exact .refl a

/-- An attempt that is due can begin. -/
theorem rest_begin_lt {a : Effort} (h : a.standing = .due) : a.begin.rest < a.rest := by
  rw [begin, h, rest, rest, h]
  dsimp only
  omega

/-- An attempt that is being made can be cut off at its limit. -/
theorem rest_expire_lt {a : Effort} (h : a.standing = .underWay)
    (limit : a.prepared.limitMs.isSome) : a.expire.rest < a.rest := by
  rcases a.leads_expire.rest with he | hlt
  · rw [expire, if_pos limit, conclude, h] at he
    cases hafter : a.prepared.after a.left none with
    | none =>
      rw [hafter] at he
      exact absurd (congrArg standing he) (by rw [h]; exact nofun)
    | some o =>
      rw [hafter] at he
      exact absurd (congrArg standing he) (by rw [h]; exact nofun)
  · exact hlt

end Effort

/-- A world, the attempts at what is in flight of one job, and those that were taken up. -/
structure Workshop where
  world : World
  efforts : List Effort := []
  done : List Effort := []

/-- Something that can happen in a workshop. -/
inductive Deed where
  | move (m : Move)
  | begin (task : String)
  | finish (task : String) (e : AttemptEnd)
  | expire (task : String)
  | take (task : String) (now : Instant)

/-- Whether it is up to a worker. -/
def Deed.isWorkers : Deed → Bool
  | .finish .. => true
  | _ => false

theorem Course.run_follow (c : Course) (s : Stepped) : (c.follow s).run = s.run := by
  rw [follow]
  split <;> rfl

theorem Course.inFlight_follow (c : Course) (s : Stepped) :
    (c.follow s).inFlight = c.inFlight ++ s.launched.toList := by
  rw [follow]
  cases s.launched with
  | some p => rfl
  | none => exact (List.append_nil _).symm

/-- A step of a run that does not wait makes it lighter. -/
theorem Course.weight_follow_lt {c : Course} (h : c.run.isAwaiting = false) (o : Orchestrator)
    (now : Instant) : (c.follow (c.run.step o now)).run.weight < c.run.weight := by
  rw [run_follow]
  exact Run.weight_step_lt o now h

/-- **Only its own steps and deliveries change the course of a run**, once it has been
started. -/
theorem World.courses_act {id : String} {s : World} {m : Move}
    (hstep : ∀ now, m = .step id now → s.courses.get? id = none)
    (hdeliver : ∀ task e now, m = .deliver id task e now → s.courses.get? id = none) :
    (s.act m).courses.get? id = s.courses.get? id ∨
      s.courses.get? id = none ∧ ∃ w pending,
        (s.act m).courses.get? id = some { workflow := w, run := ⟨id, .round pending⟩ } := by
  have hinsert : ∀ {jobId : String} (c : Course), id ≠ jobId →
      (s.courses.insert jobId c).get? id = s.courses.get? id := fun {jobId} c hne =>
    (s.courses.get?_insert jobId id c).trans (if_neg hne)
  have hregister : ∀ w, (s.register w).courses.get? id = s.courses.get? id := fun w => by
    rcases s.register_cases w with ⟨-, hact⟩ | hact <;> rw [hact]
  cases m with
  | register w => exact Or.inl (hregister w)
  | load path text =>
    cases text with
    | error detail => exact Or.inl rfl
    | ok text => exact Or.inl (hregister _)
  | start workflowId jobId parameters now =>
    rcases s.start_cases workflowId jobId parameters now with ⟨w, o, hc, -, -, hact⟩ | hact
    · rw [hact]
      by_cases hne : id = jobId
      · subst hne
        exact Or.inr ⟨hc, w, w.tasks, (s.courses.get?_insert id id _).trans (if_pos rfl)⟩
      · exact Or.inl (hinsert _ hne)
    · exact Or.inl (by rw [hact])
  | stop jobId now => exact Or.inl rfl
  | step jobId now =>
    rw [World.act]
    split
    · exact Or.inl rfl
    · rename_i c hc
      refine Or.inl (hinsert _ fun he => ?_)
      rw [← he, hstep now (by rw [he])] at hc
      cases hc
  | deliver jobId task e now =>
    rw [World.act]
    split
    · exact Or.inl rfl
    · rename_i c hc
      split
      · exact Or.inl rfl
      · refine Or.inl (hinsert _ fun he => ?_)
        rw [← he, hdeliver task e now (by rw [he])] at hc
        cases hc

namespace Workshop

/-- One change to the effort of a name. -/
def alter (task : String) (g : Effort → Effort) : List Effort → List Effort
  | [] => []
  | a :: as => if a.name == task then g a :: as else a :: alter task g as

/-- What the run of the job starts with a move. -/
def launches (id : String) (s : World) : Move → List Effort
  | .step jobId now =>
    match jobId == id, s.courses.get? id with
    | true, some c =>
      (c.run.step s.orchestrator now).launched.toList.map
        (Effort.new (!c.run.stage.startsTasks))
    | _, _ => []
  | _ => []

/-- The effort of a name whose end the run of the job can take, and the end. -/
def ripe? (id : String) (s : Workshop) (task : String) : Option (Effort × Option AttemptEnd) := do
  let c ← s.world.courses.get? id
  let _ ← c.awaited? task
  let a ← s.efforts.find? fun a => a.name == task
  return (a, ← a.end?)

/-- The workshop after a deed. -/
def act (id : String) (s : Workshop) : Deed → Workshop
  | .move (.deliver jobId task e now) =>
    if jobId = id then s else { s with world := s.world.act (.deliver jobId task e now) }
  | .move m => { s with world := s.world.act m, efforts := s.efforts ++ launches id s.world m }
  | .begin task => { s with efforts := alter task Effort.begin s.efforts }
  | .finish task e => { s with efforts := alter task (Effort.conclude (some e)) s.efforts }
  | .expire task => { s with efforts := alter task Effort.expire s.efforts }
  | .take task now =>
    match s.ripe? id task with
    | none => s
    | some (a, e) =>
      { world := s.world.act (.deliver id task e now)
        efforts := s.efforts.eraseP fun b => b.name == task
        done := s.done ++ [a] }

/-- The workshop after some deeds. -/
def play (id : String) (s : Workshop) (deeds : List Deed) : Workshop := deeds.foldl (act id) s

theorem play_append (id : String) (s : Workshop) (pre post : List Deed) :
    s.play id (pre ++ post) = (s.play id pre).play id post :=
  List.foldl_append

/-- The workshop of a job in a world in which nothing has happened. -/
def initial (registry : Registry) (settings : EngineSettings) (listening : Bool) : Workshop :=
  { world := .initial registry settings listening }

/-- The course of the job's run. -/
def course? (id : String) (s : Workshop) : Option Course := s.world.courses.get? id

/-- All attempts at what the job's run has started. -/
def all (s : Workshop) : List Effort := s.done ++ s.efforts

/-- The attempts at tasks, or those at the final report. -/
def allOf (report : Bool) (s : Workshop) : List Effort := s.all.filter fun a => a.report == report

/-- The attempts at tasks. -/
def tasks (s : Workshop) : List Effort := s.allOf false

/-- The attempts at the final report. -/
def reports (s : Workshop) : List Effort := s.allOf true

/-- How often the workers were called by some efforts. -/
def calls (as : List Effort) : Nat := (as.map (·.calls)).sum

/-! ### Deeds and moves -/

variable {id : String} {s : Workshop}

/-- **What a deed does to the world**: nothing, or what one move does. -/
theorem world_act (id : String) (s : Workshop) (d : Deed) :
    (s.act id d).world = s.world ∨ ∃ m, (s.act id d).world = s.world.act m ∧
      ∀ jobId now, m = .stop jobId now → d = .move m := by
  cases d with
  | move m =>
    cases m with
    | deliver jobId task e now =>
      rw [act]
      split
      · exact Or.inl rfl
      · exact Or.inr ⟨.deliver jobId task e now, rfl, nofun⟩
    | _ => exact Or.inr ⟨_, rfl, fun _ _ _ => rfl⟩
  | begin task | finish task e | expire task => exact Or.inl rfl
  | take task now =>
    rw [act]
    split
    · exact Or.inl rfl
    · rename_i a e hripe
      exact Or.inr ⟨.deliver id task e now, rfl, nofun⟩

/-- Any move but a delivery to the job's run may launch something. -/
theorem act_move {m : Move} (h : ∀ task e now, m ≠ .deliver id task e now) :
    s.act id (.move m) =
      { s with world := s.world.act m, efforts := s.efforts ++ launches id s.world m } := by
  cases m with
  | deliver jobId task e now =>
    have hne : jobId ≠ id := fun he => h task e now (by rw [he])
    show _ = { s with world := _, efforts := s.efforts ++ [] }
    rw [act, if_neg hne, List.append_nil]
  | _ => rfl

/-- A step of the job's run may launch something. -/
theorem act_step (now : Instant) :
    s.act id (.move (.step id now)) =
      { s with
        world := s.world.act (.step id now)
        efforts := s.efforts ++ launches id s.world (.step id now) } := rfl

/-- Only a step of a run that has been started launches anything. -/
theorem launches_eq_nil {s : World} {m : Move}
    (h : ∀ now, m = .step id now → s.courses.get? id = none) : launches id s m = [] := by
  cases m with
  | step jobId now =>
    rw [launches]
    cases hid : jobId == id with
    | false => rfl
    | true => rw [h now (by rw [eq_of_beq hid])]
  | _ => rfl

/-- What the run starts with a step of its own. -/
theorem launches_step {s : World} {c : Course} (hc : s.courses.get? id = some c) (now : Instant) :
    launches id s (.step id now) =
      (c.run.step s.orchestrator now).launched.toList.map
        (Effort.new (!c.run.stage.startsTasks)) := by
  rw [launches, beq_self_eq_true, hc]

/-- What is ripe is found among the efforts, is over, and is awaited. -/
theorem of_ripe? {task : String} {a : Effort} {e : Option AttemptEnd}
    (h : s.ripe? id task = some (a, e)) :
    ∃ c p, s.course? id = some c ∧ c.awaited? task = some p ∧
      s.efforts.find? (fun b => b.name == task) = some a ∧ a.standing = .ended e := by
  rw [ripe?] at h
  obtain ⟨c, hc, h⟩ := Option.bind_eq_some_iff.1 h
  obtain ⟨p, hp, h⟩ := Option.bind_eq_some_iff.1 h
  obtain ⟨b, hb, h⟩ := Option.bind_eq_some_iff.1 h
  obtain ⟨f, hf, h⟩ := Option.bind_eq_some_iff.1 h
  cases h
  refine ⟨c, p, hc, hp, hb, ?_⟩
  rw [Effort.end?] at hf
  split at hf
  · rename_i hover
    cases hf
    exact hover
  · cases hf

/-- What is over and awaited is ripe. -/
theorem ripe?_eq {task : String} {c : Course} {p : Prepared} {a : Effort} {e : Option AttemptEnd}
    (hc : s.course? id = some c) (hp : c.awaited? task = some p)
    (ha : s.efforts.find? (fun b => b.name == task) = some a) (he : a.standing = .ended e) :
    s.ripe? id task = some (a, e) := by
  have hend : a.end? = some e := by rw [Effort.end?, he]
  have hc : s.world.courses.get? id = some c := hc
  rw [ripe?, hc, Option.bind_eq_bind, Option.bind_some, hp, Option.bind_eq_bind, Option.bind_some,
    ha, Option.bind_eq_bind, Option.bind_some, hend]
  rfl

/-- The course after a step of the run. -/
theorem course?_step {c : Course} (hc : s.course? id = some c) (now : Instant) :
    (s.act id (.move (.step id now))).course? id
      = some (c.follow (c.run.step s.world.orchestrator now)) := by
  have hc : s.world.courses.get? id = some c := hc
  rw [course?, act_step, World.act, hc]
  exact (s.world.courses.get?_insert id id _).trans (if_pos rfl)

/-- The course after an outcome was taken up. -/
theorem course?_take {task : String} {c : Course} {p : Prepared} {a : Effort}
    {e : Option AttemptEnd} (hc : s.course? id = some c) (hp : c.awaited? task = some p)
    (hripe : s.ripe? id task = some (a, e)) (now : Instant) :
    (s.act id (.take task now)).course? id
      = some (c.receive p e (c.run.deliver s.world.orchestrator (p.outcomeOf e) now).2) := by
  have hc : s.world.courses.get? id = some c := hc
  rw [act, hripe, course?]
  dsimp only
  rw [World.act, hc]
  dsimp only
  rw [hp]
  exact (s.world.courses.get?_insert id id _).trans (if_pos rfl)

end Workshop
end Runbook
