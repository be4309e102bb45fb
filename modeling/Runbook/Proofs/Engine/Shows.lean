/-
# What a world has of one job

A move of a world does to one job nothing, a turn of it, or a stop of it, and nothing
else of the move shows there (`Tracked.shows_act`).  So an account of one job goes from
move to move without a word about the others.
-/

import Runbook.Proofs.Engine.Agree

namespace Runbook

namespace World

/-- What a world has of one job: the job, the course of its run, and what was told of
it, if somebody listens. -/
structure Shows (s : World) (id : String) (x : Scene) : Prop where
  course : s.courses.get? id = some x.course
  job : s.orchestrator.job? id = some x.job
  told : s.orchestrator.listening → s.orchestrator.told id = x.told

namespace Tracked

variable {env : Orchestrator} {may : String → Run → Prop} {s : World} {id : String} {x : Scene}

/-- Worlds that agree on a job show the same of it. -/
theorem shows_of_agree (hx : s.Shows id x) {t : World} (h : s.Agree t id) : t.Shows id x where
  course := h.course.symm.trans hx.course
  job := h.orchestrator.job.symm.trans hx.job
  told := fun hl => h.orchestrator.told.symm.trans (hx.told (h.orchestrator.listening.trans hl))

/-- A step or a delivery of the job's own run shows as a turn. -/
theorem shows_advanced (hx : s.Shows id x) (hid : x.course.run.jobId = id) {o' : Orchestrator}
    {c' : Course} (hadv : Run.Advances env s.orchestrator o' x.job x.course c' x.told) :
    ∃ x', Shows ⟨o', s.courses.insert id c'⟩ id x' ∧ (x' = x ∨ Turn env x x') := by
  obtain ⟨j', es, ch, hturn⟩ := hadv
  rw [hid] at ch
  refine ⟨⟨j', c', x.told ++ es⟩, ⟨?_, ch.job, fun hl => ?_⟩, ?_⟩
  · exact (s.courses.get?_insert id id c').trans (if_pos rfl)
  · have hl : s.orchestrator.listening := ch.listening ▸ hl
    rw [ch.told_self hl, hx.told hl]
  · rcases hturn with ⟨rfl, rfl, rfl⟩ | hturn
    · exact Or.inl (by rw [List.append_nil])
    · exact Or.inr hturn

/-- A stop of a running job shows. -/
theorem shows_stop (hx : s.Shows id x) (hid : x.course.run.jobId = id)
    (running : x.job.isTerminal = false) (now : Instant) :
    (s.act (.stop id now)).Shows id (x.stop now) := by
  have hstop := Orchestrator.stop_of_running hx.job running now
  obtain ⟨j, hj, -, -, ch⟩ := Orchestrator.changes_of_stop hstop
  rw [World.act, hstop]
  cases hj.symm.trans hx.job
  refine ⟨hx.course, ch.job, fun hl => ?_⟩
  have hl : s.orchestrator.listening := ch.listening ▸ hl
  rw [ch.told_self hl, hx.told hl, Scene.stop, Scene.id, hid]

/-- **What a move does to one job**: nothing, a turn of it, or a stop of it. -/
theorem shows_act (h : s.Tracked env may) (hx : s.Shows id x) (m : Move) :
    ∃ x', (s.act m).Shows id x' ∧
      (x' = x ∨ Turn env x x' ∨
        ∃ now, m = .stop id now ∧ x.job.isTerminal = false ∧ x' = x.stop now) := by
  have hid : x.course.run.jobId = id := (h.scene id x.course hx.course).1
  by_cases hm : m.job? = some id
  · cases m with
    | register w => cases hm
    | load path text => cases hm
    | start workflowId jobId parameters now =>
      cases hm
      rw [World.act, hx.course]
      exact ⟨x, hx, Or.inl rfl⟩
    | stop jobId now =>
      cases hm
      cases ht : x.job.isTerminal with
      | false => exact ⟨_, shows_stop hx hid ht now, Or.inr (Or.inr ⟨now, rfl, rfl, rfl⟩)⟩
      | true =>
        rw [World.act, Orchestrator.stop_of_terminal hx.job ht]
        exact ⟨x, hx, Or.inl rfl⟩
    | step jobId now =>
      cases hm
      rw [World.act, hx.course]
      obtain ⟨x', hx', hturn⟩ := shows_advanced hx hid
        (Run.advances_step h.registry h.settings (hid ▸ hx.job) now x.told)
      exact ⟨x', hx', hturn.imp_right Or.inl⟩
    | deliver jobId task e now =>
      cases hm
      rw [World.act, hx.course]
      dsimp only
      split
      · exact ⟨x, hx, Or.inl rfl⟩
      · rename_i p hp
        obtain ⟨x', hx', hturn⟩ := shows_advanced hx hid
          (@Run.advances_deliver env _ _ _ (hid ▸ hx.job) _ _ hp e now x.told)
        exact ⟨x', hx', hturn.imp_right Or.inl⟩
  · exact ⟨x, shows_of_agree hx (h.agree_act hm), Or.inl rfl⟩

end Tracked
end World
end Runbook
