/-
# Tasks of documents in runs

A task of a document is in order (`Task.Tidy`), so two things that a run guards against, or
would suffer from, do not happen to it.  Its name passes the check that every worker makes
(`Task.Tidy.checkName_assignment`), and where attempts have a limit at all, it is no shorter
than a second.

The second holds of whatever is attempted, since all that is ever in flight is a task of the
run's workflow or the final report (`Scene.Carries`), and the workflows of runs are those
that some move has offered (`World.Only`).
-/

import Runbook.Proofs.Engine.Operations
import Runbook.Proofs.Engine.Origin
import Runbook.Proofs.Workflow.Tidy

namespace Runbook

/-! ### The check of names -/

theorem Text.Proper.isBlankText_eq_false {s : String} (h : Proper s.toList) :
    isBlankText s = false := by
  obtain ⟨c, cs, hs⟩ := List.exists_cons_of_ne_nil h.ne_nil
  have hc : isBlank c = false := h.bare.1 c (by rw [hs]; rfl)
  rw [isBlankText, hs, List.all_cons, hc, Bool.false_and]

/-- A task that is in order passes the check of its name. -/
theorem Task.Tidy.checkName_assignment {t : Task} (h : t.Tidy) (jobId : String) (scope : Scope) :
    checkName (t.assignment jobId scope) = .ok := by
  have hname : Text.isBlankText (t.assignment jobId scope).name = false :=
    h.name.isBlankText_eq_false
  rw [checkName, hname]
  rfl

/-- A worker that checks the name alone finds no fault in it. -/
theorem Task.Tidy.prepare_ne_taskInvalid {t : Task} (h : t.Tidy) {o : Orchestrator}
    {worker : Worker} (hworker : o.registry.worker? t.worker = some worker)
    (hcheck : worker.check = checkName) (jobId : String) (scope : Scope) (name : String)
    (faults : List String) : o.prepare jobId scope t ≠ .error (.taskInvalid name faults) := by
  have hpass : (worker.check (t.assignment jobId scope)).valid = true := by
    rw [hcheck, h.checkName_assignment]
    rfl
  rw [Orchestrator.prepare_eq, hworker]
  simp only [hpass, if_true]
  split
  · exact fun hinvalid => by cases hinvalid
  · exact fun hinvalid => by cases hinvalid

/-! ### What is in flight -/

namespace Scene

variable {env : Orchestrator} {s s' : Scene}

/-- All that is in flight was made from a task of the workflow, or is the final report. -/
def Carries (env : Orchestrator) (s : Scene) : Prop :=
  ∀ p ∈ s.course.inFlight, s.Makes env p ∨ ∃ worker j, p = env.prepareReport worker j

/-- Nothing comes into flight, or something that is carried does. -/
theorem Carries.of_subset (h : s.Carries env) (hw : s'.workflow = s.workflow)
    (hflight : ∀ p ∈ s'.course.inFlight, p ∈ s.course.inFlight ∨ s.Makes env p ∨
      ∃ worker j, p = env.prepareReport worker j) : s'.Carries env := by
  intro p hp
  rw [Makes, hw]
  exact (hflight p hp).elim (h p) fun hnew => hnew

/-- **A turn keeps it.** -/
theorem Carries.turn (h : s.Carries env) (hd : s.Descended env) (ht : Turn env s s') :
    s'.Carries env := by
  refine h.of_subset ht.workflow_eq fun p hp => ?_
  cases ht with
  | pass pass =>
    cases pass with
    | discard | reportPanic | reportFail | reportDone => exact .inl (List.eraseP_subset hp)
    | reportBegin stage found =>
      rcases List.mem_append.1 hp with hp | hp
      · exact .inl hp
      · exact .inr (.inr ⟨_, _, List.mem_singleton.1 hp⟩)
    | _ => exact .inl hp
  | launch stage =>
    rcases List.mem_append.1 hp with hp | hp
    · exact .inl hp
    · refine .inr (.inl (hd.ready p ?_))
      rw [stage, List.mem_singleton.1 hp]
      exact List.mem_cons_self
  | takeUp => exact .inl (List.eraseP_subset hp)
  | _ => exact .inl hp

/-- It holds of every scene that is reached. -/
theorem Reached.carries {may : Run → Prop} (h : Reached env may s) : s.Carries env := by
  induction h with
  | start valid => exact fun _ hp => absurd hp List.not_mem_nil
  | turn before turn ih => exact ih.turn before.descended turn
  | stop before running allowed ih => exact ih

/-- Whatever is attempted has a second at least, if its run is one of a workflow that is in
order. -/
theorem Reached.le_limitMs {may : Run → Prop} (h : Reached env may s)
    (htidy : ∀ t ∈ s.workflow.tasks, t.Tidy) {p : Prepared}
    (hp : p ∈ s.course.inFlight ∨ p ∈ s.course.started.map (·.2)) {ms : Nat}
    (hms : p.limitMs = some ms) : 1000 ≤ ms := by
  have htask (hmakes : s.Makes env p) : 1000 ≤ ms := by
    obtain ⟨t, ht, hmade⟩ := hmakes
    rw [hmade.limitMs] at hms
    split at hms
    · cases hms
      exact (htidy t ht).timeoutMs
    · cases hms
  rcases hp with hp | hp
  · rcases h.carries p hp with hmakes | ⟨worker, j, rfl⟩
    · exact htask hmakes
    · rw [Orchestrator.prepareReport] at hms
      split at hms
      · cases hms
        decide
      · cases hms
  · obtain ⟨x, hx, rfl⟩ := List.mem_map.1 hp
    exact htask (h.descended.started x hx)

end Scene

/-! ### Where workflows come from -/

namespace World

variable {P : Workflow → Prop} {s : World}

/-- All workflows have a property: those that are registered, and those of runs. -/
structure Only (P : Workflow → Prop) (s : World) : Prop where
  workflows : ∀ id w, s.orchestrator.workflows.get? id = some w → P w
  courses : ∀ id c, s.courses.get? id = some c → P c.workflow

theorem Only.register (h : s.Only P) {w : Workflow} (hw : P w) : (s.register w).Only P := by
  by_cases hv : w.validate.valid
  · have henters := @enters_of_valid s w hv
    refine ⟨fun id v hget => ?_, henters.courses ▸ h.courses⟩
    by_cases hid : id = w.id
    · rw [hid, henters.own] at hget
      cases hget
      exact hw
    · rw [henters.others id hid] at hget
      exact h.workflows id v hget
  · rw [World.register, Orchestrator.register_of_not_valid hv]
    exact h

/-- A move keeps it if the workflow that it offers, if any, has the property. -/
theorem Only.act {env : Orchestrator} (h : s.Only P) (ht : s.Tracked env fun _ _ => True) {m : Move}
    (hm : ∀ w, m.offered? = some w → P w) : (s.act m).Only P := by
  cases hjob : m.job? with
  | none =>
    rw [act_of_unconcerned hjob]
    cases hoffered : m.offered? with
    | none => exact h
    | some w => exact h.register (hm w hoffered)
  | some jobId =>
    refine ⟨by rw [ht.workflows_act hjob]; exact h.workflows, fun id c hc => ?_⟩
    cases hbefore : s.courses.get? id with
    | some c' =>
      obtain ⟨c'', hc'', hsame⟩ := ht.course_act hbefore m
      cases hc.symm.trans hc''
      rw [hsame]
      exact h.courses id c' hbefore
    | none =>
      have hown : m.job? = some id := by
        by_contra hother
        rw [← (ht.agree_act hother).course, hbefore] at hc
        cases hc
      obtain ⟨workflowId, parameters, now, -, hw⟩ := start_of_act hbefore hc hown
      exact h.workflows workflowId _ hw

theorem Only.play {env : Orchestrator} (h : s.Only P) (ht : s.Tracked env fun _ _ => True)
    {moves : List Move} (hm : ∀ m ∈ moves, ∀ w, m.offered? = some w → P w) :
    (s.play moves).Only P := by
  induction moves generalizing s with
  | nil => exact h
  | cons m ms ih =>
    obtain ⟨hfirst, hrest⟩ := List.forall_mem_cons.1 hm
    exact ih (h.act ht hfirst) (ht.act_freely m) hrest

end World

/-- **Tasks of documents are in order, whatever the document says**, so none is rejected for its
name by the check that every worker makes, and a worker that checks nothing else rejects none
of them at all.  And whatever a run of a document has in flight or has started, the final
report included, is attempted without a limit or with one of at least a second. -/
theorem Workflow.documents_in_order :
    (∀ stem text, ∀ t ∈ (parseAs stem text).tasks, t.Tidy ∧
      (∀ jobId scope, checkName (t.assignment jobId scope) = .ok) ∧
      ∀ (o : Orchestrator) worker, o.registry.worker? t.worker = some worker →
        worker.check = checkName → ∀ jobId scope name faults,
          o.prepare jobId scope t ≠ .error (.taskInvalid name faults)) ∧
    ∀ registry settings listening moves,
      (∀ w, .register w ∈ moves → ∃ stem text, w = parseAs stem text) →
      ∀ id c, ((World.initial registry settings listening).play moves).courses.get? id = some c →
        ∀ p, p ∈ c.inFlight ∨ p ∈ c.started.map (·.2) →
          ∀ ms, p.limitMs = some ms → 1000 ≤ ms := by
  refine ⟨fun stem text t ht => ?_, fun registry settings listening moves hmoves id c hc => ?_⟩
  · have htidy := tidy_parseAs stem text t ht
    exact ⟨htidy, htidy.checkName_assignment,
      fun o worker hworker hcheck => htidy.prepare_ne_taskInvalid hworker hcheck⟩
  · have hnone : (World.initial registry settings listening).Only
        fun w => ∀ t ∈ w.tasks, t.Tidy := ⟨(fun _ _ h => nomatch h), (fun _ _ h => nomatch h)⟩
    have honly : ((World.initial registry settings listening).play moves).Only
        fun w => ∀ t ∈ w.tasks, t.Tidy :=
      hnone.play (World.tracked_initial registry settings listening fun _ _ => True) ?_
    · obtain ⟨-, j, told, -, hreach, -⟩ :=
        World.reached_of_play (fun _ => True) (fun _ _ _ _ _ _ => trivial) hc
      exact fun p hp ms hms => hreach.le_limitMs (honly.courses id c hc) hp hms
    · -- What is loaded is the workflow of a document in any case.
      intro m hm w hoffered
      have hdocument : ∃ stem text, w = parseAs stem text := by
        cases m with
        | register v =>
          cases hoffered
          exact hmoves w hm
        | load path text =>
          cases text with
          | error detail => cases hoffered
          | ok text =>
            cases hoffered
            exact ⟨_, text, rfl⟩
        | _ => cases hoffered
      obtain ⟨stem, text, rfl⟩ := hdocument
      exact tidy_parseAs stem text

namespace Sample

/-- A name in bold that is not closed, a list with nothing between its commas, and timeouts of
zero and of a second. -/
def document : List Char := "###\n- **  scan\n- After: , ,\n- Timeout: 0\n- Timeout: 1".toList

/-- A worker that checks the name alone. -/
def scanner : Worker := { worker with kind := .scan, check := checkName }

/-- The document is loaded, a job is started on it, and the task is started. -/
def loading : List Move :=
  [.load "plan.md" (.ok document), .start "plan" "job" .empty ⟨0⟩, step 1, step 1]

end Sample

theorem Workflow.documents_in_order_sample :
    (((World.initial (.ofList [Sample.scanner]) {} true).play Sample.loading).courses.get?
      "job").map (fun c => c.inFlight.map fun p => (p.name, p.limitMs))
        = some [("scan", some 1000)] ∧
    (∀ c, ((World.initial (.ofList [Sample.scanner]) {} true).play Sample.loading).courses.get?
      "job" = some c → ∀ p ∈ c.inFlight, ∀ ms, p.limitMs = some ms → 1000 ≤ ms) ∧
    ∀ t ∈ (parse Sample.document).tasks, ∀ faults,
      (World.initial (.ofList [Sample.scanner]) {} true).orchestrator.prepare "job"
        ⟨.empty, .empty⟩ t ≠ .error (.taskInvalid "scan" faults) := by
  refine ⟨by decide +kernel, fun c hc p hp ms hms => ?_, fun t ht faults => ?_⟩
  · refine documents_in_order.2 _ _ _ Sample.loading (fun w hw => ?_) "job" c hc p (.inl hp) ms hms
    simp [Sample.loading, Sample.step] at hw
  · have hscan : ∀ t ∈ (parse Sample.document).tasks, t.worker = .scan := by decide +kernel
    refine (documents_in_order.1 none Sample.document t ht).2.2 _ Sample.scanner ?_ rfl _ _ _ _
    rw [hscan t ht]
    rfl

end Runbook
