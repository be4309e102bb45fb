/-
# No outcome takes the place of another

The name of a file in the archive is made of four parts with dashes between them.  Two of the
parts may hold dashes themselves, but the outer ones never do, so the name can be cut into its
parts again (`fileName_eq_iff`).

| part of the name     | what it tells of a record                            |
|----------------------|------------------------------------------------------|
| word                 | whether the task succeeded                           |
| worker               | its worker                                           |
| name                 | the task's name, with an underscore for each slash   |
| time                 | the millisecond of saving                            |

The first three parts are the record's `label`.  What is saved one after the other under
different labels is all there in the end, each record in a file of its own, at whatever time
it was saved (`archived_apart`).  Tasks whose names differ only in slashes and underscores
have one label: saved in the same millisecond, the later takes the place of the earlier
(`slashes_share_a_file`).
-/

import Runbook.Archive
import Runbook.Host.InMemory
import Runbook.Proofs.FileTree

namespace Runbook

/-- A host in memory that has its time from some clock. -/
def InMemory.hostWithClock (clock : StateM InMemory Instant) : Host (StateM InMemory) :=
  { host with now := clock }

/-- What is done next starts where the first thing ends. -/
theorem run_bind_of_run {σ α β : Type} {x : StateM σ α} {s s' : σ} {a : α} (h : x.run s = (a, s'))
    (f : α → StateM σ β) : (x >>= f).run s = (f a).run s' := by
  rw [StateT.run_bind, h]
  rfl

theorem InMemory.run_change_ok {f : FileTree → Except FileFault FileTree} {s : InMemory}
    {files : FileTree} (h : f s.files = .ok files) :
    (change f).run s = (.ok (), { s with files }) := by
  rw [change, run_bind_of_run (x := get) rfl, h]
  rfl

theorem InMemory.run_change_error {f : FileTree → Except FileFault FileTree} {s : InMemory}
    {e : FileFault} (h : f s.files = .error e) : (change f).run s = (.error (s.wording e), s) := by
  rw [change, run_bind_of_run (x := get) rfl, h]
  rfl

namespace ArchiveRecord

/-- What the name of a record's file tells, apart from the time. -/
def label (r : ArchiveRecord) : String × WorkerKind × String := (r.word, r.worker, flatName r.task)

/-- The octets of a record's file. -/
def content (r : ArchiveRecord) (stamp : Instant) : ByteArray := (r.toJson stamp).pretty.toUTF8

/-! ### The names of the files -/

variable {r r' : ArchiveRecord} {t t' : Instant}

theorem toList_fileName (r : ArchiveRecord) (t : Instant) :
    (r.fileName t).toList = r.word.toList ++ '-' :: (r.worker.word.toList ++
      '-' :: ((flatName r.task).toList ++ '-' :: (Nat.toDigits 10 t.ms ++ ".json".toList))) := by
  simp [fileName, String.intercalate_cons_cons]

theorem notMem_word (r : ArchiveRecord) : '-' ∉ r.word.toList ∧ '/' ∉ r.word.toList := by
  unfold word
  split <;> decide

theorem notMem_workerWord (k : WorkerKind) : '-' ∉ k.word.toList ∧ '/' ∉ k.word.toList := by
  cases k <;> decide

theorem slash_notMem_flatName (task : String) : '/' ∉ (flatName task).toList := by
  rw [flatName, String.toList_ofList, List.mem_map]
  rintro ⟨c, -, hc⟩
  split at hc <;> simp_all

theorem notMem_digits {c : Char} (h : c.isDigit = false) (n : Nat) : c ∉ Nat.toDigits 10 n :=
  fun hc => by simp [Nat.isDigit_of_mem_toDigits (by decide) (by decide) hc] at h

/-- What follows the last dash is the time. -/
theorem dash_notMem_time (t : Instant) : '-' ∉ Nat.toDigits 10 t.ms ++ ".json".toList := by
  rw [List.mem_append, not_or]
  exact ⟨notMem_digits (by decide) t.ms, by decide⟩

/-- **The name of a file tells the label and the time, and nothing else.** -/
theorem fileName_eq_iff : r.fileName t = r'.fileName t' ↔ r.label = r'.label ∧ t = t' := by
  constructor
  · intro h
    have hcut := congrArg String.toList h
    rw [toList_fileName, toList_fileName] at hcut
    obtain ⟨hword, hcut⟩ :=
      Text.append_cons_inj (notMem_word r).1 (notMem_word r').1 hcut
    obtain ⟨hworker, hcut⟩ :=
      Text.append_cons_inj (notMem_workerWord _).1 (notMem_workerWord _).1 hcut
    obtain ⟨htask, htime⟩ :=
      Text.append_cons_inj_last (dash_notMem_time t) (dash_notMem_time t') hcut
    have hms : t.ms = t'.ms := by
      have hdigits := congrArg (fun ds => Nat.ofDigitChars 10 ds 0) (List.append_cancel_right htime)
      simpa using hdigits
    have hkind : r.worker = r'.worker := by
      rw [← Option.some_inj, ← WorkerKind.ofWord?_word, ← WorkerKind.ofWord?_word,
        String.toList_inj.1 hworker]
    cases t
    cases t'
    rw [label, label, String.toList_inj.1 hword, hkind, String.toList_inj.1 htask]
    exact ⟨rfl, congrArg Instant.mk hms⟩
  · rintro ⟨hlabel, rfl⟩
    obtain ⟨hword, hkind, htask⟩ : r.word = r'.word ∧ r.worker = r'.worker ∧
        flatName r.task = flatName r'.task := by simpa [label] using hlabel
    rw [fileName, fileName, hword, hkind, htask]

theorem plain_fileName (r : ArchiveRecord) (t : Instant) : FileTree.Plain (r.fileName t) := by
  have hlong : 2 < (r.fileName t).toList.length := by
    rw [toList_fileName]
    simp
    omega
  refine ⟨?_, ?_, ?_, ?_⟩
  · intro h
    simp [h] at hlong
  · rw [toList_fileName]
    simp [(notMem_word r).2, (notMem_workerWord r.worker).2, slash_notMem_flatName,
      notMem_digits (c := '/') (by decide)]
  · intro h
    simp [h] at hlong
  · intro h
    simp [h] at hlong

/-! ### Saving a record -/

variable {clock : StateM InMemory Instant} {dir : String} {before after : FileTree}

/-- What saving a record comes to, given the files before and after. -/
inductive Saved (dir : String) (r : ArchiveRecord) (before after : FileTree) :
    Except ArchiveError String → Prop where
  | failed {e : ArchiveError} (h : before.Keeps after) : Saved dir r before after (.error e)
  | stored (stamp time : Instant) {made : FileTree} (hmade : before.Keeps made)
      (hstore : made.store (Path.join dir (r.fileName time)) (r.content stamp) = .ok after) :
      Saved dir r before after (.ok (Path.join dir (r.fileName time)))

/-- Whatever the clock says. -/
theorem saved_save (hclock : ∀ s, (clock.run s).2.files = s.files) (dir : String)
    (r : ArchiveRecord) (s : InMemory) :
    Saved dir r s.files ((r.save (InMemory.hostWithClock clock) dir).run s).2.files
      ((r.save (InMemory.hostWithClock clock) dir).run s).1 := by
  let h := InMemory.hostWithClock clock
  obtain ⟨stamp, s₁, hstamp⟩ : ∃ stamp s₁, h.now.run s = (stamp, s₁) := ⟨_, _, rfl⟩
  obtain ⟨time, s₂, htime⟩ : ∃ time s₂, h.now.run s₁ = (time, s₂) := ⟨_, _, rfl⟩
  have hfiles : s₂.files = s.files := by
    have hfirst := hclock s
    have hsecond := hclock s₁
    rw [show clock.run s = (stamp, s₁) from hstamp] at hfirst
    rw [show clock.run s₁ = (time, s₂) from htime] at hsecond
    exact hsecond.trans hfirst
  rw [save, run_bind_of_run hstamp, run_bind_of_run htime]
  let make (t : FileTree) := t.makeDirectories dir
  let write (t : FileTree) := t.store (Path.join dir (r.fileName time)) (r.content stamp)
  cases hmade : make s₂.files with
  | error e =>
    have hrun : (h.makeDirectories dir).run s₂ = _ := InMemory.run_change_error (f := make) hmade
    rw [run_bind_of_run hrun]
    exact .failed (hfiles ▸ .refl _)
  | ok made =>
    have hkeeps : s.files.Keeps made := hfiles ▸ FileTree.keeps_makeDirectories hmade
    have hrun : (h.makeDirectories dir).run s₂ = _ := InMemory.run_change_ok (f := make) hmade
    rw [run_bind_of_run hrun]
    cases hstore : write made with
    | error e =>
      have hrun : (h.store _ (r.toJson stamp).pretty.toUTF8).run { s₂ with files := made } = _ :=
        InMemory.run_change_error (f := write) hstore
      dsimp only
      rw [run_bind_of_run hrun]
      exact .failed hkeeps
    | ok files =>
      have hrun : (h.store _ (r.toJson stamp).pretty.toUTF8).run { s₂ with files := made } = _ :=
        InMemory.run_change_ok (f := write) hstore
      dsimp only
      rw [run_bind_of_run hrun]
      exact .stored stamp time hkeeps hstore

/-- A file of another name is still there when a record has been saved. -/
theorem Saved.load_of_ne {answer : Except ArchiveError String} (h : Saved dir r before after answer)
    {name : String} {bytes : ByteArray} (hname : FileTree.Plain name)
    (hne : ∀ t, name ≠ r.fileName t) (hload : before.load (Path.join dir name) = .ok bytes) :
    after.load (Path.join dir name) = .ok bytes := by
  cases h with
  | failed hkeeps => exact hkeeps.load hload
  | stored stamp time hmade hstore =>
    exact FileTree.load_of_store_of_ne (plain_fileName r time) hname (hne time) hstore
      (hmade.load hload)

/-! ### Saving one after the other -/

/-- The records of some events. -/
def ofEvents (events : List JobEvent) : List ArchiveRecord := events.filterMap ofEvent?

/-- What has become of an event by some later time, given the answer to it: it is not kept, or
it could not be saved, or it is there with all that it told. -/
inductive Archived (dir : String) (later : FileTree) :
    JobEvent → Option (Except ArchiveError String) → Prop where
  | ignored {e : JobEvent} (h : ofEvent? e = none) : Archived dir later e none
  | failed {e : JobEvent} {r : ArchiveRecord} {error : ArchiveError} (h : ofEvent? e = some r) :
      Archived dir later e (some (.error error))
  | saved {e : JobEvent} {r : ArchiveRecord} (h : ofEvent? e = some r) (stamp time : Instant)
      (hload : later.load (Path.join dir (r.fileName time)) = .ok (r.content stamp)) :
      Archived dir later e (some (.ok (Path.join dir (r.fileName time))))

/-- The path of a record that has been saved. -/
def savedPath? : Option (Except ArchiveError String) → Option String
  | some (.ok path) => some path
  | _ => none

variable {events : List JobEvent} {s : InMemory}

theorem run_record_of_none {h : Host (StateM InMemory)} {e : JobEvent} (he : ofEvent? e = none) :
    (record h dir e).run s = (none, s) := by
  rw [record, he]
  rfl

theorem run_record_of_some {h : Host (StateM InMemory)} {e : JobEvent} (he : ofEvent? e = some r) :
    (record h dir e).run s = (some ((r.save h dir).run s).1, ((r.save h dir).run s).2) := by
  rw [record, he]
  rfl

/-- What a file holds stays while records of other names are saved. -/
theorem load_after_events (hclock : ∀ s, (clock.run s).2.files = s.files) {name : String}
    {bytes : ByteArray} (hname : FileTree.Plain name)
    (hne : ∀ r ∈ ofEvents events, ∀ t, name ≠ r.fileName t)
    (hload : s.files.load (Path.join dir name) = .ok bytes) :
    ((events.mapM (record (InMemory.hostWithClock clock) dir)).run s).2.files.load
      (Path.join dir name) = .ok bytes := by
  induction events generalizing s with
  | nil => exact hload
  | cons e events ih =>
    rw [List.mapM_cons]
    cases he : ofEvent? e with
    | none =>
      rw [ofEvents, List.filterMap_cons_none he] at hne
      rw [run_bind_of_run (run_record_of_none he)]
      exact ih hne hload
    | some r =>
      rw [ofEvents, List.filterMap_cons_some he, List.forall_mem_cons] at hne
      rw [run_bind_of_run (run_record_of_some he)]
      exact ih hne.2 ((saved_save hclock dir r s).load_of_ne hname hne.1 hload)

/-- **One after the other.**  Under different labels, all that could be saved is there in the
end. -/
theorem archived_of_nodup (hclock : ∀ s, (clock.run s).2.files = s.files) (dir : String)
    (hlabels : ((ofEvents events).map label).Nodup) (s : InMemory) :
    List.Forall₂
      (Archived dir ((events.mapM (record (InMemory.hostWithClock clock) dir)).run s).2.files)
      events ((events.mapM (record (InMemory.hostWithClock clock) dir)).run s).1 := by
  induction events generalizing s with
  | nil => exact .nil
  | cons e events ih =>
    rw [List.mapM_cons]
    cases he : ofEvent? e with
    | none =>
      rw [ofEvents, List.filterMap_cons_none he] at hlabels
      rw [run_bind_of_run (run_record_of_none he)]
      exact .cons (.ignored he) (ih hlabels s)
    | some r =>
      rw [ofEvents, List.filterMap_cons_some he, List.map_cons, List.nodup_cons] at hlabels
      rw [run_bind_of_run (run_record_of_some he)]
      refine .cons ?_ (ih hlabels.2 _)
      have hother : ∀ time, ∀ r' ∈ ofEvents events, ∀ t, r.fileName time ≠ r'.fileName t :=
        fun time r' hr' t hsame =>
          hlabels.1 ((fileName_eq_iff.1 hsame).1 ▸ List.mem_map_of_mem hr')
      have hsaved := saved_save hclock dir r s
      generalize ((r.save (InMemory.hostWithClock clock) dir).run s).1 = answer at hsaved
      cases hsaved with
      | failed => exact .failed he
      | stored stamp time _ hstore =>
        refine .saved he stamp time ?_
        exact load_after_events hclock (plain_fileName r time) (hother time)
          (FileTree.load_of_store hstore)

variable {later : FileTree} {answers : List (Option (Except ArchiveError String))}

/-- A path that was answered is that of one of the records. -/
theorem exists_of_mem_savedPaths (h : List.Forall₂ (Archived dir later) events answers)
    {path : String} (hpath : path ∈ answers.filterMap savedPath?) :
    ∃ r ∈ ofEvents events, ∃ time, path = Path.join dir (r.fileName time) := by
  induction h with
  | nil => cases hpath
  | @cons e answer events answers he _ ih =>
    have hmore : ofEvents events ⊆ ofEvents (e :: events) :=
      ((List.sublist_cons_self e events).filterMap ofEvent?).subset
    have hrest (hpath : path ∈ answers.filterMap savedPath?) :
        ∃ r ∈ ofEvents (e :: events), ∃ time, path = Path.join dir (r.fileName time) := by
      obtain ⟨r, hr, htime⟩ := ih hpath
      exact ⟨r, hmore hr, htime⟩
    cases he with
    | ignored => exact hrest hpath
    | failed => exact hrest hpath
    | saved he stamp time hload =>
      rcases List.mem_cons.1 hpath with rfl | hpath
      · exact ⟨_, List.mem_filterMap.2 ⟨e, List.mem_cons_self, he⟩, time, rfl⟩
      · exact hrest hpath

/-- Under different labels, no two records have one file. -/
theorem nodup_savedPaths (hlabels : ((ofEvents events).map label).Nodup)
    (h : List.Forall₂ (Archived dir later) events answers) :
    (answers.filterMap savedPath?).Nodup := by
  induction h with
  | nil => exact .nil
  | @cons e answer events answers he hrest ih =>
    cases he with
    | ignored he =>
      rw [ofEvents, List.filterMap_cons_none he] at hlabels
      exact ih hlabels
    | failed he =>
      rw [ofEvents, List.filterMap_cons_some he, List.map_cons, List.nodup_cons] at hlabels
      exact ih hlabels.2
    | saved he stamp time hload =>
      rw [ofEvents, List.filterMap_cons_some he, List.map_cons, List.nodup_cons] at hlabels
      refine List.nodup_cons.2 ⟨fun hin => ?_, ih hlabels.2⟩
      obtain ⟨r', hr', time', hpath⟩ := exists_of_mem_savedPaths hrest hin
      have hname := FileTree.join_inj (plain_fileName _ time) (plain_fileName r' time') hpath
      exact hlabels.1 ((fileName_eq_iff.1 hname).1 ▸ List.mem_map_of_mem hr')

/-- **No outcome takes the place of another.**  Two files have one name only if they have one
label and one time.  When some events have been recorded one after the other, by any clock that
leaves the files alone, and no two of them have one label, all that could be saved is there:
each in a file of its own, with its worker, task and result or error. -/
theorem archived_apart :
    (∀ (r r' : ArchiveRecord) (t t' : Instant),
      r.fileName t = r'.fileName t' ↔ r.label = r'.label ∧ t = t') ∧
    ∀ (clock : StateM InMemory Instant), (∀ s, (clock.run s).2.files = s.files) →
      ∀ (dir : String) (events : List JobEvent), ((ofEvents events).map label).Nodup →
        ∀ s : InMemory,
          let ran := (events.mapM (record (InMemory.hostWithClock clock) dir)).run s
          List.Forall₂ (Archived dir ran.2.files) events ran.1 ∧
            (ran.1.filterMap savedPath?).Nodup := by
  refine ⟨fun r r' t t' => fileName_eq_iff, fun clock hclock dir events hlabels s => ?_⟩
  have harchived := archived_of_nodup hclock dir hlabels s
  exact ⟨harchived, nodup_savedPaths hlabels harchived⟩

/-- Two tasks of one worker end in the same millisecond.  The number at the end of one name could
be mistaken for a time. -/
theorem archived_apart_in_one_moment :
    let clock : StateM InMemory Instant := pure ⟨1700000000000⟩
    let events : List JobEvent :=
      [.taskCompleted "job" "ports-1" .scan (.bool true), .jobStopped "job",
        .taskCompleted "job" "ports" .scan .null]
    let ran := (events.mapM (record (InMemory.hostWithClock clock) "results")).run {}
    (∀ s, (clock.run s).2.files = s.files) ∧ ((ofEvents events).map label).Nodup ∧
      ran.1.filterMap savedPath? =
        ["results/result-scan-ports-1-1700000000000.json",
          "results/result-scan-ports-1700000000000.json"] ∧
      List.Forall₂ (Archived "results" ran.2.files) events ran.1 ∧
      (ran.1.filterMap savedPath?).Nodup := by
  refine ⟨fun s => rfl, by decide +kernel, by decide +kernel, ?_⟩
  exact archived_apart.2 (pure ⟨1700000000000⟩) (fun s => rfl) "results" _ (by decide +kernel) {}

/-- Different tasks may share a file: the one that is saved first is gone. -/
theorem slashes_share_a_file :
    let moment : Instant := ⟨1700000000000⟩
    let path := "results/result-scan-tcp_udp-1700000000000.json"
    let slashed : ArchiveRecord := ⟨.scan, "tcp/udp", .ok .null⟩
    let flat : ArchiveRecord := ⟨.scan, "tcp_udp", .ok .null⟩
    let events : List JobEvent :=
      [.taskCompleted "job" slashed.task .scan .null, .taskCompleted "job" flat.task .scan .null]
    let ran := (events.mapM (record (InMemory.hostWithClock (pure moment)) "results")).run {}
    slashed.task ≠ flat.task ∧ slashed.fileName moment = flat.fileName moment ∧
      ofEvents events = [slashed, flat] ∧ ran.1.filterMap savedPath? = [path, path] ∧
      (ran.2.files.load path).toOption = some (flat.content moment) ∧
      slashed.content moment ≠ flat.content moment := by
  refine ⟨by decide, ?_, rfl, ?_, ?_, ?_⟩ <;> decide +kernel

end ArchiveRecord
end Runbook
