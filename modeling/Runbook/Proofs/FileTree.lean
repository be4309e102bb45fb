/-
# What stays in a file tree

A tree changes in two ways: directories are made where nothing was, and a file is stored,
where an older one may have been.

| the change           | what stays                                             |
|----------------------|--------------------------------------------------------|
| directories are made | everything (`keeps_makeDirectories`)                   |
| a file is stored     | the directories, and the other files of its directory  |

Since directories stay, a path that leads to a place goes on leading there
(`KeepsDirectories.locate`).  So a stored file can be loaded (`load_of_store`), and it can
still be loaded after directories have been made (`Keeps.load`) and after a file of another
name has been stored in the same directory (`load_of_store_of_ne`).
-/

import Runbook.FileTree
import Runbook.Proofs.Text.Parts

namespace Runbook

/-- Two steps that can fail end well exactly if both do. -/
theorem bind_eq_ok_iff {ε α β : Type} {x : Except ε α} {f : α → Except ε β} {b : β} :
    x >>= f = .ok b ↔ ∃ a, x = .ok a ∧ f a = .ok b := by
  cases x <;> simp [bind, Except.bind]

namespace FileTree

/-- What is in the first tree is in the second. -/
structure Keeps (t u : FileTree) : Prop where
  here : u.here = t.here
  node : ∀ place node, t.node? place = some node → u.node? place = some node

/-- What is a directory in the first tree is one in the second. -/
structure KeepsDirectories (t u : FileTree) : Prop where
  here : u.here = t.here
  directory : ∀ place, t.node? place = some .directory → u.node? place = some .directory

variable {t u v : FileTree} {path : String} {bytes : ByteArray}

theorem Keeps.refl (t : FileTree) : t.Keeps t := ⟨rfl, fun _ _ h => h⟩

theorem Keeps.trans (h : t.Keeps u) (h' : u.Keeps v) : t.Keeps v :=
  ⟨h'.here.trans h.here, fun place node hn => h'.node place node (h.node place node hn)⟩

theorem Keeps.directories (h : t.Keeps u) : t.KeepsDirectories u :=
  ⟨h.here, fun place => h.node place .directory⟩

/-! ### Places -/

theorem node?_nil (t : FileTree) : t.node? [] = some .directory := rfl

theorem node?_of_ne_nil {place : List String} (h : place ≠ []) :
    t.node? place = t.nodes.get? (key place) :=
  if_neg fun hempty => h (List.isEmpty_iff.1 hempty)

theorem node?_put {place : List String} (h : place ≠ []) (t : FileTree) (other : List String)
    (node : FileNode) :
    (t.put other node).node? place =
      if key place = key other then some node else t.node? place := by
  rw [node?_of_ne_nil h, node?_of_ne_nil h, put, Dict.get?_insert]

/-- In one directory, different names have different keys. -/
theorem key_concat_inj {place : List String} {a b : String}
    (h : key (place ++ [a]) = key (place ++ [b])) : a = b := by
  cases place with
  | nil => simpa [key] using h
  | cons first rest =>
    have hkey : ∀ name, key (first :: rest ++ [name]) = key (first :: rest) ++ "/" ++ name :=
      fun name => by
        rw [key, String.intercalate_append_of_ne_nil (List.cons_ne_nil _ _) (List.cons_ne_nil _ _),
          String.intercalate_singleton, key]
    rw [hkey, hkey] at h
    exact (String.append_right_inj _).1 h

theorem node?_of_enter {place place' : List String} {name : String}
    (h : t.enter place name = .ok place') : t.node? place = some .directory := by
  unfold enter at h
  split at h
  · cases h
  · cases h
  · assumption

/-- A name that is no way to go in or up is entered as it is. -/
theorem eq_of_enter {place place' : List String} {name : String} (hempty : name ≠ "")
    (hdot : name ≠ ".") (hdots : name ≠ "..") (h : t.enter place name = .ok place') :
    place' = place ++ [name] := by
  rw [enter, node?_of_enter h] at h
  simp only [hempty, hdot, hdots, or_self, if_false] at h
  split at h
  · exact (Except.ok.inj h).symm
  · cases h

namespace KeepsDirectories

theorem enter (h : t.KeepsDirectories u) {place place' : List String} {name : String}
    (ht : t.enter place name = .ok place') : u.enter place name = .ok place' := by
  have hdirectory := node?_of_enter ht
  rw [FileTree.enter, hdirectory] at ht
  rw [FileTree.enter, h.directory place hdirectory]
  exact ht

theorem enterAll (h : t.KeepsDirectories u) {place place' : List String} {names : List String}
    (ht : names.foldlM t.enter place = .ok place') : names.foldlM u.enter place = .ok place' := by
  induction names generalizing place with
  | nil => exact ht
  | cons name names ih =>
    rw [List.foldlM_cons, bind_eq_ok_iff] at ht ⊢
    obtain ⟨next, hnext, hrest⟩ := ht
    exact ⟨next, h.enter hnext, ih hrest⟩

/-- **Where directories stay, paths lead where they led.** -/
theorem locate (h : t.KeepsDirectories u) {place : List String}
    (ht : t.locate path = .ok place) : u.locate path = .ok place := by
  have hstart : u.start path = t.start path := by rw [start, start, h.here]
  unfold FileTree.locate at ht ⊢
  split at ht
  · cases ht
  · split at ht
    · rename_i hempty hpath
      rw [if_neg hempty, if_pos hpath, hstart]
      exact h.enterAll ht
    · cases ht

end KeepsDirectories

/-! ### Making directories -/

/-- Something new takes nothing away. -/
theorem keeps_put {place : List String} (h : t.node? place = none) (node : FileNode) :
    t.Keeps (t.put place node) := by
  refine ⟨rfl, fun other found hfound => ?_⟩
  by_cases hother : other = []
  · subst hother
    exact hfound
  · have hplace : place ≠ [] := by
      rintro rfl
      cases h
    have hkey : key other ≠ key place := fun hsame => by
      rw [node?_of_ne_nil hother, hsame, ← node?_of_ne_nil hplace, h] at hfound
      cases hfound
    rw [node?_put hother, if_neg hkey, hfound]

/-- A directory is made where nothing is. -/
theorem exists_eq_of_makeDirectory (h : t.makeDirectory path = .ok u) :
    ∃ place, t.node? place = none ∧ u = t.put place .directory := by
  unfold makeDirectory at h
  by_cases hempty : path.isEmpty = true
  · simp only [hempty, if_true] at h
    cases h
  by_cases hpath : isPath path = true
  · simp only [hempty, hpath, if_false, Bool.not_true, Bool.false_eq_true] at h
    split at h
    · cases h
    · obtain ⟨front, -, h⟩ := bind_eq_ok_iff.1 h
      obtain ⟨place, -, h⟩ := bind_eq_ok_iff.1 h
      split at h
      · cases h
      · split at h
        · cases h
        · exact ⟨place, ‹_›, (Except.ok.inj h).symm⟩
  · simp only [hempty, hpath, if_true, if_false, Bool.not_false, Bool.false_eq_true] at h
    cases h

theorem keeps_makeDirectory (h : t.makeDirectory path = .ok u) : t.Keeps u := by
  obtain ⟨place, hplace, rfl⟩ := exists_eq_of_makeDirectory h
  exact keeps_put hplace .directory

theorem keeps_ensureDirectory (h : t.ensureDirectory path = .ok u) : t.Keeps u := by
  unfold ensureDirectory at h
  split at h
  · rename_i made hmade
    cases h
    exact keeps_makeDirectory hmade
  · split at h
    · cases h
      exact .refl t
    · cases h

theorem keeps_ensureDirectories {paths : List String} (h : t.ensureDirectories paths = .ok u) :
    t.Keeps u := by
  induction paths generalizing u with
  | nil =>
    cases h
    exact .refl t
  | cons path above ih =>
    rw [ensureDirectories] at h
    split at h
    · obtain ⟨made, hmade, hlast⟩ := bind_eq_ok_iff.1 h
      exact (ih hmade).trans (keeps_ensureDirectory hlast)
    · exact keeps_ensureDirectory h

/-- **Making directories changes nothing that is there.** -/
theorem keeps_makeDirectories (h : t.makeDirectories path = .ok u) : t.Keeps u := by
  unfold makeDirectories at h
  split at h
  · cases h
    exact .refl t
  · exact keeps_ensureDirectories h

/-! ### Files -/

theorem load_eq_ok_iff : t.load path = .ok bytes ↔
    ∃ place, t.locate path = .ok place ∧ t.node? place = some (.file bytes) := by
  rw [load, bind_eq_ok_iff]
  refine exists_congr fun place => and_congr_right fun _ => ?_
  split <;> simp_all [throw, throwThe, MonadExceptOf.throw, pure, Except.pure]

theorem store_eq_ok_iff : t.store path bytes = .ok u ↔
    ∃ place, t.locate path = .ok place ∧ t.node? place ≠ some .directory ∧
      u = t.put place (.file bytes) := by
  rw [store, bind_eq_ok_iff]
  refine exists_congr fun place => and_congr_right fun _ => ?_
  split <;> simp_all [throw, throwThe, MonadExceptOf.throw, pure, Except.pure, eq_comm]

theorem keepsDirectories_of_store (h : t.store path bytes = .ok u) : t.KeepsDirectories u := by
  obtain ⟨place, -, hplace, rfl⟩ := store_eq_ok_iff.1 h
  refine ⟨rfl, fun other hother => ?_⟩
  by_cases hroot : other = []
  · subst hroot
    rfl
  · have hne : place ≠ [] := by
      rintro rfl
      exact hplace (node?_nil t)
    have hkey : key other ≠ key place := fun hsame => by
      rw [node?_of_ne_nil hroot, hsame, ← node?_of_ne_nil hne] at hother
      exact hplace hother
    rw [node?_put hroot, if_neg hkey, hother]

/-- **What has been stored can be loaded.** -/
theorem load_of_store (h : t.store path bytes = .ok u) : u.load path = .ok bytes := by
  have hkeeps := keepsDirectories_of_store h
  obtain ⟨place, hlocate, hplace, rfl⟩ := store_eq_ok_iff.1 h
  have hne : place ≠ [] := by
    rintro rfl
    exact hplace (node?_nil t)
  refine load_eq_ok_iff.2 ⟨place, hkeeps.locate hlocate, ?_⟩
  rw [node?_put hne, if_pos rfl]

theorem Keeps.load (h : t.Keeps u) (ht : t.load path = .ok bytes) : u.load path = .ok bytes := by
  obtain ⟨place, hlocate, hplace⟩ := load_eq_ok_iff.1 ht
  exact load_eq_ok_iff.2 ⟨place, h.directories.locate hlocate, h.node place _ hplace⟩

/-! ### The files of one directory -/

/-- A name that leads to a place of its own in every directory. -/
structure Plain (name : String) : Prop where
  ne_empty : name ≠ ""
  slash : '/' ∉ name.toList
  ne_dot : name ≠ "."
  ne_dots : name ≠ ".."

theorem Plain.not_isAbsolute {name : String} (h : Plain name) : Path.isAbsolute name = false :=
  decide_eq_false fun hhead => h.slash (List.mem_of_mem_head? hhead)

theorem Plain.namesOf_eq {name : String} (h : Plain name) : namesOf name = [name] := by
  rw [namesOf, Text.splitAll_of_notMem h.slash, List.map_singleton, String.ofList_toList]

/-- What is in front of the last slash is a way of its own. -/
theorem namesOf_slash {front path : List Char} {name : String} (hname : Plain name)
    (h : path = front ++ '/' :: name.toList) :
    namesOf (String.ofList path) = namesOf (String.ofList front) ++ [name] := by
  rw [← hname.namesOf_eq]
  simp only [namesOf, String.toList_ofList]
  rw [h, Text.splitAll_append, List.map_append]

theorem isAbsolute_append {dir : String} (h : dir ≠ "") (path : String) :
    Path.isAbsolute (dir ++ path) = Path.isAbsolute dir := by
  obtain ⟨c, cs, hcs⟩ := List.exists_cons_of_ne_nil fun hnil => h (String.toList_eq_nil_iff.1 hnil)
  simp [Path.isAbsolute, String.toList_append, hcs]

/-- The paths of plain names in one directory start at one place, go one way and part at the
last step. -/
theorem exists_namesOf_join (t : FileTree) (dir : String) : ∃ here front, ∀ name, Plain name →
    t.start (Path.join dir name) = here ∧ namesOf (Path.join dir name) = front ++ [name] := by
  by_cases hempty : dir = ""
  · refine ⟨t.here, [], fun name hname => ?_⟩
    rw [Path.join, if_pos (by simp [hempty]), start, hname.not_isAbsolute, hname.namesOf_eq]
    exact ⟨rfl, rfl⟩
  · have hjoin : ∀ name, Plain name → Path.join dir name =
        if dir.toList.getLast? = some '/' then dir ++ name else dir ++ "/" ++ name :=
      fun name hname => by
        rw [Path.join, if_neg (by simp [hname.not_isAbsolute, hempty])]
    by_cases hlast : dir.toList.getLast? = some '/'
    · obtain ⟨front, hfront⟩ := List.getLast?_eq_some_iff.1 hlast
      refine ⟨t.start dir, namesOf (String.ofList front), fun name hname => ?_⟩
      rw [hjoin name hname, if_pos hlast, start, isAbsolute_append hempty]
      refine ⟨rfl, ?_⟩
      rw [← namesOf_slash hname rfl]
      congr 1
      rw [← String.toList_inj]
      simp [hfront]
    · refine ⟨t.start dir, namesOf dir, fun name hname => ?_⟩
      rw [hjoin name hname, if_neg hlast, start, String.append_assoc, isAbsolute_append hempty]
      refine ⟨rfl, ?_⟩
      rw [← String.ofList_toList (s := dir), ← namesOf_slash hname rfl, String.ofList_toList]
      congr 1
      rw [← String.toList_inj]
      simp

theorem join_inj {dir name name' : String} (h : Plain name) (h' : Plain name')
    (hjoin : Path.join dir name = Path.join dir name') : name = name' := by
  obtain ⟨here, front, hpath⟩ := exists_namesOf_join {} dir
  have hnames := (hpath name h).2.symm.trans (hjoin ▸ (hpath name' h').2)
  exact List.singleton_inj.1 (List.append_cancel_left hnames)

/-- The place of a plain name in a directory is the directory's place and the name. -/
theorem exists_locate_join (t : FileTree) (dir : String) : ∃ front, ∀ name place, Plain name →
    t.locate (Path.join dir name) = .ok place → place = front ++ [name] := by
  obtain ⟨here, front, hpath⟩ := exists_namesOf_join t dir
  have hway : ∀ name place, Plain name → t.locate (Path.join dir name) = .ok place →
      ∃ above, front.foldlM t.enter here = .ok above ∧ place = above ++ [name] := by
    intro name place hname h
    unfold locate at h
    split at h
    · cases h
    split at h
    · rw [(hpath name hname).1, (hpath name hname).2, List.foldlM_append, bind_eq_ok_iff] at h
      obtain ⟨above, habove, hlast⟩ := h
      rw [List.foldlM_cons, bind_eq_ok_iff] at hlast
      obtain ⟨last, hlast, hend⟩ := hlast
      rw [← Except.ok.inj hend]
      exact ⟨above, habove, eq_of_enter hname.ne_empty hname.ne_dot hname.ne_dots hlast⟩
    · cases h
  cases hfront : front.foldlM t.enter here with
  | error e =>
    refine ⟨[], fun name place hname h => ?_⟩
    obtain ⟨above, habove, -⟩ := hway name place hname h
    rw [hfront] at habove
    cases habove
  | ok above =>
    refine ⟨above, fun name place hname h => ?_⟩
    obtain ⟨above', habove, hplace⟩ := hway name place hname h
    rw [hfront] at habove
    cases habove
    exact hplace

/-- **A file stays when a file of another plain name is stored in its directory.** -/
theorem load_of_store_of_ne {dir name name' : String} {bytes' : ByteArray} (h : Plain name)
    (h' : Plain name') (hne : name' ≠ name)
    (hstore : t.store (Path.join dir name) bytes = .ok u)
    (hload : t.load (Path.join dir name') = .ok bytes') :
    u.load (Path.join dir name') = .ok bytes' := by
  have hkeeps := keepsDirectories_of_store hstore
  obtain ⟨front, hfront⟩ := exists_locate_join t dir
  obtain ⟨place, hplace, -, rfl⟩ := store_eq_ok_iff.1 hstore
  obtain ⟨place', hplace', hfile⟩ := load_eq_ok_iff.1 hload
  refine load_eq_ok_iff.2 ⟨place', hkeeps.locate hplace', ?_⟩
  obtain rfl := hfront name place h hplace
  obtain rfl := hfront name' place' h' hplace'
  have hkey : key (front ++ [name']) ≠ key (front ++ [name]) := fun hsame =>
    hne (key_concat_inj hsame)
  rw [node?_put (List.concat_ne_nil _ _) t, if_neg hkey, hfile]

end FileTree
end Runbook
