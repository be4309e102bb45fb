/-
# Dictionaries and sets of names

Both keep their keys in strictly ascending code point order, so equal contents
are equal values and the order of output is fixed.  The view of a dictionary is
`get?` (`get?_insert`), that of a set is membership (`mem_insert`, `mem_erase`).
-/

namespace Runbook

/-- A map from names to values, held in ascending order of the names. -/
structure Dict (α : Type u) where
  entries : List (String × α)
  ascending : entries.Pairwise fun a b => a.1 < b.1

/-- Puts an entry where the order wants it, in the place of one with its name. -/
def insertEntry (k : String) (v : α) : List (String × α) → List (String × α)
  | [] => [(k, v)]
  | e :: es =>
    if k < e.1 then (k, v) :: e :: es
    else if k = e.1 then (k, v) :: es
    else e :: insertEntry k v es

theorem mem_insertEntry {k : String} {v : α} {es : List (String × α)} {e : String × α}
    (h : e ∈ insertEntry k v es) : e = (k, v) ∨ e ∈ es := by
  induction es with
  | nil => exact Or.inl (List.mem_singleton.1 h)
  | cons x es ih =>
    rw [insertEntry] at h
    split at h
    · exact List.mem_cons.1 h
    · split at h
      · rcases List.mem_cons.1 h with h | h
        · exact Or.inl h
        · exact Or.inr (List.mem_cons_of_mem _ h)
      · rcases List.mem_cons.1 h with rfl | h
        · exact Or.inr List.mem_cons_self
        · exact (ih h).imp_right (List.mem_cons_of_mem _)

theorem pairwise_insertEntry (k : String) (v : α) {es : List (String × α)}
    (h : es.Pairwise fun a b => a.1 < b.1) :
    (insertEntry k v es).Pairwise fun a b => a.1 < b.1 := by
  induction es with
  | nil => exact List.pairwise_singleton ..
  | cons x es ih =>
    have hx := List.pairwise_cons.1 h
    rw [insertEntry]
    split
    · rename_i hk
      refine List.pairwise_cons.2 ⟨fun e he => ?_, h⟩
      rcases List.mem_cons.1 he with rfl | he
      · exact hk
      · exact String.lt_trans hk (hx.1 e he)
    · split
      · rename_i hk
        subst hk
        exact List.pairwise_cons.2 ⟨hx.1, hx.2⟩
      · rename_i h₁ h₂
        refine List.pairwise_cons.2 ⟨fun e he => ?_, ih hx.2⟩
        rcases mem_insertEntry he with rfl | he
        · rcases Std.lt_trichotomy k x.1 with hk | hk | hk
          · exact absurd hk h₁
          · exact absurd hk h₂
          · exact hk
        · exact hx.1 e he

/-- The value that a name has in a list of entries. -/
def lookupEntry (k : String) : List (String × α) → Option α
  | [] => none
  | e :: es => if k = e.1 then some e.2 else lookupEntry k es

theorem lookupEntry_insertEntry (k k' : String) (v : α) (es : List (String × α)) :
    lookupEntry k' (insertEntry k v es) = if k' = k then some v else lookupEntry k' es := by
  induction es with
  | nil => rfl
  | cons x es ih =>
    rw [insertEntry]
    split
    · rfl
    · split
      · rename_i hk
        by_cases h : k' = x.1 <;> simp [lookupEntry, hk, h]
      · rename_i hk
        by_cases h : k' = x.1
        · simp [lookupEntry, h, Ne.symm hk]
        · simp [lookupEntry, h, ih]

theorem lookupEntry_append (k : String) (as bs : List (String × α)) :
    lookupEntry k (as ++ bs) = (lookupEntry k as).or (lookupEntry k bs) := by
  induction as with
  | nil => rfl
  | cons a as ih =>
    rw [List.cons_append, lookupEntry, lookupEntry]
    split
    · rfl
    · exact ih

/-- A name has a value exactly when an entry is of that name. -/
theorem isSome_lookupEntry {k : String} {es : List (String × α)} :
    (lookupEntry k es).isSome ↔ k ∈ es.map (·.1) := by
  induction es with
  | nil => simp [lookupEntry]
  | cons e es ih =>
    rw [lookupEntry, List.map_cons, List.mem_cons, ← ih]
    split
    · rename_i h
      exact ⟨fun _ => Or.inl h, fun _ => rfl⟩
    · rename_i h
      exact ⟨Or.inr, fun hk => hk.resolve_left h⟩

/-- Where no name comes twice, every entry is the one of its name. -/
theorem lookupEntry_of_mem {e : String × α} {es : List (String × α)}
    (hn : (es.map (·.1)).Nodup) (he : e ∈ es) : lookupEntry e.1 es = some e.2 := by
  induction es with
  | nil => exact absurd he List.not_mem_nil
  | cons x xs ih =>
    rw [List.map_cons, List.nodup_cons] at hn
    rw [lookupEntry]
    rcases List.mem_cons.1 he with rfl | he
    · rw [if_pos rfl]
    · rw [if_neg, ih hn.2 he]
      intro h
      exact hn.1 (h ▸ List.mem_map_of_mem he)

/-- Where no name comes twice, the values of the names are those of the entries. -/
theorem lookupEntry_eq_some_iff {k : String} {v : α} {es : List (String × α)}
    (hn : (es.map (·.1)).Nodup) : lookupEntry k es = some v ↔ (k, v) ∈ es := by
  constructor
  · intro h
    have hsome : (lookupEntry k es).isSome := by rw [h, Option.isSome_some]
    obtain ⟨e, he, rfl⟩ := List.mem_map.1 (isSome_lookupEntry.1 hsome)
    rw [lookupEntry_of_mem hn he] at h
    obtain rfl := Option.some.inj h
    exact he
  · exact lookupEntry_of_mem hn

/-- In ascending order, a name below all others has no value. -/
theorem lookupEntry_eq_none {k : String} {es : List (String × α)} (h : ∀ e ∈ es, k < e.1) :
    lookupEntry k es = none := by
  rw [← Option.not_isSome_iff_eq_none, isSome_lookupEntry, List.mem_map]
  rintro ⟨e, he, rfl⟩
  exact String.lt_irrefl _ (h e he)

/-- Entries in ascending order are determined by the values of the names. -/
theorem eq_of_lookupEntry {as bs : List (String × α)} (ha : as.Pairwise fun a b => a.1 < b.1)
    (hb : bs.Pairwise fun a b => a.1 < b.1) (h : ∀ k, lookupEntry k as = lookupEntry k bs) :
    as = bs := by
  induction as generalizing bs with
  | nil =>
    cases bs with
    | nil => rfl
    | cons b bs =>
      have hk := h b.1
      rw [lookupEntry, lookupEntry, if_pos rfl] at hk
      cases hk
  | cons a as ih =>
    cases bs with
    | nil =>
      have hk := h a.1
      rw [lookupEntry, lookupEntry, if_pos rfl] at hk
      cases hk
    | cons b bs =>
      rw [List.pairwise_cons] at ha hb
      have hab : a.1 = b.1 := by
        rcases Std.lt_trichotomy a.1 b.1 with hlt | heq | hlt
        · have hk := h a.1
          rw [lookupEntry, if_pos rfl, lookupEntry_eq_none] at hk
          · cases hk
          · intro e he
            rcases List.mem_cons.1 he with rfl | he
            · exact hlt
            · exact String.lt_trans hlt (hb.1 e he)
        · exact heq
        · have hk := h b.1
          rw [lookupEntry_eq_none, lookupEntry, if_pos rfl] at hk
          · cases hk
          · intro e he
            rcases List.mem_cons.1 he with rfl | he
            · exact hlt
            · exact String.lt_trans hlt (ha.1 e he)
      have hv := h a.1
      rw [lookupEntry, lookupEntry, if_pos rfl, if_pos hab] at hv
      have hhead : a = b := Prod.ext hab (Option.some.inj hv)
      subst hhead
      rw [ih ha.2 hb.2]
      intro k
      by_cases hk : k = a.1
      · rw [hk, lookupEntry_eq_none ha.1, lookupEntry_eq_none hb.1]
      · have := h k
        rwa [lookupEntry, lookupEntry, if_neg hk, if_neg hk] at this

namespace Dict

variable {α : Type u}

/-- The dictionary without entries. -/
def empty : Dict α := ⟨[], List.Pairwise.nil⟩

instance : Inhabited (Dict α) := ⟨empty⟩

instance [DecidableEq α] : DecidableEq (Dict α) := fun a b =>
  if h : a.entries = b.entries then
    isTrue (by cases a; cases b; cases h; rfl)
  else isFalse fun e => h (congrArg entries e)

/-- The value of a name. -/
def get? (d : Dict α) (k : String) : Option α := lookupEntry k d.entries

/-- The dictionary with the name set to the value. -/
def insert (d : Dict α) (k : String) (v : α) : Dict α :=
  ⟨insertEntry k v d.entries, pairwise_insertEntry k v d.ascending⟩

/-- The entries in any order, the last one of a name winning. -/
def ofList (es : List (String × α)) : Dict α := es.foldl (fun d e => d.insert e.1 e.2) empty

/-- The names, ascending. -/
def keys (d : Dict α) : List String := d.entries.map (·.1)

/-- The values in the order of their names. -/
def values (d : Dict α) : List α := d.entries.map (·.2)

/-- Whether the name has a value. -/
def contains (d : Dict α) (k : String) : Bool := (d.get? k).isSome

/-- The number of entries. -/
def size (d : Dict α) : Nat := d.entries.length

@[simp] theorem get?_empty (k : String) : (empty : Dict α).get? k = none := rfl

@[simp] theorem get?_insert (d : Dict α) (k k' : String) (v : α) :
    (d.insert k v).get? k' = if k' = k then some v else d.get? k' :=
  lookupEntry_insertEntry k k' v d.entries

/-- Dictionaries with the same values of all names are the same. -/
theorem ext_get? {a b : Dict α} (h : ∀ k, a.get? k = b.get? k) : a = b := by
  obtain ⟨as, ha⟩ := a
  obtain ⟨bs, hb⟩ := b
  have he : as = bs := eq_of_lookupEntry ha hb h
  subst he
  rfl

theorem get?_foldl_insert (es : List (String × α)) (d : Dict α) (k : String) :
    (es.foldl (fun d e => d.insert e.1 e.2) d).get? k
      = (lookupEntry k es.reverse).or (d.get? k) := by
  induction es generalizing d with
  | nil => rfl
  | cons e es ih =>
    rw [List.foldl_cons, ih, get?_insert, List.reverse_cons, lookupEntry_append, Option.or_assoc]
    congr 1
    rw [lookupEntry, lookupEntry]
    split <;> rfl

/-- Entries of different names are put in over the others. -/
theorem get?_foldl_insert_eq_some {es : List (String × α)} (hn : (es.map (·.1)).Nodup)
    {d : Dict α} {k : String} {v : α} :
    (es.foldl (fun d e => d.insert e.1 e.2) d).get? k = some v ↔
      (k, v) ∈ es ∨ k ∉ es.map (·.1) ∧ d.get? k = some v := by
  have hrev : (es.reverse.map (·.1)).Nodup := by
    rw [List.map_reverse]
    exact List.pairwise_reverse.2 (hn.imp Ne.symm)
  rw [get?_foldl_insert, Option.or_eq_some_iff, lookupEntry_eq_some_iff hrev, List.mem_reverse,
    ← Option.not_isSome_iff_eq_none, isSome_lookupEntry, List.map_reverse, List.mem_reverse]

/-- Of the entries of one name, the last one wins. -/
theorem get?_ofList (es : List (String × α)) (k : String) :
    (ofList es).get? k = lookupEntry k es.reverse := by
  rw [ofList, get?_foldl_insert, get?_empty, Option.or_none]

end Dict

/-- A finite set of names, held in ascending order. -/
structure NameSet where
  names : List String
  ascending : names.Pairwise (· < ·)
deriving DecidableEq

/-- Puts a name where the order wants it, once. -/
def insertName (k : String) : List String → List String
  | [] => [k]
  | x :: xs => if k < x then k :: x :: xs else if k = x then x :: xs else x :: insertName k xs

theorem mem_insertName {k x : String} {xs : List String} :
    x ∈ insertName k xs ↔ x = k ∨ x ∈ xs := by
  induction xs with
  | nil => simp [insertName]
  | cons y ys ih =>
    rw [insertName]
    split
    · exact List.mem_cons
    · split
      · rename_i h
        subst h
        simp
      · rw [List.mem_cons, ih, List.mem_cons]
        exact or_left_comm

theorem pairwise_insertName (k : String) {xs : List String} (h : xs.Pairwise (· < ·)) :
    (insertName k xs).Pairwise (· < ·) := by
  induction xs with
  | nil => exact List.pairwise_singleton ..
  | cons x xs ih =>
    have hx := List.pairwise_cons.1 h
    rw [insertName]
    split
    · rename_i hk
      refine List.pairwise_cons.2 ⟨fun y hy => ?_, h⟩
      rcases List.mem_cons.1 hy with rfl | hy
      · exact hk
      · exact String.lt_trans hk (hx.1 y hy)
    · split
      · exact h
      · rename_i h₁ h₂
        refine List.pairwise_cons.2 ⟨fun y hy => ?_, ih hx.2⟩
        rcases mem_insertName.1 hy with rfl | hy
        · exact ((Std.lt_trichotomy _ _).resolve_left h₁).resolve_left h₂
        · exact hx.1 y hy

namespace NameSet

/-- The set without names. -/
def empty : NameSet := ⟨[], List.Pairwise.nil⟩

instance : Inhabited NameSet := ⟨empty⟩

instance : Membership String NameSet := ⟨fun s k => k ∈ s.names⟩

instance (k : String) (s : NameSet) : Decidable (k ∈ s) :=
  inferInstanceAs (Decidable (k ∈ s.names))

/-- The set with one name more. -/
def insert (s : NameSet) (k : String) : NameSet :=
  ⟨insertName k s.names, pairwise_insertName k s.ascending⟩

/-- The set without the name. -/
def erase (s : NameSet) (k : String) : NameSet :=
  ⟨s.names.filter (· ≠ k), s.ascending.filter _⟩

/-- The set with all the names of a list besides its own. -/
def insertAll (s : NameSet) (ks : List String) : NameSet := ks.foldl insert s

/-- The names of a list. -/
def ofList (ks : List String) : NameSet := empty.insertAll ks

/-- The number of names. -/
def size (s : NameSet) : Nat := s.names.length

@[simp] theorem notMem_empty (k : String) : k ∉ empty := List.not_mem_nil

@[simp] theorem mem_insert {s : NameSet} {k x : String} : x ∈ s.insert k ↔ x = k ∨ x ∈ s :=
  mem_insertName

@[simp] theorem mem_erase {s : NameSet} {k x : String} : x ∈ s.erase k ↔ x ∈ s ∧ x ≠ k := by
  change x ∈ s.names.filter _ ↔ _
  rw [List.mem_filter, decide_eq_true_iff]
  rfl

/-- Sets with the same names are the same. -/
theorem ext_mem {s t : NameSet} (h : ∀ k, k ∈ s ↔ k ∈ t) : s = t := by
  obtain ⟨as, ha⟩ := s
  obtain ⟨bs, hb⟩ := t
  -- A set is a dictionary of names with nothing to them.
  have hkeys : ∀ ns : List String, (ns.map fun n => (n, ())).map (·.1) = ns := fun ns => by
    rw [List.map_map]
    exact List.map_id ns
  have hunit : ∀ (k : String) (ns : List String),
      (lookupEntry k (ns.map fun n => (n, ()))).isSome ↔ k ∈ ns := fun k ns => by
    rw [isSome_lookupEntry, hkeys]
  have he : (as.map fun n => (n, ())) = bs.map fun n => (n, ()) := by
    refine eq_of_lookupEntry (List.pairwise_map.2 ha) (List.pairwise_map.2 hb) fun k => ?_
    have hk : (lookupEntry k (as.map fun n => (n, ()))).isSome
        = (lookupEntry k (bs.map fun n => (n, ()))).isSome :=
      Bool.eq_iff_iff.2 ((hunit k as).trans ((h k).trans (hunit k bs).symm))
    cases ha : lookupEntry k (as.map fun n => (n, ())) <;>
      cases hb : lookupEntry k (bs.map fun n => (n, ())) <;> simp_all
  have : as = bs := by rw [← hkeys as, he, hkeys]
  subst this
  rfl

end NameSet

end Runbook
