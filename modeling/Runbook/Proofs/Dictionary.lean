/-
# Dictionaries and the objects that hold them

The names of a dictionary come once each (`Dict.nodup_keys`), so a dictionary that is
written as an object and read back is the same (`Json.fields?_ofValues`), and its size is
the number of its names.
-/

import Mathlib.Algebra.Order.Ring.Nat
import Runbook.Json.Basic

namespace Runbook

namespace Dict

variable {α β : Type}

/-- The dictionary with a function applied to its values. -/
def map (f : α → β) (d : Dict α) : Dict β where
  entries := d.entries.map fun e => (e.1, f e.2)
  ascending := List.pairwise_map.2 d.ascending

theorem get?_map (f : α → β) (d : Dict α) (k : String) :
    (d.map f).get? k = (d.get? k).map f := by
  obtain ⟨es, hes⟩ := d
  show lookupEntry k (es.map fun e => (e.1, f e.2)) = (lookupEntry k es).map f
  clear hes
  induction es with
  | nil => rfl
  | cons e es ih =>
    rw [List.map_cons, lookupEntry, lookupEntry]
    split
    · rfl
    · exact ih

theorem map_insert (f : α → β) (d : Dict α) (k : String) (v : α) :
    (d.insert k v).map f = (d.map f).insert k (f v) := by
  refine ext_get? fun k' => ?_
  rw [get?_map, get?_insert, get?_insert, get?_map]
  split <;> rfl

@[simp] theorem keys_map (f : α → β) (d : Dict α) : (d.map f).keys = d.keys := List.map_map

@[simp] theorem size_map (f : α → β) (d : Dict α) : (d.map f).size = d.size := List.length_map _

theorem length_keys (d : Dict α) : d.keys.length = d.size := List.length_map _

/-- No name comes twice. -/
theorem nodup_keys (d : Dict α) : d.keys.Nodup :=
  List.pairwise_map.2 (d.ascending.imp fun hlt => String.ne_of_lt hlt)

theorem mem_keys {d : Dict α} {k : String} : k ∈ d.keys ↔ d.contains k := isSome_lookupEntry.symm

/-- The entries of a dictionary make it up. -/
theorem ofList_entries (d : Dict α) : ofList d.entries = d := by
  refine ext_get? fun k => Option.ext fun v => ?_
  rw [ofList, get?_foldl_insert_eq_some d.nodup_keys, get?_empty, get?,
    lookupEntry_eq_some_iff d.nodup_keys]
  exact or_iff_left fun h => Option.some_ne_none v h.2.symm

/-- A measure of the values, summed up. -/
def total (f : α → Nat) (d : Dict α) : Nat := (d.entries.map fun e => f e.2).sum

@[simp] theorem total_empty (f : α → Nat) : (empty : Dict α).total f = 0 := rfl

/-- A value that is put in takes the place of the one that the name had. -/
theorem total_insert (f : α → Nat) (d : Dict α) (k : String) (v : α) :
    (d.insert k v).total f + ((d.get? k).map f).getD 0 = d.total f + f v := by
  obtain ⟨es, hes⟩ := d
  show ((insertEntry k v es).map fun e => f e.2).sum + ((lookupEntry k es).map f).getD 0
    = (es.map fun e => f e.2).sum + f v
  induction es with
  | nil => simp [insertEntry, lookupEntry]
  | cons e es ih =>
    obtain ⟨hfirst, hrest⟩ := List.pairwise_cons.1 hes
    rw [insertEntry]
    by_cases hlt : k < e.1
    · -- In ascending order, a name before the first one has no value.
      have hnone : lookupEntry k (e :: es) = none := by
        refine lookupEntry_eq_none fun x hx => ?_
        rcases List.mem_cons.1 hx with rfl | hx
        · exact hlt
        · exact String.lt_trans hlt (hfirst x hx)
      simp [hlt, hnone]
      omega
    · by_cases heq : k = e.1
      · simp [heq, lookupEntry]
        omega
      · have hrec := ih hrest
        simp [hlt, heq, lookupEntry]
        omega

/-- The sum is zero if that of every value is. -/
theorem total_eq_zero_iff {f : α → Nat} {d : Dict α} :
    d.total f = 0 ↔ ∀ k v, d.get? k = some v → f v = 0 := by
  rw [total, List.sum_eq_zero_iff_forall_eq_nat]
  constructor
  · intro h k v hv
    exact h _ (List.mem_map_of_mem ((lookupEntry_eq_some_iff d.nodup_keys).1 hv))
  · intro h n hn
    obtain ⟨e, he, rfl⟩ := List.mem_map.1 hn
    exact h e.1 e.2 (lookupEntry_of_mem d.nodup_keys he)

end Dict

namespace Json

@[simp] theorem fields?_ofValues (d : Dict Json) : (ofValues d).fields? = some d :=
  congrArg some d.ofList_entries

@[simp] theorem field?_ofValues (d : Dict Json) (k : String) : (ofValues d).field? k = d.get? k :=
  rfl

/-- Of the fields of one name, the last one is the object's. -/
theorem field?_ofFields (fields : List (String × Json)) (k : String) :
    (ofFields fields).field? k = lookupEntry k fields.reverse :=
  Dict.get?_ofList fields k

end Json
end Runbook
