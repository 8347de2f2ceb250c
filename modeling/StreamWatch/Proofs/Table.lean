import Mathlib.Data.List.Nodup
import StreamWatch.Table

namespace StreamWatch.Table

/-!
# Keys and values of tables

What putting and removing does to all the keys and to all the values of a table at once:

* `keys_set`, `keys_erase` — the keys, in order;
* `mem_of_get?`, `get?_of_mem` — the entries of a table are what is found in it;
* `values_perm`, `values_set_perm` — the values, in any order. Both speak of the table without
  the key, so that they fit together;
* `mem_of_mem_set`, `mem_values_of_set`, `mem_values_of_erase` — where an entry or a value of the
  new table comes from.
-/

variable {α : Type} {key : String}

/-- The keys of a longer table. -/
theorem keys_cons (entry : String × α) (table : Table α) :
    keys (entry :: table) = entry.1 :: keys table := rfl

/-- The values of a longer table. -/
theorem values_cons (entry : String × α) (table : Table α) :
    values (entry :: table) = entry.2 :: values table := rfl

/-- Exactly the keys have a value. -/
theorem get?_eq_none_iff (table : Table α) : get? key table = none ↔ key ∉ keys table := by
  induction table with
  | nil => exact iff_of_true rfl List.not_mem_nil
  | cons entry rest ih =>
    by_cases h : entry.1 = key
    · simp [get?, keys, h]
    · rw [get?, if_neg h, ih, keys_cons, List.mem_cons, not_or]
      exact ⟨fun hrest => ⟨fun e => h e.symm, hrest⟩, fun hboth => hboth.2⟩

/-- What is found under a key is in the table. -/
theorem mem_of_get? {value : α} {table : Table α} (h : table.get? key = some value) :
    (key, value) ∈ table := by
  induction table with
  | nil => cases h
  | cons entry rest ih =>
    by_cases hkey : entry.1 = key
    · rw [get?, if_pos hkey] at h
      rw [← hkey, ← Option.some.inj h]
      exact List.mem_cons_self
    · rw [get?, if_neg hkey] at h
      exact List.mem_cons_of_mem _ (ih h)

/-- What is in a table after a value was put under a key was there before, or is that value. -/
theorem mem_of_mem_set {value : α} {table : Table α} {entry : String × α}
    (h : entry ∈ table.set key value) : entry = (key, value) ∨ entry ∈ table := by
  induction table with
  | nil => exact .inl (List.mem_singleton.mp h)
  | cons first rest ih =>
    by_cases hkey : first.1 = key
    · rw [set, if_pos hkey] at h
      exact (List.mem_cons.mp h).imp_right (List.mem_cons_of_mem _)
    · rw [set, if_neg hkey] at h
      obtain rfl | h := List.mem_cons.mp h
      · exact .inr List.mem_cons_self
      · exact (ih h).imp_right (List.mem_cons_of_mem _)

/-- The value under a key is one of the values. -/
theorem mem_values_of_get? {value : α} {table : Table α} (h : get? key table = some value) :
    value ∈ values table :=
  List.mem_map_of_mem (mem_of_get? h)

/-- Where no key is there twice, the value of each entry is the one under its key. -/
theorem get?_of_mem {entry : String × α} {table : Table α} (hdistinct : (keys table).Nodup)
    (h : entry ∈ table) : get? entry.1 table = some entry.2 := by
  induction table with
  | nil => cases h
  | cons first rest ih =>
    obtain ⟨hnew, hrest⟩ := List.nodup_cons.mp hdistinct
    obtain rfl | h := List.mem_cons.mp h
    · rw [get?, if_pos rfl]
    · have hne : first.1 ≠ entry.1 := fun e => hnew (e ▸ List.mem_map_of_mem h)
      rw [get?, if_neg hne, ih hrest h]

/-- Where no key is there twice, each of the values is found under some key. -/
theorem exists_get?_of_mem_values {value : α} {table : Table α} (hdistinct : (keys table).Nodup)
    (h : value ∈ values table) : ∃ key, get? key table = some value := by
  obtain ⟨entry, hentry, rfl⟩ := List.mem_map.mp h
  exact ⟨entry.1, get?_of_mem hdistinct hentry⟩

/-- A new key is put behind the others, and an old one stays where it is. -/
theorem keys_set (key : String) (value : α) (table : Table α) :
    keys (set key value table) =
      if key ∈ keys table then keys table else keys table ++ [key] := by
  induction table with
  | nil => rfl
  | cons entry rest ih =>
    by_cases h : entry.1 = key
    · simp [set, keys, h]
    · have hkey : key ∈ keys (entry :: rest) ↔ key ∈ keys rest := by
        rw [keys_cons, List.mem_cons]
        exact or_iff_right fun e => h e.symm
      rw [set, if_neg h, keys_cons, ih, if_congr hkey rfl rfl, keys_cons]
      split <;> rfl

/-- A key that is removed is gone, and the others stay. -/
theorem keys_erase (key : String) (table : Table α) :
    keys (erase key table) = (keys table).filter (· ≠ key) := by
  unfold keys erase
  rw [List.filter_map]
  rfl

/-- No key is there twice after a value was put under one. -/
theorem nodup_keys_set {value : α} {table : Table α} (h : (keys table).Nodup) :
    (keys (set key value table)).Nodup := by
  rw [keys_set]
  split
  · exact h
  · rename_i hnew
    exact h.append (List.nodup_singleton key) (List.disjoint_singleton.mpr hnew)

/-- No key is there twice after one was removed. -/
theorem nodup_keys_erase {table : Table α} (h : (keys table).Nodup) :
    (keys (erase key table)).Nodup := by
  rw [keys_erase]
  exact h.filter _

/-- A value of a table into which one was put is that one or was there before. -/
theorem mem_values_of_set {value other : α} {table : Table α}
    (h : other ∈ values (set key value table)) : other = value ∨ other ∈ values table := by
  obtain ⟨entry, hentry, rfl⟩ := List.mem_map.mp h
  obtain rfl | hbefore := mem_of_mem_set hentry
  · exact .inl rfl
  · exact .inr (List.mem_map_of_mem hbefore)

/-- A value of a table from which a key was removed was there before. -/
theorem mem_values_of_erase {value : α} {table : Table α}
    (h : value ∈ values (erase key table)) : value ∈ values table :=
  (List.filter_sublist.map Prod.snd).subset h

/-- Removing a key that is not there changes nothing. -/
theorem erase_of_not_mem {table : Table α} (h : key ∉ keys table) : erase key table = table := by
  refine List.filter_eq_self.mpr fun entry hentry => ?_
  have hkey : entry.1 ∈ keys table := List.mem_map_of_mem hentry
  simp only [ne_eq, decide_not, Bool.not_eq_true', decide_eq_false_iff_not]
  rintro rfl
  exact h hkey

/-- The values of a table are the one under a key and those under the others. -/
theorem values_perm {table : Table α} (h : (keys table).Nodup) (key : String) :
    (values table).Perm ((get? key table).toList ++ values (erase key table)) := by
  induction table with
  | nil => exact .nil
  | cons entry rest ih =>
    obtain ⟨hnew, hrest⟩ := List.nodup_cons.mp h
    by_cases hkey : entry.1 = key
    · subst hkey
      -- The key is there only once, so nothing else is removed with it.
      rw [erase_cons_self rest rfl, erase_of_not_mem hnew, get?, if_pos rfl]
      exact .refl _
    · rw [erase_cons_of_ne rest hkey, get?, if_neg hkey]
      exact ((ih hrest).cons entry.2).trans List.perm_middle.symm

/-- The values after a value was put under a key are that one and those under the others. -/
theorem values_set_perm {table : Table α} (h : (keys table).Nodup) (key : String) (value : α) :
    (values (set key value table)).Perm (value :: values (erase key table)) := by
  induction table with
  | nil => exact .refl _
  | cons entry rest ih =>
    obtain ⟨hnew, hrest⟩ := List.nodup_cons.mp h
    by_cases hkey : entry.1 = key
    · subst hkey
      rw [erase_cons_self rest rfl, erase_of_not_mem hnew, set, if_pos rfl]
      exact .refl _
    · rw [erase_cons_of_ne rest hkey, set, if_neg hkey]
      exact ((ih hrest).cons entry.2).trans (.swap ..)

end StreamWatch.Table
