namespace StreamWatch

/-! # Tables

A table maps keys to values and keeps the order in which the keys were added:

* `Table.get?`: the value under a key;
* `Table.set`: adds a key at the end, or replaces its value where the key stands;
* `Table.erase`: removes a key.
-/

/-- Keys with their values, in the order in which the keys were added. -/
abbrev Table (α : Type) := List (String × α)

namespace Table

variable {α : Type}

/-- The value under a key. -/
def get? (key : String) : Table α → Option α
  | [] => none
  | entry :: rest => if entry.1 = key then some entry.2 else get? key rest

/-- Puts a value under a key. -/
def set (key : String) (value : α) : Table α → Table α
  | [] => [(key, value)]
  | entry :: rest =>
    if entry.1 = key then (key, value) :: rest else entry :: set key value rest

/-- Removes a key. -/
def erase (key : String) (table : Table α) : Table α :=
  table.filter fun entry => entry.1 ≠ key

/-- The keys, in order. -/
def keys (table : Table α) : List String := table.map Prod.fst

/-- The values, in the order of their keys. -/
def values (table : Table α) : List α := table.map Prod.snd

/-- The empty table has no key. -/
@[simp] theorem get?_nil (key : String) : get? key ([] : Table α) = none := rfl

/-- What was put under a key is found there. -/
@[simp] theorem get?_set_self (key : String) (value : α) (table : Table α) :
    get? key (set key value table) = some value := by
  induction table with
  | nil => simp [set, get?]
  | cons entry rest ih =>
    by_cases h : entry.1 = key
    · simp [set, get?, h]
    · simp [set, get?, h, ih]

/-- Putting a value under a key changes no other key. -/
theorem get?_set_of_ne {key other : String} (value : α) (table : Table α) (h : other ≠ key) :
    get? other (set key value table) = get? other table := by
  induction table with
  | nil => simp [set, get?, h.symm]
  | cons entry rest ih =>
    by_cases he : entry.1 = key
    · simp [set, get?, he, h.symm]
    · simp only [set, he, if_false, get?, ih]

/-- The first key goes when it is removed. -/
theorem erase_cons_self {key : String} {entry : String × α} (rest : Table α)
    (h : entry.1 = key) : erase key (entry :: rest) = erase key rest := by
  simp [erase, h]

/-- The first key stays when another one is removed. -/
theorem erase_cons_of_ne {key : String} {entry : String × α} (rest : Table α)
    (h : entry.1 ≠ key) : erase key (entry :: rest) = entry :: erase key rest := by
  simp [erase, h]

/-- A removed key is not found. -/
@[simp] theorem get?_erase_self (key : String) (table : Table α) :
    get? key (erase key table) = none := by
  induction table with
  | nil => rfl
  | cons entry rest ih =>
    by_cases h : entry.1 = key
    · rw [erase_cons_self rest h, ih]
    · rw [erase_cons_of_ne rest h, get?, if_neg h, ih]

/-- Removing a key changes no other key. -/
theorem get?_erase_of_ne {key other : String} (table : Table α) (h : other ≠ key) :
    get? other (erase key table) = get? other table := by
  induction table with
  | nil => rfl
  | cons entry rest ih =>
    by_cases he : entry.1 = key
    · have hne : entry.1 ≠ other := fun e => h (e.symm.trans he)
      rw [erase_cons_self rest he, ih, get?, if_neg hne]
    · rw [erase_cons_of_ne rest he, get?, get?, ih]

end Table

end StreamWatch
