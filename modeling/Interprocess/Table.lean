/-!
# Finite tables

A table is a list of key and value pairs in order of first insertion.  `Table.insert`
replaces the value of a key that is present, so a key never occurs twice in a table
built by `insert` from the empty one.
-/

namespace Interprocess

/-- A finite map from `α` to `β`, in order of insertion. -/
abbrev Table (α β : Type) := List (α × β)

namespace Table

variable {α β : Type} [DecidableEq α]

/-- The value stored under `key`. -/
def find? (key : α) : Table α β → Option β
  | [] => none
  | (k, v) :: rest => if k = key then some v else find? key rest

/-- Store `value` under `key`, in place of any value that was there. -/
def insert (key : α) (value : β) : Table α β → Table α β
  | [] => [(key, value)]
  | (k, v) :: rest =>
      if k = key then (key, value) :: rest else (k, v) :: insert key value rest

/-- Drop every entry of `key`. -/
def erase (key : α) (table : Table α β) : Table α β :=
  table.filter fun entry => entry.1 ≠ key

/-- Change every value, keys being visible. -/
def mapValues (f : α → β → β) (table : Table α β) : Table α β :=
  table.map fun entry => (entry.1, f entry.1 entry.2)

@[simp] theorem find?_nil (key : α) : find? key ([] : Table α β) = none := rfl

@[simp] theorem find?_insert_same (key : α) (value : β) (table : Table α β) :
    find? key (insert key value table) = some value := by
  induction table with
  | nil => simp [insert, find?]
  | cons entry rest ih =>
      obtain ⟨k, v⟩ := entry
      by_cases h : k = key <;> simp [insert, find?, h, ih]

theorem find?_insert_of_ne {key other : α} (h : other ≠ key) (value : β) (table : Table α β) :
    find? other (insert key value table) = find? other table := by
  induction table with
  | nil => simp [insert, find?, h.symm]
  | cons entry rest ih =>
      obtain ⟨k, v⟩ := entry
      by_cases hk : k = key
      · subst hk; simp [insert, find?, h.symm]
      · by_cases ho : k = other
        · subst ho; simp [insert, find?, hk]
        · simp [insert, find?, hk, ho, ih]

theorem find?_mapValues (f : α → β → β) (key : α) (table : Table α β) :
    find? key (mapValues f table) = (find? key table).map (f key) := by
  induction table with
  | nil => rfl
  | cons entry rest ih =>
      obtain ⟨k, v⟩ := entry
      by_cases h : k = key
      · subst h; simp [mapValues, find?]
      · simpa [mapValues, find?, h] using ih

@[simp] theorem find?_erase_same (key : α) (table : Table α β) :
    find? key (erase key table) = none := by
  induction table with
  | nil => rfl
  | cons entry rest ih =>
      obtain ⟨k, v⟩ := entry
      by_cases h : k = key
      · simpa [erase, h] using ih
      · simpa [erase, find?, h] using ih

theorem find?_erase_of_ne {key other : α} (h : other ≠ key) (table : Table α β) :
    find? other (erase key table) = find? other table := by
  induction table with
  | nil => rfl
  | cons entry rest ih =>
      obtain ⟨k, v⟩ := entry
      by_cases hk : k = key
      · subst hk
        simpa [erase, find?, h.symm] using ih
      · by_cases ho : k = other
        · subst ho; simp [erase, find?, hk]
        · simpa [erase, find?, hk, ho] using ih

theorem isSome_find?_iff {key : α} {table : Table α β} :
    (table.find? key).isSome = true ↔ key ∈ table.map Prod.fst := by
  induction table with
  | nil => simp [find?]
  | cons entry rest ih =>
      obtain ⟨k, v⟩ := entry
      by_cases h : k = key
      · simp [find?, h]
      · simp [find?, h, ih, Ne.symm h]

/-- A new key goes to the end. -/
theorem keys_insert_of_find?_eq_none {key : α} {table : Table α β}
    (h : table.find? key = none) (value : β) :
    (table.insert key value).map Prod.fst = table.map Prod.fst ++ [key] := by
  induction table with
  | nil => rfl
  | cons entry rest ih =>
      obtain ⟨k, v⟩ := entry
      by_cases hk : k = key
      · simp [find?, hk] at h
      · rw [find?, if_neg hk] at h
        simp [insert, hk, ih h]

end Table

end Interprocess
