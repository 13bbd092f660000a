/-!
# Entries by key

A table is a list of entries in increasing order of their keys, each key once. Looking up
what was put under a key gives it back, and putting something under one key does not touch
the others.
-/

namespace ProcessorHost.Keyed

variable {κ α : Type} [DecidableEq κ]

/-- The value under a key. -/
def find? (key : κ) (entries : List (κ × α)) : Option α :=
  (entries.find? fun entry => entry.1 = key).map (·.2)

/-- The entries without the one under a key. -/
def erase (key : κ) (entries : List (κ × α)) : List (κ × α) :=
  entries.filter fun entry => entry.1 ≠ key

theorem find?_erase_self (key : κ) (entries : List (κ × α)) :
    find? key (erase key entries) = none := by
  simp [find?, erase]

theorem find?_erase_of_ne {k key : κ} (h : k ≠ key) (entries : List (κ × α)) :
    find? k (erase key entries) = find? k entries := by
  induction entries with
  | nil => rfl
  | cons entry rest ih =>
    unfold erase find? at ih ⊢
    by_cases hkey : entry.1 = key
    · have hk : entry.1 ≠ k := fun h' => h (h'.symm.trans hkey)
      simpa [hkey, hk, Ne.symm h] using ih
    · by_cases hk : entry.1 = k
      · simp [hk, h]
      · simpa [hkey, hk] using ih

theorem erase_eq_self_iff (key : κ) (entries : List (κ × α)) :
    erase key entries = entries ↔ find? key entries = none := by
  simp [erase, find?]

variable [LT κ] [DecidableLT κ]

/-- Puts a value under a key, in the place of an earlier one, and keeps the keys in order. -/
def insert (key : κ) (value : α) : List (κ × α) → List (κ × α)
  | [] => [(key, value)]
  | (k, v) :: rest =>
    if key < k then (key, value) :: (k, v) :: rest
    else if key = k then (key, value) :: rest
    else (k, v) :: insert key value rest

/-- The entries in increasing order of their keys; of two with one key the last. -/
def ofList (entries : List (κ × α)) : List (κ × α) :=
  entries.foldl (fun table entry => insert entry.1 entry.2 table) []

theorem find?_insert_self (key : κ) (value : α) (entries : List (κ × α)) :
    find? key (insert key value entries) = some value := by
  induction entries with
  | nil => simp [insert, find?]
  | cons entry rest ih =>
    obtain ⟨k, v⟩ := entry
    unfold insert
    split
    · simp [find?]
    · split
      · simp [find?]
      · rename_i hlt hne
        have hk : k ≠ key := fun h => hne h.symm
        simpa [find?, hk] using ih

theorem find?_insert_of_ne {k key : κ} (h : k ≠ key) (value : α) (entries : List (κ × α)) :
    find? k (insert key value entries) = find? k entries := by
  have hkey : key ≠ k := fun h' => h h'.symm
  induction entries with
  | nil => simp [insert, find?, hkey]
  | cons entry rest ih =>
    obtain ⟨j, v⟩ := entry
    unfold insert
    split
    · simp [find?, hkey]
    · split
      · rename_i hlt heq
        subst heq
        simp [find?, hkey]
      · by_cases hj : j = k
        · simp [find?, hj]
        · simpa [find?, hj] using ih

end ProcessorHost.Keyed
