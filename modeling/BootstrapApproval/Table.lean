/-! # Ordered tables

A table maps strings to values and remembers the order in which its keys were first written: the
members of a JSON object, the attributes of a log record, the objects a server stores. Writing a
key that is present changes its value in place, so the order never depends on later writes.
-/

namespace BootstrapApproval

abbrev Table (α : Type u) := List (String × α)

namespace Table

variable {α : Type u} {β : Type v}

def find? : Table α → String → Option α
  | [], _ => none
  | (k, v) :: rest, key => if k = key then some v else find? rest key

def has (t : Table α) (key : String) : Bool := (find? t key).isSome

def keys (t : Table α) : List String := t.map Prod.fst

/-- Write one key: in place when it is present, at the end otherwise. -/
def insert : Table α → String → α → Table α
  | [], key, value => [(key, value)]
  | (k, v) :: rest, key, value =>
      if k = key then (k, value) :: rest else (k, v) :: insert rest key value

def erase (t : Table α) (key : String) : Table α := t.filter (fun e => e.1 != key)

def insertAll (t : Table α) (entries : List (String × α)) : Table α :=
  entries.foldl (fun t e => insert t e.1 e.2) t

/-- The table of a list of entries; a later entry with the same key wins. -/
def ofEntries (entries : List (String × α)) : Table α := insertAll [] entries

@[simp] theorem find?_nil (key : String) : find? ([] : Table α) key = none := rfl

theorem find?_cons (k : String) (v : α) (t : Table α) (key : String) :
    find? ((k, v) :: t) key = if k = key then some v else find? t key := rfl

@[simp] theorem find?_insert_self (t : Table α) (key : String) (value : α) :
    find? (insert t key value) key = some value := by
  induction t with
  | nil => simp [insert, find?]
  | cons e rest ih =>
      obtain ⟨k, v⟩ := e
      by_cases h : k = key <;> simp [insert, find?, h, ih]

theorem find?_insert_of_ne (t : Table α) {key other : String} (value : α) (h : other ≠ key) :
    find? (insert t key value) other = find? t other := by
  induction t with
  | nil => simp [insert, find?, Ne.symm h]
  | cons e rest ih =>
      obtain ⟨k, v⟩ := e
      by_cases hk : k = key
      · subst hk
        simp [insert, find?, Ne.symm h]
      · simp only [insert, if_neg hk, find?_cons, ih]

@[simp] theorem find?_erase_self (t : Table α) (key : String) : find? (erase t key) key = none := by
  induction t with
  | nil => rfl
  | cons e rest ih =>
      obtain ⟨k, v⟩ := e
      by_cases h : k = key
      · simpa [erase, h] using ih
      · have : erase ((k, v) :: rest) key = (k, v) :: erase rest key := by simp [erase, h]
        rw [this, find?_cons, if_neg h, ih]

theorem find?_erase_of_ne (t : Table α) {key other : String} (h : other ≠ key) :
    find? (erase t key) other = find? t other := by
  induction t with
  | nil => rfl
  | cons e rest ih =>
      obtain ⟨k, v⟩ := e
      by_cases hk : k = key
      · subst hk
        have : erase ((k, v) :: rest) k = erase rest k := by simp [erase]
        rw [this, ih, find?_cons, if_neg (Ne.symm h)]
      · have : erase ((k, v) :: rest) key = (k, v) :: erase rest key := by simp [erase, hk]
        rw [this, find?_cons, find?_cons, ih]

end Table

end BootstrapApproval
