import BootstrapApproval.Request.Encode

/-! # What a table holds under a key

A table read from outside may hold a key more than once. All values under a key, in order, say what
an operation does to that key without any assumption on the others.
-/

namespace BootstrapApproval.Table

variable {α : Type u}

/-- All values under a key, in order. -/
def values (t : Table α) (key : String) : List α := (t.filter fun e => e.1 = key).map Prod.snd

@[simp] theorem values_nil (key : String) : values ([] : Table α) key = [] := rfl

theorem values_cons (e : String × α) (t : Table α) (key : String) :
    values (e :: t) key = if e.1 = key then e.2 :: values t key else values t key := by
  by_cases same : e.1 = key <;> simp [values, same]

@[simp] theorem values_append (t u : Table α) (key : String) :
    values (t ++ u) key = values t key ++ values u key := by
  simp [values]

theorem mem_values {t : Table α} {key : String} {v : α} : v ∈ values t key ↔ (key, v) ∈ t := by
  simp [values]

theorem find?_eq_head (t : Table α) (key : String) : find? t key = (values t key).head? := by
  induction t with
  | nil => rfl
  | cons e rest ih =>
      obtain ⟨k, v⟩ := e
      rw [find?_cons, values_cons, ih]
      split <;> rfl

theorem mem_of_find? {t : Table α} {key : String} {v : α} (found : find? t key = some v) :
    (key, v) ∈ t := by
  rw [find?_eq_head] at found
  exact mem_values.mp (List.mem_of_mem_head? found)

theorem find?_append (t u : Table α) (key : String) :
    find? (t ++ u) key = (find? t key).or (find? u key) := by
  simp only [find?_eq_head, values_append, List.head?_append]

theorem has_eq (t : Table α) (key : String) : has t key = !(values t key).isEmpty := by
  rw [has, find?_eq_head]
  cases values t key <;> rfl

theorem has_iff {t : Table α} {key : String} : has t key = true ↔ values t key ≠ [] := by
  rw [has_eq]
  cases values t key <;> simp

theorem has_of_find? {t : Table α} {key : String} {v : α} (found : find? t key = some v) :
    has t key = true := by
  rw [has, found, Option.isSome_some]

/-- Writing what is there already changes nothing. -/
theorem insert_of_find? {t : Table α} {key : String} {v : α} (found : find? t key = some v) :
    insert t key v = t := by
  induction t with
  | nil => cases found
  | cons e rest ih =>
      obtain ⟨k, w⟩ := e
      rw [find?_cons] at found
      by_cases same : k = key
      · rw [if_pos same] at found
        rw [insert, if_pos same, Option.some.inj found]
      · rw [if_neg same] at found
        rw [insert, if_neg same, ih found]

theorem insert_insert_comm {t : Table α} {key other : String} (present : has t key = true)
    (different : other ≠ key) (v w : α) :
    insert (insert t key v) other w = insert (insert t other w) key v := by
  induction t with
  | nil => cases present
  | cons e rest ih =>
      obtain ⟨k, u⟩ := e
      by_cases here : k = key
      · have elsewhere : k ≠ other := fun there => different (there.symm.trans here)
        simp only [insert, if_pos here, if_neg elsewhere]
      · have later : has rest key = true := by simpa [has, find?_cons, here] using present
        by_cases there : k = other
        · simp only [insert, if_neg here, if_pos there]
        · simp only [insert, if_neg here, if_neg there, ih later]

/-- Write one key, if there is something to write. -/
def settle (t : Table α) (key : String) : Option α → Table α
  | some v => insert t key v
  | none => t

theorem settle_find? (t : Table α) (key : String) : settle t key (find? t key) = t := by
  cases found : find? t key with
  | none => rfl
  | some v => exact insert_of_find? found

/-- Writes under two keys can change places when one of the keys is there before. -/
theorem settle_settle_comm {t : Table α} {key other : String} {v : Option α}
    (present : v.isSome = true → has t key = true) (different : other ≠ key) (w : Option α) :
    settle (settle t key v) other w = settle (settle t other w) key v := by
  cases v with
  | none => rfl
  | some a =>
      cases w with
      | none => rfl
      | some b => exact insert_insert_comm (present rfl) different a b

theorem values_withoutNulls (t : Table Json) (key : String) :
    values (withoutNulls t) key = (values t key).filter fun v => !v.isNull := by
  induction t with
  | nil => rfl
  | cons e rest ih =>
      by_cases null : e.2.isNull = true <;> by_cases same : e.1 = key <;>
        simp_all [withoutNulls, values_cons]

theorem withoutNulls_withoutNulls (t : Table Json) :
    withoutNulls (withoutNulls t) = withoutNulls t := by
  simp [withoutNulls]

theorem mem_keys {t : Table α} {key : String} {v : α} (member : (key, v) ∈ t) : key ∈ keys t :=
  List.mem_map.mpr ⟨_, member, rfl⟩

theorem values_eq_nil {t : Table α} {key : String} (absent : key ∉ keys t) : values t key = [] := by
  rw [List.eq_nil_iff_forall_not_mem]
  intro v member
  exact absent (mem_keys (mem_values.mp member))

theorem find?_of_absent {t : Table α} {key : String} (absent : key ∉ keys t) :
    find? t key = none := by
  rw [find?_eq_head, values_eq_nil absent, List.head?_nil]

/-- The value of the one entry with a key. -/
theorem values_of_nodup {t : Table α} (distinct : (keys t).Nodup) {key : String} {v : α}
    (member : (key, v) ∈ t) : values t key = [v] := by
  induction t with
  | nil => simp at member
  | cons e rest ih =>
      obtain ⟨absent, distinct⟩ := List.nodup_cons.mp distinct
      rcases List.mem_cons.mp member with rfl | later
      · rw [values_cons, if_pos rfl, values_eq_nil absent]
      · have other : e.1 ≠ key := by
          rintro rfl
          exact absent (mem_keys later)
        rw [values_cons, if_neg other, ih distinct later]

/-- A key that is not there yet is written at the end. -/
theorem insert_of_absent {t : Table α} {key : String} (absent : key ∉ keys t) (v : α) :
    insert t key v = t ++ [(key, v)] := by
  induction t with
  | nil => rfl
  | cons e rest ih =>
      obtain ⟨k, u⟩ := e
      simp only [keys, List.map_cons, List.mem_cons, not_or] at absent
      rw [insert, if_neg (Ne.symm absent.1), ih absent.2]
      rfl

theorem insertAll_of_nodup {t entries : Table α} (distinct : (keys (t ++ entries)).Nodup) :
    insertAll t entries = t ++ entries := by
  induction entries generalizing t with
  | nil => rw [List.append_nil]; rfl
  | cons e rest ih =>
      obtain ⟨k, v⟩ := e
      have absent : k ∉ keys t := by
        simp only [keys, List.map_append, List.map_cons, List.nodup_append] at distinct
        intro member
        exact distinct.2.2 k member k List.mem_cons_self rfl
      have moved : t ++ (k, v) :: rest = t ++ [(k, v)] ++ rest := by simp
      rw [moved] at distinct ⊢
      rw [← ih distinct, ← insert_of_absent absent]
      rfl

/-- Entries under different keys are a table already. -/
theorem ofEntries_of_nodup {entries : Table α} (distinct : (keys entries).Nodup) :
    ofEntries entries = entries := insertAll_of_nodup (t := []) distinct

section Selected

variable (t : Table α) (names : List String)

/-- A table cut down to some names holds under them what it held before. -/
theorem find?_selected (key : String) :
    find? (names.filterMap fun k => (find? t k).map fun v => (k, v)) key =
      if key ∈ names then find? t key else none := by
  induction names with
  | nil => rfl
  | cons name names ih =>
      cases found : find? t name with
      | none =>
          simp only [List.filterMap_cons, found, Option.map_none, ih, List.mem_cons]
          by_cases same : key = name
          · simp [same, found]
          · simp [same]
      | some v =>
          simp only [List.filterMap_cons, found, Option.map_some, find?_cons, ih, List.mem_cons]
          by_cases same : key = name
          · simp [same, found]
          · simp [same, Ne.symm same]

theorem keys_selected :
    keys (names.filterMap fun k => (find? t k).map fun v => (k, v)) =
      names.filter fun k => (find? t k).isSome := by
  induction names with
  | nil => rfl
  | cons name names ih =>
      simp only [keys] at ih ⊢
      cases found : find? t name <;> simp [found, ih]

end Selected

end BootstrapApproval.Table
