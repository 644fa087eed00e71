import BootstrapApproval.Proofs.Table
import BootstrapApproval.Request.Decode

/-! # Fields of written objects

Every object of a request is written in one way: its fields under their own keys, then the members
that belong to no field, and nothing that is `null`. Read again, each field has the value it was
written with, unless a member that was kept aside takes the place of a field that was left out.
-/

namespace BootstrapApproval.FieldName

/-- The members an object is written with: its fields, then its other members. -/
def written (fs : List (FieldName × Json)) (extra : Table Json) : Table Json :=
  withoutNulls (fs.map fun e => (e.1.key, e.2)) ++ withoutNulls extra

/-- No field is read from the key of another one. -/
def Apart (fs : List FieldName) : Prop :=
  (fs.map (·.key)).Nodup ∧ ∀ f ∈ fs, ∀ g ∈ fs, f.twin = g.key ∨ f.twin = g.twin → f = g

instance (fs : List FieldName) : Decidable (Apart fs) := inferInstanceAs (Decidable (_ ∧ _))

/-- Whether a field is left out for a `null` under its own key although its twin key has a value. -/
def isHidden (f : FieldName) (t : Table Json) : Bool :=
  f.key != f.twin && t.find? f.key == some .null && (t.values f.twin).any fun v => !v.isNull

theorem keyIn_eq_key {f : FieldName} {t : Table Json} (some_ : t.values f.key ≠ []) :
    f.keyIn t = some f.key := by
  simp [keyIn, Table.has_iff.mpr some_]

theorem keyIn_eq_twin {f : FieldName} {t : Table Json} (none_ : t.values f.key = [])
    (some_ : t.values f.twin ≠ []) : f.keyIn t = some f.twin := by
  simp [keyIn, Table.has_eq t f.key, none_, Table.has_iff.mpr some_]

theorem keyIn_eq_none {f : FieldName} {t : Table Json} (none_ : t.values f.key = [])
    (noTwin : t.values f.twin = []) : f.keyIn t = none := by
  simp [keyIn, Table.has_eq, none_, noTwin]

theorem keyIn_cases {f : FieldName} {t : Table Json} {k : String} (used : f.keyIn t = some k) :
    k = f.key ∨ k = f.twin ∧ t.values f.key = [] := by
  by_cases own : t.values f.key = []
  · by_cases twin : t.values f.twin = []
    · simp [keyIn_eq_none own twin] at used
    · exact .inr ⟨by simpa [keyIn_eq_twin own twin] using used.symm, own⟩
  · exact .inl (by simpa [keyIn_eq_key own] using used.symm)

theorem read_of_key {f : FieldName} {t : Table Json} {v : Json} {more : List Json}
    (own : t.values f.key = v :: more) : f.read t = some (f.key, v) := by
  simp [read, keyIn_eq_key (f := f) (t := t) (by simp [own]), Table.find?_eq_head, own]

theorem read_of_twin {f : FieldName} {t : Table Json} {v : Json} {more : List Json}
    (none_ : t.values f.key = []) (twin : t.values f.twin = v :: more) :
    f.read t = some (f.twin, v) := by
  simp [read, keyIn_eq_twin none_ (by simp [twin]), Table.find?_eq_head, twin]

theorem read_of_none {f : FieldName} {t : Table Json} (none_ : t.values f.key = [])
    (noTwin : t.values f.twin = []) : f.read t = none := by
  simp [read, keyIn_eq_none none_ noTwin]

/-- A member is left over when no field is read from its key. -/
theorem values_leftover (fs : List FieldName) (t : Table Json) (k : String) :
    (leftover fs t).values k =
      if fs.any fun f => f.keyIn t == some k then [] else t.values k := by
  have general : ∀ u : Table Json,
      Table.values (u.filter fun e => !fs.any fun f => f.keyIn t == some e.1) k =
        if fs.any fun f => f.keyIn t == some k then [] else u.values k := by
    intro u
    induction u with
    | nil => simp
    | cons e rest ih =>
        by_cases same : e.1 = k
        · subst same
          by_cases used : (fs.any fun f => f.keyIn t == some e.1) = true <;>
            simp_all [Table.values_cons]
        · by_cases used : (fs.any fun f => f.keyIn t == some e.1) = true <;>
            simp_all [Table.values_cons]
  exact general t

/-- What is left over never stands under the own key of a field. -/
theorem values_leftover_key {fs : List FieldName} {f : FieldName} (member : f ∈ fs)
    (t : Table Json) : (leftover fs t).values f.key = [] := by
  rw [values_leftover]
  by_cases own : t.values f.key = []
  · simp [own]
  · rw [if_pos]
    exact List.any_eq_true.mpr ⟨f, member, by simp [keyIn_eq_key own]⟩

/-- A twin key is left over when the own key was there. -/
theorem values_leftover_twin {fs : List FieldName} (apart : Apart fs) {f : FieldName}
    (member : f ∈ fs) (two : f.key ≠ f.twin) {t : Table Json} (own : t.values f.key ≠ []) :
    (leftover fs t).values f.twin = t.values f.twin := by
  rw [values_leftover, if_neg]
  intro used
  obtain ⟨g, other, used⟩ := List.any_eq_true.mp used
  have used : g.keyIn t = some f.twin := by simpa using used
  have place := (keyIn_cases used).imp id And.left
  obtain rfl := apart.2 f member g other place
  rw [keyIn_eq_key own] at used
  exact two (Option.some.inj used)

section Written

variable {fs : List (FieldName × Json)} {extra : Table Json}

theorem values_written_key (distinct : (fs.map (·.1.key)).Nodup)
    (aside : ∀ e ∈ fs, extra.values e.1.key = []) {f : FieldName} {v : Json}
    (member : (f, v) ∈ fs) :
    (written fs extra).values f.key = if v.isNull then [] else [v] := by
  have own : Table.values (fs.map fun e => (e.1.key, e.2)) f.key = [v] := by
    apply Table.values_of_nodup
    · simpa [Table.keys, List.map_map, Function.comp_def] using distinct
    · exact List.mem_map.mpr ⟨(f, v), member, rfl⟩
  rw [written, Table.values_append, Table.values_withoutNulls, Table.values_withoutNulls, own,
    aside _ member]
  cases null : v.isNull <;> simp [null]

theorem values_written_of_ne {k : String} (other : ∀ e ∈ fs, e.1.key ≠ k) :
    (written fs extra).values k = (extra.values k).filter fun v => !v.isNull := by
  have none_ : Table.values (fs.map fun e => (e.1.key, e.2)) k = [] := by
    apply Table.values_eq_nil
    intro member
    simp only [Table.keys, List.map_map, List.mem_map, Function.comp_apply] at member
    obtain ⟨e, member, same⟩ := member
    exact other e member same
  rw [written, Table.values_append, Table.values_withoutNulls, Table.values_withoutNulls, none_]
  rfl

theorem values_written_twin (apart : Apart (fs.map Prod.fst)) {f : FieldName} {v : Json}
    (member : (f, v) ∈ fs) (two : f.key ≠ f.twin) :
    (written fs extra).values f.twin = (extra.values f.twin).filter fun v => !v.isNull := by
  apply values_written_of_ne
  intro e other same
  have inside : ∀ e ∈ fs, e.1 ∈ fs.map Prod.fst := fun e h => List.mem_map_of_mem h
  have eq : f = e.1 := apart.2 f (inside _ member) e.1 (inside _ other) (.inl same.symm)
  exact two (eq ▸ same)

/-- A field with a value is read with it, whatever is kept aside. -/
theorem read_written (distinct : (fs.map (·.1.key)).Nodup)
    (aside : ∀ e ∈ fs, extra.values e.1.key = []) {f : FieldName} {v : Json}
    (member : (f, v) ∈ fs) (some_ : v ≠ .null) : f.read (written fs extra) = some (f.key, v) := by
  have own := values_written_key distinct aside member
  have some_ : v.isNull = false := by cases v <;> simp_all [Json.isNull]
  exact read_of_key (by simpa [some_] using own)

/-- Members kept aside that leave every field its place when the object is read again. -/
structure Settled (fs : List (FieldName × Json)) (extra : Table Json) : Prop where
  apart : Apart (fs.map Prod.fst)
  aside : ∀ e ∈ fs, extra.values e.1.key = []
  clear : ∀ e ∈ fs, e.2 = .null → e.1.key ≠ e.1.twin →
    (extra.values e.1.twin).filter (fun v => !v.isNull) = []

theorem Settled.distinct (settled : Settled fs extra) : (fs.map (·.1.key)).Nodup := by
  simpa [Function.comp_def] using settled.apart.1

/-- A field is read with the value it was written with. -/
theorem Settled.read (settled : Settled fs extra) {f : FieldName} {v : Json}
    (member : (f, v) ∈ fs) :
    f.read (written fs extra) = if v = .null then none else some (f.key, v) := by
  by_cases null : v = .null
  · subst null
    rw [if_pos rfl]
    have own : (written fs extra).values f.key = [] := by
      simpa [Json.isNull] using values_written_key settled.distinct settled.aside member
    by_cases two : f.key = f.twin
    · exact read_of_none own (two ▸ own)
    · apply read_of_none own
      rw [values_written_twin settled.apart member two]
      exact settled.clear _ member rfl two
  · rw [if_neg null]
    exact read_written settled.distinct settled.aside member null

/-- A hidden twin takes the place of its field. -/
theorem read_hidden (apart : Apart (fs.map Prod.fst))
    (aside : ∀ e ∈ fs, extra.values e.1.key = []) {f : FieldName} (member : (f, .null) ∈ fs)
    (two : f.key ≠ f.twin) (some_ : (extra.values f.twin).any (fun v => !v.isNull) = true) :
    ∃ v, f.read (written fs extra) = some (f.twin, v) ∧ v ≠ .null := by
  have distinct : (fs.map (·.1.key)).Nodup := by simpa [Function.comp_def] using apart.1
  have own := values_written_key distinct aside member
  have twin : (written fs extra).values f.twin = _ := values_written_twin apart member two
  cases shape : (extra.values f.twin).filter fun v => !v.isNull with
  | nil =>
      obtain ⟨v, member, present⟩ := List.any_eq_true.mp some_
      have absent := List.filter_eq_nil_iff.mp shape v member
      exact absurd present absent
  | cons v more =>
      have present : v ∈ (extra.values f.twin).filter fun v => !v.isNull := by simp [shape]
      refine ⟨v, read_of_twin (by simpa [Json.isNull] using own) (twin.trans shape), ?_⟩
      rintro rfl
      simp [Json.isNull] at present

/-- The members kept aside are kept aside again. -/
theorem Settled.leftover (settled : Settled fs extra) :
    leftover (fs.map Prod.fst) (written fs extra) = withoutNulls extra := by
  have keyIn : ∀ e ∈ fs, ∀ k, e.1.keyIn (written fs extra) = some k → k = e.1.key := by
    intro e member k used
    rcases keyIn_cases used with same | ⟨rfl, none_⟩
    · exact same
    · have read := settled.read member
      by_cases null : e.2 = .null
      · rw [if_pos null] at read
        by_cases two : e.1.key = e.1.twin
        · exact two.symm
        · have twin : (written fs extra).values e.1.twin = [] := by
            rw [values_written_twin settled.apart member two]
            exact settled.clear e member null two
          rw [keyIn_eq_none none_ twin] at used
          simp at used
      · have own := values_written_key settled.distinct settled.aside member
        have some_ : e.2.isNull = false := by cases h : e.2 <;> simp_all [Json.isNull]
        simp [none_, some_] at own
  have typed : ∀ e ∈ withoutNulls (fs.map fun e => (e.1.key, e.2)),
      ((fs.map Prod.fst).any fun f => f.keyIn (written fs extra) == some e.1) = true := by
    intro e member
    simp only [withoutNulls, List.mem_filter, List.mem_map] at member
    obtain ⟨⟨g, inside, rfl⟩, some_⟩ := member
    have own := values_written_key settled.distinct settled.aside inside
    have used : g.1.keyIn (written fs extra) = some g.1.key :=
      keyIn_eq_key (by simp_all)
    exact List.any_eq_true.mpr ⟨g.1, List.mem_map_of_mem inside, by simp [used]⟩
  have kept : ∀ e ∈ withoutNulls extra,
      ((fs.map Prod.fst).any fun f => f.keyIn (written fs extra) == some e.1) = false := by
    intro e member
    rw [List.any_eq_false]
    intro f typed
    obtain ⟨g, inside, rfl⟩ := List.mem_map.mp typed
    intro used
    have same : e.1 = g.1.key := keyIn g inside _ (by simpa using used)
    have absent := settled.aside g inside
    rw [List.eq_nil_iff_forall_not_mem] at absent
    exact absent e.2 (Table.mem_values.mpr (same ▸ (List.mem_filter.mp member).1))
  rw [FieldName.leftover, written, List.filter_append, List.filter_eq_nil_iff.mpr,
    List.filter_eq_self.mpr, List.nil_append]
  · intro e member
    rw [← written, kept e member]
    rfl
  · intro e member
    rw [← written, typed e member]
    simp

theorem Settled.check {α : Type u} (settled : Settled fs extra) {f : FieldName} {v : Json}
    (member : (f, v) ∈ fs) (some_ : v ≠ .null) {check : Json → Checked α} {x : α}
    (checked : check v = .ok x) : f.check (written fs extra) check = .ok x := by
  have read := settled.read member
  rw [if_neg some_] at read
  simp [FieldName.check, read, checked, Checked.under]

theorem Settled.checkD {α : Type u} (settled : Settled fs extra) {f : FieldName} {v : Json}
    (member : (f, v) ∈ fs) {check : Json → Checked α} {default x : α}
    (none_ : v = .null → default = x) (checked : v ≠ .null → check v = .ok x) :
    f.checkD (written fs extra) default check = .ok x := by
  have read := settled.read member
  by_cases null : v = .null
  · rw [if_pos null] at read
    simp [FieldName.checkD, read, none_ null]
  · rw [if_neg null] at read
    simp [FieldName.checkD, read, checked null, Checked.under]

end Written

section Read

variable {α : Type u} {f : FieldName} {t : Table Json}

theorem checkD_eq_ok {default x : α} {check : Json → Checked α}
    (checked : f.checkD t default check = .ok x) :
    (f.read t = none ∧ x = default) ∨ ∃ k v, f.read t = some (k, v) ∧ check v = .ok x := by
  unfold checkD at checked
  split at checked
  · rename_i read
    exact .inl ⟨read, (Checked.ok.inj checked).symm⟩
  · rename_i k v read
    exact .inr ⟨k, v, read, Checked.under_eq_ok.mp checked⟩

theorem check_eq_ok {x : α} {check : Json → Checked α} (checked : f.check t check = .ok x) :
    ∃ k v, f.read t = some (k, v) ∧ check v = .ok x := by
  unfold FieldName.check at checked
  split at checked
  · simp at checked
  · rename_i k v read
    exact ⟨k, v, read, Checked.under_eq_ok.mp checked⟩

theorem check_of_read {k : String} {v : Json} {x : α} {check : Json → Checked α}
    (read : f.read t = some (k, v)) (checked : f.check t check = .ok x) : check v = .ok x := by
  simpa [FieldName.check, read] using checked

theorem checkD_of_read {k : String} {v : Json} {default x : α} {check : Json → Checked α}
    (read : f.read t = some (k, v)) (checked : f.checkD t default check = .ok x) :
    check v = .ok x := by
  simpa [checkD, read] using checked

theorem read_hides (hidden : f.isHidden t = true) :
    f.key ≠ f.twin ∧ f.read t = some (f.key, .null) ∧ t.values f.key ≠ [] ∧
      (t.values f.twin).any (fun v => !v.isNull) = true := by
  simp only [isHidden, Bool.and_eq_true, bne_iff_ne, beq_iff_eq, Table.find?_eq_head] at hidden
  obtain ⟨⟨two, null⟩, some_⟩ := hidden
  cases shape : t.values f.key with
  | nil => simp [shape] at null
  | cons v more =>
      obtain rfl : v = .null := by simpa [shape] using null
      exact ⟨two, read_of_key shape, by simp, some_⟩

/-- A twin key with a value is kept aside only for a `null` under the own key. -/
theorem clear_of_not_hidden {fs : List FieldName} (apart : Apart fs) (member : f ∈ fs)
    (two : f.key ≠ f.twin) (null : ∀ k v, f.read t = some (k, v) → v = .null)
    (shown : f.isHidden t = false) :
    ((leftover fs t).values f.twin).filter (fun v => !v.isNull) = [] := by
  cases own : t.values f.key with
  | nil =>
      have gone : (leftover fs t).values f.twin = [] := by
        rw [values_leftover]
        by_cases twin : t.values f.twin = []
        · simp [twin]
        · rw [if_pos]
          exact List.any_eq_true.mpr ⟨f, member, by simp [keyIn_eq_twin own twin]⟩
      rw [gone]
      rfl
  | cons v more =>
      obtain rfl := null _ _ (read_of_key own)
      rw [values_leftover_twin apart member two (by simp [own])]
      have none_ : (t.values f.twin).any (fun v => !v.isNull) = false := by
        simpa [isHidden, two, Table.find?_eq_head, own] using shown
      simpa [List.filter_eq_nil_iff] using none_

end Read

end BootstrapApproval.FieldName
