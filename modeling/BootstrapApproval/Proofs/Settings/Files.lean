import BootstrapApproval.Proofs.Table
import BootstrapApproval.Settings.Expansion
import Mathlib.Data.List.Induction

/-! # What a settings file says

The bindings of a file are read from the first one on, and each value is expanded with what stands
above it. A value sees the settings that it refers to, and no others; so what a file says about some
names depends on these names and on those that their values refer to.
-/

namespace BootstrapApproval

namespace Table

variable {α : Type u} (keep : String → Bool) (t : Table α)

/-- The part of a table under the keys to keep. -/
def restrict : Table α := t.filter fun e => keep e.1

theorem restrict_concat (e : String × α) : restrict keep (t ++ [e]) =
    if keep e.1 then restrict keep t ++ [e] else restrict keep t := by
  cases stays : keep e.1 <;> simp [restrict, List.filter_append, stays]

variable {keep} {key : String}

theorem find?_restrict (kept : keep key = true) : (t.restrict keep).find? key = t.find? key := by
  rw [find?_eq_head, find?_eq_head, values, values, restrict, List.filter_filter]
  congr 3
  funext e
  by_cases same : e.1 = key
  · simp [same, kept]
  · simp [same]

theorem restrict_insert_of_kept (kept : keep key = true) (v : α) :
    (t.insert key v).restrict keep = (t.restrict keep).insert key v := by
  induction t with
  | nil => simp [insert, restrict, kept]
  | cons e t ih =>
      unfold restrict at ih ⊢
      by_cases same : e.1 = key
      · simp [insert, same, kept]
      · cases stays : keep e.1 <;> simp [insert, same, stays, ih]

theorem restrict_insert_of_dropped (dropped : keep key = false) (v : α) :
    (t.insert key v).restrict keep = t.restrict keep := by
  induction t with
  | nil => simp [insert, restrict, dropped]
  | cons e t ih =>
      unfold restrict at ih ⊢
      by_cases same : e.1 = key
      · simp [insert, same, dropped]
      · cases stays : keep e.1 <;> simp [insert, same, stays, ih]

end Table

namespace Dotenv

section Expansion

variable {lookup lookup' : String → Option String}

/-- The reference that a text begins with, if it does: the name, the text that stands in for it, and
what follows. -/
def opening? : List Char → Option (List Char × List Char × List Char)
  | '$' :: '\x7b' :: inner => reference? inner
  | _ => none

/-- The text that a reference stands for. -/
def referred (lookup : String → Option String) (name otherwise : List Char) : List Char :=
  match lookup (String.ofList name) with
  | some s => s.toList
  | none => otherwise

theorem expand_cons (c : Char) (rest : List Char) : expand lookup (c :: rest) =
    match opening? (c :: rest) with
    | some (name, otherwise, after) =>
        if after.length < (c :: rest).length then
          referred lookup name otherwise ++ expand lookup after
        else referred lookup name otherwise
    | none => c :: expand lookup rest := by
  rw [expand.eq_def]
  dsimp only
  by_cases opens : ∃ inner, c = '$' ∧ rest = '\x7b' :: inner
  · obtain ⟨inner, rfl, rfl⟩ := opens
    rfl
  · have none : opening? (c :: rest) = none := by
      unfold opening?
      split
      next inner same =>
        obtain ⟨first, second⟩ := List.cons.inj same
        exact absurd ⟨inner, first, second⟩ opens
      next => rfl
    rw [none]
    split
    next found =>
      split at found
      · exact absurd ⟨_, rfl, rfl⟩ opens
      · cases found
    next => rfl

/-- The names that a value refers to. -/
def references (cs : List Char) : List String :=
  match cs with
  | [] => []
  | c :: rest =>
      match opening? (c :: rest) with
      | some (name, _, after) =>
          String.ofList name ::
            (if after.length < (c :: rest).length then references after else [])
      | none => references rest
termination_by cs.length
decreasing_by
  · assumption
  · exact Nat.lt_succ_self _

/-- A value sees nothing but what it refers to. -/
theorem expand_congr (cs : List Char) (same : ∀ n ∈ references cs, lookup' n = lookup n) :
    expand lookup' cs = expand lookup cs := by
  fun_induction references cs with
  | case1 => simp [expand]
  | case2 c rest name otherwise after opens ih =>
      have here : referred lookup' name otherwise = referred lookup name otherwise := by
        unfold referred
        rw [same _ List.mem_cons_self]
      simp only [expand_cons, opens, here]
      split
      next shorter =>
        rw [ih shorter fun n member => same n (List.mem_cons_of_mem _ (by rwa [if_pos shorter]))]
      next => rfl
  | case3 c rest opens ih =>
      simp only [expand_cons, opens]
      rw [ih same]

theorem opening?_of_ne {c : Char} (other : c ≠ '$') (rest : List Char) :
    opening? (c :: rest) = none := by
  unfold opening?
  split
  next same => exact absurd (List.cons.inj same).1 other
  next => rfl

/-- A value without a dollar sign stays as it is. -/
theorem expand_of_not_mem {cs : List Char} (absent : '$' ∉ cs) : expand lookup cs = cs := by
  induction cs with
  | nil => simp [expand]
  | cons c rest ih =>
      have other : c ≠ '$' := fun same => absent (same ▸ List.mem_cons_self)
      simp only [expand_cons, opening?_of_ne other]
      rw [ih fun member => absent (List.mem_cons_of_mem c member)]

theorem references_of_not_mem {cs : List Char} (absent : '$' ∉ cs) : references cs = [] := by
  induction cs with
  | nil => simp [references]
  | cons c rest ih =>
      have other : c ≠ '$' := fun same => absent (same ▸ List.mem_cons_self)
      rw [references, opening?_of_ne other]
      exact ih fun member => absent (List.mem_cons_of_mem c member)

end Expansion

section Resolution

variable (environment : List (String × String))

/-- A value as it is read below some other settings of the file. -/
def expanded (above : Table (Option String)) (value : String) : String :=
  String.ofList (expand (visible environment above) value.toList)

/-- The settings of a file, given its bindings, with all references resolved. -/
def resolved (bindings : List (String × Option String)) : Table (Option String) :=
  bindings.foldl (fun above b => above.insert b.1 (b.2.map (expanded environment above))) []

theorem entries_eq (text : String) :
    entries environment text = resolved environment (ofText text) := rfl

variable {environment} {bindings : List (String × Option String)}

theorem resolved_concat (b : String × Option String) : resolved environment (bindings ++ [b]) =
    (resolved environment bindings).insert b.1
      (b.2.map (expanded environment (resolved environment bindings))) := by
  simp only [resolved, List.foldl_append, List.foldl_cons, List.foldl_nil]

theorem resolved_concat_of_distinct {b : String × Option String}
    (keys : (resolved environment bindings).keys = bindings.map Prod.fst)
    (absent : b.1 ∉ bindings.map Prod.fst) : resolved environment (bindings ++ [b]) =
      resolved environment bindings ++
        [(b.1, b.2.map (expanded environment (resolved environment bindings)))] := by
  rw [resolved_concat, Table.insert_of_absent (keys ▸ absent)]

theorem distinct_concat {α β : Type} {f : α → β} {l : List α} {b : α}
    (distinct : ((l ++ [b]).map f).Nodup) : (l.map f).Nodup ∧ f b ∉ l.map f := by
  rw [List.map_append, List.nodup_append] at distinct
  exact ⟨distinct.1, fun member => distinct.2.2 _ member _ List.mem_cons_self rfl⟩

theorem keys_resolved (distinct : (bindings.map Prod.fst).Nodup) :
    (resolved environment bindings).keys = bindings.map Prod.fst := by
  induction bindings using List.reverseRecOn with
  | nil => rfl
  | append_singleton bindings b ih =>
      obtain ⟨before, absent⟩ := distinct_concat distinct
      rw [resolved_concat_of_distinct (ih before) absent, Table.keys, List.map_append,
        List.map_append, ← Table.keys, ih before]
      rfl

/-- What a file says under a name is the value of the one binding with this name, expanded with what
stands above it. -/
theorem mem_resolved (distinct : (bindings.map Prod.fst).Nodup) {name : String}
    {v : Option String} : (name, v) ∈ resolved environment bindings ↔
      ∃ above value, above ++ [(name, value)] <+: bindings ∧
        v = value.map (expanded environment (resolved environment above)) := by
  induction bindings using List.reverseRecOn with
  | nil => simp [resolved]
  | append_singleton bindings b ih =>
      obtain ⟨before, absent⟩ := distinct_concat distinct
      rw [resolved_concat_of_distinct (keys_resolved before) absent, List.mem_append, ih before]
      simp only [List.prefix_concat_iff]
      constructor
      · rintro (⟨above, value, within, rfl⟩ | here)
        · exact ⟨above, value, .inr within, rfl⟩
        · obtain ⟨rfl, rfl⟩ := Prod.mk.inj (List.mem_singleton.mp here)
          exact ⟨bindings, b.2, .inl rfl, rfl⟩
      · rintro ⟨above, value, here | within, rfl⟩
        · obtain ⟨rfl, same⟩ := List.append_inj' here rfl
          obtain rfl := List.singleton_inj.mp same
          exact .inr (List.mem_singleton.mpr rfl)
        · exact .inl ⟨above, value, within, rfl⟩

end Resolution

section Restriction

variable {environment : List (String × String)} {keep : String → Bool}

theorem visible_restrict {name : String} (kept : keep name = true)
    (above : Table (Option String)) :
    visible (Table.restrict keep environment) (above.restrict keep) name =
      visible environment above name := by
  unfold visible
  rw [Table.find?_restrict _ kept, Table.find?_restrict _ kept]

/-- The names to keep are closed under the references of their values. -/
def IsClosed (keep : String → Bool) (bindings : List (String × Option String)) : Prop :=
  ∀ name value, (name, some value) ∈ bindings → keep name = true →
    ∀ r ∈ references value.toList, keep r = true

/-- What a file says about the names to keep is said by their bindings alone. -/
theorem resolved_restrict {bindings : List (String × Option String)}
    (closed : IsClosed keep bindings) : (resolved environment bindings).restrict keep =
      resolved (Table.restrict keep environment) (Table.restrict keep bindings) := by
  induction bindings using List.reverseRecOn with
  | nil => rfl
  | append_singleton bindings b ih =>
      have before := ih fun name value member => closed name value (List.mem_append_left _ member)
      obtain ⟨name, value⟩ := b
      rw [resolved_concat]
      cases kept : keep name with
      | false =>
          rw [Table.restrict_insert_of_dropped _ kept, Table.restrict_concat, kept, before]
          rfl
      | true =>
          have same : value.map (expanded environment (resolved environment bindings)) =
              value.map (expanded (Table.restrict keep environment)
                (resolved (Table.restrict keep environment) (Table.restrict keep bindings))) := by
            cases value with
            | none => rfl
            | some text =>
                refine congrArg (fun cs => some (String.ofList cs)) (expand_congr _ ?_)
                intro r member
                have keepsIt := closed name text (by simp) kept r member
                rw [← before, visible_restrict keepsIt]
          rw [Table.restrict_insert_of_kept _ kept, Table.restrict_concat, if_pos kept,
            resolved_concat, before, same]

end Restriction

end Dotenv

end BootstrapApproval
