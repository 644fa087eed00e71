import BootstrapApproval.Proofs.Settings.Fields
import BootstrapApproval.Proofs.Settings.Files
import BootstrapApproval.Proofs.Settings.Lines
import Mathlib.Data.List.Nodup

/-! # Settings from their sources

The text of a field is the one of the environment, else the one of the settings file, else there is
none. Each field is resolved from its own text. Other names have a part in this only when a value of
the file refers to them.
-/

namespace BootstrapApproval

/-- Names that differ in letter case only. -/
def SameName (a b : String) : Prop := Letters.lower a = Letters.lower b

instance (a b : String) : Decidable (SameName a b) :=
  inferInstanceAs (Decidable (Letters.lower a = Letters.lower b))

/-- No two names differ in letter case only, and none is there twice. -/
def Distinct {α : Type} (t : Table α) : Prop := (t.map fun e => Letters.lower e.1).Nodup

instance {α : Type} (t : Table α) : Decidable (Distinct t) :=
  inferInstanceAs (Decidable (List.Nodup _))

namespace Sources

section Lookup

variable {entries : Table (Option String)} {name : String}

theorem lookup_concat (e : String × Option String) : lookup (entries ++ [e]) name =
    if SameName e.1 name then e.2 else lookup entries name := by
  rw [lookup, List.foldl_append]
  rfl

theorem lookup_eq_some (distinct : Distinct entries) {text : String} :
    lookup entries name = some text ↔ ∃ n, (n, some text) ∈ entries ∧ SameName n name := by
  induction entries using List.reverseRecOn with
  | nil => simp [lookup]
  | append_singleton entries e ih =>
      obtain ⟨before, absent⟩ := Dotenv.distinct_concat distinct
      rw [lookup_concat]
      split
      next same =>
        constructor
        · intro found
          exact ⟨e.1, List.mem_append_right _ (by simp [← found]), same⟩
        · rintro ⟨n, member, alike⟩
          rcases List.mem_append.mp member with earlier | here
          · -- an earlier entry of this name would have the same name as `e`
            exact absurd (List.mem_map.mpr ⟨_, earlier, alike.trans same.symm⟩) absent
          · rw [← List.mem_singleton.mp here]
      next other =>
        rw [ih before]
        constructor
        · rintro ⟨n, member, alike⟩
          exact ⟨n, List.mem_append_left _ member, alike⟩
        · rintro ⟨n, member, alike⟩
          rcases List.mem_append.mp member with earlier | here
          · exact ⟨n, earlier, alike⟩
          · rw [← List.mem_singleton.mp here] at other
            exact absurd alike other

theorem lookup_restrict (entries : Table (Option String)) {keep : String → Bool}
    (kept : ∀ n, SameName n name → keep n = true) :
    lookup (entries.restrict keep) name = lookup entries name := by
  induction entries using List.reverseRecOn with
  | nil => rfl
  | append_singleton entries e ih =>
      rw [lookup_concat, Table.restrict_concat]
      cases stays : keep e.1 with
      | true => rw [if_pos rfl, lookup_concat, ih]
      | false =>
          have other : ¬ SameName e.1 name := fun same => by simp [kept e.1 same] at stays
          rw [if_neg Bool.false_ne_true, if_neg other, ih]

end Lookup

variable {environment : List (String × String)} {file : String} {name : String}

/-- The environment as a source: each of its variables has a value. -/
def ofEnvironment (environment : List (String × String)) : Table (Option String) :=
  environment.map fun e => (e.1, some e.2)

theorem text?_ofText : (ofText environment file).text? name =
    (lookup (ofEnvironment environment) name).or
      (lookup (Dotenv.resolved environment (Dotenv.ofText file)) name) := by
  rw [ofText, Dotenv.entries_eq]
  rfl

theorem lookup_environment (distinct : Distinct environment) {text : String} :
    lookup (ofEnvironment environment) name = some text ↔
      ∃ n, (n, text) ∈ environment ∧ SameName n name := by
  have names : Distinct (ofEnvironment environment) := by
    rw [Distinct, ofEnvironment, List.map_map]
    exact distinct
  rw [lookup_eq_some names]
  simp [ofEnvironment]

theorem lookup_environment_eq_none (distinct : Distinct environment) :
    lookup (ofEnvironment environment) name = none ↔
      ∀ e ∈ environment, ¬ SameName e.1 name := by
  rw [Option.eq_none_iff_forall_ne_some]
  constructor
  · intro none e member same
    exact none e.2 ((lookup_environment distinct).mpr ⟨e.1, member, same⟩)
  · intro none text found
    obtain ⟨n, member, same⟩ := (lookup_environment distinct).mp found
    exact none (n, text) member same

variable {bindings : List (String × Option String)}

theorem lookup_file (distinct : Distinct bindings) {text : String} :
    lookup (Dotenv.resolved environment bindings) name = some text ↔
      ∃ above n value, above ++ [(n, some value)] <+: bindings ∧ SameName n name ∧
        text = Dotenv.expanded environment (Dotenv.resolved environment above) value := by
  have keys : (bindings.map Prod.fst).Nodup := by
    refine List.Nodup.of_map Letters.lower ?_
    rw [List.map_map]
    exact distinct
  have names : Distinct (Dotenv.resolved environment bindings) := by
    have same : (Dotenv.resolved environment bindings).map Prod.fst = bindings.map Prod.fst :=
      Dotenv.keys_resolved keys
    have lowered := congrArg (List.map Letters.lower) same
    rw [List.map_map, List.map_map] at lowered
    rw [Distinct]
    exact lowered ▸ distinct
  rw [lookup_eq_some names]
  constructor
  · rintro ⟨n, member, alike⟩
    obtain ⟨above, value, within, read⟩ := (Dotenv.mem_resolved keys).mp member
    obtain ⟨value, rfl, rfl⟩ := Option.map_eq_some_iff.mp read.symm
    exact ⟨above, n, value, within, alike, rfl⟩
  · rintro ⟨above, n, value, within, alike, rfl⟩
    exact ⟨n, (Dotenv.mem_resolved keys).mpr ⟨above, some value, within, rfl⟩, alike⟩

theorem lookup_file_eq_none (distinct : Distinct bindings) :
    lookup (Dotenv.resolved environment bindings) name = none ↔
      ∀ n value, (n, some value) ∈ bindings → ¬ SameName n name := by
  rw [Option.eq_none_iff_forall_ne_some]
  constructor
  · intro none n value member same
    obtain ⟨above, below, rfl⟩ := List.append_of_mem member
    have within : above ++ [(n, some value)] <+: above ++ (n, some value) :: below :=
      ⟨below, by simp⟩
    exact none _ ((lookup_file distinct).mpr ⟨above, n, value, within, same, rfl⟩)
  · intro none text found
    obtain ⟨above, n, value, within, same, -⟩ := (lookup_file distinct).mp found
    exact none n value (within.subset (by simp)) same

end Sources

/-- The text of a setting, given the environment and the bindings of the settings file. -/
inductive Effective (environment : List (String × String))
    (bindings : List (String × Option String)) (name : String) : Option String → Prop where
  | environment {n text : String} (set : (n, text) ∈ environment) (same : SameName n name) :
      Effective environment bindings name (some text)
  | file {above : List (String × Option String)} {n value : String}
      (unset : ∀ e ∈ environment, ¬ SameName e.1 name)
      (said : above ++ [(n, some value)] <+: bindings) (same : SameName n name) :
      Effective environment bindings name
        (some (Dotenv.expanded environment (Dotenv.resolved environment above) value))
  | standard (unset : ∀ e ∈ environment, ¬ SameName e.1 name)
      (unsaid : ∀ n value, (n, some value) ∈ bindings → ¬ SameName n name) :
      Effective environment bindings name none

namespace Sources

variable {environment : List (String × String)} {file : String} {name : String}

theorem effective_iff (inEnvironment : Distinct environment)
    (inFile : Distinct (Dotenv.ofText file)) {text : Option String} :
    Effective environment (Dotenv.ofText file) name text ↔
      (ofText environment file).text? name = text := by
  rw [text?_ofText]
  constructor
  · intro effective
    cases effective with
    | environment set same =>
        rw [(lookup_environment inEnvironment).mpr ⟨_, set, same⟩, Option.some_or]
    | file unset said same =>
        rw [(lookup_environment_eq_none inEnvironment).mpr unset, Option.none_or]
        exact (lookup_file inFile).mpr ⟨_, _, _, said, same, rfl⟩
    | standard unset unsaid =>
        rw [(lookup_environment_eq_none inEnvironment).mpr unset, Option.none_or]
        exact (lookup_file_eq_none inFile).mpr unsaid
  · rintro rfl
    cases set : lookup (ofEnvironment environment) name with
    | some text =>
        obtain ⟨n, member, same⟩ := (lookup_environment inEnvironment).mp set
        exact .environment member same
    | none =>
        have unset := (lookup_environment_eq_none inEnvironment).mp set
        cases said : lookup (Dotenv.resolved environment (Dotenv.ofText file)) name with
        | some text =>
            obtain ⟨above, n, value, within, same, rfl⟩ := (lookup_file inFile).mp said
            exact .file unset within same
        | none => exact .standard unset ((lookup_file_eq_none inFile).mp said)

theorem restrict_ofEnvironment (keep : String → Bool) :
    Table.restrict keep (ofEnvironment environment) =
      ofEnvironment (Table.restrict keep environment) := by
  rw [Table.restrict, ofEnvironment, List.filter_map]
  rfl

variable {keep : String → Bool}

/-- The text of a setting depends on the names to keep alone, if its own names are among them and
the values of the file refer to no others. -/
theorem text?_restrict (kept : ∀ n, SameName n name → keep n = true)
    (closed : Dotenv.IsClosed keep (Dotenv.ofText file)) : (ofText environment file).text? name =
      (lookup (ofEnvironment (Table.restrict keep environment)) name).or
        (lookup (Dotenv.resolved (Table.restrict keep environment)
          (Table.restrict keep (Dotenv.ofText file))) name) := by
  rw [text?_ofText, ← lookup_restrict _ kept, restrict_ofEnvironment,
    ← lookup_restrict (Dotenv.resolved environment _) kept, Dotenv.resolved_restrict closed]

theorem text?_congr {environment' : List (String × String)} {file' : String}
    (kept : ∀ n, SameName n name → keep n = true)
    (closed : Dotenv.IsClosed keep (Dotenv.ofText file))
    (sameEnvironment : Table.restrict keep environment' = Table.restrict keep environment)
    (sameFile : Table.restrict keep (Dotenv.ofText file') =
      Table.restrict keep (Dotenv.ofText file)) :
    (ofText environment' file').text? name = (ofText environment file).text? name := by
  have closed' : Dotenv.IsClosed keep (Dotenv.ofText file') := by
    intro n value member stays
    have again : (n, some value) ∈ Table.restrict keep (Dotenv.ofText file') :=
      List.mem_filter.mpr ⟨member, stays⟩
    rw [sameFile] at again
    exact closed n value (List.mem_filter.mp again).1 stays
  rw [text?_restrict kept closed, text?_restrict kept closed', sameEnvironment, sameFile]

end Sources

namespace Settings

section Resolution

variable (environment : List (String × String)) (file : String)

/-- The text that a field has is refused for this reason. -/
def Rejected (f : Field) (kind : Problem.Kind) : Prop :=
  ∃ text, Effective environment (Dotenv.ofText file) f.name text ∧ f.Refuses text kind

/-- The settings are resolved field by field. -/
structure Fieldwise : Prop where
  effective : ∀ f ∈ fields, ∃! text, Effective environment (Dotenv.ofText file) f.name text
  succeeds : ∀ t, resolve (Sources.ofText environment file) = .ok t ↔
    ∀ f ∈ fields, ∃ text, Effective environment (Dotenv.ofText file) f.name text ∧
      f.Takes text (f.get t)
  fails : (∃ ps, resolve (Sources.ofText environment file) = .bad ps) ↔
    ∃ f ∈ fields, ∃ kind, Rejected environment file f kind
  problems : ∀ ps, resolve (Sources.ofText environment file) = .bad ps →
    ∃ rejected, rejected.Sublist fields ∧
      (∀ f ∈ fields, f ∈ rejected ↔ ∃ kind, Rejected environment file f kind) ∧
      List.Forall₂ (fun p f => ∃ kind, Rejected environment file f kind ∧ p = f.problem kind)
        ps rejected

/-- A name under which a field is looked up. -/
def isSetting (name : String) : Bool := fields.any fun f => SameName name f.name

/-- Names that hold those of the fields and all names that their values in the file refer to. -/
structure Covers (keep : String → Bool) (bindings : List (String × Option String)) : Prop where
  settings : ∀ n, isSetting n = true → keep n = true
  references : Dotenv.IsClosed keep bindings

/-- Whatever stands under other names does not change the settings. -/
def DependsOn (keep : String → Bool) : Prop :=
  ∀ environment' file', Table.restrict keep environment' = Table.restrict keep environment →
    Table.restrict keep (Dotenv.ofText file') = Table.restrict keep (Dotenv.ofText file) →
    resolve (Sources.ofText environment' file') = resolve (Sources.ofText environment file)

variable {environment file}

theorem isSetting_of_same {f : Field} (member : f ∈ fields) {name : String}
    (same : SameName name f.name) : isSetting name = true :=
  List.any_eq_true.mpr ⟨f, member, by simpa using same⟩

theorem covers_isSetting {bindings : List (String × Option String)}
    (literal : ∀ n value, (n, some value) ∈ bindings → isSetting n = true → '$' ∉ value.toList) :
    Covers isSetting bindings := by
  refine ⟨fun _ => id, fun n value member stays r referred => ?_⟩
  rw [Dotenv.references_of_not_mem (literal n value member stays)] at referred
  cases referred

theorem dependsOn_of_covers {keep : String → Bool} (covers : Covers keep (Dotenv.ofText file)) :
    DependsOn environment file keep := fun _ _ sameEnvironment sameFile =>
  resolve_congr fun _ member =>
    Sources.text?_congr (fun n same => covers.settings n (isSetting_of_same member same))
      covers.references sameEnvironment sameFile

theorem fieldwise (inEnvironment : Distinct environment)
    (inFile : Distinct (Dotenv.ofText file)) : Fieldwise environment file := by
  have effective (name : String) (text : Option String) :
      Effective environment (Dotenv.ofText file) name text ↔
        (Sources.ofText environment file).text? name = text :=
    Sources.effective_iff inEnvironment inFile
  have rejected (f : Field) (kind : Problem.Kind) : Rejected environment file f kind ↔
      f.Refuses ((Sources.ofText environment file).text? f.name) kind := by
    simp [Rejected, effective]
  have refused (f : Field) : Refused (Sources.ofText environment file) f ↔
      ∃ kind, Rejected environment file f kind := exists_congr fun kind => (rejected f kind).symm
  refine ⟨fun f _ => ?_, fun t => ?_, ?_, fun ps failed => ?_⟩
  · simp [effective]
  · rw [resolve_eq_ok]
    refine forall₂_congr fun f member => ?_
    simp [Field.resolve_eq_ok_iff member, effective]
  · rw [resolve_fails]
    simp only [refused]
  · classical
    have each := problems_refused (Sources.ofText environment file)
      fun _ (member : _ ∈ fields) => member
    rw [← problems_resolve, failed] at each
    refine ⟨_, List.filter_sublist, fun f member => ?_, each.imp fun p f => ?_⟩
    · simp only [List.mem_filter, member, true_and, decide_eq_true_eq, refused]
    · simp only [rejected, imp_self]

end Resolution

end Settings

end BootstrapApproval
