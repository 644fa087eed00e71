import BootstrapApproval.Settings
import Mathlib.Data.List.Forall2
import Mathlib.Tactic.ByContra
import Mathlib.Tactic.Simproc.ExistsAndEq

/-! # The fields of the settings

Each field has a name in the sources, a standard value and a grammar. The settings are resolved
field by field: they are there when no text of a field is refused, and otherwise there is one
problem for each text that is.
-/

namespace BootstrapApproval

namespace Checked

universe u v w

variable {α : Type u} {β : Type v} {γ : Type w}

theorem problems_map₂ (f : α → β → γ) (a : Checked α) (b : Checked β) :
    (map₂ f a b).problems = a.problems ++ b.problems := by
  cases a <;> cases b <;> rfl

theorem problems_map (f : α → β) (a : Checked α) : (map f a).problems = a.problems := by
  cases a <;> rfl

theorem problems_and (f : Checked (α → β)) (a : Checked α) :
    (and f a).problems = f.problems ++ a.problems := problems_map₂ ..

theorem map_succeeds {f : α → β} {a : Checked α} : (∃ y, map f a = .ok y) ↔ ∃ x, a = .ok x := by
  cases a <;> simp [map]

theorem and_succeeds {f : Checked (α → β)} {a : Checked α} :
    (∃ y, and f a = .ok y) ↔ (∃ g, f = .ok g) ∧ ∃ x, a = .ok x := by
  cases f <;> cases a <;> simp [and, map₂]

/-- A check that gives a value or fails with exactly one problem, at no particular place. -/
inductive IsPlain : Checked α → Prop where
  | ok (x : α) : IsPlain (.ok x)
  | fail (kind : Problem.Kind) : IsPlain (.fail kind)

theorem IsPlain.map {a : Checked α} (plain : a.IsPlain) (f : α → β) : (map f a).IsPlain := by
  cases plain with
  | ok x => exact .ok (f x)
  | fail kind => exact .fail kind

end Checked

namespace Grammar

open Checked

theorem switch_isPlain (s : String) : (switch s).IsPlain := by
  unfold switch
  dsimp only
  split
  · exact .ok _
  · split
    · exact .ok _
    · exact .fail _

theorem whole_isPlain (s : String) : (whole s).IsPlain := by
  unfold whole
  split
  · exact .ok _
  · exact .fail _
  · split
    · exact .ok _
    · exact .fail _

theorem fraction_isPlain (s : String) : (fraction s).IsPlain := by
  unfold fraction
  split
  · exact .fail _
  · exact .fail _
  · exact .fail _
  · split
    · exact .fail _
    · split
      · exact .fail _
      · split
        · exact .fail _
        · exact .ok _

/-- Switches are the words for on and off, in any letter case. -/
theorem switch_eq_ok {s : String} {b : Bool} : switch s = .ok b ↔
    Letters.asciiLower s ∈ (if b then onWords else offWords) := by
  have apart : ∀ word ∈ offWords, word ∉ onWords := by decide
  unfold switch
  dsimp only
  split
  next off =>
    have off := List.contains_iff_mem.mp off
    cases b <;> simp [off, apart _ off]
  next notOff =>
    have notOff : Letters.asciiLower s ∉ offWords := fun off =>
      notOff (List.contains_iff_mem.mpr off)
    split
    next on =>
      have on := List.contains_iff_mem.mp on
      cases b <;> simp [on, notOff]
    next notOn =>
      have notOn : Letters.asciiLower s ∉ onWords := fun on =>
        notOn (List.contains_iff_mem.mpr on)
      cases b <;> simp [notOn, notOff, fail]

/-- An accepted fraction lies between zero and one. -/
theorem fraction_bounded {s : String} {x : Decimal} (accepted : fraction s = .ok x) :
    x.belowZero = false ∧ x.aboveOne = false := by
  unfold fraction at accepted
  split at accepted
  · cases accepted
  · cases accepted
  · cases accepted
  · split at accepted
    · cases accepted
    · split at accepted
      · cases accepted
      · split at accepted
        · cases accepted
        · cases accepted
          simp_all

end Grammar

namespace Settings

/-- The value of a field. -/
inductive Value where
  | text (s : String)
  | switch (b : Bool)
  | whole (n : Int)
  | fraction (x : Decimal)
  deriving DecidableEq, Repr

/-- A field: its name in the sources, its standard value, its grammar, and where it is kept. -/
structure Field where
  name : String
  standard : Value
  parse : String → Checked Value
  get : Settings → Value

/-- A field whose values are of one kind. -/
def Field.of {α : Type} (value : α → Value) (grammar : String → Checked α) (name : String)
    (standard : α) (get : Settings → α) : Field :=
  ⟨name, value standard, fun t => (grammar t).map value, fun s => value (get s)⟩

def fields : List Field :=
  [.of .text .ok "OPERATOR_NAME" "csr-approver" (·.operatorName),
   .of .text .ok "LOG_LEVEL" "INFO" (·.logLevel),
   .of .switch Grammar.switch "JSON_LOGS" true (·.jsonLogs),
   .of .switch Grammar.switch "CORRELATION_IDS" true (·.correlationIds),
   .of .switch Grammar.switch "LOG_HEALTH_PROBES" false (·.logHealthProbes),
   .of .switch Grammar.switch "DRY_RUN" false (·.dryRun),
   .of .whole Grammar.whole "MAX_WORKERS" 20 (·.maxWorkers),
   .of .whole Grammar.whole "METRICS_PORT" 8081 (·.metricsPort),
   .of .text .ok "METRICS_HOST" "0.0.0.0" (·.metricsHost),
   .of .whole Grammar.whole "LIVENESS_PORT" 8080 (·.livenessPort),
   .of .switch Grammar.switch "OTEL_TRACING_ENABLED" false (·.tracingEnabled),
   .of .text .ok "OTEL_EXPORTER_OTLP_ENDPOINT" "http://localhost:4317" (·.tracingEndpoint),
   .of .text .ok "OTEL_SERVICE_NAME" "csr-approver" (·.tracingServiceName),
   .of .fraction Grammar.fraction "OTEL_TRACES_SAMPLER_ARG" .one (·.tracingSampleRate)]

/-- The value that a field has in some sources, or what is wrong with its text. -/
def Field.resolve (f : Field) (s : Sources) : Checked Value := s.setting f.name f.standard f.parse

end Settings

theorem Sources.setting_map {α β : Type} (s : Sources) (name : String) (standard : α)
    (grammar : String → Checked α) (g : α → β) :
    s.setting name (g standard) (fun t => (grammar t).map g) =
      (s.setting name standard grammar).map g := by
  unfold setting
  cases s.text? name with
  | none => rfl
  | some t =>
      dsimp only
      cases grammar t <;> rfl

theorem Sources.setting_eq_ok {α : Type} {s : Sources} {name : String} {standard v : α}
    {grammar : String → Checked α} : s.setting name standard grammar = .ok v ↔
      (s.text? name = none ∧ standard = v) ∨ ∃ t, s.text? name = some t ∧ grammar t = .ok v := by
  unfold setting
  cases s.text? name <;> simp

namespace Settings

open Checked

variable (s : Sources)

theorem Field.resolve_of {α : Type} (value : α → Value) (grammar : String → Checked α)
    (name : String) (standard : α) (get : Settings → α) :
    (Field.of value grammar name standard get).resolve s =
      (s.setting name standard grammar).map value :=
  s.setting_map name standard grammar value

theorem problems_resolve :
    (resolve s).problems = fields.flatMap fun f => (f.resolve s).problems := by
  unfold resolve
  simp only [seq_eq_and, map_eq_map, problems_and, problems_map, fields, List.flatMap_cons,
    List.flatMap_nil, Field.resolve_of, List.append_assoc, List.append_nil]
  rfl

theorem resolve_succeeds :
    (∃ t, resolve s = .ok t) ↔ ∀ f ∈ fields, ∃ v, f.resolve s = .ok v := by
  unfold resolve
  simp only [seq_eq_and, map_eq_map, and_succeeds, map_succeeds, fields, List.forall_mem_cons,
    Field.resolve_of, and_assoc]
  simp only [List.not_mem_nil, false_implies, implies_true, and_true]
  rfl

theorem resolve_eq_ok {t : Settings} :
    resolve s = .ok t ↔ ∀ f ∈ fields, f.resolve s = .ok (f.get t) := by
  cases t
  unfold resolve
  simp only [seq_eq_and, map_eq_map, and_eq_ok, map_eq_ok, ↓existsAndEq, Settings.mk.injEq,
    and_true, fields, List.forall_mem_cons, Field.resolve_of, and_assoc]
  simp only [List.not_mem_nil, false_implies, implies_true, and_true, Field.of,
    Value.text.injEq, Value.switch.injEq, Value.whole.injEq, Value.fraction.injEq,
    exists_eq_right]
  rfl

theorem setting_of_resolved {α : Type} {value : α → Value} (injective : Function.Injective value)
    {grammar : String → Checked α} {name : String} {standard : α} {get : Settings → α}
    (member : .of value grammar name standard get ∈ fields) {s : Sources} {t : Settings}
    (resolved : resolve s = .ok t) : s.setting name standard grammar = .ok (get t) := by
  have whole := (resolve_eq_ok s).mp resolved _ member
  rw [Field.resolve_of, map_eq_ok] at whole
  obtain ⟨v, found, same⟩ := whole
  rw [found, injective same]

/-- A dry run is one that the text of its switch asks for. -/
theorem dryRun_iff {s : Sources} {t : Settings} (resolved : resolve s = .ok t) :
    t.dryRun = true ↔
      ∃ text, s.text? "DRY_RUN" = some text ∧ Letters.asciiLower text ∈ Grammar.onWords := by
  have member : .of .switch Grammar.switch "DRY_RUN" false (·.dryRun) ∈ fields :=
    List.mem_of_getElem? (i := 5) rfl
  have setting := setting_of_resolved (fun _ _ => Value.switch.inj) member resolved
  rw [Sources.setting_eq_ok] at setting
  constructor
  · intro asked
    rw [asked] at setting
    obtain ⟨-, off⟩ | ⟨text, found, read⟩ := setting
    · cases off
    · exact ⟨text, found, Grammar.switch_eq_ok.mp read⟩
  · rintro ⟨text, found, on⟩
    obtain ⟨absent, -⟩ | ⟨text, found', read⟩ := setting
    · rw [found] at absent
      cases absent
    · rw [found] at found'
      cases found'
      have asked : Grammar.switch _ = .ok true := Grammar.switch_eq_ok.mpr on
      rw [read] at asked
      exact Checked.ok.inj asked

/-- What is resolved depends on the texts of the fields alone. -/
theorem resolve_congr {s s' : Sources} (same : ∀ f ∈ fields, s'.text? f.name = s.text? f.name) :
    resolve s' = resolve s := by
  have fieldwise : ∀ f ∈ fields, f.resolve s' = f.resolve s := by
    intro f member
    rw [Field.resolve, Sources.setting, same f member]
    rfl
  cases resolved : resolve s with
  | ok t =>
      refine (resolve_eq_ok s').mpr fun f member => ?_
      rw [fieldwise f member]
      exact (resolve_eq_ok s).mp resolved f member
  | bad ps =>
      have problems : (resolve s').problems = (resolve s).problems := by
        rw [problems_resolve, problems_resolve, List.flatMap_def, List.flatMap_def,
          List.map_congr_left fun f member => congrArg Checked.problems (fieldwise f member)]
      cases resolved' : resolve s' with
      | ok t =>
          have found := (resolve_eq_ok s').mp resolved'
          have again : resolve s = .ok t := (resolve_eq_ok s).mpr fun f member => by
            rw [← fieldwise f member]
            exact found f member
          rw [resolved] at again
          cases again
      | bad ps' =>
          rw [resolved, resolved'] at problems
          exact congrArg Checked.bad problems

theorem Field.of_isPlain {α : Type} {value : α → Value} {grammar : String → Checked α}
    {name : String} {standard : α} {get : Settings → α} (plain : ∀ t, (grammar t).IsPlain)
    (t : String) : ((Field.of value grammar name standard get).parse t).IsPlain :=
  (plain t).map value

theorem parse_isPlain : ∀ f ∈ fields, ∀ t, (f.parse t).IsPlain := by
  simp only [fields, List.forall_mem_cons]
  exact ⟨Field.of_isPlain .ok, Field.of_isPlain .ok, Field.of_isPlain Grammar.switch_isPlain,
    Field.of_isPlain Grammar.switch_isPlain, Field.of_isPlain Grammar.switch_isPlain,
    Field.of_isPlain Grammar.switch_isPlain, Field.of_isPlain Grammar.whole_isPlain,
    Field.of_isPlain Grammar.whole_isPlain, Field.of_isPlain .ok,
    Field.of_isPlain Grammar.whole_isPlain, Field.of_isPlain Grammar.switch_isPlain,
    Field.of_isPlain .ok, Field.of_isPlain .ok, Field.of_isPlain Grammar.fraction_isPlain,
    fun _ absent => nomatch absent⟩

namespace Field

/-- The text of a field, or that there is none, gives it this value. -/
def Takes (f : Field) : Option String → Value → Prop
  | none, v => v = f.standard
  | some t, v => f.parse t = .ok v

/-- The text of a field is refused for this reason. -/
def Refuses (f : Field) (text : Option String) (kind : Problem.Kind) : Prop :=
  ∃ t, text = some t ∧ f.parse t = .fail kind

def problem (f : Field) (kind : Problem.Kind) : Problem := ⟨[.key f.name], kind⟩

theorem Takes.not_refuses {f : Field} {text : Option String} {v : Value} (takes : f.Takes text v)
    (kind : Problem.Kind) : ¬ f.Refuses text kind := by
  rintro ⟨t, rfl, parsed⟩
  have accepted : f.parse t = .ok v := takes
  rw [parsed] at accepted
  cases accepted

/-- How a field is resolved. -/
inductive Resolves (f : Field) (s : Sources) : Checked Value → Prop where
  | takes {v : Value} (takes : f.Takes (s.text? f.name) v) : Resolves f s (.ok v)
  | refuses {kind : Problem.Kind} (refuses : f.Refuses (s.text? f.name) kind) :
      Resolves f s (.bad [f.problem kind])

theorem resolves {f : Field} (member : f ∈ fields) (s : Sources) : f.Resolves s (f.resolve s) := by
  unfold Field.resolve Sources.setting
  cases found : s.text? f.name with
  | none => exact .takes (by rw [found]; rfl)
  | some t =>
      have plain := parse_isPlain f member t
      dsimp only
      cases parsed : f.parse t with
      | ok v => exact .takes (by rw [found]; exact parsed)
      | bad ps =>
          rw [parsed] at plain
          cases plain with
          | fail kind => exact .refuses ⟨t, found, parsed⟩

theorem resolve_eq_ok_iff {f : Field} (member : f ∈ fields) (s : Sources) {v : Value} :
    f.resolve s = .ok v ↔ f.Takes (s.text? f.name) v := by
  have resolves := resolves member s
  generalize f.resolve s = result at resolves
  cases resolves with
  | @takes w takes =>
      constructor
      · rintro ⟨⟩
        exact takes
      · intro again
        cases found : s.text? f.name with
        | none =>
            rw [found] at takes again
            rw [show w = f.standard from takes, show v = f.standard from again]
        | some t =>
            rw [found] at takes again
            exact takes.symm.trans again
  | refuses refuses => exact iff_of_false nofun fun takes => takes.not_refuses _ refuses

end Field

/-- Whether the text of a field is refused. -/
def Refused (s : Sources) (f : Field) : Prop := ∃ kind, f.Refuses (s.text? f.name) kind

/-- The settings are not there as soon as the text of one field is refused. -/
theorem resolve_fails :
    (∃ ps, resolve s = .bad ps) ↔ ∃ f ∈ fields, Refused s f := by
  have succeeds := resolve_succeeds s
  constructor
  · rintro ⟨ps, failed⟩
    by_contra none
    obtain ⟨t, resolved⟩ := succeeds.mpr fun f member => by
      have resolves := Field.resolves member s
      generalize f.resolve s = result at resolves
      cases resolves with
      | @takes v takes => exact ⟨v, rfl⟩
      | refuses refuses => exact absurd ⟨f, member, _, refuses⟩ none
    rw [failed] at resolved
    cases resolved
  · rintro ⟨f, member, kind, refuses⟩
    cases resolved : resolve s with
    | bad ps => exact ⟨ps, rfl⟩
    | ok t =>
        obtain ⟨v, taken⟩ := succeeds.mp ⟨t, resolved⟩ f member
        exact absurd refuses (((Field.resolve_eq_ok_iff member s).mp taken).not_refuses kind)

open Classical in
/-- There is one problem for each field whose text is refused, in the order of the fields. -/
theorem problems_refused {l : List Field} (within : ∀ f ∈ l, f ∈ fields) :
    List.Forall₂ (fun p f => ∃ kind, f.Refuses (s.text? f.name) kind ∧ p = f.problem kind)
      (l.flatMap fun f => (f.resolve s).problems) (l.filter (Refused s)) := by
  induction l with
  | nil => exact .nil
  | cons f l ih =>
      have rest := ih fun g member => within g (List.mem_cons_of_mem f member)
      have resolves := Field.resolves (within f List.mem_cons_self) s
      rw [List.flatMap_cons]
      generalize f.resolve s = result at resolves
      cases resolves with
      | takes takes =>
          have kept : ¬ Refused s f := fun ⟨kind, refuses⟩ => takes.not_refuses kind refuses
          rw [List.filter_cons_of_neg (by simpa using kept)]
          exact rest
      | @refuses kind refuses =>
          rw [List.filter_cons_of_pos (by simpa using ⟨kind, refuses⟩)]
          exact .cons ⟨kind, refuses, rfl⟩ rest

end Settings

end BootstrapApproval
