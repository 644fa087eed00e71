import BootstrapApproval.Http
import BootstrapApproval.Lifecycle
import BootstrapApproval.Proofs.Quiet

/-! # The surfaces of health

Health is told at four places: over HTTP in full and as readiness, and by the two probes. Each place
makes its own checks and guards them in its own way. What they tell follows from the surroundings
alone, so they agree. Only an interrupt while credentials are loaded keeps them from telling
anything, and then it leaves every one of them.
-/

namespace BootstrapApproval

open Act

/-- In some surroundings, an action always gives the same, and it stays in these surroundings. -/
structure Act.Yields {α : Type} (a : Surroundings) (x : Act α) (r : Except Raised α) : Prop where
  does : ∀ s : State, s.around = a → ∃ t : State, x s = (r, t) ∧ t.around = a

namespace Act.Yields

variable {α β : Type} {a : Surroundings} {x : Act α} {f : α → Act β} {v : α} {e : Raised}
  {s t : State}

theorem given {r : Except Raised α} (yields : Yields a x r) (s : State) (here : s.around = a) :
    (x s).1 = r := by
  obtain ⟨t, done, -⟩ := yields.does s here
  rw [done]

theorem pure (v : α) : Yields a (Pure.pure v : Act α) (.ok v) := ⟨fun s here => ⟨s, rfl, here⟩⟩

theorem raise (e : Raised) : Yields a (Act.raise e : Act α) (.error e) :=
  ⟨fun s here => ⟨s, rfl, here⟩⟩

theorem give (r : Except Raised α) : Yields a (Act.give r) r := by
  cases r with
  | ok v => exact pure v
  | error e => exact raise e

theorem see (f : Surroundings → α) : Yields a (Act.see fun s => f s.around) (.ok (f a)) := by
  constructor
  intro s here
  subst here
  exact ⟨s, rfl, rfl⟩

theorem call (c : Call) : Yields a (Act.call c) (.ok ()) := ⟨fun _ here => ⟨_, rfl, here⟩⟩

theorem bind {r : Except Raised β} (first : Yields a x (.ok v)) (next : Yields a (f v) r) :
    Yields a (x >>= f) r := by
  constructor
  intro s here
  obtain ⟨t, done, there⟩ := first.does s here
  rw [bind_ok done]
  exact next.does t there

theorem bind_error (failed : Yields a x (.error e)) : Yields a (x >>= f) (.error e) := by
  constructor
  intro s here
  obtain ⟨t, done, there⟩ := failed.does s here
  exact ⟨t, Act.bind_error done, there⟩

/-- What is given when all faults but interrupts are caught. -/
def caught (r : Except Raised α) : Except Raised (Except Fault α) :=
  match r with
  | .ok v => .ok (.ok v)
  | .error e => if e.fault.isOrdinary then .ok (.error e.fault) else .error e

theorem ordinary_apply {r : Except Raised α} (done : x s = (r, t)) :
    Act.ordinary x s = (caught r, t) := by
  unfold Act.ordinary caught
  rw [done]
  cases r with
  | ok v => rfl
  | error e => cases ordinary : e.fault.isOrdinary <;> simp [ordinary]

theorem ordinary {r : Except Raised α} (yields : Yields a x r) :
    Yields a (Act.ordinary x) (caught r) := by
  constructor
  intro s here
  obtain ⟨t, done, there⟩ := yields.does s here
  exact ⟨t, ordinary_apply done, there⟩

theorem caught_of_interrupt (interrupt : e.fault.isOrdinary = false) :
    caught (.error e : Except Raised α) = .error e := by
  simp [caught, interrupt]

/-- An interrupt is passed on. -/
theorem passes (failed : Yields a x (.error e)) (interrupt : e.fault.isOrdinary = false) :
    Yields a (Act.ordinary x) (.error e) := by
  have caught_ := ordinary failed
  rw [caught_of_interrupt interrupt] at caught_
  exact caught_

end Act.Yields

namespace Surroundings

/-- How reading the definition of registered clusters ends. -/
def defined (a : Surroundings) : Except Fault Unit :=
  match a.definition with
  | some f => .error f
  | none => .ok ()

/-- Surroundings in which all checks can be made, and no answer from the server is an interrupt. -/
structure IsPlain (a : Surroundings) : Prop where
  whole : a.broken = none
  version : ∀ f, a.version = .error f → f.isOrdinary = true
  definition : ∀ f, a.definition = some f → f.isOrdinary = true

end Surroundings

open Act.Yields

variable {a : Surroundings}

theorem Client.yields_load : Yields a Client.load a.credentials := by
  constructor
  intro s here
  subst here
  have around := congrArg Outside.around (Client.quiet_load.outside s)
  exact ⟨_, Prod.ext (Client.load_fst s) rfl, around⟩

namespace Health

/-- What the check of the server finds, when credentials have been loaded or not. -/
def foundApi (a : Surroundings) (loaded : Except Fault Unit) : HealthCheck :=
  apiCheck (loaded.bind fun _ => a.version)

/-- What the check of the register finds. -/
def foundRegistry (a : Surroundings) (loaded : Except Fault Unit) : HealthCheck :=
  registryCheck (loaded.bind fun _ => a.defined)

def found (a : Surroundings) (loaded : Except Fault Unit) : Table HealthCheck :=
  [(apiName, foundApi a loaded), (registryName, foundRegistry a loaded)]

theorem yields_require (plain : a.IsPlain) (part : HealthPart) :
    Yields a (require part) (.ok ()) := by
  refine bind (see Surroundings.broken) ?_
  rw [plain.whole]
  exact pure ()

theorem caught_mapError {α : Type} {answer : Except Fault α}
    (ordinary : ∀ f, answer = .error f → f.isOrdinary = true) :
    caught (answer.mapError Raised.of) = .ok answer := by
  cases answer with
  | ok v => rfl
  | error f => exact if_pos (ordinary f rfl)

theorem yields_version (plain : a.IsPlain) :
    Yields a (Act.ordinary do Act.give ((← Act.see (·.around.version)).mapError Raised.of))
      (.ok a.version) := by
  rw [← caught_mapError plain.version]
  exact ordinary (bind (see Surroundings.version) (give _))

theorem yields_definition (plain : a.IsPlain) :
    Yields a (Act.ordinary do
        Act.call (.definition definition)
        answered (← Act.see (·.around.definition)))
      (.ok a.defined) := by
  have ordinary_ : ∀ f, a.defined = .error f → f.isOrdinary = true := by
    intro f failed
    unfold Surroundings.defined at failed
    cases given : a.definition with
    | none => simp [given] at failed
    | some g =>
        rw [given] at failed
        obtain rfl := Except.error.inj failed
        exact plain.definition g given
  rw [← caught_mapError ordinary_]
  refine ordinary (bind (call _) (bind (see Surroundings.definition) ?_))
  unfold Surroundings.defined answered
  cases a.definition with
  | none => exact pure ()
  | some f => exact raise _

section Loaded

variable {loaded : Except Fault Unit}

theorem yields_client (ends : caught a.credentials = .ok loaded) :
    Yields a (Act.ordinary (client false)) (.ok loaded) := by
  rw [← ends]
  exact ordinary Client.yields_load

theorem yields_checkApi (plain : a.IsPlain) (ends : caught a.credentials = .ok loaded) :
    Yields a (checkApi false) (.ok (foundApi a loaded, loaded.toBool)) := by
  refine bind (yields_require plain _) (bind (yields_client ends) ?_)
  cases loaded with
  | error f => exact pure _
  | ok _ => exact bind (yields_version plain) (pure _)

/-- The second check tries again to load credentials, if there are none. -/
theorem yields_checkRegistry (plain : a.IsPlain) (ends : caught a.credentials = .ok loaded) :
    Yields a (checkRegistry loaded.toBool) (.ok (foundRegistry a loaded, loaded.toBool)) := by
  refine bind (yields_require plain _) ?_
  cases loaded with
  | error f => exact bind (yields_client ends) (pure _)
  | ok _ => exact bind (ordinary (pure ())) (bind (yields_definition plain) (pure _))

theorem yields_checkAll (plain : a.IsPlain) (ends : caught a.credentials = .ok loaded) :
    Yields a (checkAll false) (.ok (found a loaded)) := by
  have api : Yields a (guarded apiName false checkApi) (.ok (foundApi a loaded, loaded.toBool)) :=
    bind (ordinary (yields_checkApi plain ends)) (pure _)
  have registry : Yields a (guarded registryName loaded.toBool checkRegistry)
      (.ok (foundRegistry a loaded, loaded.toBool)) :=
    bind (ordinary (yields_checkRegistry plain ends)) (pure _)
  exact bind (yields_require plain _) (bind api (bind registry (pure _)))

end Loaded

section Interrupted

variable {e : Raised}

theorem checkApi_interrupted (plain : a.IsPlain) (ends : caught a.credentials = .error e) :
    Yields a (checkApi false) (.error e) :=
  bind (yields_require plain _) (bind_error (ends ▸ ordinary Client.yields_load))

theorem checkAll_interrupted (plain : a.IsPlain) (ends : caught a.credentials = .error e)
    (interrupt : e.fault.isOrdinary = false) : Yields a (checkAll false) (.error e) := by
  -- the guard around the first check lets the interrupt through, so there is no second check
  have first : Yields a (guarded apiName false checkApi) (.error e) :=
    bind_error (passes (checkApi_interrupted plain ends) interrupt)
  exact bind (yields_require plain _) (bind_error first)

end Interrupted

theorem status_foundApi (a : Surroundings) (loaded : Except Fault Unit) :
    (foundApi a loaded).status = .healthy ∨ (foundApi a loaded).status = .unhealthy := by
  unfold foundApi
  cases loaded.bind fun _ => a.version with
  | ok version => exact .inl rfl
  | error f => cases f <;> exact .inr rfl

theorem overall_eq_unhealthy {checks : Table HealthCheck} :
    overall checks = .unhealthy ↔ ∃ e ∈ checks, e.2.status = .unhealthy := by
  rw [← List.mem_map (f := fun e : String × HealthCheck => e.2.status)]
  unfold overall
  dsimp only
  generalize checks.map (fun e => e.2.status) = statuses
  cases statuses with
  | nil => simp
  | cons status rest =>
      by_cases some_ : HealthStatus.unhealthy ∈ status :: rest
      · simp [some_]
      · simp only [List.isEmpty_cons, Bool.false_eq_true, if_false, some_, iff_false]
        split <;> exact HealthStatus.noConfusion

end Health

namespace Http

variable {x : Act Answer} {said : String} {instead : Fault → Answer} {answer : Answer} {e : Raised}

theorem yields_orElse (yields : Yields a x (.ok answer)) :
    Yields a (orElse x said instead) (.ok answer) :=
  bind (ordinary yields) (pure answer)

theorem orElse_interrupted (failed : Yields a x (.error e))
    (interrupt : e.fault.isOrdinary = false) : Yields a (orElse x said instead) (.error e) :=
  bind_error (passes failed interrupt)

/-- A method and a target for which an answer is given at a path. -/
structure Reaches (path method target : String) : Prop where
  path : Target.path target = .ok path
  method : Letters.upper method ∈ MetricsServer.methods

theorem Reaches.get {path : String} (plain : Target.path path = .ok path) :
    Reaches path "GET" path := ⟨plain, by decide +kernel⟩

theorem respond_health {method target : String} (reaches : Reaches "/health" method target) :
    respond method target = health := by
  have served : "/health" ∈ MetricsServer.paths := by simp [MetricsServer.paths]
  simp [respond, reaches.path, reaches.method, served]

theorem respond_ready {method target : String} (reaches : Reaches "/ready" method target) :
    respond method target = ready := by
  have served : "/ready" ∈ MetricsServer.paths := by simp [MetricsServer.paths]
  simp [respond, reaches.path, reaches.method, served]

/-- The status of the answer on readiness, and its word. -/
def readiness (check : HealthCheck) : Nat × String :=
  if check.status = .healthy then (200, "ready") else (503, "not_ready")

def readinessReport (check : HealthCheck) : Json :=
  .obj [("status", .str (readiness check).2),
    ("checks", .obj [(Health.apiName, .str check.status.text)])]

section Loaded

variable {loaded : Except Fault Unit}

theorem yields_health (plain : a.IsPlain) (ends : caught a.credentials = .ok loaded) :
    Yields a health (.ok (.json (statusOf (Health.overall (Health.found a loaded)))
      (Health.report (Health.found a loaded)))) := by
  have reports : Yields a (Health.askReport (Health.found a loaded))
      (.ok (Health.report (Health.found a loaded))) :=
    bind (Health.yields_require plain _) (bind (Health.yields_require plain _) (pure _))
  exact yields_orElse (bind (Health.yields_checkAll plain ends) (bind reports (pure _)))

theorem yields_ready (plain : a.IsPlain) (ends : caught a.credentials = .ok loaded) :
    Yields a ready (.ok (.json (readiness (Health.foundApi a loaded)).1
      (readinessReport (Health.foundApi a loaded)))) := by
  refine yields_orElse (bind (Health.yields_checkApi plain ends) ?_)
  unfold readinessReport readiness
  by_cases healthy : (Health.foundApi a loaded).status = .healthy
  · simp only [healthy, if_true]
    exact pure _
  · simp only [healthy, if_false]
    exact pure _

end Loaded

end Http

namespace Lifecycle

variable {x : Act String} {said instead : String} {status : String} {e : Raised} {s : State}

theorem probe_given (yields : Yields a x (.ok status)) (here : s.around = a) :
    (probe x said instead s).1 = .ok ⟨status, s.settings.operatorName, none⟩ := by
  unfold probe
  rw [bind_ok (see_apply ..)]
  refine Yields.given (bind (ordinary yields) ?_) s here
  exact pure _

theorem probe_interrupted (failed : Yields a x (.error e)) (interrupt : e.fault.isOrdinary = false)
    (here : s.around = a) : (probe x said instead s).1 = .error e := by
  unfold probe
  rw [bind_ok (see_apply ..)]
  exact (bind_error (passes failed interrupt)).given s here

section Loaded

variable {loaded : Except Fault Unit}

theorem yields_overall (plain : a.IsPlain) (ends : caught a.credentials = .ok loaded) :
    Yields a (do Pure.pure (← Health.askOverall (← Health.checkAll false)).text)
      (.ok (Health.overall (Health.found a loaded)).text) := by
  have asks : Yields a (Health.askOverall (Health.found a loaded))
      (.ok (Health.overall (Health.found a loaded))) :=
    bind (Health.yields_require plain _) (pure _)
  exact bind (Health.yields_checkAll plain ends) (bind asks (pure _))

theorem yields_readiness (plain : a.IsPlain) (ends : caught a.credentials = .ok loaded) :
    Yields a (do
        let (check, _) ← Health.checkApi false
        Pure.pure (if check.status = .healthy then "ready" else "not_ready"))
      (.ok (Http.readiness (Health.foundApi a loaded)).2) := by
  refine bind (Health.yields_checkApi plain ends) ?_
  unfold Http.readiness
  by_cases healthy : (Health.foundApi a loaded).status = .healthy
  · simp only [healthy, if_true]
    exact pure _
  · simp only [healthy, if_false]
    exact pure _

end Loaded

end Lifecycle

namespace Health

/-- What is told at all places in some surroundings: the two checks, the statuses of the two answers
over HTTP, and the word of the probe for readiness. -/
structure Tells (a : Surroundings) (api registry : HealthCheck) (health ready : Nat)
    (word : String) : Prop where
  checks : ∀ s : State, s.around = a →
    (checkAll false s).1 = .ok [(apiName, api), (registryName, registry)]
  health : ∀ (s : State) (method target : String), s.around = a →
    Http.Reaches "/health" method target →
      (Http.respond method target s).1 =
        .ok (.json health (report [(apiName, api), (registryName, registry)]))
  healthProbe : ∀ s : State, s.around = a →
    (Lifecycle.healthProbe s).1 =
      .ok ⟨(overall [(apiName, api), (registryName, registry)]).text, s.settings.operatorName,
        none⟩
  ready : ∃ body, ∀ (s : State) (method target : String), s.around = a →
    Http.Reaches "/ready" method target → (Http.respond method target s).1 = .ok (.json ready body)
  readyProbe : ∀ s : State, s.around = a →
    (Lifecycle.readyProbe s).1 = .ok ⟨word, s.settings.operatorName, none⟩

/-- In some surroundings, a fault leaves all places. -/
structure IsSilenced (a : Surroundings) (e : Raised) : Prop where
  checks : ∀ s : State, s.around = a → (checkAll false s).1 = .error e
  health : ∀ (s : State) (method target : String), s.around = a →
    Http.Reaches "/health" method target → (Http.respond method target s).1 = .error e
  healthProbe : ∀ s : State, s.around = a → (Lifecycle.healthProbe s).1 = .error e
  ready : ∀ (s : State) (method target : String), s.around = a →
    Http.Reaches "/ready" method target → (Http.respond method target s).1 = .error e
  readyProbe : ∀ s : State, s.around = a → (Lifecycle.readyProbe s).1 = .error e

theorem tells {loaded : Except Fault Unit} (plain : a.IsPlain)
    (ends : caught a.credentials = .ok loaded) :
    Tells a (foundApi a loaded) (foundRegistry a loaded)
      (Http.statusOf (overall (found a loaded))) (Http.readiness (foundApi a loaded)).1
      (Http.readiness (foundApi a loaded)).2 where
  checks := (yields_checkAll plain ends).given
  health := by
    intro s method target here reaches
    rw [Http.respond_health reaches]
    exact (Http.yields_health plain ends).given s here
  healthProbe := by
    intro s here
    exact Lifecycle.probe_given (Lifecycle.yields_overall plain ends) here
  ready := by
    refine ⟨Http.readinessReport (foundApi a loaded), fun s method target here reaches => ?_⟩
    rw [Http.respond_ready reaches]
    exact (Http.yields_ready plain ends).given s here
  readyProbe := by
    intro s here
    exact Lifecycle.probe_given (Lifecycle.yields_readiness plain ends) here

theorem silenced {e : Raised} (plain : a.IsPlain) (failed : a.credentials = .error e)
    (interrupt : e.fault.isOrdinary = false) : IsSilenced a e := by
  have ends : caught a.credentials = .error e := by
    rw [failed]
    exact caught_of_interrupt interrupt
  have api := checkApi_interrupted plain ends
  have all := checkAll_interrupted plain ends interrupt
  refine ⟨all.given, ?_, ?_, ?_, ?_⟩
  · intro s method target here reaches
    rw [Http.respond_health reaches]
    exact (Http.orElse_interrupted (bind_error all) interrupt).given s here
  · intro s here
    exact Lifecycle.probe_interrupted (bind_error all) interrupt here
  · intro s method target here reaches
    rw [Http.respond_ready reaches]
    exact (Http.orElse_interrupted (bind_error api) interrupt).given s here
  · intro s here
    exact Lifecycle.probe_interrupted (bind_error api) interrupt here

/-- In all surroundings, unless loading credentials is interrupted, the places agree: both checks
are told, the full report is well received exactly when the probe tells of health that is good or
degraded, readiness is affirmed over HTTP exactly when the probe affirms it and exactly when the
server answers, health is bad exactly when one of the checks is, and whoever is in good health is
ready. An interrupt leaves every place. -/
theorem surfaces_agree (plain : a.IsPlain) :
    ((∀ e, a.credentials = .error e → e.fault.isOrdinary = true) →
      ∃ api registry health ready word, Tells a api registry health ready word ∧
        (health = 200 ∨ health = 503) ∧
        (health = 200 ↔ overall [(apiName, api), (registryName, registry)] = .healthy ∨
          overall [(apiName, api), (registryName, registry)] = .degraded) ∧
        (ready = 200 ↔ word = "ready") ∧
        (word = "ready" ↔ api.status = .healthy) ∧
        (overall [(apiName, api), (registryName, registry)] = .unhealthy ↔
          ∃ check ∈ [api, registry], check.status = .unhealthy) ∧
        (health = 200 → ready = 200)) ∧
    ∀ e, a.credentials = .error e → e.fault.isOrdinary = false → IsSilenced a e := by
  refine ⟨fun undisturbed => ?_, fun e failed interrupt => silenced plain failed interrupt⟩
  obtain ⟨loaded, ends⟩ : ∃ loaded, caught a.credentials = .ok loaded := by
    cases loads : a.credentials with
    | ok v => exact ⟨.ok v, rfl⟩
    | error e => exact ⟨.error e.fault, if_pos (undisturbed e loads)⟩
  have bad : overall (found a loaded) = .unhealthy ↔
      ∃ check ∈ [foundApi a loaded, foundRegistry a loaded], check.status = .unhealthy := by
    simp [overall_eq_unhealthy, found]
  refine ⟨_, _, _, _, _, tells plain ends, ?_, ?_, ?_, ?_, bad, ?_⟩
  · unfold Http.statusOf
    split <;> simp
  · unfold Http.statusOf
    split <;> simp_all [found]
  · unfold Http.readiness
    split <;> simp
  · unfold Http.readiness
    split <;> simp_all
  · intro well
    have fine : overall (found a loaded) ≠ .unhealthy := by
      intro unhealthy
      rw [unhealthy] at well
      cases well
    rcases status_foundApi a loaded with healthy | unhealthy
    · rw [Http.readiness, if_pos healthy]
    · exact absurd (bad.mpr ⟨_, List.mem_cons_self, unhealthy⟩) fine

/-- Surroundings in which clusters cannot be registered. -/
def barren : Surroundings :=
  { Surroundings.calm .epoch with definition := some (.response ⟨some 404, some "Not Found"⟩) }

theorem surfaces_agree_barren :
    let s := State.initial .standard barren .empty
    (∃ report, (Http.respond "GET" "/health" s).1 = .ok (.json 200 report)) ∧
      (Lifecycle.healthProbe s).1 = .ok ⟨"degraded", s.settings.operatorName, none⟩ ∧
      (Lifecycle.readyProbe s).1 = .ok ⟨"ready", s.settings.operatorName, none⟩ := by
  intro s
  have plain : barren.IsPlain := by
    refine ⟨rfl, fun f failed => ?_, fun f failed => ?_⟩
    · cases failed
    · obtain rfl := Option.some.inj failed
      rfl
  obtain ⟨agree, -⟩ := surfaces_agree plain
  obtain ⟨api, registry, health, ready, word, tells, -, well, affirmed, -, -, implies⟩ :=
    agree fun e failed => by cases failed
  have degraded : (checkAll false s).1.map overall = .ok .degraded := rfl
  rw [tells.checks s rfl] at degraded
  have overall_ := Except.ok.inj degraded
  obtain rfl : health = 200 := well.mpr (.inr overall_)
  obtain rfl : word = "ready" := affirmed.mp (implies rfl)
  have probe := tells.healthProbe s rfl
  rw [overall_] at probe
  exact ⟨⟨_, tells.health s _ _ rfl (.get rfl)⟩, probe, tells.readyProbe s rfl⟩

/-- Surroundings in which loading credentials is interrupted. -/
def cutOff : Surroundings := { Surroundings.calm .epoch with inCluster := some (.interrupt "stop") }

/-- Where loading credentials is interrupted, neither the checks nor the answers are given. -/
theorem silenced_cutOff :
    let s := State.initial .standard cutOff .empty
    s.around.IsPlain ∧ (∀ checks, (checkAll false s).1 ≠ .ok checks) ∧
      (∀ answer, (Http.respond "GET" "/health" s).1 ≠ .ok answer) ∧
      ∀ answer, (Lifecycle.healthProbe s).1 ≠ .ok answer := by
  intro s
  have checks : (checkAll false s).1 = .error (.of (.interrupt "stop")) := rfl
  have health : (Http.respond "GET" "/health" s).1 = .error (.of (.interrupt "stop")) := rfl
  have probe : (Lifecycle.healthProbe s).1 = .error (.of (.interrupt "stop")) := rfl
  refine ⟨⟨rfl, fun f failed => ?_, fun f failed => ?_⟩, ?_, ?_, ?_⟩
  · cases failed
  · cases failed
  · simp [checks]
  · simp [health]
  · simp [probe]

end Health

end BootstrapApproval
