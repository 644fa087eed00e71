import BootstrapApproval.Lifecycle
import BootstrapApproval.Proofs.Loading
import BootstrapApproval.Proofs.Settings.Fields

/-! # Starts and stops

From a start to the next stop, and on to the next start, the operator keeps two things for itself:
its metrics server and its tracing. A stop clears both of them, whatever fails, so every start finds
neither and every stop finds what the start before has got going.
-/

namespace BootstrapApproval

open Act

/-- Tracing as it is after it has been set up by some settings. -/
def Tracing.of (s : Settings) : Tracing :=
  ⟨true, if s.tracingEnabled then some (serviceName s.tracingServiceName) else Option.none⟩

namespace Settings

/-- The calls by which tracing is set up. -/
def exports (s : Settings) : List Call :=
  if s.tracingEnabled then [.exporter s.tracingEndpoint true] else []

/-- The rate of sampling is one that a sampler takes. -/
structure IsSampled (s : Settings) : Prop where
  notBelow : s.tracingSampleRate.belowZero = false
  notAbove : s.tracingSampleRate.aboveOne = false

theorem isSampled_standard : standard.IsSampled := ⟨by decide, by decide⟩

/-- Settings that have been resolved hold such a rate. -/
theorem isSampled_of_resolved {s : Sources} {t : Settings} (resolved : resolve s = .ok t) :
    t.IsSampled := by
  have member : .of .fraction Grammar.fraction "OTEL_TRACES_SAMPLER_ARG" .one
      (·.tracingSampleRate) ∈ fields := List.mem_of_getElem? (i := 13) rfl
  have setting := setting_of_resolved (fun _ _ => Value.fraction.inj) member resolved
  obtain ⟨-, same⟩ | ⟨text, -, read⟩ := Sources.setting_eq_ok.mp setting
  · exact ⟨same ▸ isSampled_standard.notBelow, same ▸ isSampled_standard.notAbove⟩
  · obtain ⟨notBelow, notAbove⟩ := Grammar.fraction_bounded read
    exact ⟨notBelow, notAbove⟩

def metricsCall (s : Settings) : Call := .listen s.metricsHost s.metricsPort

end Settings

namespace Lifecycle

variable {s : State}

def told (level : Level) (message : String) (s : State) : State :=
  { s with logs := s.logs.emit ⟨Logs.root, level, message, [], none⟩ }

theorem tell_apply (level : Level) (message : String) (s : State) :
    tell level message s = (.ok (), told level message s) := rfl

theorem draw_apply (range : Int × Int) (s : State) :
    draw range s = (.ok s.around.draw, { s with draws := s.draws ++ [range] }) := rfl

theorem configure_refused (few : s.settings.maxWorkers < 1) :
    ∃ draws, configure s = (.error (.of noWorkers), { s with draws }) := by
  unfold configure
  rw [bind_ok (see_apply ..), bind_ok (draw_apply ..), if_pos few]
  exact ⟨_, rfl⟩

theorem configure_done (enough : ¬ s.settings.maxWorkers < 1) :
    ∃ c draws, configure s = (.ok c, { s with draws }) := by
  unfold configure
  rw [bind_ok (see_apply ..), bind_ok (draw_apply ..), if_neg enough]
  exact ⟨_, _, rfl⟩

theorem checkRate_decimal {rate : Decimal} (notBelow : rate.belowZero = false)
    (notAbove : rate.aboveOne = false) : Tracing.checkRate (.decimal rate) = pure () := by
  simp [Tracing.checkRate, notBelow, notAbove]

/-- Where tracing has not been set up yet, it is set up as the settings say. -/
theorem setUp_fresh (fresh : s.tracing = .none) {settings : Settings} (rate : settings.IsSampled) :
    ∃ provider logs, Tracing.setUp (.ofSettings settings) s =
      (.ok provider,
        { s with logs, tracing := .of settings, calls := s.calls ++ settings.exports }) := by
  have checked := checkRate_decimal rate.notBelow rate.notAbove
  unfold Tracing.setUp Tracing.of Settings.exports Tracing.Setup.ofSettings
  rw [bind_ok (see_apply ..), fresh]
  cases enabled : settings.tracingEnabled with
  | false =>
      simp only [Bool.false_eq_true, if_false, List.append_nil]
      exact ⟨_, _, rfl⟩
  | true =>
      simp only [checked]
      exact ⟨_, _, rfl⟩

/-- A server that listens is kept. -/
theorem startMetrics_heard (heard : s.around.listenFault = none) :
    ∃ logs, startMetrics s = (.ok (),
      { s with
        logs
        calls := s.calls ++ [s.settings.metricsCall]
        metricsServer := some ⟨s.settings.metricsHost, s.settings.metricsPort, true, true⟩ }) := by
  unfold startMetrics MetricsServer.start
  simp only [bind_apply, call, change_apply, see_apply, heard, MetricsServer.answer]
  exact ⟨_, rfl⟩

/-- A server that cannot be started is given up. -/
theorem startMetrics_unheard {f : Fault} (unheard : s.around.listenFault = some f)
    (ordinary : f.isOrdinary = true) :
    ∃ logs, startMetrics s = (.ok (),
      { s with logs, calls := s.calls ++ [s.settings.metricsCall] }) := by
  have ordinary : (Raised.of f).fault.isOrdinary = true := ordinary
  unfold startMetrics MetricsServer.start
  simp only [bind_apply, call, change_apply, see_apply, unheard, MetricsServer.answer, pure_apply,
    ordinary, if_true]
  exact ⟨_, rfl⟩

/-- All that a start can lead to, when nothing is left from before. -/
inductive Starts (s : State) : Except Raised Configuration × State → Prop where
  /-- The configuration cannot be applied. -/
  | refused {t : State} (few : s.settings.maxWorkers < 1) (memory : t.reconciler = s.reconciler)
      (server : t.metricsServer = none) (tracing : t.tracing = .none) (calls : t.calls = s.calls) :
      Starts s (.error (.of noWorkers), t)
  /-- There are no credentials. -/
  | powerless {f : Fault} {t : State} (enough : ¬ s.settings.maxWorkers < 1)
      (lacks : s.around.lastFault = some f) (memory : t.reconciler = s.reconciler)
      (server : t.metricsServer = none) (tracing : t.tracing = .of s.settings)
      (calls : t.calls = s.calls ++ s.settings.exports ++ s.around.attempts) :
      Starts s (.error (Surroundings.lacking f), t)
  /-- The operator starts, with a metrics server if one can be started. -/
  | starts {c : Configuration} {t : State} (enough : ¬ s.settings.maxWorkers < 1)
      (provided : s.around.lastFault = none)
      (memory : t.reconciler = some (newReconciler s.settings))
      (server : t.metricsServer =
        if s.around.listenFault.isNone then
          some ⟨s.settings.metricsHost, s.settings.metricsPort, true, true⟩
        else none)
      (tracing : t.tracing = .of s.settings)
      (calls : t.calls =
        s.calls ++ s.settings.exports ++ s.around.attempts ++ [s.settings.metricsCall]) :
      Starts s (.ok c, t)

/-- Up to the credentials, a start that can apply its configuration sets tracing up. -/
theorem start_prepared (enough : ¬ s.settings.maxWorkers < 1) (fresh : s.tracing = .none)
    (rate : s.settings.IsSampled) :
    ∃ c logs draws, start s =
      (Client.load >>= fun _ =>
        change (fun t => { t with reconciler := some (newReconciler s.settings) }) >>= fun _ =>
        startMetrics >>= fun _ => pure c)
      { s with
        logs, draws
        tracing := .of s.settings
        calls := s.calls ++ s.settings.exports } := by
  let opened := told .info "Starting CSR Approver..." s
  obtain ⟨c, draws, configured⟩ := configure_done (s := opened) enough
  let peered := told .info ("Peering priority set to " ++ Digits.integer c.priority ++
    " for leader election") { opened with draws }
  obtain ⟨provider, logs, traced⟩ := setUp_fresh (s := peered) fresh rate
  unfold start
  rw [bind_ok (see_apply ..), bind_ok (tell_apply ..), bind_ok configured,
    bind_ok (tell_apply ..), bind_ok traced]
  cases s.settings.dryRun with
  | true => exact ⟨c, _, draws, rfl⟩
  | false => exact ⟨c, logs, draws, rfl⟩

section Fresh

variable (fresh : s.tracing = .none) (without : s.metricsServer = none)

include fresh without

theorem starts_refused (few : s.settings.maxWorkers < 1) : Starts s (start s) := by
  let opened := told .info "Starting CSR Approver..." s
  obtain ⟨draws, refused⟩ := configure_refused (s := opened) few
  have ended : start s = (.error (.of noWorkers), { opened with draws }) := by
    unfold start
    rw [bind_ok (see_apply ..), bind_ok (tell_apply ..), bind_error refused]
  rw [ended]
  exact .refused few rfl without fresh rfl

theorem starts_configured (enough : ¬ s.settings.maxWorkers < 1) (rate : s.settings.IsSampled)
    (ordinary : ∀ f, s.around.listenFault = some f → f.isOrdinary = true) :
    Starts s (start s) := by
  obtain ⟨c, logs, draws, prepared⟩ := start_prepared enough fresh rate
  rw [prepared]
  let t : State :=
    { s with logs, draws, tracing := .of s.settings, calls := s.calls ++ s.settings.exports }
  obtain ⟨logs', loaded⟩ := Client.load_apply t
  rw [t.around.credentials_eq] at loaded
  cases last : t.around.lastFault with
  | some f =>
      rw [last] at loaded
      rw [bind_error loaded]
      exact .powerless enough last rfl without rfl rfl
  | none =>
      rw [last] at loaded
      rw [bind_ok loaded, bind_ok (change_apply ..)]
      let u : State :=
        { t with
          logs := logs', calls := t.calls ++ t.around.attempts,
          reconciler := some (newReconciler s.settings) }
      cases heard : s.around.listenFault with
      | none =>
          obtain ⟨logs'', started⟩ := startMetrics_heard (s := u) heard
          rw [bind_ok started]
          exact .starts enough last rfl (by rw [heard]; rfl) rfl rfl
      | some f =>
          obtain ⟨logs'', given⟩ := startMetrics_unheard (s := u) heard (ordinary f heard)
          rw [bind_ok given]
          exact .starts enough last rfl (by rw [heard]; exact without) rfl rfl

theorem starts (rate : s.settings.IsSampled)
    (ordinary : ∀ f, s.around.listenFault = some f → f.isOrdinary = true) :
    Starts s (start s) := by
  by_cases few : s.settings.maxWorkers < 1
  · exact starts_refused fresh without few
  · exact starts_configured fresh without few rate ordinary

end Fresh

namespace Starts

variable {after : Except Raised Configuration × State}

theorem fails_iff (starts : Starts s after) :
    after.1.isOk = false ↔ s.settings.maxWorkers < 1 ∨ s.around.lastFault.isSome = true := by
  cases starts with
  | refused few => exact iff_of_true rfl (.inl few)
  | powerless enough lacks => exact iff_of_true rfl (.inr (by rw [lacks]; rfl))
  | starts enough provided =>
      refine iff_of_false (fun failed => Bool.noConfusion failed) ?_
      rintro (few | lacks)
      · exact enough few
      · rw [provided] at lacks
        cases lacks

/-- The server that is kept is one that listens. -/
theorem server_eq (starts : Starts s after) : after.2.metricsServer =
    if after.1.isOk && s.around.listenFault.isNone then
      some ⟨s.settings.metricsHost, s.settings.metricsPort, true, true⟩
    else none := by
  cases starts with
  | refused few memory server => exact server
  | powerless enough lacks memory server => exact server
  | starts enough provided memory server => exact server

end Starts

theorem stopMetrics_without (without : s.metricsServer = none) :
    stopMetrics s = (.ok (), s) := by
  unfold stopMetrics
  rw [bind_ok (see_apply ..), without]
  rfl

/-- A server that listens is told to stop once, and is forgotten even when it cannot. -/
theorem stopMetrics_listening {m : MetricsServer} (server : s.metricsServer = some m)
    (listening : m.listening = true)
    (ordinary : ∀ f, s.around.stopFault = some f → f.isOrdinary = true) :
    ∃ logs, stopMetrics s = (.ok (),
      { s with logs, calls := s.calls ++ [.stopListening], metricsServer := none }) := by
  unfold stopMetrics MetricsServer.stop
  rw [bind_ok (see_apply ..), server]
  simp only [listening, if_true, bind_apply, call, change_apply, see_apply, pure_apply]
  cases failing : s.around.stopFault with
  | none => exact ⟨_, rfl⟩
  | some f =>
      have ordinary : (Raised.of f).fault.isOrdinary = true := ordinary f failing
      simp only [MetricsServer.answer, pure_apply, ordinary, if_true]
      exact ⟨_, rfl⟩

theorem shutDown_apply (s : State) :
    ∃ logs, Tracing.shutDown s = (.ok (), { s with logs, tracing := .none }) := by
  unfold Tracing.shutDown
  rw [bind_ok (see_apply ..)]
  cases s.tracing.provider.isSome with
  | true => exact ⟨_, rfl⟩
  | false => exact ⟨s.logs, rfl⟩

/-- A stop ends without a fault and clears what the operator keeps; these calls are made for it. -/
structure Stops (s : State) (closing : List Call) : Prop where
  given : (stop s).1 = .ok ()
  memory : (stop s).2.reconciler = s.reconciler
  server : (stop s).2.metricsServer = none
  tracing : (stop s).2.tracing = .none
  calls : (stop s).2.calls = s.calls ++ closing

theorem stops_of_metrics {t : State} {closing : List Call}
    (stopped : stopMetrics (told .info "Shutting down CSR Approver..." s) = (.ok (), t))
    (memory : t.reconciler = s.reconciler) (server : t.metricsServer = none)
    (calls : t.calls = s.calls ++ closing) : Stops s closing := by
  obtain ⟨logs, shut⟩ := shutDown_apply t
  have whole : stop s = (.ok (), { t with logs, tracing := .none }) :=
    (bind_ok (tell_apply ..)).trans ((bind_ok stopped).trans shut)
  constructor <;> rw [whole]
  · exact memory
  · exact server
  · exact calls

theorem stops_without (without : s.metricsServer = none) : Stops s [] :=
  stops_of_metrics (stopMetrics_without without) rfl without (List.append_nil _).symm

theorem stops_listening {m : MetricsServer} (server : s.metricsServer = some m)
    (listening : m.listening = true)
    (ordinary : ∀ f, s.around.stopFault = some f → f.isOrdinary = true) :
    Stops s [.stopListening] := by
  obtain ⟨logs, stopped⟩ := stopMetrics_listening
    (s := told .info "Shutting down CSR Approver..." s) server listening ordinary
  exact stops_of_metrics stopped rfl rfl rfl

/-- A start or a stop, with the state that it finds. -/
inductive Turn where
  | start (s : State)
  | stop (s : State)

namespace Turn

def found : Turn → State
  | start s => s
  | stop s => s

/-- What may go wrong is ordinary, and the rate of sampling is one that a sampler takes. -/
def IsUsual : Turn → Prop
  | start s => s.settings.IsSampled ∧ ∀ f, s.around.listenFault = some f → f.isOrdinary = true
  | stop s => ∀ f, s.around.stopFault = some f → f.isOrdinary = true

/-- Whether this is a start that has got a metrics server going. -/
def opens : Turn → Bool
  | start s => (Lifecycle.start s).1.isOk && s.around.listenFault.isNone
  | stop _ => false

end Turn

/-- Starts and stops in turn. Before the first of them there is neither a metrics server nor
tracing; after it, both are found as they were left. All else may change in between. -/
inductive Follows : Option Turn → Turn → Prop where
  | first {t : Turn} (server : t.found.metricsServer = none) (tracing : t.found.tracing = .none) :
      Follows none t
  | stop {s t : State} (server : t.metricsServer = (start s).2.metricsServer)
      (tracing : t.tracing = (start s).2.tracing) : Follows (some (.start s)) (.stop t)
  | start {s t : State} (server : t.metricsServer = (stop s).2.metricsServer)
      (tracing : t.tracing = (stop s).2.tracing) : Follows (some (.stop s)) (.start t)

/-- The life of the operator after one of its turns. -/
inductive Life : Option Turn → List Turn → Prop where
  | nil (last : Option Turn) : Life last []
  | cons {last : Option Turn} {t : Turn} {later : List Turn} (follows : Follows last t)
      (usual : t.IsUsual) (rest : Life (some t) later) : Life last (t :: later)

/-- What a turn does, given the one before. A start finds nothing left over, and fails only when it
cannot apply the configuration or finds no credentials; a stop closes the server that the start
before it has got going. -/
inductive Goes (last : Option Turn) : Turn → Prop where
  | start {s : State} (starts : Starts s (start s))
      (fails : (Lifecycle.start s).1.isOk = false ↔
        s.settings.maxWorkers < 1 ∨ s.around.lastFault.isSome = true) :
      Goes last (.start s)
  | stop {s : State} (stops : Stops s (if last.any Turn.opens then [.stopListening] else [])) :
      Goes last (.stop s)

/-- A turn goes well when the one before has. -/
theorem Follows.goes {last : Option Turn} {t : Turn} (follows : Follows last t)
    (usual : t.IsUsual) (before : ∀ u ∈ last, ∃ earlier, Goes earlier u) : Goes last t := by
  cases follows with
  | first server tracing =>
      cases t with
      | start s =>
          have starts := starts tracing server usual.1 usual.2
          exact .start starts starts.fails_iff
      | stop s => exact .stop (stops_without server)
  | @stop s t server tracing =>
      obtain ⟨earlier, goes⟩ := before _ rfl
      cases goes with
      | start starts =>
          have kept := server.trans starts.server_eq
          refine .stop ?_
          rw [Option.any_some, Turn.opens]
          split at kept
          next opens =>
            rw [if_pos opens]
            exact stops_listening kept rfl usual
          next closed =>
            rw [if_neg closed]
            exact stops_without kept
  | start server tracing =>
      obtain ⟨earlier, goes⟩ := before _ rfl
      cases goes with
      | stop stops =>
          have starts := starts (tracing.trans stops.tracing) (server.trans stops.server) usual.1
            usual.2
          exact .start starts starts.fails_iff

theorem Life.goes {last : Option Turn} {before after : List Turn} {t : Turn}
    (life : Life last (before ++ t :: after)) (sound : ∀ u ∈ last, ∃ earlier, Goes earlier u) :
    Goes (before.getLast?.or last) t := by
  induction before generalizing last with
  | nil =>
      cases life with
      | cons follows usual rest => exact follows.goes usual sound
  | cons u before ih =>
      cases life with
      | cons follows usual rest =>
          have first := follows.goes usual sound
          have later := ih rest (by rintro _ ⟨⟩; exact ⟨_, first⟩)
          rwa [Option.or_some, ← Option.some_or, ← List.getLast?_cons] at later

/-- Every start and every stop in the life of the operator does what it should, whatever has failed
before. -/
theorem life_goes {before after : List Turn} {t : Turn} (life : Life none (before ++ t :: after)) :
    Goes before.getLast? t := by
  have goes := life.goes (fun _ absent => nomatch absent)
  rwa [Option.or_none] at goes

/-- The state of the operator in some surroundings, with what it has kept for itself. -/
def keeping (kept : State) (around : Surroundings) : State :=
  { State.initial .standard around .empty with
    metricsServer := kept.metricsServer, tracing := kept.tracing }

def fresh : State := .initial .standard (.calm .epoch) .empty

def addressInUse : Surroundings :=
  { Surroundings.calm .epoch with listenFault := some (.unexpected .system "address in use") }

def stuck : Surroundings :=
  { Surroundings.calm .epoch with stopFault := some (.unexpected .runtime "stuck") }

def firstStart : State := keeping fresh addressInUse

def firstStop : State := keeping (start firstStart).2 (.calm .epoch)

def secondStart : State := keeping (stop firstStop).2 (.calm .epoch)

def secondStop : State := keeping (start secondStart).2 stuck

/-- The first start gets no metrics server going; the second one does, and it cannot be closed. -/
theorem life_goes_secondStop :
    Life none ([.start firstStart, .stop firstStop, .start secondStart] ++ .stop secondStop :: []) ∧
      Goes (some (.start secondStart)) (.stop secondStop) := by
  have life : Life none
      ([.start firstStart, .stop firstStop, .start secondStart] ++ .stop secondStop :: []) := by
    refine .cons (.first rfl rfl) ⟨Settings.isSampled_standard, ?_⟩
      (.cons (.stop rfl rfl) ?_
        (.cons (.start rfl rfl) ⟨Settings.isSampled_standard, ?_⟩
          (.cons (.stop rfl rfl) ?_ (.nil _))))
    all_goals rintro f ⟨⟩
    all_goals rfl
  exact ⟨life, life_goes life⟩

/-- Credentials are at hand, but nobody may work. -/
def workless : State :=
  .initial { Settings.standard with maxWorkers := 0 } (.calm .epoch) .empty

/-- A start can fail with credentials at hand. -/
theorem workless_fails :
    Life none [.start workless] ∧ workless.around.credentials = .ok () ∧
      (start workless).1 = .error (.of noWorkers) := by
  refine ⟨.cons (.first rfl rfl) ⟨⟨by decide, by decide⟩, ?_⟩ (.nil _), rfl, rfl⟩
  rintro f ⟨⟩

end Lifecycle

end BootstrapApproval
