import BootstrapApproval.Proofs.Handler.Reports
import BootstrapApproval.Proofs.Reconciler.Answers
import BootstrapApproval.Proofs.Reconciler.Decision
import BootstrapApproval.Proofs.Reconciler.Filter

/-! # Trouble in looking a cluster up

A refusal, a missing answer and an operator error are warned of and count as an unknown cluster. Any
other fault in the look-up fails the reconciliation, and no warning is given of it.
-/

namespace BootstrapApproval

open Act

/-- Whether a record is a warning. -/
def Record.warns (r : Record) : Bool := r.level == .warning

/-- The second logging is the first one after records with these warnings among them. -/
def Logs.Warns (l : Logs) (warnings : List Record) (m : Logs) : Prop :=
  ∃ records, l.Emits records m ∧ records.filter Record.warns = warnings

namespace Logs.Warns

variable {l m n : Logs} {first second : List Record}

theorem nothing (l : Logs) : l.Warns [] l := ⟨[], .nothing, rfl⟩

theorem one (l : Logs) (r : Record) : l.Warns ([r].filter Record.warns) (l.emit r) :=
  ⟨[r], .one l r, rfl⟩

theorem append (before : l.Warns first m) (after : m.Warns second n) :
    l.Warns (first ++ second) n := by
  obtain ⟨records, emitted, rfl⟩ := before
  obtain ⟨records', emitted', rfl⟩ := after
  exact ⟨records ++ records', emitted.append emitted', List.filter_append ..⟩

/-- A record that is no warning adds none. -/
theorem record (before : l.Warns first m) {r : Record} (calm : r.warns = false) :
    l.Warns first (m.emit r) := by
  have told := before.append (one m r)
  rw [List.filter_cons_of_neg (by simp [calm]), List.filter_nil, List.append_nil] at told
  exact told

/-- A logging that only keeps what it takes keeps the warnings that it takes. -/
theorem kept (warns : l.Warns first m) (keeps : l.handlers = [keeper]) :
    m.output.kept.filter Record.warns = l.output.kept.filter Record.warns ++
      first.filter fun r => l.takes r.logger r.level := by
  obtain ⟨records, emitted, rfl⟩ := warns
  rw [emitted.kept keeps, List.filter_append, List.filter_filter, List.filter_filter]
  simp only [Bool.and_comm]

end Logs.Warns

/-- Nothing is warned of from one state to the other. -/
def State.Hushes (s t : State) : Prop := s.logs.Warns [] t.logs

instance : State.Carried State.Hushes := ⟨fun s => .nothing s.logs, Logs.Warns.append⟩

/-- An action that warns of nothing. -/
structure Act.Hushed {α : Type} (x : Act α) : Prop where
  hushes : ∀ s : State, s.logs.Warns [] (x s).2.logs

/-- Making sure of a client is never warned of, not even when there are no credentials. -/
theorem Client.hushed_ensure : Hushed ensure := by
  have said (level : Level) (message : String) (calm : level ≠ .warning) :
      Carries State.Hushes (say logger level message) :=
    ⟨fun s => (Logs.Warns.nothing s.logs).record (beq_eq_false_iff_ne.mpr calm)⟩
  have ensured : Carries State.Hushes ensure :=
    carries_ensure (fun _ => ⟨fun s => .nothing s.logs⟩) said fun s _ _ => .nothing s.logs
  exact ⟨ensured.carries⟩

section Faults

variable {f : Fault}

/-- What is reported as an operator error is one in the end. -/
theorem Fault.diagnosed_of_reported (reported : f.isReported = true) (resource name : String) :
    ∃ e, ((Raised.of f).diagnosed resource name).fault = .operator e := by
  cases f with
  | response r => exact ⟨_, rfl⟩
  | transport kind text => exact ⟨_, rfl⟩
  | operator e => exact ⟨e, rfl⟩
  | _ => cases reported

theorem Fault.diagnosed_of_unreported (unreported : f.isReported = false)
    (resource name : String) : (Raised.of f).diagnosed resource name = .of f := by
  cases f with
  | response r | transport kind text | operator e => cases unreported
  | _ => rfl

theorem Fault.isReported_of_isNotFound (absent : f.isNotFound = true) : f.isReported = true := by
  cases f with
  | response r => rfl
  | _ => cases absent

end Faults

namespace Reconciler

variable (rc : Reconciler) {name cluster : String} {s : State} {body : Json} {r : Request}
  {f : Fault}

/-- What becomes of a failed look-up: what is known of the cluster, and what is warned of. -/
inductive Meets (rc : Reconciler) (name cluster : String) (f : Fault) :
    Except Raised Bool → List Record → Prop where
  | absent (absent : f.isNotFound = true) : Meets rc name cluster f (.ok false) []
  | warned {e : OperatorError} (reported : f.isReported = true) (present : f.isNotFound = false)
      (diagnosed : ((Raised.of f).diagnosed Coordinates.clusters.plural cluster).fault =
        .operator e) :
      Meets rc name cluster f (.ok false) [rc.troubleRecord name cluster e]
  | unreported (unreported : f.isReported = false) : Meets rc name cluster f (.error (.of f)) []

theorem isRegistered_of_failed (name : String) (equipped : s.isEquipped = true)
    (failed : (s.server.lookUp cluster).1 = .error f) :
    ∃ known warnings logs, Meets rc name cluster f known warnings ∧
      s.logs.Warns warnings logs ∧
      rc.isRegistered name cluster s = (known, { s.asked (.lookUp cluster) with logs }) := by
  have looked := Store.lookUp_apply (Client.ensure_of_equipped equipped) cluster
  rw [failed] at looked
  cases absent : f.isNotFound with
  | true =>
      refine ⟨_, _, s.logs, .absent absent, .nothing s.logs, ?_⟩
      unfold isRegistered
      rw [bind_ok (attempt_apply ..), looked]
      simp only [Store.lookUpResult, absent, if_true]
      rfl
  | false =>
      have present : Store.lookUpResult cluster (.error f) =
          .error ((Raised.of f).diagnosed Coordinates.clusters.plural cluster) := by
        simp [Store.lookUpResult, Store.failed, absent]
      rw [present] at looked
      cases reported : f.isReported with
      | true =>
          obtain ⟨e, diagnosed⟩ := Fault.diagnosed_of_reported reported
            Coordinates.clusters.plural cluster
          refine ⟨_, _, s.logs.emit (rc.troubleRecord name cluster e),
            .warned reported absent diagnosed, .one .., ?_⟩
          unfold isRegistered
          rw [bind_ok (attempt_apply ..), looked]
          simp only [diagnosed]
          rfl
      | false =>
          refine ⟨_, _, s.logs, .unreported reported, .nothing s.logs, ?_⟩
          unfold isRegistered
          rw [bind_ok (attempt_apply ..), looked, Fault.diagnosed_of_unreported reported]
          cases f with
          | response r | transport kind text | operator e => cases reported
          | _ => rfl

/-- A review whose look-up fails ends there. -/
theorem review_of_failed (considers : Considers name s body r)
    (failed : (s.server.lookUp r.clusterName).1 = .error f) :
    ∃ known warnings, Meets rc name r.clusterName f known warnings ∧
      s.logs.Warns warnings (rc.review name s).2.logs ∧
      (rc.review name s).2.outside = s.outside.askAll [.read name, .lookUp r.clusterName] ∧
      (rc.review name s).1 = known.map fun _ => .unregistered name r.clusterName := by
  obtain ⟨t, ensured, outside⟩ := Client.ensure_apply considers.ensured
  have quiet : s.logs.Warns [] t.logs := by
    have hushed := Client.hushed_ensure.hushes s
    rw [ensured] at hushed
    exact hushed
  have server : t.server = s.server := congrArg Outside.server outside
  obtain ⟨found, goesOn⟩ := considers.afterRead
  have read : readStep name s = (.ok (.candidate r), t.asked (.read name)) := by
    rw [readStep_apply name ensured, server, found]
    exact congrArg (fun review => (Except.ok review, t.asked (.read name))) goesOn
  have unchanged : (t.asked (.read name)).server = s.server := by
    change (t.server.read name).2 = s.server
    rw [server, Server.read_snd_of_ok considers.answer]
  have equipped : (t.asked (.read name)).isEquipped = true :=
    Client.equipped_of_ensure (t := t) ensured
  obtain ⟨known, warnings, logs, meets, warned, looked⟩ :=
    rc.isRegistered_of_failed name equipped (by rw [unchanged]; exact failed)
  have ended : rc.review name s =
      (known.map fun _ => .unregistered name r.clusterName,
        { (t.asked (.read name)).asked (.lookUp r.clusterName) with logs }) := by
    unfold review
    rw [bind_ok read]
    dsimp only
    unfold lookUpStep
    rw [bind_apply, bind_apply, looked]
    cases meets <;> rfl
  rw [ended]
  refine ⟨known, warnings, meets, quiet.append warned, ?_, rfl⟩
  change ((t.asked (.read name)).asked (.lookUp r.clusterName)).outside = _
  rw [State.outside_asked _ rfl, State.outside_asked _ rfl, outside]
  rfl

theorem warns_opened (name : String) (s : State) : s.logs.Warns [] (rc.opened name s).logs :=
  ⟨_, (Logs.Emits.nothing.correlated _).record _, rfl⟩

theorem Considers.opened (considers : Considers name s body r) :
    Considers name (rc.opened name s) body r := by
  have same : (Client.ensure (rc.opened name s)).1 = (Client.ensure s).1 :=
    Client.ensure_of_same rfl rfl
  exact ⟨same.trans considers.ensured, considers.answer, considers.understood, considers.live,
    considers.labelled⟩

/-- What a reconciliation leads to whose look-up fails. -/
structure Outlives (rc : Reconciler) (name : String) (s : State) (cluster : String) (f : Fault) :
    Prop where
  result : (rc.reconcile name s).1 =
    if f.isReported then .ok .clusterNotRegistered else .error ⟨.operator (unexpected f), [f]⟩
  outside : (rc.reconcile name s).2.outside = s.outside.askAll [.read name, .lookUp cluster]
  warnings : ∃ warnings, s.logs.Warns warnings (rc.reconcile name s).2.logs ∧
    if f.isReported && !f.isNotFound then
      ∃ e, ((Raised.of f).diagnosed Coordinates.clusters.plural cluster).fault = .operator e ∧
        warnings = [rc.troubleRecord name cluster e]
    else warnings = []

theorem reconcile_of_failed (considers : Considers name s body r)
    (failed : (s.server.lookUp r.clusterName).1 = .error f) (ordinary : f.isOrdinary = true) :
    rc.Outlives name s r.clusterName f := by
  have opened := considers.opened rc
  have outside := rc.outside_reconcile_opened name s
  have started := rc.warns_opened name s
  obtain ⟨known, warnings, meets, warned, asked, concluded⟩ := rc.review_of_failed opened failed
  rw [asked, rc.outside_opened] at outside
  have told := started.append warned
  cases reviewed : rc.review name (rc.opened name s) with
  | mk result t =>
      rw [reviewed] at concluded told
      change result = _ at concluded
      subst concluded
      cases meets with
      | absent absent =>
          have whole := reconcile_of_verdict reviewed
          refine ⟨?_, outside, [], ?_, ?_⟩
          · rw [whole, Fault.isReported_of_isNotFound absent]
            rfl
          · rw [whole]
            exact (told.record rfl).record rfl
          · simp [absent]
      | @warned e reported present diagnosed =>
          have whole := reconcile_of_verdict reviewed
          refine ⟨?_, outside, [rc.troubleRecord name r.clusterName e], ?_, ?_⟩
          · rw [whole, reported]
            rfl
          · rw [whole]
            exact (told.record rfl).record rfl
          · rw [reported, present]
            exact ⟨e, diagnosed, rfl⟩
      | unreported unreported =>
          have whole := reconcile_of_fault reviewed
          have surfaces : surfaced (.of f) = ⟨.operator (unexpected f), [f]⟩ := by
            cases f with
            | operator e => cases unreported
            | interrupt text => cases ordinary
            | _ => rfl
          refine ⟨?_, outside, [], ?_, ?_⟩
          · rw [whole, surfaces, unreported]
            rfl
          · rw [whole, surfaces]
            exact told.record rfl
          · simp [unreported]

/-- When the look-up fails for a request that has been read, nothing is written. The cluster counts
as unknown when the fault is one that is reported as an operator error, with one warning that names
the cluster unless it was not found. Every other fault but an interrupt is raised as an error that
is worth another attempt, without a warning. -/
theorem failed_lookUp_overlooked_iff_reported (rc : Reconciler) (name : String) (s : State)
    (body : Json) (r : Request) (f : Fault) (considers : Considers name s body r)
    (failed : (s.server.lookUp r.clusterName).1 = .error f) (ordinary : f.isOrdinary = true) :
    (rc.reconcile name s).1 = (if f.isReported then .ok .clusterNotRegistered
        else .error ⟨.operator (unexpected f), [f]⟩) ∧
      (rc.reconcile name s).2.outside.asked =
        s.outside.asked ++ [.read name, .lookUp r.clusterName] ∧
      (rc.reconcile name s).2.server.requests = s.server.race.requests ∧
      (rc.reconcile name s).2.server.clusters = s.server.clusters ∧
      ∃ warnings, s.logs.Warns warnings (rc.reconcile name s).2.logs ∧
        (s.logs.handlers = [Logs.keeper] →
          (rc.reconcile name s).2.logs.output.kept.filter Record.warns =
            s.logs.output.kept.filter Record.warns ++
              warnings.filter fun w => s.logs.takes w.logger w.level) ∧
        if f.isReported && !f.isNotFound then
          ∃ e, ((Raised.of f).diagnosed Coordinates.clusters.plural r.clusterName).fault =
              .operator e ∧ warnings = [rc.troubleRecord name r.clusterName e]
        else warnings = [] := by
  obtain ⟨result, outside, warnings, warns, only⟩ :=
    rc.reconcile_of_failed considers failed ordinary
  have spares := considers.spares
  rw [← outside] at spares
  exact ⟨result, spares.asked, spares.requests, spares.clusters, warnings, warns, warns.kept, only⟩

end Reconciler

open Reconciler

/-- A state in which looking a cluster up fails. -/
def unsure (f : Fault) : State :=
  State.steady { Server.holding (willing [] [] []) with lookUpFaults := [f] }

theorem considers_unsure (f : Fault) :
    ∃ r, r.clusterName = "c" ∧ Considers "a" (unsure f) (.obj (willing [] [] [])) r := by
  have shown : (Request.understood (.obj (willing [] [] []))).map
      (fun r => (r.isDeleting, r.clusterName)) = .ok (false, "c") := rfl
  obtain ⟨r, understood, same⟩ := Request.exists_of_map_understood shown
  obtain ⟨live, cluster⟩ : r.isDeleting = false ∧ r.clusterName = "c" := by simpa using same
  exact ⟨r, cluster, rfl, rfl, understood, live, by simp [cluster]⟩

/-- A look-up that is refused for now. -/
def overloaded : Fault := .response ⟨some 503, some "Service Unavailable"⟩

theorem failed_lookUp_overlooked_iff_reported_overloaded :
    (Reconciler.steady.reconcile "a" (unsure overloaded)).1 = .ok .clusterNotRegistered ∧
      ∃ e, (Reconciler.steady.reconcile "a" (unsure overloaded)).2.logs.output.kept.filter
        Record.warns = [Reconciler.steady.troubleRecord "a" "c" e] := by
  obtain ⟨r, cluster, considers⟩ := considers_unsure overloaded
  obtain ⟨result, -, -, -, warnings, -, kept, e, -, rfl⟩ := failed_lookUp_overlooked_iff_reported
    .steady "a" (unsure overloaded) _ r overloaded considers rfl rfl
  have taken : (unsure overloaded).logs.takes Reconciler.steady.logger .warning = true := rfl
  have own : ([Reconciler.steady.troubleRecord "a" "c" e].filter
      fun w => (unsure overloaded).logs.takes w.logger w.level) =
        [Reconciler.steady.troubleRecord "a" "c" e] := List.filter_cons_of_pos taken
  rw [cluster, own] at kept
  exact ⟨result, e, kept rfl⟩

/-- A look-up that takes too long. -/
def slow : Fault := .unexpected .timeout "timed out"

/-- A look-up that takes too long fails the reconciliation of a request that was read, with an error
that asks for another attempt. -/
theorem failed_lookUp_raised :
    (∃ body r, Considers "a" (unsure slow) body r ∧
      ((unsure slow).server.lookUp r.clusterName).1 = .error slow) ∧ slow.isOrdinary = true ∧
    (Reconciler.steady.reconcile "a" (unsure slow)).1 =
      .error ⟨.operator (unexpected slow), [slow]⟩ ∧ (unexpected slow).retryable = true ∧
    (Reconciler.steady.reconcile "a" (unsure slow)).2.logs.output.kept.filter Record.warns =
      [] := by
  obtain ⟨r, -, considers⟩ := considers_unsure slow
  have failed : ((unsure slow).server.lookUp r.clusterName).1 = .error slow := rfl
  obtain ⟨result, -, warnings, warns, rfl⟩ :=
    Reconciler.steady.reconcile_of_failed considers failed rfl
  exact ⟨⟨_, r, considers, failed⟩, rfl, result, rfl, warns.kept rfl⟩

end BootstrapApproval
