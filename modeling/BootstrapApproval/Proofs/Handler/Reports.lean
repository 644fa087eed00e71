import BootstrapApproval.Proofs.Discreet
import BootstrapApproval.Proofs.Reconciler.Conclusions

/-! # What a reconciliation reports

A reconciliation reports the end of its review in several places: in what it gives or raises, in the
counters, in the span that is open, and in its records. Handling an event adds the span itself and
puts an operator error into the words of the caller.
-/

namespace BootstrapApproval

open Act

/-- The counters when a review has ended: a verdict counts as a decision. -/
def Metrics.judged (m : Metrics) : Except Raised Verdict → Metrics
  | .ok v => m.countDecision v.outcome.code v.cluster
  | .error _ => m

/-- Counting a decision touches two tables, that of the decisions and that of the approvals. -/
theorem Metrics.countDecision_eq (m : Metrics) (outcome : String) (cluster : Option String) :
    ∃ approvals, m.countDecision outcome cluster =
      { m with decisions := m.decisions.add [outcome], approvals } := by
  unfold Metrics.countDecision
  cases cluster with
  | none => exact ⟨m.approvals, rfl⟩
  | some c =>
      dsimp only
      split
      · exact ⟨m.approvals.add [c], rfl⟩
      · exact ⟨m.approvals, rfl⟩

/-- The head of the open span when a review has ended: it names the outcome of a verdict. -/
def SpanHead.judged (h : SpanHead) : Except Raised Verdict → SpanHead
  | .ok v => h.setOutcome (.str v.outcome.code)
  | .error _ => h

/-- The span that is left behind when what it covers has given something or has raised a fault. -/
def SpanHead.closed {α : Type} (h : SpanHead) : Except Raised α → Span
  | .ok _ => h.finish
  | .error e => h.failed e.fault

/-- A traced action is done under a span, which is left behind as the action ends. -/
theorem Act.traced_apply {α : Type} {head : SpanHead} {body : Act α} {s t : State}
    {result : Except Raised α} (done : body { s with span := some head } = (result, t)) :
    traced head body s =
      (result,
        { t with span := none, spans := t.spans ++ [(t.span.getD head).closed result] }) := by
  unfold traced
  rw [bind_ok (change_apply ..), bind_ok (attempt_apply ..), done]
  cases result with
  | ok a => rfl
  | error e => rfl

/-- The records that tell of the steps of a reconciliation, by how its review has ended. -/
inductive Account : Except Raised Verdict → List Record → Prop where
  | decided {v : Verdict} {start decision success : Record}
      (starts : start.operation? = some (.str "reconcile_start"))
      (decides : decision.operation? = some (.str "decision"))
      (decided : decision.fields.find? "outcome" = some (.str v.outcome.code))
      (succeeds : success.operation? = some (.str "reconcile_success"))
      (succeeded : success.fields.find? "outcome" = some (.str v.outcome.code)) :
      Account (.ok v) [start, decision, success]
  | failed {e : Raised} {start failure : Record}
      (starts : start.operation? = some (.str "reconcile_start"))
      (ordinary : (Reconciler.surfaced e).fault.isOrdinary = true)
      (fails : failure.operation? = some (.str "reconcile_error"))
      (type : failure.fields.find? "error_type" =
        some (.str (Reconciler.surfaced e).fault.name))
      (retryable : ∀ b, (Reconciler.surfaced e).fault.retryable = some b →
        failure.fields.find? "retryable" = some (.bool b)) :
      Account (.error e) [start, failure]
  | interrupted {e : Raised} {start : Record}
      (starts : start.operation? = some (.str "reconcile_start"))
      (extraordinary : (Reconciler.surfaced e).fault.isOrdinary = false) :
      Account (.error e) [start]

/-- What the end of a review leads to, from the state before the reconciliation. -/
structure Reports (s : State) (result : Except Raised Verdict)
    (after : Except Raised Outcome × State) : Prop where
  given : after.1 = Reconciler.reported result
  metrics : after.2.metrics = counted (Reconciler.reported result) (s.metrics.judged result)
  span : after.2.span = s.span.map fun h => h.judged result
  spans : after.2.spans = s.spans
  settings : after.2.settings = s.settings
  memory : s.Equips after.2
  records : ∃ records, s.logs.Emits records after.2.logs ∧
    Account result (records.filter Record.tells)

namespace Reconciler

variable (rc : Reconciler) (name : String) (s : State)

/-- The state in which the review of a reconciliation starts. -/
def opened : State := (rc.log.start (.str requestType) (.str name) none s).2

theorem outside_opened : (rc.opened name s).outside = s.outside :=
  (OperatorLog.quiet_start ..).outside s

/-- The start is told of by one record, under a new correlation id. -/
theorem emits_opened : ∃ r, r.operation? = some (.str "reconcile_start") ∧
    s.logs.Emits [r] (rc.opened name s).logs :=
  ⟨_, rfl, (Logs.Emits.nothing.correlated _).record _⟩

def decisionRecord (v : Verdict) : Record :=
  ⟨rc.logger, v.level, v.message,
    OperatorLog.about (.str requestType) (.str name) "decision" ++
      [("outcome", .str v.outcome.code)] ++
      OperatorLog.unlessEmpty "cluster_name" (.ofText? v.cluster) ++
      OperatorLog.unlessEmpty "username" (.ofText? v.username), none⟩

def successRecord (o : Outcome) : Record :=
  ⟨rc.logger, .debug,
    "Reconciliation of " ++ (Json.str requestType).shown ++ " " ++ (Json.str name).shown ++
      " finished: " ++ (Json.str o.code).shown,
    OperatorLog.about (.str requestType) (.str name) "reconcile_success" ++
      [("outcome", .str o.code), ("duration", duration)], none⟩

def failureRecord (f : Fault) : Record :=
  rc.log.failureRecord (.str requestType) (.str name) f duration (OperatorLog.failureText f)

/-- The state after a verdict has been announced. -/
def announced (v : Verdict) (t : State) : State :=
  { t with
    logs := t.logs.emit (rc.decisionRecord name v)
    metrics := t.metrics.countDecision v.outcome.code v.cluster
    span := t.span.map fun h => h.setOutcome (.str v.outcome.code) }

/-- The state after a fault has been logged, if it is one that is logged. -/
def noted (f : Fault) (t : State) : State :=
  { t with logs := if f.isOrdinary then t.logs.emit (rc.failureRecord name f) else t.logs }

section Ends

variable {rc name s} {t : State}

theorem reconcile_of_verdict {v : Verdict}
    (reviewed : rc.review name (rc.opened name s) = (.ok v, t)) :
    rc.reconcile name s = (.ok v.outcome,
      { rc.announced name v t with
        logs := (rc.announced name v t).logs.emit (rc.successRecord name v.outcome)
        metrics := counted (.ok v.outcome : Except Raised Outcome)
          (rc.announced name v t).metrics }) := by
  have started : rc.log.start (.str requestType) (.str name) none s =
      (.ok _, rc.opened name s) := rfl
  have judged : (rc.review name >>= rc.announce name) (rc.opened name s) =
      (.ok v.outcome, rc.announced name v t) := bind_ok reviewed
  have decided : rc.decide name (rc.opened name s) = (.ok v.outcome, rc.announced name v t) := by
    unfold decide
    rw [bind_ok (attempt_apply ..), judged]
    rfl
  unfold reconcile tracked
  rw [bind_ok started, bind_apply, bind_ok (attempt_apply ..), decided]
  rfl

theorem reconcile_of_fault {e : Raised}
    (reviewed : rc.review name (rc.opened name s) = (.error e, t)) :
    rc.reconcile name s = (.error (surfaced e),
      { rc.noted name (surfaced e).fault t with
        metrics := counted (.error (surfaced e) : Except Raised Outcome) t.metrics }) := by
  have started : rc.log.start (.str requestType) (.str name) none s =
      (.ok _, rc.opened name s) := rfl
  have judged : (rc.review name >>= rc.announce name) (rc.opened name s) = (.error e, t) :=
    bind_error reviewed
  have decided : rc.decide name (rc.opened name s) =
      (.error (surfaced e), rc.noted name (surfaced e).fault t) := by
    unfold decide logFault noted
    rw [bind_ok (attempt_apply ..), judged]
    dsimp only
    cases (surfaced e).fault.isOrdinary <;> rfl
  unfold reconcile tracked
  rw [bind_ok started, bind_apply, bind_ok (attempt_apply ..), decided]
  rfl

end Ends

/-- What is raised is an operator error, unless it is an interrupt. -/
theorem surfaced_cases (e : Raised) :
    (∃ oe, (surfaced e).fault = .operator oe) ∨ ∃ text, (surfaced e).fault = .interrupt text := by
  unfold surfaced
  cases fault : e.fault with
  | operator oe => exact .inl ⟨oe, fault⟩
  | interrupt text => exact .inr ⟨text, fault⟩
  | _ => exact .inl ⟨_, rfl⟩

/-- The records of a review that has a start in front of it: only the start tells of a step. -/
theorem filter_started {start : Record} {remarks : List Record} (closing : List Record)
    (starts : start.operation? = some (.str "reconcile_start"))
    (plain : ∀ r ∈ remarks, r.operation? = none) (telling : ∀ r ∈ closing, r.tells = true) :
    (([start] ++ remarks) ++ closing).filter Record.tells = start :: closing := by
  have first : [start].filter Record.tells = [start] := by
    simp [Record.tells, starts]
  have silent : remarks.filter Record.tells = [] := by
    rw [List.filter_eq_nil_iff]
    intro r member
    simp [Record.tells, plain r member]
  rw [List.filter_append, List.filter_append, first, silent, List.filter_eq_self.mpr telling]
  rfl

/-- Every reconciliation reports the end of its review. -/
theorem reconcile_reports :
    Reports s (rc.review name (rc.opened name s)).1 (rc.reconcile name s) := by
  obtain ⟨start, starts, started⟩ := rc.emits_opened name s
  have murmurs := (rc.discreet_review name).murmurs (rc.opened name s)
  cases reviewed : rc.review name (rc.opened name s) with
  | mk result t =>
      rw [reviewed] at murmurs
      obtain ⟨settings, metrics, span, spans, memory, remarks, remarked, plain⟩ := murmurs
      have front := started.append remarked
      dsimp only at metrics span spans settings memory front
      cases result with
      | ok v =>
          rw [reconcile_of_verdict reviewed]
          have closing := filter_started
            [rc.decisionRecord name v, rc.successRecord name v.outcome] starts plain
            (by simp; exact ⟨rfl, rfl⟩)
          refine ⟨rfl, ?_, ?_, spans, settings, memory,
            ([start] ++ remarks) ++ [rc.decisionRecord name v, rc.successRecord name v.outcome],
            ?_, ?_⟩
          · exact congrArg (fun m => counted (.ok v.outcome : Except Raised Outcome)
              (m.countDecision v.outcome.code v.cluster)) metrics
          · exact congrArg (Option.map fun h => h.setOutcome (.str v.outcome.code)) span
          · have both := (front.record (rc.decisionRecord name v)).record
              (rc.successRecord name v.outcome)
            rw [List.append_assoc] at both
            exact both
          · rw [closing]
            exact .decided starts rfl rfl rfl rfl
      | error e =>
          rw [reconcile_of_fault reviewed]
          refine ⟨rfl, congrArg (counted (.error (surfaced e) : Except Raised Outcome)) metrics,
            span.trans Option.map_id'.symm, spans, settings, memory, ?_⟩
          unfold noted
          cases ordinary : (surfaced e).fault.isOrdinary with
          | true =>
              have closing := filter_started [rc.failureRecord name (surfaced e).fault] starts
                plain (by simp; rfl)
              refine ⟨_, front.record (rc.failureRecord name (surfaced e).fault), ?_⟩
              rw [closing]
              refine .failed starts ordinary rfl rfl fun b known => ?_
              unfold failureRecord OperatorLog.failureRecord
              rw [known]
              rfl
          | false =>
              have closing := filter_started [] starts plain (by simp)
              rw [List.append_nil] at closing
              refine ⟨_, front, ?_⟩
              rw [closing]
              exact .interrupted starts ordinary

/-- A reconciliation leaves outside what its review leaves there. -/
theorem outside_reconcile_opened :
    (rc.reconcile name s).2.outside = (rc.review name (rc.opened name s)).2.outside :=
  rc.outside_reconcile_started name s rfl

end Reconciler

namespace Handler

/-- What a reconciliation gives, in the words of the caller of the handler. -/
def advised : Except Raised Outcome → Except Raised Unit
  | .ok _ => .ok ()
  | .error e => .error (advise e)

/-- What is raised is advice to try again or to give up, unless it is an interrupt. -/
theorem advise_surfaced (e : Raised) :
    (∃ oe, (Reconciler.surfaced e).fault = .operator oe ∧
      (advise (Reconciler.surfaced e)).fault = oe.advice) ∨
    ∃ text, (Reconciler.surfaced e).fault = .interrupt text ∧
      (advise (Reconciler.surfaced e)).fault = .interrupt text := by
  unfold advise
  rcases Reconciler.surfaced_cases e with ⟨oe, fault⟩ | ⟨text, fault⟩
  · refine .inl ⟨oe, fault, ?_⟩
    rw [fault]
    rfl
  · refine .inr ⟨text, fault, ?_⟩
    rw [fault]
    exact fault

/-- The state with the reconciler that handles the next event. -/
def ready (s : State) : State := { s with reconciler := some (used s) }

def head (name : String) : SpanHead := .ofHandler spanName "INTERNAL" id name

/-- The state in which the reconciliation of an event starts: a span is open, and the call has been
told of. -/
structure Opens (name : String) (s t : State) : Prop where
  outside : t.outside = s.outside
  metrics : t.metrics = s.metrics
  span : t.span = some (head name)
  spans : t.spans = s.spans
  settings : t.settings = s.settings
  memory : t.reconciler = some (used s)
  entry : ∃ r, s.logs.Emits [r] t.logs ∧ r.operation? = none

/-- The record about a call to the handler. -/
def callRecord (level : Level) (event type name : Json) : Record :=
  ⟨OperatorLog.handlers.logger, level,
    "Handler invoked: " ++ event.shown ++ " " ++ type.shown ++ "/" ++ name.shown,
    [("handler_type", event), ("resource_type", type), ("resource_name", name),
      ("handler_phase", .str "invoked")], none⟩

theorem handlerCall_emits (level : Level) (event type name : Json) (s : State) :
    OperatorLog.handlerCall level event type name [] s =
      (.ok (), { s with logs := s.logs.emit (callRecord level event type name) }) := by
  unfold OperatorLog.handlerCall OperatorLog.checked
  split
  · rfl
  · rename_i refused
    have dropped : s.logs.emit (callRecord level event type name) = s.logs := if_neg refused
    rw [dropped]

/-- The record about the call that handles an event. -/
def entryRecord (name : String) (reason : Option String) : Record :=
  callRecord OperatorLog.handlerLevel (.str (reason.getD "event")) (.str requestType) (.str name)

/-- The state after the call has been told of, with the span open and the reconciler at hand. -/
def entered (name : String) (reason : Option String) (s : State) : State :=
  { s with
    span := some (head name)
    logs := s.logs.emit (entryRecord name reason)
    reconciler := some (used s) }

theorem opens_entered (name : String) (reason : Option String) (s : State) :
    Opens name s (entered name reason s) :=
  ⟨rfl, rfl, rfl, rfl, rfl, rfl, entryRecord name reason, .one .., rfl⟩

/-- A reconciliation after something has been logged about it, under a span. -/
theorem reconcile_traced {note : Act Unit} {name : String} {s : State} {logs : Logs}
    (noted : note { s with span := some (head name) } =
      (.ok (), { s with span := some (head name), logs })) :
    let t : State := { s with span := some (head name), logs, reconciler := some (used s) }
    traced (head name) (note >>= fun _ => reconcile name) s =
      (advised ((used s).reconcile name t).1,
        { ((used s).reconcile name t).2 with
          span := none
          spans := ((used s).reconcile name t).2.spans ++
            [(((used s).reconcile name t).2.span.getD (head name)).closed
              (advised ((used s).reconcile name t).1)] }) := by
  intro t
  have reconciled : (do (← reconciler).reconcile name)
      { s with span := some (head name), logs } = (used s).reconcile name t :=
    bind_ok (reconciler_apply _)
  have inner : reconcile name { s with span := some (head name), logs } =
      (advised ((used s).reconcile name t).1, ((used s).reconcile name t).2) := by
    unfold reconcile
    rw [bind_ok (attempt_apply ..), reconciled]
    cases ((used s).reconcile name t).1 <;> rfl
  exact traced_apply ((bind_ok noted).trans inner)

/-- Handling an event is a reconciliation after the call has been told of. -/
theorem handle_entered (name : String) (reason : Option String) (s : State) :
    handle name reason s =
      (advised ((used s).reconcile name (entered name reason s)).1,
        { ((used s).reconcile name (entered name reason s)).2 with
          span := none
          spans := ((used s).reconcile name (entered name reason s)).2.spans ++
            [(((used s).reconcile name (entered name reason s)).2.span.getD (head name)).closed
              (advised ((used s).reconcile name (entered name reason s)).1)] }) :=
  reconcile_traced (handlerCall_emits ..)

/-- The reconciler of the next event has reviewed a request, with this result, and has left this
outside. -/
structure Reviewed (name : String) (s : State) (result : Except Raised Verdict) (o : Outside) :
    Prop where
  review : ∃ t, t.outside = s.outside ∧ t.reconciler = some (used s) ∧
    ((used s).review name t).1 = result ∧ ((used s).review name t).2.outside = o

theorem Reviewed.concludes {name : String} {s : State} {result : Except Raised Verdict}
    {o : Outside} (reviewed : Reviewed name s result o) :
    (used s).Concludes name (ready s) result o := by
  obtain ⟨t, outside, known, rfl, rfl⟩ := reviewed.review
  exact ((used s).review_concludes name t).congr outside known

/-- What handling an event leads to, by how the review in it ends. -/
structure Handles (name : String) (s : State) (result : Except Raised Verdict)
    (after : Except Raised Unit × State) : Prop where
  given : after.1 = advised (Reconciler.reported result)
  reviewed : Reviewed name s result after.2.outside
  metrics : after.2.metrics = counted (Reconciler.reported result) (s.metrics.judged result)
  spans : after.2.spans = s.spans ++
    [((head name).judged result).closed (advised (Reconciler.reported result))]
  settings : after.2.settings = s.settings
  memory : (ready s).Equips after.2
  records : ∃ records, s.logs.Emits records after.2.logs ∧
    Account result (records.filter Record.tells)

/-- The state in which the review of an event starts. -/
def reviewing (name : String) (reason : Option String) (s : State) : State :=
  (used s).opened name (entered name reason s)

/-- Handling an event is a reconciliation of it, with a span around. -/
theorem handles_review (name : String) (reason : Option String) (s : State) :
    Handles name s ((used s).review name (reviewing name reason s)).1 (handle name reason s) := by
  let t := entered name reason s
  have opens : Opens name s t := opens_entered name reason s
  have whole := handle_entered name reason s
  obtain ⟨entry, noted, plain⟩ := opens.entry
  have reports := (used s).reconcile_reports name t
  have outside := (used s).outside_reconcile_opened name t
  obtain ⟨records, emitted, account⟩ := reports.records
  have memory : (ready s).Equips ((used s).reconcile name t).2 := by
    rcases reports.memory with same | ⟨rc, known, equipped⟩
    · exact .inl (same.trans opens.memory)
    · exact .inr ⟨rc, opens.memory.symm.trans known, equipped⟩
  rw [whole]
  refine ⟨?_, ?_, ?_, ?_, ?_, memory, ?_⟩
  · exact congrArg advised reports.given
  · exact ⟨(used s).opened name t, ((used s).outside_opened name t).trans opens.outside,
      opens.memory, rfl, outside.symm⟩
  · exact reports.metrics
  · have given : ((used s).reconcile name (entered name reason s)).1 = _ := reports.given
    have span : ((used s).reconcile name (entered name reason s)).2.span = _ := reports.span
    have spans : ((used s).reconcile name (entered name reason s)).2.spans = _ := reports.spans
    simp only [given, span, spans]
    rfl
  · exact reports.settings.trans opens.settings
  · refine ⟨[entry] ++ records, noted.append emitted, ?_⟩
    have silent : entry.tells = false := by simp [Record.tells, plain]
    rw [List.singleton_append, List.filter_cons_of_neg (by simp [silent])]
    exact account

theorem handles (name : String) (reason : Option String) (s : State) :
    ∃ result, Handles name s result (handle name reason s) :=
  ⟨_, handles_review name reason s⟩

end Handler

end BootstrapApproval
