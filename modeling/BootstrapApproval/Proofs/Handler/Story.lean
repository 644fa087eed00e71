import BootstrapApproval.Proofs.Handler.Reports

/-! # One story

How the handling of an event has ended can be seen in the span that it leaves behind, in the records
it has logged and in the counters. All of them tell the same.
-/

namespace BootstrapApproval

open Act

namespace Record

/-- What tells of one step is found among the records that tell of any step. -/
theorem filter_tellsOf (records : List Record) (operation : String) :
    records.filter (tellsOf operation) = (records.filter tells).filter (tellsOf operation) := by
  rw [List.filter_filter]
  apply List.filter_congr
  intro r _
  cases told : r.tellsOf operation with
  | false => rfl
  | true => rw [tells_of_tellsOf told, Bool.and_true]

/-- The records among some that tell of a step. -/
def about (operation : String) (records : List Record) : List Record :=
  records.filter (tellsOf operation)

end Record

/-- The outcome that a span names. -/
def Span.outcome? (span : Span) : Option Json := span.head.attributes.find? SpanHead.outcomeKey

namespace Handler

open Record (about)

section Stories

variable (span : Span) (records : List Record) (before after : Metrics)

/-- The story of a call that has returned. -/
structure Returned (o : Outcome) : Prop where
  status : span.status = .ok
  events : span.events = []
  tag : span.outcome? = some (.str o.code)
  decision : ∃ r, about "decision" records = [r] ∧
    r.fields.find? "outcome" = some (.str o.code)
  success : ∃ r, about "reconcile_success" records = [r] ∧
    r.fields.find? "outcome" = some (.str o.code)
  failure : about "reconcile_error" records = []
  decisions : after.decisions = before.decisions.add [o.code]
  errors : after.errors = before.errors
  endings : after.endings = before.endings.add [Ending.success.label]

/-- The story of a call that has raised a fault and was not interrupted: `later` says whether the
caller is told to try again. -/
structure Failed (f : Fault) (later : Bool) : Prop where
  advice : if later then ∃ text delay, f = .retryLater text delay else ∃ text, f = .giveUp text
  status : span.status = .error
  description : span.description = some (f.name ++ ": " ++ f.text)
  events : span.events = [⟨f.name, f.text⟩, ⟨f.name, f.text⟩]
  tag : span.outcome? = none
  decision : about "decision" records = []
  success : about "reconcile_success" records = []
  failure : ∃ r type, about "reconcile_error" records = [r] ∧
    r.fields.find? "error_type" = some (.str type) ∧
    r.fields.find? "retryable" = some (.bool later) ∧
    after.errors = before.errors.add [type, Metrics.retryLabel later]
  decisions : after.decisions = before.decisions
  approvals : after.approvals = before.approvals
  endings : after.endings = before.endings.add [Ending.error.label]

/-- The story of a call that was interrupted: of all steps, only the start has been told of. -/
structure Interrupted : Prop where
  status : span.status = .unset
  description : span.description = none
  events : span.events = []
  tag : span.outcome? = none
  start : ∃ r, records.filter Record.tells = [r] ∧ r.tellsOf "reconcile_start" = true
  counters : after = before.countEnding .unknown

/-- What is told of a call, by what it gave or raised. -/
inductive Story : Except Raised Unit → Prop where
  | returned (o : Outcome) (tells : Returned span records before after o) : Story (.ok ())
  | failed {e : Raised} (later : Bool) (ordinary : e.fault.isOrdinary = true)
      (tells : Failed span records before after e.fault later) : Story (.error e)
  | interrupted {e : Raised} (extraordinary : e.fault.isOrdinary = false)
      (tells : Interrupted span records before after) : Story (.error e)

end Stories

theorem outcome?_head (name : String) : (head name).attributes.find? SpanHead.outcomeKey = none :=
  rfl

variable (name : String) {records : List Record} (m : Metrics)

theorem returned_of_verdict {v : Verdict}
    (account : Account (.ok v) (records.filter Record.tells)) :
    Returned (((head name).judged (.ok v)).finish) records m
      ((m.judged (.ok v)).countEnding .success) v.outcome := by
  generalize told : records.filter Record.tells = told_ at account
  cases account with
  | @decided _ start decision success starts decides decided succeeds succeeded =>
      have only (operation : String) : about operation records =
          [start, decision, success].filter (Record.tellsOf operation) := by
        rw [about, Record.filter_tellsOf, told]
      obtain ⟨approvals, counted⟩ := m.countDecision_eq v.outcome.code v.cluster
      rw [Metrics.judged, counted]
      refine ⟨rfl, rfl, Table.find?_insert_self .., ⟨decision, ?_, decided⟩,
        ⟨success, ?_, succeeded⟩, ?_, rfl, rfl, rfl⟩
      · rw [only]
        simp [Record.tellsOf, starts, decides, succeeds]
      · rw [only]
        simp [Record.tellsOf, starts, decides, succeeds]
      · rw [only]
        simp [Record.tellsOf, starts, decides, succeeds]

theorem failed_of_operator {e : Raised} {oe : OperatorError}
    (fault : (Reconciler.surfaced e).fault = .operator oe)
    (account : Account (.error e) (records.filter Record.tells)) :
    Failed ((head name).failed oe.advice) records m
      (counted (.error (Reconciler.surfaced e) : Except Raised Outcome) m) oe.advice
      oe.retryable := by
  have ordinary : oe.advice.isOrdinary = true := by
    unfold OperatorError.advice
    split <;> rfl
  have closed : (head name).failed oe.advice =
      ⟨head name, .error, some (oe.advice.name ++ ": " ++ oe.advice.text),
        [⟨oe.advice.name, oe.advice.text⟩, ⟨oe.advice.name, oe.advice.text⟩]⟩ := if_pos ordinary
  have counts : counted (.error (Reconciler.surfaced e) : Except Raised Outcome) m =
      (m.countError oe.kind.name oe.retryable).countEnding .error := by
    simp [counted, ending, fault, Fault.isOrdinary, Fault.name, Fault.retryable]
  generalize told : records.filter Record.tells = told_ at account
  cases account with
  | interrupted starts extraordinary =>
      rw [fault] at extraordinary
      cases extraordinary
  | @failed _ start failure starts _ fails type retryable =>
      have only (operation : String) : about operation records =
          [start, failure].filter (Record.tellsOf operation) := by
        rw [about, Record.filter_tellsOf, told]
      have label := retryable oe.retryable (by rw [fault]; rfl)
      rw [fault] at type
      rw [closed, counts]
      refine ⟨?_, rfl, rfl, rfl, outcome?_head name, ?_, ?_,
        ⟨failure, oe.kind.name, ?_, type, label, rfl⟩, rfl, rfl, rfl⟩
      · unfold OperatorError.advice
        cases oe.retryable with
        | true => exact ⟨_, _, rfl⟩
        | false => exact ⟨_, rfl⟩
      · rw [only]
        simp [Record.tellsOf, starts, fails]
      · rw [only]
        simp [Record.tellsOf, starts, fails]
      · rw [only]
        simp [Record.tellsOf, starts, fails]

theorem interrupted_of_interrupt {e : Raised} {text : String}
    (fault : (Reconciler.surfaced e).fault = .interrupt text)
    (account : Account (.error e) (records.filter Record.tells)) :
    Interrupted ((head name).failed (.interrupt text)) records m
      (counted (.error (Reconciler.surfaced e) : Except Raised Outcome) m) := by
  generalize told : records.filter Record.tells = told_ at account
  cases account with
  | failed starts ordinary =>
      rw [fault] at ordinary
      cases ordinary
  | @interrupted _ start starts _ =>
      refine ⟨rfl, rfl, rfl, outcome?_head name, ⟨start, told, beq_iff_eq.mpr starts⟩, ?_⟩
      simp [counted, ending, fault, Fault.isOrdinary]

end Handler

end BootstrapApproval
