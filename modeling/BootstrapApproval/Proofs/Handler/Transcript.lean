import BootstrapApproval.Proofs.Reconciler.Lookups

/-! # The transcript of a call

Handling an event hands its records to logging in a fixed order. The call is told of first, still
under the correlation id that was in use before. Then a new correlation id comes into use, once, and
everything else follows under it: the start, the remarks of the review, and how it has ended.
-/

namespace BootstrapApproval

open Act

namespace Logs

/-- The logging after records have been handed to it in turn. -/
def emitAll (l : Logs) (records : List Record) : Logs := records.foldl emit l

theorem emitAll_append (l : Logs) (first second : List Record) :
    l.emitAll (first ++ second) = (l.emitAll first).emitAll second := List.foldl_append

/-- The logging with a new correlation id in use. -/
def renewed (l : Logs) : Logs :=
  let (id, c) := l.correlation.issue
  { l with correlation := c.use id }

theorem handlers_renewed (l : Logs) : l.renewed.handlers = l.handlers := rfl

end Logs

/-- Whether a handler lets a record through. -/
def Handler.passes (h : Handler) (r : Record) : Bool := !(h.hidesProbes && r.namesProbe)

/-- The output after a handler has got a record. -/
def Handler.put (h : Handler) (o : Output) (r : Record) : Output :=
  if h.passes r then o.add h.presentation r else o

/-- A handler that correlates makes sure of a correlation id and puts it on every record, also on
those that it refuses. -/
theorem Logs.handle_of_correlates {h : Handler} (correlates : h.correlates = true) (r : Record)
    (c : Correlation) (o : Output) :
    handle h r c o =
      (r.correlate c.ensure.1, c.ensure.2, h.put o (r.correlate c.ensure.1)) := by
  simp only [handle, correlates, if_true, Handler.put, Handler.passes]
  split <;> simp_all

/-- From one state to the other the logging has got some records of a kind. -/
def State.Hears (kind : Record → Prop) (s t : State) : Prop :=
  ∃ records, t.logs = s.logs.emitAll records ∧ ∀ r ∈ records, kind r

/-- An action whose only trace in the logging is a list of records of a kind. -/
structure Act.Utters {α : Type} (kind : Record → Prop) (x : Act α) : Prop where
  utters : ∀ s : State, ∃ records, (x s).2.logs = s.logs.emitAll records ∧ ∀ r ∈ records, kind r

namespace State.Hears

variable {kind : Record → Prop} {s t u : State}

/-- Where the logging is left alone nothing is heard. -/
theorem silence (same : t.logs = s.logs) : s.Hears kind t :=
  ⟨[], same, fun _ member => nomatch member⟩

theorem record {r : Record} (fits : kind r) (s : State) :
    s.Hears kind { s with logs := s.logs.emit r } :=
  ⟨[r], rfl, fun _ member => List.mem_singleton.mp member ▸ fits⟩

theorem trans (first : s.Hears kind t) (second : t.Hears kind u) : s.Hears kind u := by
  obtain ⟨before, logged, fits⟩ := first
  obtain ⟨after, logged', fits'⟩ := second
  refine ⟨before ++ after, ?_, ?_⟩
  · rw [Logs.emitAll_append, ← logged]
    exact logged'
  · intro r member
    rcases List.mem_append.mp member with earlier | later
    · exact fits r earlier
    · exact fits' r later

instance : State.Carried (Hears kind) := ⟨fun _ => silence rfl, trans⟩

end State.Hears

namespace Reconciler

variable (rc : Reconciler) (name : String) (s : State)

/-- What a review may remark on: the credentials, and trouble in looking the cluster up. -/
inductive Remarks (r : Record) : Prop where
  | credentials (own : r.logger = Client.logger) : Remarks r
  | trouble {cluster : String} {e : OperatorError} (warns : r = rc.troubleRecord name cluster e) :
      Remarks r

theorem carried_hears : rc.Carried (State.Hears (rc.Remarks name)) name where
  ensured := Client.carries_ensure (fun _ => ⟨fun _ => .silence rfl⟩)
    (fun _ _ _ => ⟨State.Hears.record (.credentials rfl)⟩) fun _ _ _ => .silence rfl
  asked _ _ _ _ := .silence rfl
  warned _ _ := State.Hears.record (.trouble rfl)

/-- A review only remarks, and it stays under the correlation id that it finds. -/
theorem utters_review : Utters (rc.Remarks name) (rc.review name) :=
  ⟨(rc.carried_hears name).review.carries⟩

def startRecord : Record :=
  ⟨rc.logger, .info,
    "Reconciling " ++ (Json.str requestType).shown ++ " " ++ (Json.str name).shown,
    OperatorLog.about (.str requestType) (.str name) "reconcile_start", none⟩

/-- The records about the end of a review: two about a verdict, one about a fault, and none about an
interrupt. -/
def closing : Except Raised Verdict → List Record
  | .ok v => [rc.decisionRecord name v, rc.successRecord name v.outcome]
  | .error e =>
      if (surfaced e).fault.isOrdinary then [rc.failureRecord name (surfaced e).fault] else []

/-- The records of a reconciliation whose review has ended like this. -/
def told (remarks : List Record) (result : Except Raised Verdict) : List Record :=
  rc.startRecord name :: (remarks ++ rc.closing name result)

theorem logs_opened :
    (rc.opened name s).logs = s.logs.renewed.emit (rc.startRecord name) := rfl

/-- A reconciliation takes a new correlation id into use and tells everything under it. -/
theorem logs_reconcile : ∃ remarks, (∀ r ∈ remarks, rc.Remarks name r) ∧
    (rc.reconcile name s).2.logs =
      s.logs.renewed.emitAll (rc.told name remarks (rc.review name (rc.opened name s)).1) := by
  obtain ⟨remarks, remarked, own⟩ := (rc.utters_review name).utters (rc.opened name s)
  refine ⟨remarks, own, ?_⟩
  rw [told, Logs.emitAll, List.foldl_cons, ← Logs.emitAll, Logs.emitAll_append, ← rc.logs_opened,
    ← remarked]
  cases reviewed : rc.review name (rc.opened name s) with
  | mk result t =>
      cases result with
      | ok v =>
          rw [reconcile_of_verdict reviewed]
          rfl
      | error e =>
          rw [reconcile_of_fault reviewed]
          simp only [noted, closing]
          cases (surfaced e).fault.isOrdinary <;> rfl

end Reconciler

namespace Handler

/-- What a call leaves in the logging after the record about the call itself. -/
structure Tells (name : String) (reason : Option String) (s : State) (records : List Record) :
    Prop where
  told : ∃ remarks result, records = (used s).told name remarks result ∧
    (∀ r ∈ remarks, (used s).Remarks name r) ∧
    (handle name reason s).1 = advised (Reconciler.reported result) ∧
    ∃ o, Reviewed name s result o
  logged : (handle name reason s).2.logs =
    (s.logs.emit (entryRecord name reason)).renewed.emitAll records

/-- The record about the call comes first, under the correlation id that was in use before; all
other records come under the new one. -/
theorem tells (name : String) (reason : Option String) (s : State) :
    ∃ records, Tells name reason s records := by
  have opens := opens_entered name reason s
  obtain ⟨remarks, own, logged⟩ := (used s).logs_reconcile name (entered name reason s)
  have reports := (used s).reconcile_reports name (entered name reason s)
  have reviewed : Reviewed name s _ _ := ⟨(used s).opened name (entered name reason s),
    ((used s).outside_opened name _).trans opens.outside, opens.memory, rfl, rfl⟩
  refine ⟨_, ⟨remarks, _, rfl, own, ?_, _, reviewed⟩, ?_⟩
  · rw [handle_entered, reports.given]
  · rw [handle_entered]
    exact logged

end Handler

end BootstrapApproval
