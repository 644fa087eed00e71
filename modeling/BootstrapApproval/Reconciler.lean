import BootstrapApproval.Eligibility
import BootstrapApproval.Logging.OperatorLog
import BootstrapApproval.Metrics.Tracked
import BootstrapApproval.Outcome
import BootstrapApproval.Store
import BootstrapApproval.Tracing.Traced

/-! # Reconciliation

A request is read again, its cluster is looked up, and only then is it judged and, when nothing
speaks against it, approved with at most one write. What is decided from each answer is a pure
function of that answer; the calls are joined by three steps: read, look up, commit.
-/

namespace BootstrapApproval

structure Verdict where
  outcome : Outcome
  message : String
  level : Level
  cluster : Option String
  username : Option String
  deriving DecidableEq, Repr

/-- Where a review stands: decided, or still with a request to look at. -/
inductive Review where
  | decided (v : Verdict)
  | candidate (r : Request)
  deriving DecidableEq, Repr

namespace Verdict

def notFound : Verdict := ⟨.requestNotFound, "CSR no longer exists", .debug, none, none⟩

def deleting : Verdict := ⟨.deleting, "CSR is being deleted", .debug, none, none⟩

def unlabelled : Verdict :=
  ⟨.missingClusterLabel, "CSR has no cluster-name label", .debug, none, none⟩

def unregistered (name cluster : String) : Verdict :=
  ⟨.clusterNotRegistered,
    "Cluster " ++ cluster ++ " is not registered, not approving CSR " ++ name,
    .info, some cluster, none⟩

def resolved (name cluster : String) (r : Resolution) : Verdict :=
  ⟨.alreadyResolved, "CSR " ++ name ++ " is already " ++ r.text, .debug, some cluster, none⟩

def mismatch (name cluster : String) (username : Option String) : Verdict :=
  ⟨.usernameMismatch,
    "CSR " ++ name ++ " was not requested by " ++ expectedUsername cluster,
    .debug, some cluster, username⟩

def dryRun (name cluster : String) : Verdict :=
  ⟨.dryRun, "DRY-RUN: would approve CSR " ++ name ++ " for cluster " ++ cluster, .info,
    some cluster, none⟩

def approved (name cluster : String) : Verdict :=
  ⟨.approved, "Approved CSR " ++ name ++ " for cluster " ++ cluster, .info, some cluster, none⟩

end Verdict

namespace Review

/-- What follows from the answer to the read. -/
def afterRead : Option Request → Review
  | none => .decided .notFound
  | some r =>
      if r.isDeleting then .decided .deleting
      else if r.clusterName = "" then .decided .unlabelled
      else .candidate r

/-- What follows from the answer to the look-up of the cluster. -/
def afterLookUp (name : String) (dryRun : Bool) (r : Request) (registered : Bool) : Review :=
  let cluster := r.clusterName
  if !registered then .decided (.unregistered name cluster)
  else
    match r.resolution? with
    | some d => .decided (.resolved name cluster d)
    | none =>
        if !r.isFrom cluster then .decided (.mismatch name cluster r.username)
        else if dryRun then .decided (.dryRun name cluster)
        else .candidate r

end Review

namespace Reconciler

open Act

def log (r : Reconciler) : OperatorLog := ⟨r.logger⟩

/-- The fault of a clock with an offset, for a moment that has no place in the calendar of universal
time. The system clock does not raise it. -/
def outOfCalendar : Fault := .unexpected .overflow "date value out of range"

/-- The time that the clock gives when the one on the wall shows the given moment. -/
def time (r : Reconciler) (wallClock : Timestamp) : Except Raised Timestamp :=
  match r.clock with
  | .fixed t => .ok t
  | .raising f => .error (.of f)
  | .wall =>
      match wallClock.inUniversal? with
      | some t => .ok t.wholeSecond
      | none => .error (.of outOfCalendar)

def now (r : Reconciler) : Act Timestamp := do
  give (r.time (← see (·.around.wallClock)))

theorem now_apply (r : Reconciler) (s : State) : r.now s = (r.time s.around.wallClock, s) := by
  unfold now
  rw [bind_ok (see_apply ..)]
  cases r.time s.around.wallClock <;> rfl

def readStep (name : String) : Act Review := do
  let found ← Store.read name
  pure (.afterRead found)

/-- Whether a cluster is registered. Trouble in looking it up is logged and counts as no. -/
def isRegistered (r : Reconciler) (name cluster : String) : Act Bool := do
  match ← attempt (Store.lookUp cluster) with
  | .ok entry => pure entry.isSome
  | .error e =>
      match e.fault with
      | .operator oe => do
          Act.log r.logger .warning
            ("Failed to read ManagedCluster " ++ cluster ++ ": " ++ oe.message)
            [("resource_name", .str name), ("cluster_name", .str cluster),
             ("error_type", .str oe.kind.name)]
          pure false
      | _ => raise e

def lookUpStep (r : Reconciler) (name : String) (request : Request) : Act Review := do
  let registered ← r.isRegistered name request.clusterName
  pure (.afterLookUp name r.dryRun request registered)

def commitStep (r : Reconciler) (name : String) (request : Request) : Act Verdict := do
  let now ← r.now
  let _ ← Store.submit (request.approve now)
  pure (.approved name request.clusterName)

/-- The three steps, each only when the one before has not decided. -/
def review (r : Reconciler) (name : String) : Act Verdict := do
  match ← readStep name with
  | .decided v => pure v
  | .candidate request =>
      match ← r.lookUpStep name request with
      | .decided v => pure v
      | .candidate request => r.commitStep name request

def announce (r : Reconciler) (name : String) (v : Verdict) : Act Outcome := do
  r.log.decision (.str name) (.str v.outcome.code) v.message v.level (.ofText? v.cluster)
    (.ofText? v.username)
  measure fun m => m.countDecision v.outcome.code v.cluster
  noteOutcome (.str v.outcome.code)
  pure v.outcome

def duration : Json := .decimal .zero

def unexpected (f : Fault) : OperatorError :=
  .temporary ("Unexpected error during reconciliation: " ++ f.text) retryDelay none

/-- A fault as it leaves a reconciliation: an operator error, or an interrupt. -/
def surfaced (e : Raised) : Raised :=
  match e.fault with
  | .operator _ => e
  | .interrupt _ => e
  | f => .because (.operator (unexpected f)) e

/-- Log a fault that leaves a reconciliation; an interrupt is not logged. -/
def logFault (r : Reconciler) (name : String) (f : Fault) : Act Unit :=
  if f.isOrdinary then
    r.log.failure (.str requestType) (.str name) f duration (OperatorLog.failureText f)
  else pure ()

/-- Review a request and announce the verdict, or log what went wrong. -/
def decide (r : Reconciler) (name : String) : Act Outcome := do
  match ← attempt (do r.announce name (← r.review name)) with
  | .ok outcome => pure outcome
  | .error e => do
      let e := surfaced e
      r.logFault name e.fault
      raise e

def reconcile (r : Reconciler) (name : String) : Act Outcome := do
  let _ ← r.log.start (.str requestType) (.str name) none
  let outcome ← tracked (r.decide name)
  r.log.success (.str requestType) (.str name) (.str outcome.code) duration
  pure outcome

end Reconciler

end BootstrapApproval
