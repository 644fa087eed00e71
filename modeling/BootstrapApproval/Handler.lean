import BootstrapApproval.Reconciler

/-! # Handling events

An event about a request leads to a reconciliation when the request in the event is eligible. The
reconciler is made on first use. An operator error is passed on to the caller as advice to try
again or to give up.
-/

namespace BootstrapApproval

def Reconciler.onDemand (settings : Settings) : Reconciler :=
  ⟨standardLogger, settings.dryRun, .wall, false⟩

namespace Handler

open Act

def id : String := "approve_csr"

def spanName : String := "reconcile_csr"

structure Registration where
  /-- Why the event is sent; events about requests found at a start have no reason. -/
  reason : Option String
  resource : Coordinates
  filtered : Bool
  deriving DecidableEq, Repr

def registrations : List Registration :=
  [⟨none, .requests, true⟩, ⟨some "create", .requests, true⟩, ⟨some "update", .requests, true⟩]

/-- The reason by which events about requests found at a start are called. -/
def resume : String := "resume"

def Registration.takes (r : Registration) (reason : String) : Bool :=
  r.reason.getD resume == reason

def reconciler : Act Reconciler := do
  match ← see (·.reconciler) with
  | some r => pure r
  | none => do
      let r := Reconciler.onDemand (← see (·.settings))
      change fun s => { s with reconciler := some r }
      pure r

def advise (e : Raised) : Raised :=
  match e.fault with
  | .operator oe => .because oe.advice e
  | _ => e

def reconcile (name : String) : Act Unit := do
  match ← attempt (do (← reconciler).reconcile name) with
  | .ok _ => pure ()
  | .error e => raise (advise e)

def handle (name : String) (reason : Option String) : Act Unit :=
  traced (.ofHandler spanName "INTERNAL" id name) do
    OperatorLog.handlerCall OperatorLog.handlerLevel (.str (reason.getD "event"))
      (.str requestType) (.str name) []
    reconcile name

/-- Handle an event where the level of the record about the call is configured by its name. Whether
the name stands for a level is found out in the call, before the request is reconciled. -/
def handleAt (levelName name : String) (reason : Option String) : Act Unit :=
  traced (.ofHandler spanName "INTERNAL" id name) do
    let level ← OperatorLog.namedLevel levelName
    OperatorLog.handlerCall level (.str (reason.getD "event")) (.str requestType) (.str name) []
    reconcile name

/-- Run every handler that takes an event; gives the handlers that ran. -/
def dispatch (reason : String) (body : Json) : Act (List String) :=
  (registrations.filter fun r => r.takes reason && (!r.filtered || acceptsEvent body)).mapM
    fun _ => do
      handle (Server.nameOf body) (some reason)
      pure id

end Handler

end BootstrapApproval
