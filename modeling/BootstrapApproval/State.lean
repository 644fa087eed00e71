import BootstrapApproval.Logging.Logs
import BootstrapApproval.Metrics.Exposition
import BootstrapApproval.Server
import BootstrapApproval.Settings
import BootstrapApproval.Tracing.Span
import BootstrapApproval.Calendar.Timestamp

/-! # The state of the operator

Everything an action can look at or change: the server with the requests, what the surroundings
answer, the parts the operator has built so far, and what can be observed of it.
-/

namespace BootstrapApproval

inductive Call where
  | read (name : String)
  | lookUp (name : String)
  | replace (name : String) (body : Json)
  | definition (name : String)
  | inCluster
  | kubeconfig
  | exporter (endpoint : String) (insecure : Bool)
  | listen (host : String) (portNumber : Int)
  | stopListening
  deriving DecidableEq, Repr

inductive HealthPart where
  | apiCheck
  | registryCheck
  | allChecks
  | overall
  | report
  | exposition
  deriving DecidableEq, Repr

/-- The clock that gives an approval its time: that of the surroundings, or one that has been put
in. Such a clock stands still or raises a fault. -/
inductive TimeSource where
  | fixed (t : Timestamp)
  | raising (f : Fault)
  | wall
  deriving DecidableEq, Repr

/-- What the surroundings of the operator answer. -/
structure Surroundings where
  /-- How loading credentials inside a cluster fails, if it does. -/
  inCluster : Option Fault
  /-- How loading local credentials fails, if it does. -/
  kubeconfig : Option Fault
  version : Except Fault Json
  /-- How reading the definition of registered clusters fails, if it does. -/
  definition : Option Fault
  /-- The moment that the clock on the wall shows. That of the system shows universal time; one that
  stands in for it may keep another offset. -/
  wallClock : Timestamp
  broken : Option HealthPart
  /-- How opening and closing the metrics socket fail, if they do. -/
  listenFault : Option Fault
  stopFault : Option Fault
  draw : Int

structure Reconciler where
  logger : String
  dryRun : Bool
  clock : TimeSource
  hasClient : Bool
  deriving DecidableEq, Repr

def Reconciler.standardLogger : String := "CSRApprovalReconciler"

/-- A server for metrics and health: where it listens and what of it is up. -/
structure MetricsServer where
  host : String
  portNumber : Int
  running : Bool
  listening : Bool
  deriving DecidableEq, Repr

/-- What the operator itself has set up to export spans. -/
structure Tracing where
  initialized : Bool
  /-- The service named by the provider of tracers, when there is one. -/
  provider : Option String
  deriving DecidableEq, Repr

def Tracing.none : Tracing := ⟨false, Option.none⟩

def Tracing.enabled (t : Tracing) : Bool := t.initialized && t.provider.isSome

structure State where
  server : Server
  around : Surroundings
  settings : Settings
  reconciler : Option Reconciler
  metricsServer : Option MetricsServer
  tracing : Tracing
  logs : Logs
  metrics : Metrics
  /-- The span of the call that is being handled. -/
  span : Option SpanHead
  /-- The spans that a recording tracer has closed, whatever has been set up for their export. -/
  spans : List Span
  calls : List Call
  /-- Ranges of the draws made so far. -/
  draws : List (Int × Int)

def Surroundings.calm (wallClock : Timestamp) : Surroundings :=
  { inCluster := none, kubeconfig := none, version := .ok (.obj []), definition := none, wallClock,
    broken := none, listenFault := none, stopFault := none, draw := 0 }

def State.initial (settings : Settings) (around : Surroundings) (server : Server) : State :=
  { server, around, settings, reconciler := none, metricsServer := none, tracing := .none,
    logs := .initial, metrics := .zero, span := none, spans := [], calls := [], draws := [] }

end BootstrapApproval
