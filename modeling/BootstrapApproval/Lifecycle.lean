import BootstrapApproval.Health
import BootstrapApproval.MetricsServer
import BootstrapApproval.Reconciler
import BootstrapApproval.Tracing.Setup

/-! # The life of the operator

Start, stop, probes and the main run. A start fails only when there are no credentials, or when the
configuration cannot be applied; a metrics server that cannot be started is no reason to fail. A
stop always leaves the operator without a metrics server and without tracing, unless it is
interrupted.
-/

namespace BootstrapApproval.Lifecycle

open Act

def tell (level : Level) (message : String) : Act Unit := say Logs.root level message

def reconcilerLogger : String := "csr_approver.reconciler"

/-- The range that priorities are drawn from. -/
def priorityRange : Int × Int := (0, 32767)

def draw (range : Int × Int) : Act Int := step fun s =>
  (s.around.draw, { s with draws := s.draws ++ [range] })

/-- How the operator shares its work and where it keeps its notes. -/
structure Configuration where
  /-- The pause before a lost connection is opened again, in seconds. -/
  reconnectPause : Decimal
  peeringName : String
  priority : Int
  clusterWide : Bool
  workers : Int
  /-- The start of the annotations that keep progress and past configurations. -/
  annotations : String
  /-- The annotation with the configuration that was handled last. -/
  lastHandled : String
  deriving DecidableEq, Repr

def noWorkers : Fault := .unexpected .value "Can't set thread pool limit lower than 1."

def configure : Act Configuration := do
  let settings ← see (·.settings)
  let priority ← draw priorityRange
  if settings.maxWorkers < 1 then raise (.of noWorkers)
  else
    pure
      { reconnectPause := .one, peeringName := settings.operatorName, priority,
        clusterWide := true, workers := settings.maxWorkers,
        annotations := annotationStart, lastHandled := "last-handled-configuration" }

/-- Start the metrics server; a failure is logged and the operator goes on without it. -/
def startMetrics : Act Unit := do
  let settings ← see (·.settings)
  let (server, started) ← (MetricsServer.create settings.metricsHost settings.metricsPort).start
  match started with
  | .ok () => change fun s => { s with metricsServer := some server }
  | .error e =>
      if e.fault.isOrdinary then
        tell .error ("Failed to start metrics server: " ++ e.fault.text)
        tell .warning "Continuing without metrics server"
      else raise e

def newReconciler (settings : Settings) : Reconciler :=
  ⟨reconcilerLogger, settings.dryRun, .wall, true⟩

def start : Act Configuration := do
  let settings ← see (·.settings)
  tell .info "Starting CSR Approver..."
  let configuration ← configure
  tell .info ("Peering priority set to " ++ Digits.integer configuration.priority ++
    " for leader election")
  let _ ← Tracing.setUp (.ofSettings settings)
  if settings.dryRun then
    tell .info "Running in DRY-RUN mode - no CSRs will be approved"
  Client.load
  change fun s => { s with reconciler := some (newReconciler settings) }
  startMetrics
  pure configuration

/-- Stop the metrics server, if there is one; a failure is logged. -/
def stopMetrics : Act Unit := do
  match ← see (·.metricsServer) with
  | none => pure ()
  | some server => do
      let (_, stopped) ← server.stop
      match stopped with
      | .ok () => pure ()
      | .error e =>
          if e.fault.isOrdinary then
            tell .error ("Error stopping metrics server: " ++ e.fault.text)
          else raise e
      change fun s => { s with metricsServer := none }

def stop : Act Unit := do
  tell .info "Shutting down CSR Approver..."
  stopMetrics
  Tracing.shutDown

/-- The answer of a probe: a status, the name of the operator, and the text of a fault. -/
structure ProbeAnswer where
  status : String
  operator : String
  error : Option String
  deriving DecidableEq, Repr

def probe (x : Act String) (said instead : String) : Act ProbeAnswer := do
  let operator := (← see (·.settings)).operatorName
  match ← ordinary x with
  | .ok status => pure ⟨status, operator, none⟩
  | .error f => do
      tell .error (said ++ ": " ++ f.text)
      pure ⟨instead, operator, some f.text⟩

def healthProbe : Act ProbeAnswer :=
  probe (do pure (← Health.askOverall (← Health.checkAll false)).text) "Health check failed"
    HealthStatus.unhealthy.text

def readyProbe : Act ProbeAnswer :=
  probe
    (do
      let (check, _) ← Health.checkApi false
      pure (if check.status = .healthy then "ready" else "not_ready"))
    "Readiness check failed" "not_ready"

def loggingSetup (s : Settings) : Logs.Setup :=
  ⟨s.logLevel, s.jsonLogs, s.correlationIds, s.logHealthProbes⟩

def misnamed : Level.Misnamed → Fault
  | .layout =>
      .unexpected .value
        ("Unknown level: " ++ String.ofList (Display.quoted Level.Misnamed.layout.text))
  | .styles =>
      .unexpected .type
        ("Level not an integer or a valid string: " ++ Level.Misnamed.styles.text)

/-- Set logging up. A name that stands for no level is refused. -/
def setUpLogging (setup : Logs.Setup) : Act Unit := fun s =>
  match s.logs.setUp setup with
  | (.ok (), logs) => (.ok (), { s with logs })
  | (.error m, logs) => (.error (.of (misnamed m)), { s with logs })

structure Run where
  clusterWide : Bool
  livenessEndpoint : String
  deriving DecidableEq, Repr

def run (s : Settings) : Run :=
  ⟨true, "http://0.0.0.0:" ++ Digits.integer s.livenessPort ++ "/healthz"⟩

/-- Run the operator, given how its event loop ends. Gives the run, and the code the process exits
with when the loop did not end by itself. -/
def main (loop : Except Raised Unit) : Act (Run × Option Nat) := do
  let settings ← see (·.settings)
  setUpLogging (loggingSetup settings)
  let exit ← match loop with
    | .ok () => pure none
    | .error e =>
        if e.fault.isOrdinary then do
          tell .error ("Operator failed with error: " ++ e.fault.text)
          pure (some 1)
        else do
          tell .info "Received shutdown signal"
          pure (some 0)
  pure (run settings, exit)

end BootstrapApproval.Lifecycle
