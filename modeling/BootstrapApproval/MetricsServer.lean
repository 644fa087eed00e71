import BootstrapApproval.Act

/-! # The metrics server

The metrics server listens on one socket. A start that fails leaves it half up; a stop that fails
leaves it as it was.
-/

namespace BootstrapApproval.MetricsServer

open Act

def logger : String := "csr_approver.observability.metrics"

def create (host : String) (portNumber : Int) : MetricsServer :=
  ⟨host, portNumber, false, false⟩

def standard : MetricsServer := create "0.0.0.0" 8081

def paths : List String := ["/health", "/healthz", "/metrics", "/ready"]

def methods : List String := ["GET", "HEAD"]

def routes : List (String × String) := methods.flatMap fun m => paths.map fun p => (m, p)

def address (m : MetricsServer) : String :=
  "http://" ++ m.host ++ ":" ++ Digits.integer m.portNumber

def answer : Option Fault → Except Raised Unit
  | some f => .error (.of f)
  | none => .ok ()

/-- Start a server. Gives the server as it is then, and whether starting failed. -/
def start (m : MetricsServer) : Act (MetricsServer × Except Raised Unit) := do
  call (.listen m.host m.portNumber)
  let m := { m with running := true, listening := true }
  match answer (← see (·.around.listenFault)) with
  | .error e => pure (m, .error e)
  | .ok () => do
      say logger .info ("Metrics available at " ++ m.address ++ "/metrics")
      pure (m, .ok ())

/-- Stop a server. Gives the server as it is then, and whether stopping failed. -/
def stop (m : MetricsServer) : Act (MetricsServer × Except Raised Unit) := do
  let stopped ← if m.listening then do
      call .stopListening
      pure (answer (← see (·.around.stopFault)))
    else pure (.ok ())
  match stopped with
  | .error e => pure (m, .error e)
  | .ok () => do
      say logger .info "Metrics server stopped"
      pure ({ m with running := false, listening := false }, .ok ())

end BootstrapApproval.MetricsServer
