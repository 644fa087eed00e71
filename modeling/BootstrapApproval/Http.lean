import BootstrapApproval.Health
import BootstrapApproval.Http.Target
import BootstrapApproval.MetricsServer

/-! # Answers over HTTP

The metrics server answers for metrics, for the full report of health, for readiness, and for being
there at all.
-/

namespace BootstrapApproval.Http

open Act

inductive Answer where
  | bare (status : Nat)
  | json (status : Nat) (body : Json)
  | lines (status : Nat) (body : List String)
  | text (status : Nat) (body : String)
  deriving Repr

def hint (f : Fault) : String := f.name ++ ". Check logs for details."

/-- Answer, or log a fault and answer for it; an interrupt is passed on. -/
def orElse (x : Act Answer) (said : String) (instead : Fault → Answer) : Act Answer := do
  match ← ordinary x with
  | .ok a => pure a
  | .error f => do
      say MetricsServer.logger .error (said ++ ": " ++ f.text)
      pure (instead f)

def metrics : Act Answer :=
  orElse
    (do
      Health.require .exposition
      pure (.lines 200 (← see (·.metrics.lines))))
    "Failed to generate metrics"
    fun f => .text 500 ("Error generating metrics: " ++ hint f)

/-- The status of an answer that reports on health: degraded is still well enough. -/
def statusOf (h : HealthStatus) : Nat := if h = .healthy ∨ h = .degraded then 200 else 503

def health : Act Answer :=
  orElse
    (do
      let checks ← Health.checkAll false
      let report ← Health.askReport checks
      pure (.json (statusOf (Health.overall checks)) report))
    "Health check failed"
    fun f =>
      .json 500 (.obj [("status", .str HealthStatus.unhealthy.text), ("error", .str (hint f))])

def ready : Act Answer :=
  orElse
    (do
      let (check, _) ← Health.checkApi false
      let ok := check.status = .healthy
      pure (.json (if ok then 200 else 503)
        (.obj [("status", .str (if ok then "ready" else "not_ready")),
               ("checks", .obj [(Health.apiName, .str check.status.text)])])))
    "Readiness check failed"
    fun f => .json 503 (.obj [("status", .str "not_ready"), ("error", .str (hint f))])

/-- Answer a request. A method is taken in any letter case. -/
def respond (method target : String) : Act Answer :=
  match Target.path target with
  | .error flaw => raise flaw.raised
  | .ok path =>
      if !MetricsServer.paths.contains path then pure (.bare 404)
      else if !MetricsServer.methods.contains (Letters.upper method) then pure (.bare 405)
      else if path = "/metrics" then metrics
      else if path = "/health" then health
      else if path = "/ready" then ready
      else pure (.text 200 "ok")

end BootstrapApproval.Http
