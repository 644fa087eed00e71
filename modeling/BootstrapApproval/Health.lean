import BootstrapApproval.Client
import BootstrapApproval.Table

/-! # Health

Two checks tell whether the operator can do its work: whether the server answers, and whether
clusters can be registered on it. Without the definition of registered clusters nothing will be
approved, but nothing is broken either.
-/

namespace BootstrapApproval

inductive HealthStatus where
  | healthy
  | degraded
  | unhealthy
  | unknown
  /-- Any other word; it counts as no complaint. -/
  | other (word : String)
  deriving DecidableEq, Repr

namespace HealthStatus

def text : HealthStatus → String
  | healthy => "healthy"
  | degraded => "degraded"
  | unhealthy => "unhealthy"
  | unknown => "unknown"
  | other word => word

def ofText (word : String) : HealthStatus :=
  ([healthy, degraded, unhealthy, unknown].find? fun s => s.text == word).getD (other word)

end HealthStatus

structure HealthCheck where
  name : String
  status : HealthStatus
  message : String
  details : Option Json
  deriving DecidableEq, Repr

namespace Health

open Act

def apiName : String := "kubernetes_api"

def registryName : String := "registry_crd"

def outOfOrder : Raised := .of (.unexpected .runtime "boom")

def require (part : HealthPart) : Act Unit := do
  if (← see (·.around.broken)) = some part then raise outOfOrder else pure ()

/-- Make sure there is a client; `ready` tells whether there was one before. -/
def client (ready : Bool) : Act Unit := if ready then pure () else Client.load

def apiCheck : Except Fault Json → HealthCheck
  | .ok version =>
      ⟨apiName, .healthy, "Kubernetes API is accessible",
        some (.obj
          [("git_version", (version.get? "git_version").getD (.str HealthStatus.unknown.text))])⟩
  | .error (.response r) =>
      ⟨apiName, .unhealthy, "Kubernetes API error: " ++ shownText r.reason,
        some (.obj [("status_code", match r.status with | some n => .int n | none => .null)])⟩
  | .error f => ⟨apiName, .unhealthy, "Failed to connect to Kubernetes API: " ++ f.text, none⟩

def definition : String := Coordinates.clusters.definitionName

def registryCheck : Except Fault Unit → HealthCheck
  | .ok () => ⟨registryName, .healthy, "CRD " ++ definition ++ " is installed", none⟩
  | .error (.response r) =>
      if r.status = some 404 then
        ⟨registryName, .degraded, "CRD " ++ definition ++ " is not installed", none⟩
      else
        ⟨registryName, .unhealthy,
          "Failed to read CRD " ++ definition ++ ": " ++ shownText r.reason, none⟩
  | .error f =>
      ⟨registryName, .unhealthy, "Failed to check CRD " ++ definition ++ ": " ++ f.text, none⟩

def answered (f : Option Fault) : Act Unit :=
  match f with
  | some f => raise (.of f)
  | none => pure ()

/-- Check the server. Gives the result and whether there is a client now. -/
def checkApi (ready : Bool) : Act (HealthCheck × Bool) := do
  require .apiCheck
  match ← ordinary (client ready) with
  | .error f => pure (apiCheck (.error f), false)
  | .ok () =>
      let answer ← ordinary do give ((← see (·.around.version)).mapError Raised.of)
      pure (apiCheck answer, true)

/-- Check the register. Gives the result and whether there is a client now. -/
def checkRegistry (ready : Bool) : Act (HealthCheck × Bool) := do
  require .registryCheck
  match ← ordinary (client ready) with
  | .error f => pure (registryCheck (.error f), false)
  | .ok () =>
      let answer ← ordinary do
        call (.definition definition)
        answered (← see (·.around.definition))
      pure (registryCheck answer, true)

def guarded (name : String) (ready : Bool) (check : Bool → Act (HealthCheck × Bool)) :
    Act (HealthCheck × Bool) := do
  match ← ordinary (check ready) with
  | .ok r => pure r
  | .error f => pure (⟨name, .unhealthy, "Health check failed: " ++ f.text, none⟩, ready)

def checkAll (ready : Bool) : Act (Table HealthCheck) := do
  require .allChecks
  let (api, ready) ← guarded apiName ready checkApi
  let (registry, _) ← guarded registryName ready checkRegistry
  pure [(apiName, api), (registryName, registry)]

/-- The health that follows from the checks: the worst of them; nothing is known without any. -/
def overall (checks : Table HealthCheck) : HealthStatus :=
  let statuses := checks.map fun e => e.2.status
  if statuses.isEmpty then .unknown
  else if .unhealthy ∈ statuses then .unhealthy
  else if .degraded ∈ statuses ∨ .unknown ∈ statuses then .degraded
  else .healthy

def checkJson (c : HealthCheck) : Json :=
  .obj [("status", .str c.status.text), ("message", .str c.message),
        ("details", c.details.getD .null)]

def report (checks : Table HealthCheck) : Json :=
  .obj [("status", .str (overall checks).text),
        ("checks", .obj (checks.map fun e => (e.1, checkJson e.2)))]

def askOverall (checks : Table HealthCheck) : Act HealthStatus := do
  require .overall
  pure (overall checks)

def askReport (checks : Table HealthCheck) : Act Json := do
  require .report
  require .overall
  pure (report checks)

end Health

end BootstrapApproval
