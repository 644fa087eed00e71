import BootstrapApproval.Act

/-! # Credentials

A client needs credentials. Those inside a cluster are tried first; only when there are none are the
local ones tried. When there are none either, the configuration is at fault.
-/

namespace BootstrapApproval.Client

open Act

def logger : String := "csr_approver.utils.kubernetes"

def missing (text : String) : OperatorError :=
  .configuration ("Unable to load Kubernetes configuration: " ++ text) false
    (some "Run in-cluster with a service account or set KUBECONFIG")

def loadLocal : Act Unit := do
  call .kubeconfig
  match ← see (·.around.kubeconfig) with
  | none => say logger .debug "Loaded kubeconfig from local environment"
  | some (.credentials text) => do
      say logger .error ("Failed to load Kubernetes configuration: " ++ text)
      raise (.because (.operator (missing text)) (.of (.credentials text)))
  | some f => raise (.of f)

def load : Act Unit := do
  call .inCluster
  match ← see (·.around.inCluster) with
  | none => say logger .debug "Loaded in-cluster Kubernetes configuration"
  | some (.credentials _) => loadLocal
  | some f => raise (.of f)

/-- Make sure that the reconciler has a client; once it has one, nothing is loaded again. -/
def ensure : Act Unit := do
  match ← see (·.reconciler) with
  | none => pure ()
  | some r =>
      if r.hasClient then pure ()
      else do
        load
        change fun s => { s with reconciler := some { r with hasClient := true } }

end BootstrapApproval.Client
