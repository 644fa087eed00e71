/-! # Outcomes

What a reconciliation that returns has found out about a request.
-/

namespace BootstrapApproval

inductive Outcome where
  | approved
  | dryRun
  | requestNotFound
  | deleting
  | missingClusterLabel
  | clusterNotRegistered
  | alreadyResolved
  | usernameMismatch
  deriving DecidableEq, Repr

namespace Outcome

/-- The code by which records, spans and counters name the outcome. -/
def code : Outcome → String
  | approved => "approved"
  | dryRun => "dry_run"
  | requestNotFound => "csr_not_found"
  | deleting => "deleting"
  | missingClusterLabel => "missing_cluster_label"
  | clusterNotRegistered => "cluster_not_registered"
  | alreadyResolved => "already_resolved"
  | usernameMismatch => "username_mismatch"

/-- Whether the caller is told to ask again. Every outcome is final: only a fault is worth another
attempt. -/
def requeue (_ : Outcome) : Bool := false

theorem code_injective {a b : Outcome} (h : a.code = b.code) : a = b := by
  cases a <;> cases b <;> simp_all [code]

end Outcome

end BootstrapApproval
