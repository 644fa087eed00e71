/-! # Names on the server

The names by which requests, registered clusters and their labels are known to the server, and the
texts an approval carries.
-/

namespace BootstrapApproval

/-- A kind of resource: its group, its version and its plural name. -/
structure Coordinates where
  group : String
  version : String
  plural : String
  deriving DecidableEq, Repr

namespace Coordinates

def requests : Coordinates := ⟨"certificates.k8s.io", "v1", "certificatesigningrequests"⟩

def clusters : Coordinates := ⟨"cluster.open-cluster-management.io", "v1", "managedclusters"⟩

def groupVersion (c : Coordinates) : String := c.group ++ "/" ++ c.version

def definitionName (c : Coordinates) : String := c.plural ++ "." ++ c.group

end Coordinates

def requestKind : String := "CertificateSigningRequest"

def requestType : String := "certificatesigningrequest"

/-- The label whose value names the cluster that asks. -/
def clusterNameLabel : String := "open-cluster-management.io/cluster-name"

/-- The start of the annotations that keep the progress of handlers. -/
def annotationStart : String := "csr-approver.open-cluster-management.io"

def identityStart : String := "system:serviceaccount:"

def identityEnd : String := "-bootstrap-sa"

def approvalReason : String := "AutoApprovedByCSRController"

def approvalMessage : String :=
  "The managedcluster-import-controller auto approval automatically approved this CSR"

def conditionHolds : String := "True"

def retryDelay : Int := 10

def conflictDelay : Int := 1

end BootstrapApproval
