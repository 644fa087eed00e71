import BootstrapApproval.Request.Body
import BootstrapApproval.Request.Encode

/-! # Eligibility

A request may be approved when its label names a cluster, when it has been neither approved nor
denied, and when that cluster's bootstrap identity asks for it. Only the request itself is looked
at.
-/

namespace BootstrapApproval

def expectedUsername (cluster : String) : String :=
  identityStart ++ cluster ++ ":" ++ cluster ++ identityEnd

inductive Resolution where
  | approved
  | denied
  deriving DecidableEq, Repr

namespace Resolution

def text : Resolution → String
  | approved => "Approved"
  | denied => "Denied"

def ofText? (s : String) : Option Resolution :=
  if s = approved.text then some approved else if s = denied.text then some denied else none

end Resolution

namespace Condition

def resolution? (c : Condition) : Option Resolution := Resolution.ofText? c.type

def approval (now : Timestamp) : Condition :=
  { type := Resolution.approved.text, status := conditionHolds, reason := some approvalReason,
    message := some approvalMessage, lastUpdateTime := some now, lastTransitionTime := some now,
    extra := [] }

end Condition

namespace Request

/-- The cluster that the label names; empty without the label. -/
def clusterName (r : Request) : String := (r.labels.find? clusterNameLabel).getD ""

def resolution? (r : Request) : Option Resolution := r.conditions.findSome? Condition.resolution?

def isFrom (r : Request) (cluster : String) : Bool := r.username == some (expectedUsername cluster)

/-- Whether the request may be approved, as far as it alone can tell. -/
def isEligible (r : Request) : Bool :=
  r.clusterName != "" && r.resolution?.isNone && r.isFrom r.clusterName

def approve (r : Request) (now : Timestamp) : Request := r.addCondition (.approval now)

end Request

/-- Whether an event with this body is worth a look. A body that is no request is not. -/
def acceptsEvent (body : Json) : Bool :=
  match Request.understood body with
  | .ok r => r.isEligible
  | .error _ => false

theorem acceptsEvent_of_ok {body : Json} {r : Request} (h : Request.ofBody body = .ok r) :
    acceptsEvent body = r.isEligible := by
  simp [acceptsEvent, Request.understood_of_ok h]

end BootstrapApproval
