import BootstrapApproval.Fault
import BootstrapApproval.Json.Height
import BootstrapApproval.Request.Encode

/-! # Requests that can be written

A request can be written when no unknown member is too high: members of any level count from their
own value on.
-/

namespace BootstrapApproval

/-- The greatest height of an unknown member that is written. -/
def maxHeight : Nat := 255

def isFlat (t : Table Json) : Bool := t.all fun e => decide (e.2.height ≤ maxHeight)

def tooHigh : Fault := .unexpected .value "Maximum serialization depth exceeded"

namespace Condition

def isWritable (c : Condition) : Bool := isFlat c.extra

def written (c : Condition) : Except Fault Json :=
  if c.isWritable then .ok c.toJson else .error tooHigh

end Condition

namespace Request

def isWritable (r : Request) : Bool :=
  isFlat r.extra && isFlat r.metadata.extra && isFlat r.spec.extra && isFlat r.status.extra &&
    r.conditions.all Condition.isWritable

def written (r : Request) : Except Fault Json :=
  if r.isWritable then .ok r.body else .error tooHigh

theorem written_eq_ok {r : Request} {j : Json} (h : r.written = .ok j) : j = r.body := by
  unfold written at h
  split at h
  · exact (Except.ok.inj h).symm
  · simp at h

@[simp] theorem isWritable_addCondition (r : Request) (c : Condition) :
    (r.addCondition c).isWritable = (r.isWritable && c.isWritable) := by
  simp [isWritable, addCondition, conditions, Bool.and_assoc]

end Request

end BootstrapApproval
