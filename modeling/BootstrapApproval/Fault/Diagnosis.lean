import BootstrapApproval.Fault

/-! # Failures of the server as operator errors

A conflict is always tried again. Any other refusal is tried again when it has no status, when the
server itself failed or when it asks for fewer calls, unless its reason is final. A call that never
got an answer is tried again.
-/

namespace BootstrapApproval

def callText (resource name : String) : String := "Request for " ++ resource ++ " '" ++ name ++ "'"

namespace Response

def isPassing (r : Response) : Bool :=
  match r.status with
  | none => true
  | some n => decide (500 ≤ n) || n == 429

def operatorError (r : Response) (resource name : String) : OperatorError :=
  let cause := some (Fault.response r).name
  if r.status = some 409 then .conflict resource name cause
  else
    let status := match r.status with | some n => Digits.integer n | none => "None"
    .kubernetes (callText resource name ++ " failed with status " ++ status) r.reason r.isPassing
      cause

end Response

namespace Fault

/-- The operator error a failed call on a resource stands for, when it has one: refusals and missing
answers do. -/
def operatorError? (f : Fault) (resource name : String) : Option OperatorError :=
  match f with
  | response r => some (r.operatorError resource name)
  | transport _ _ =>
      some (.kubernetes (callText resource name ++ " did not reach the API server: " ++ f.text)
        none true (some f.name))
  | _ => none

def isNotFound : Fault → Bool
  | response r => r.status == some 404
  | _ => false

end Fault

namespace Raised

/-- The fault of a failed call, as an operator error when it has one. -/
def diagnosed (r : Raised) (resource name : String) : Raised :=
  match r.fault.operatorError? resource name with
  | some e => .because (.operator e) r
  | none => r

end Raised

end BootstrapApproval
