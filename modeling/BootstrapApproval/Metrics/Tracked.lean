import BootstrapApproval.Act

/-! # Tracked reconciliations

Every reconciliation is counted and timed, however it ends. A failure is counted by its name; an
interrupt is none.
-/

namespace BootstrapApproval.Act

variable {α : Type}

def measure (f : Metrics → Metrics) : Act Unit := change fun s => { s with metrics := f s.metrics }

def ending : Except Raised α → Ending
  | .ok _ => .success
  | .error e => if e.fault.isOrdinary then .error else .unknown

def counted (result : Except Raised α) (m : Metrics) : Metrics :=
  let m := match result with
    | .ok _ => m
    | .error e =>
        if e.fault.isOrdinary then m.countError e.fault.name (e.fault.retryable.getD false) else m
  m.countEnding (ending result)

def tracked (body : Act α) : Act α := do
  let result ← attempt body
  measure (counted result)
  give result

end BootstrapApproval.Act
