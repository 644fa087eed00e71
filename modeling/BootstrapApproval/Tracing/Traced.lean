import BootstrapApproval.Act

/-! # Traced calls

A traced call opens a span, is handled, and leaves the finished span behind, whether it returned or
raised a fault. What it gave or raised is passed on.
-/

namespace BootstrapApproval.Act

variable {α : Type}

def noteOutcome (outcome : Json) : Act Unit :=
  change fun s => { s with span := s.span.map fun h => h.setOutcome outcome }

/-- Do an action within a span. The spans of a state are those that a recording tracer has closed:
the state of tracing says what the operator itself has set up, and has no part in them. -/
def traced (head : SpanHead) (body : Act α) : Act α := do
  change fun s => { s with span := some head }
  let result ← attempt body
  change fun s =>
    let head := s.span.getD head
    let span := match result with
      | .ok _ => head.finish
      | .error e => head.failed e.fault
    { s with span := none, spans := s.spans ++ [span] }
  give result

end BootstrapApproval.Act
