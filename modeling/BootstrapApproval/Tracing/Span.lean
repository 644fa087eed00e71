import BootstrapApproval.Fault
import BootstrapApproval.Json.Basic

/-! # Spans

A span tells of one handled call: what it was about and how it ended. An ordinary failure leaves its
text and two equal events, one from the handler and one from the span itself; an interrupt leaves no
trace.
-/

namespace BootstrapApproval

inductive SpanStatus where
  | unset
  | ok
  | error
  deriving DecidableEq, Repr

def SpanStatus.name : SpanStatus → String
  | .unset => "UNSET"
  | .ok => "OK"
  | .error => "ERROR"

structure SpanEvent where
  type : String
  message : String
  deriving DecidableEq, Repr

def SpanEvent.name : String := "exception"

structure SpanHead where
  name : String
  kind : String
  attributes : Table Json
  deriving DecidableEq, Repr

structure Span where
  head : SpanHead
  status : SpanStatus
  description : Option String
  events : List SpanEvent
  deriving DecidableEq, Repr

namespace SpanHead

def outcomeKey : String := "csr.outcome"

def ofHandler (name kind handler resource : String) : SpanHead :=
  ⟨name, kind,
    [("k8s.resource.name", .str resource), ("k8s.resource.type", .str requestType),
     ("kopf.handler", .str handler)]⟩

def setOutcome (h : SpanHead) (outcome : Json) : SpanHead :=
  { h with attributes := h.attributes.insert outcomeKey outcome }

def finish (h : SpanHead) : Span := ⟨h, .ok, none, []⟩

def failed (h : SpanHead) (f : Fault) : Span :=
  if f.isOrdinary then
    let event : SpanEvent := ⟨f.name, f.text⟩
    ⟨h, .error, some (f.name ++ ": " ++ f.text), [event, event]⟩
  else ⟨h, .unset, none, []⟩

end SpanHead

end BootstrapApproval
