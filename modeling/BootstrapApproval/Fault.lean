import BootstrapApproval.Checked
import BootstrapApproval.Coordinates
import BootstrapApproval.Text.Display

/-! # Faults

Everything that can go wrong while a request is handled. An operator error says whether and when it
is worth trying again; the other faults come from the server, from its client and from the runtime.
A raised fault carries the faults that caused it, the nearest first.
-/

namespace BootstrapApproval

inductive OperatorError.Kind where
  | general
  | temporary
  | external
  | kubernetes
  | conflict (resource name : String)
  | configuration
  deriving DecidableEq, Repr

def OperatorError.Kind.name : OperatorError.Kind → String
  | .general => "OperatorError"
  | .temporary => "TemporaryError"
  | .external => "ExternalServiceError"
  | .kubernetes => "KubernetesAPIError"
  | .conflict _ _ => "ConflictError"
  | .configuration => "ConfigurationError"

/-- An error with advice: whether to try again, after how long, and what to do about it. -/
structure OperatorError where
  kind : OperatorError.Kind
  /-- The message without advice. -/
  base : String
  category : String
  retryable : Bool
  /-- Seconds before the next attempt. -/
  delay : Int
  userAction : Option String
  /-- The name of the fault this error stands for. -/
  cause : Option String
  deriving DecidableEq, Repr

namespace OperatorError

def message (e : OperatorError) : String :=
  match e.userAction with
  | some action => if action = "" then e.base else e.base ++ "\nAction required: " ++ action
  | none => e.base

def adviceOr (action : Option String) (standard : String) : String :=
  match action with
  | some a => if a = "" then standard else a
  | none => standard

def general (base category : String) (retryable : Bool) (delay : Int)
    (userAction : Option String) : OperatorError :=
  { kind := .general, base, category, retryable, delay, userAction, cause := none }

def temporary (base : String) (delay : Int) (userAction : Option String) : OperatorError :=
  { kind := .temporary, base, category := "temporary", retryable := true, delay,
    userAction := some (adviceOr userAction "Wait for automatic retry or check system status"),
    cause := none }

def external (service base : String) (retryable : Bool) (delay : Int)
    (userAction : Option String) : OperatorError :=
  { kind := .external, base := service ++ " error: " ++ base, category := "external", retryable,
    delay,
    userAction :=
      some (adviceOr userAction ("Check " ++ service ++ " connectivity and credentials")),
    cause := none }

def finalReasons : List String := ["Forbidden", "Unauthorized", "Invalid"]

def kubernetes (base : String) (reason : Option String) (retryable : Bool)
    (cause : Option String) : OperatorError :=
  let base := match reason with
    | some r => if r = "" then base else base ++ " (reason: " ++ r ++ ")"
    | none => base
  { kind := .kubernetes, base := "Kubernetes API error: " ++ base, category := "external",
    retryable := retryable && !(reason.any finalReasons.contains), delay := retryDelay,
    userAction := some "Check RBAC permissions and cluster connectivity", cause }

/-- A write that came too late: the object has changed since it was read. -/
def conflict (resource name : String) (cause : Option String) : OperatorError :=
  { kind := .conflict resource name,
    base := "Conflict updating " ++ resource ++ " '" ++ name ++ "': object was modified",
    category := "conflict", retryable := true, delay := conflictDelay, userAction := none, cause }

def configuration (base : String) (retryable : Bool) (userAction : Option String) :
    OperatorError :=
  { kind := .configuration, base, category := "configuration", retryable, delay := retryDelay,
    userAction := some (adviceOr userAction "Review and correct configuration"), cause := none }

end OperatorError

structure Response where
  status : Option Int
  reason : Option String
  deriving DecidableEq, Repr

inductive TransportKind where
  | general
  | retriesExhausted
  | readTimeout
  deriving DecidableEq, Repr

inductive RuntimeKind where
  | runtime
  | value
  | system
  | timeout
  | type
  | overflow
  | memory
  /-- A place outside a text. -/
  | index
  /-- A text that cannot be encoded. -/
  | encoding
  deriving DecidableEq, Repr

inductive Fault where
  | operator (e : OperatorError)
  | response (r : Response)
  | transport (kind : TransportKind) (text : String)
  | credentials (text : String)
  | interrupt (text : String)
  | unexpected (kind : RuntimeKind) (text : String)
  | malformed (problems : List Problem)
  /-- A key that must not be there, or that must be there and is not. -/
  | key (text : String)
  | retryLater (text : String) (delay : Int)
  | giveUp (text : String)
  deriving DecidableEq, Repr

namespace Fault

def name : Fault → String
  | operator e => e.kind.name
  | response _ => "ApiException"
  | transport .general _ => "HTTPError"
  | transport .retriesExhausted _ => "MaxRetryError"
  | transport .readTimeout _ => "ReadTimeoutError"
  | credentials _ => "ConfigException"
  | interrupt _ => "KeyboardInterrupt"
  | unexpected .runtime _ => "RuntimeError"
  | unexpected .value _ => "ValueError"
  | unexpected .system _ => "OSError"
  | unexpected .timeout _ => "TimeoutError"
  | unexpected .type _ => "TypeError"
  | unexpected .overflow _ => "OverflowError"
  | unexpected .memory _ => "MemoryError"
  | unexpected .index _ => "IndexError"
  | unexpected .encoding _ => "UnicodeError"
  | malformed _ => "ValidationError"
  | key _ => "KeyError"
  | retryLater _ _ => "TemporaryError"
  | giveUp _ => "PermanentError"

/-- Where faults with this name are declared; faults of the runtime belong to no place. -/
def origin : Fault → String
  | operator _ => "csr_approver.errors.operator_errors."
  | response _ => "kubernetes.client.exceptions."
  | transport _ _ => "urllib3.exceptions."
  | credentials _ => "kubernetes.config.config_exception."
  | _ => ""

def fullName (f : Fault) : String := f.origin ++ f.name

def responseText (r : Response) : String :=
  "(" ++ (match r.status with | some n => Digits.integer n | none => "None") ++ ")\nReason: " ++
    shownText r.reason ++ "\n"

def text : Fault → String
  | operator e => e.message
  | response r => responseText r
  | transport .general t => t
  | transport .retriesExhausted t =>
      "None: Max retries exceeded with url: " ++ t ++ " (Caused by None)"
  | transport .readTimeout t => "None: " ++ t
  | credentials t => t
  | interrupt t => t
  | unexpected _ t => t
  | malformed _ => "<validation error>"
  | key t => String.ofList (Display.quoted t)
  | retryLater t _ => t
  | giveUp t => t

/-- The text of the fault when it is reported by itself: a key stands without quotes. -/
def report : Fault → String
  | key t => t
  | f => f.text

def isOrdinary : Fault → Bool
  | interrupt _ => false
  | _ => true

def retryable : Fault → Option Bool
  | operator e => some e.retryable
  | _ => none

end Fault

/-- A fault on its way to whoever handles it, with what caused it. -/
structure Raised where
  fault : Fault
  causes : List Fault
  deriving DecidableEq, Repr

namespace Raised

def of (f : Fault) : Raised := ⟨f, []⟩

def because (f : Fault) (r : Raised) : Raised := ⟨f, r.fault :: r.causes⟩

end Raised

def OperatorError.advice (e : OperatorError) : Fault :=
  if e.retryable then .retryLater e.message e.delay else .giveUp e.message

end BootstrapApproval
