import BootstrapApproval.Act

/-! # What the operator logs

The records a reconciliation leaves, each with the fields that let it be found again, and records of
any message with any fields. A field that every record has already is refused, but only where the
record would be logged at all.
-/

namespace BootstrapApproval

structure OperatorLog where
  logger : String
  deriving DecidableEq, Repr

namespace OperatorLog

/-- The logger with this name; no name is the name of the root. -/
def named (name : String) : OperatorLog := ⟨if name = "" then Logs.root else name⟩

def failureText (f : Fault) : String :=
  if f.text = "" then f.fullName else f.fullName ++ ": " ++ f.text

/-- What is attached where a failure is asked for and there is none. -/
def noFailure : String := "NoneType: None"

def reserved (field : String) : Fault :=
  .key ("Attempt to overwrite '" ++ field ++ "' in LogRecord")

def checked (r : Record) : Act Unit := fun s =>
  if s.logs.takes r.logger r.level then
    match r.fields.keys.find? Record.reservedNames.contains with
    | some k => Act.raise (.of (reserved k)) s
    | none => Act.change (fun s => { s with logs := s.logs.emit r }) s
  else (.ok (), s)

def noLevel : Fault := .unexpected .type "level must be an integer"

def givenLevel : Json → Act Level
  | .int n => pure n
  | .bool b => pure (if b then 1 else 0)
  | _ => Act.raise (.of noLevel)

/-- The level that a name stands for, when a record is to be logged at it. -/
def namedLevel (name : String) : Act Level :=
  match Level.ofName name with
  | .ok l => pure l
  | .error _ => Act.raise (.of noLevel)

def message (l : OperatorLog) (level : Level) (text : String) (fields : Table Json) : Act Unit :=
  checked ⟨l.logger, level, text, fields, none⟩

/-- Log an error with any fields, with the failure that is being handled when that is asked for. -/
def error (l : OperatorLog) (text : String) (withFailure : Bool) (fields : Table Json) :
    Act Unit :=
  checked ⟨l.logger, .error, text, fields, if withFailure then some noFailure else none⟩

def about (type name : Json) (operation : String) : Table Json :=
  [("resource_type", type), ("resource_name", name), ("operation", .str operation)]

/-- The start of a reconciliation, under a given or a new correlation id. -/
def start (l : OperatorLog) (type name : Json) (correlation : Option String) : Act String := do
  let id ← match correlation with
    | some id => do
        Act.change fun s =>
          { s with logs := { s.logs with correlation := s.logs.correlation.use id } }
        pure id
    | none => Act.newCorrelation
  Act.log l.logger .info ("Reconciling " ++ type.shown ++ " " ++ name.shown)
    (about type name "reconcile_start")
  pure id

def success (l : OperatorLog) (type name outcome duration : Json) : Act Unit :=
  Act.log l.logger .debug
    ("Reconciliation of " ++ type.shown ++ " " ++ name.shown ++ " finished: " ++ outcome.shown)
    (about type name "reconcile_success" ++ [("outcome", outcome), ("duration", duration)])

def failureRecord (l : OperatorLog) (type name : Json) (f : Fault) (duration : Json)
    (attached : String) : Record :=
  ⟨l.logger, .error,
    "Reconciliation failed for " ++ type.shown ++ " " ++ name.shown ++ ": " ++ f.text,
    about type name "reconcile_error" ++
      [("error_type", .str f.name),
       ("retryable", match f.retryable with | some b => .bool b | none => .null),
       ("duration", duration)],
    some attached⟩

def failure (l : OperatorLog) (type name : Json) (f : Fault) (duration : Json)
    (attached : String) : Act Unit :=
  Act.change fun s =>
    { s with logs := s.logs.emit (l.failureRecord type name f duration attached) }

def unlessEmpty (key : String) (v : Json) : Table Json := if v.isSet then [(key, v)] else []

def decision (l : OperatorLog) (name outcome : Json) (text : String) (level : Level)
    (cluster username : Json) : Act Unit :=
  Act.log l.logger level text
    (about (.str requestType) name "decision" ++ [("outcome", outcome)] ++
      unlessEmpty "cluster_name" cluster ++ unlessEmpty "username" username)

def handlers : OperatorLog := ⟨"csr_approver.utils.handler_logging"⟩

def handlerLevel : Level := .info

def handlerCall (level : Level) (event type name : Json) (extra : Table Json) : Act Unit :=
  checked ⟨handlers.logger, level,
    "Handler invoked: " ++ event.shown ++ " " ++ type.shown ++ "/" ++ name.shown,
    Table.insertAll
      [("handler_type", event), ("resource_type", type), ("resource_name", name),
       ("handler_phase", .str "invoked")] extra,
    none⟩

end OperatorLog

end BootstrapApproval
