import BootstrapApproval.Logging.OperatorLog

/-! # Records by name

Whoever logs may name the kind of record, with values in their order and values by name. Each kind
has parameters; some parameters have a standard value, and some kinds take further named values as
fields. Values that do not fit the parameters are refused.
-/

namespace BootstrapApproval

structure Signature where
  name : String
  /-- How many values are given before the parameters. -/
  receivers : Nat
  /-- The parameters in their order, each with its standard value, if it has one. -/
  parameters : List (String × Option Json)
  /-- Whether further named values are taken. -/
  further : Bool

namespace Signature

inductive Mismatch where
  | tooMany (given : Nat)
  | twice (parameter : String)
  | unknown (name : String)
  | missing (parameters : List String)
  deriving DecidableEq, Repr

def plural (n : Nat) : String := if n = 1 then "" else "s"

def enumeration : List String → String
  | [] => ""
  | [a] => quote a
  | [a, b] => quote a ++ " and " ++ quote b
  | names =>
      String.intercalate ", " (names.dropLast.map quote) ++ ", and " ++ quote (names.getLastD "")
where
  quote (s : String) : String := "'" ++ s ++ "'"

def capacityText (s : Signature) : String :=
  let most := s.parameters.length + s.receivers
  let least := (s.parameters.filter fun p => p.2.isNone).length + s.receivers
  if least = most then Digits.decimal most ++ " positional argument" ++ plural most
  else "from " ++ Digits.decimal least ++ " to " ++ Digits.decimal most ++ " positional arguments"

def mismatchText (s : Signature) : Mismatch → String
  | .tooMany given =>
      let n := given + s.receivers
      s.name ++ "() takes " ++ s.capacityText ++ " but " ++ Digits.decimal n ++
        (if n = 1 then " was given" else " were given")
  | .twice parameter =>
      s.name ++ "() got multiple values for argument '" ++ parameter ++ "'"
  | .unknown name => s.name ++ "() got an unexpected keyword argument '" ++ name ++ "'"
  | .missing names =>
      s.name ++ "() missing " ++ Digits.decimal names.length ++ " required positional argument" ++
        plural names.length ++ ": " ++ enumeration names

def keys (s : Signature) : List String := s.parameters.map Prod.fst

/-- What is wrong with a named value, when the first `placed` parameters have values already. -/
def misnamed? (s : Signature) (placed : Nat) (name : String) : Option Mismatch :=
  if (s.keys.take placed).contains name then some (.twice name)
  else if s.keys.contains name || s.further then none
  else some (.unknown name)

def fit (s : Signature) (values : List Json) (named : Table Json) :
    Except Mismatch (Table Json × Table Json) :=
  match named.findSome? fun e => s.misnamed? values.length e.1 with
  | some m => .error m
  | none =>
      if s.keys.length < values.length then .error (.tooMany values.length)
      else
        let bound := s.keys.zip values ++ named
        let missing := s.parameters.filter fun p => p.2.isNone && (Table.find? bound p.1).isNone
        if !missing.isEmpty then .error (.missing (missing.map Prod.fst))
        else
          .ok (s.parameters.map fun p => (p.1, ((Table.find? bound p.1).or p.2).getD .null),
            named.filter fun e => !s.keys.contains e.1)

end Signature

namespace OperatorLog

/-- A kind of record of a logger: the name, the parameters without and those with a standard value,
and whether further named values become fields. -/
def method (name : String) (required : List String) (standard : List (String × Json))
    (further : Bool) : Signature :=
  ⟨"OperatorLogger." ++ name, 1,
    required.map (fun k => (k, none)) ++ standard.map (fun e => (e.1, some e.2)), further⟩

def signatures : List (String × Signature) :=
  [("debug", method "debug" ["message"] [] true),
   ("info", method "info" ["message"] [] true),
   ("warning", method "warning" ["message"] [] true),
   ("error", method "error" ["message"] [("exc_info", .bool false)] true),
   ("log_reconciliation_start",
     method "log_reconciliation_start" ["resource_type", "resource_name"]
       [("correlation_id", .null)] false),
   ("log_reconciliation_success",
     method "log_reconciliation_success"
       ["resource_type", "resource_name", "outcome", "duration"] [] false),
   ("log_reconciliation_error",
     method "log_reconciliation_error"
       ["resource_type", "resource_name", "error", "duration"] [] false),
   ("log_decision",
     method "log_decision" ["resource_name", "outcome", "message"]
       [("level", .int Level.debug), ("cluster_name", .null), ("username", .null)] false),
   ("log_handler_entry",
     ⟨"log_handler_entry", 0,
       [("handler_type", none), ("resource_type", none), ("name", none), ("extra", some .null)],
       false⟩)]

/-- Log a record of the kind with this name, given the values of its parameters and its fields.
`readFault` reads the fault that a failed reconciliation is logged with. Gives the correlation id
when a reconciliation is started. -/
def record (l : OperatorLog) (readFault : Json → Fault) (kind : String)
    (values fields : Table Json) : Act Json := do
  let value (k : String) : Json := (values.find? k).getD .null
  let text := (value "message").shown
  let type := value "resource_type"
  let name := value "resource_name"
  match kind with
  | "debug" => l.message .debug text fields
  | "info" => l.message .info text fields
  | "warning" => l.message .warning text fields
  | "error" => l.error text (value "exc_info").isSet fields
  | "log_reconciliation_success" => l.success type name (value "outcome") (value "duration")
  | "log_reconciliation_error" =>
      l.failure type name (readFault (value "error")) (value "duration") noFailure
  | "log_decision" =>
      l.decision name (value "outcome") text (← givenLevel (value "level")) (value "cluster_name")
        (value "username")
  | "log_handler_entry" =>
      handlerCall handlerLevel (value "handler_type") type (value "name") (value "extra").members
  | _ => pure ()
  if kind = "log_reconciliation_start" then do
    let given := value "correlation_id"
    pure (.str (← l.start type name (if given.isNull then none else some given.shown)))
  else pure .null

/-- Log a record of the kind with this name, given values in their order and by name. -/
def invoke (l : OperatorLog) (readFault : Json → Fault) (kind : String) (given : List Json)
    (named : Table Json) : Act Json :=
  match (signatures.find? fun e => e.1 == kind).map Prod.snd with
  | none => pure .null
  | some s =>
      match s.fit given named with
      | .error m => Act.raise (.of (.unexpected .type (s.mismatchText m)))
      | .ok (values, fields) => l.record readFault kind values fields

end OperatorLog

end BootstrapApproval
