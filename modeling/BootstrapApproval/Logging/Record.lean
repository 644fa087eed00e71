import BootstrapApproval.Json.Printer
import BootstrapApproval.Text.Display
import BootstrapApproval.Text.Letters
import BootstrapApproval.Text.Search

/-! # Log records

A record is a message at a level, from a logger, with fields that say what it is about. The
structured form of a record is one line of JSON; the plain form is one line of text.
-/

namespace BootstrapApproval

/-- How urgent a record is. Higher is more urgent; any whole number is a level. -/
abbrev Level := Int

namespace Level

def notSet : Level := 0
def debug : Level := 10
def info : Level := 20
def warning : Level := 30
def error : Level := 40
def critical : Level := 50

def name (l : Level) : String :=
  if l = 0 then "NOTSET" else if l = 10 then "DEBUG" else if l = 20 then "INFO"
  else if l = 30 then "WARNING" else if l = 40 then "ERROR" else if l = 50 then "CRITICAL"
  else "Level " ++ Digits.integer l

/-- The levels by their names. Two levels have two names. -/
def names : Table Level :=
  [("NOTSET", notSet), ("DEBUG", debug), ("INFO", info), ("WARN", warning), ("WARNING", warning),
   ("ERROR", error), ("CRITICAL", critical), ("FATAL", critical)]

inductive Misnamed where
  /-- The layout of a line, under the name `BASIC_FORMAT`. -/
  | layout
  /-- The table of all layouts, under the name `_STYLES`. -/
  | styles
  deriving DecidableEq, Repr

def Misnamed.text : Misnamed → String
  | layout => "%(levelname)s:%(name)s:%(message)s"
  | styles =>
      "\x7b'%': (<class 'logging.PercentStyle'>, '%(levelname)s:%(name)s:%(message)s'), " ++
      "'\x7b': (<class 'logging.StrFormatStyle'>, " ++
      "'\x7blevelname\x7d:\x7bname\x7d:\x7bmessage\x7d'), " ++
      "'$': (<class 'logging.StringTemplateStyle'>, " ++
      "'$\x7blevelname\x7d:$\x7bname\x7d:$\x7bmessage\x7d')\x7d"

/-- The level with a name in any letter case. Unknown names stand for the level of information. -/
def ofName (s : String) : Except Misnamed Level :=
  let upper := Letters.upper s
  match names.find? upper with
  | some l => .ok l
  | none =>
      if upper = "BASIC_FORMAT" then .error .layout
      else if upper = "_STYLES" then .error .styles
      else .ok info

end Level

structure Record where
  logger : String
  level : Level
  message : String
  fields : Table Json
  failure : Option String
  deriving Repr

namespace Record

/-- The fields that are copied into the structured form, in its order. -/
def structuredFields : List String :=
  ["resource_type", "resource_name", "operation", "outcome", "cluster_name", "username", "duration",
   "error_type", "retryable", "handler_type", "handler_phase"]

def correlationField : String := "correlation_id"

/-- Names that every record has already, so that no field can have them. -/
def reservedNames : List String :=
  ["name", "msg", "args", "levelname", "levelno", "pathname", "filename", "module", "exc_info",
   "exc_text", "stack_info", "lineno", "funcName", "created", "msecs", "relativeCreated", "thread",
   "threadName", "processName", "process", "message", "asctime"]

def structured (r : Record) : Table Json :=
  structuredFields.filterMap fun k => (r.fields.find? k).map fun v => (k, v)

/-- The correlation id of the record; empty when it has none. -/
def correlation (r : Record) : Json := (r.fields.find? correlationField).getD (.str "")

def correlate (r : Record) (id : String) : Record :=
  { r with fields := r.fields.insert correlationField (.str id) }

/-- The level as it is shown. A field under the name of this attribute takes its place. -/
def shownLevel (r : Record) : Json := (r.fields.find? "levelname").getD (.str (Level.name r.level))

/-- The logger as it is shown. A field under the name of this attribute takes its place. -/
def shownLogger (r : Record) : Json := (r.fields.find? "name").getD (.str r.logger)

/-- What stands for the time of a record. -/
def timeMark : String := "<ts>"

def toJson (r : Record) : Json :=
  .obj
    ([("timestamp", .str timeMark), ("level", r.shownLevel), ("logger", r.shownLogger),
      ("message", .str r.message), ("correlation_id", r.correlation)]
    ++ (match r.failure with | some t => [("exception", .str t)] | none => [])
    ++ r.structured)

def line (r : Record) : String := r.toJson.renderSpaced

/-- The plain form, with or without the correlation id. A failure follows on a line of its own. -/
def plainLine (correlated : Bool) (r : Record) : String :=
  timeMark ++ " - " ++ (if correlated then r.correlation.shown ++ " - " else "") ++ r.logger ++
    " - " ++ Level.name r.level ++ " - " ++ r.message ++
    (match r.failure with
      | some t => if r.message.toList.getLast? = some '\n' then t else "\n" ++ t
      | none => "")

def probePaths : List String := ["/healthz", "/health", "/ready", "/metrics"]

def namesProbe (r : Record) : Bool :=
  probePaths.any fun p => Search.occursIn p.toList r.message.toList

end Record

end BootstrapApproval
