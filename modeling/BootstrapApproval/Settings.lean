import BootstrapApproval.Settings.Grammar
import BootstrapApproval.Settings.Expansion

/-! # Settings

Each of the fourteen settings is resolved on its own: its text comes from the environment, else from
the settings file, else it keeps its standard value. Names are compared without regard to case; of
two names that differ in case only, the later one counts.
-/

namespace BootstrapApproval

structure Sources where
  environment : List (String × String)
  /-- The settings file; a key without a value has none. -/
  file : Table (Option String)
  deriving Repr

namespace Sources

def ofText (environment : List (String × String)) (file : String) : Sources :=
  ⟨environment, Dotenv.entries environment file⟩

def lookup (entries : Table (Option String)) (name : String) : Option String :=
  entries.foldl
    (fun found e => if Letters.lower e.1 = Letters.lower name then e.2 else found) none

def text? (s : Sources) (name : String) : Option String :=
  (lookup (s.environment.map fun e => (e.1, some e.2)) name).or (lookup s.file name)

def setting {α : Type u} (s : Sources) (name : String) (standard : α)
    (grammar : String → Checked α) : Checked α :=
  match s.text? name with
  | some text => (grammar text).under (.key name)
  | none => .ok standard

end Sources

structure Settings where
  operatorName : String
  logLevel : String
  jsonLogs : Bool
  correlationIds : Bool
  logHealthProbes : Bool
  dryRun : Bool
  maxWorkers : Int
  metricsPort : Int
  metricsHost : String
  livenessPort : Int
  tracingEnabled : Bool
  tracingEndpoint : String
  tracingServiceName : String
  tracingSampleRate : Decimal
  deriving DecidableEq, Repr

namespace Settings

def standard : Settings :=
  { operatorName := "csr-approver", logLevel := "INFO", jsonLogs := true, correlationIds := true,
    logHealthProbes := false, dryRun := false, maxWorkers := 20, metricsPort := 8081,
    metricsHost := "0.0.0.0", livenessPort := 8080, tracingEnabled := false,
    tracingEndpoint := "http://localhost:4317", tracingServiceName := "csr-approver",
    tracingSampleRate := .one }

def names : List String :=
  ["OPERATOR_NAME", "LOG_LEVEL", "JSON_LOGS", "CORRELATION_IDS", "LOG_HEALTH_PROBES", "DRY_RUN",
   "MAX_WORKERS", "METRICS_PORT", "METRICS_HOST", "LIVENESS_PORT", "OTEL_TRACING_ENABLED",
   "OTEL_EXPORTER_OTLP_ENDPOINT", "OTEL_SERVICE_NAME", "OTEL_TRACES_SAMPLER_ARG"]

def resolve (s : Sources) : Checked Settings :=
  Settings.mk <$>
    s.setting "OPERATOR_NAME" standard.operatorName .ok <*>
    s.setting "LOG_LEVEL" standard.logLevel .ok <*>
    s.setting "JSON_LOGS" standard.jsonLogs Grammar.switch <*>
    s.setting "CORRELATION_IDS" standard.correlationIds Grammar.switch <*>
    s.setting "LOG_HEALTH_PROBES" standard.logHealthProbes Grammar.switch <*>
    s.setting "DRY_RUN" standard.dryRun Grammar.switch <*>
    s.setting "MAX_WORKERS" standard.maxWorkers Grammar.whole <*>
    s.setting "METRICS_PORT" standard.metricsPort Grammar.whole <*>
    s.setting "METRICS_HOST" standard.metricsHost .ok <*>
    s.setting "LIVENESS_PORT" standard.livenessPort Grammar.whole <*>
    s.setting "OTEL_TRACING_ENABLED" standard.tracingEnabled Grammar.switch <*>
    s.setting "OTEL_EXPORTER_OTLP_ENDPOINT" standard.tracingEndpoint .ok <*>
    s.setting "OTEL_SERVICE_NAME" standard.tracingServiceName .ok <*>
    s.setting "OTEL_TRACES_SAMPLER_ARG" standard.tracingSampleRate Grammar.fraction

end Settings

end BootstrapApproval
