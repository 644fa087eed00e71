import BootstrapApproval.Act

/-! # Setting tracing up

Tracing is set up once; a second setup changes nothing until tracing has been shut down. When it is
switched off, nothing but the fact that this has been decided is kept.
-/

namespace BootstrapApproval.Tracing

open Act

def logger : String := "csr_approver.observability.tracing"

structure Setup where
  enabled : Bool
  endpoint : String
  service : String
  sampleRate : Json
  insecure : Bool
  deriving DecidableEq, Repr

def Setup.standard : Setup := ⟨false, "http://localhost:4317", "csr-approver", .decimal .one, true⟩

def Setup.ofSettings (s : Settings) : Setup :=
  { Setup.standard with
    enabled := s.tracingEnabled, endpoint := s.tracingEndpoint, service := s.tracingServiceName,
    sampleRate := .decimal s.tracingSampleRate }

def deployment : String := "kubernetes"

def announcement (setup : Setup) : String :=
  "Initializing OpenTelemetry tracing: endpoint=" ++ setup.endpoint ++ ", service=" ++
    setup.service ++ ", sample_rate=" ++ setup.sampleRate.shown

def badRate : Fault := .unexpected .value "Probability must be in range [0.0, 1.0]."

def noRate (rate : Json) : Fault :=
  .unexpected .type
    ("'<' not supported between instances of '" ++ rate.kindName ++ "' and 'float'")

def checkRate (rate : Json) : Act Unit :=
  let refuse (outside : Bool) : Act Unit := if outside then raise (.of badRate) else pure ()
  match rate with
  | .bool _ => pure ()
  | .int n => refuse (n < 0 || 1 < n)
  | .decimal x => refuse (x.belowZero || x.aboveOne)
  | v => raise (.of (noRate v))

/-- The name of a service; one without a name is unknown. -/
def serviceName (service : String) : String := if service = "" then "unknown_service" else service

def put (t : Tracing) : Act Unit := change fun s => { s with tracing := t }

/-- Set tracing up; gives the name of the service when spans are exported. -/
def setUp (setup : Setup) : Act (Option String) := do
  let t ← see (·.tracing)
  if t.initialized then
    say logger .debug "Tracing already initialized, skipping"
    pure t.provider
  else if !setup.enabled then
    say logger .info "OpenTelemetry tracing is disabled"
    put { t with initialized := true }
    pure Option.none
  else
    say logger .info (announcement setup)
    checkRate setup.sampleRate
    call (.exporter setup.endpoint setup.insecure)
    let provider := some (serviceName setup.service)
    put ⟨true, provider⟩
    pure provider

def shutDown : Act Unit := do
  if (← see (·.tracing)).provider.isSome then
    say logger .info "Shutting down OpenTelemetry tracing"
  put .none

end BootstrapApproval.Tracing
