import BootstrapApproval.Client
import BootstrapApproval.Fault.Diagnosis
import BootstrapApproval.Request.Body
import BootstrapApproval.Request.Writable

/-! # The store of requests

Reading a request, looking a cluster up, and submitting an approval: one call to the server each.
An object that does not exist is an answer, not a failure; a refusal or a missing answer becomes an
operator error; all other faults are passed on.
-/

namespace BootstrapApproval.Store

open Act

def ask (c : Call) (answer : Server → Except Fault Json × Server) : Act (Except Fault Json) := do
  call c
  step fun s =>
    let (a, server) := answer s.server
    (a, { s with server })

def understand (body : Json) : Act Request :=
  give ((Request.understood body).mapError Raised.of)

def fail {α : Type} (f : Fault) (resource name : String) : Act α :=
  raise ((Raised.of f).diagnosed resource name)

def read (name : String) : Act (Option Request) := do
  Client.ensure
  match ← ask (.read name) (·.read name) with
  | .error f =>
      if f.isNotFound then pure none else fail f Coordinates.requests.plural name
  | .ok body => do
      let r ← understand body
      pure (some r)

def lookUp (name : String) : Act (Option Json) := do
  Client.ensure
  match ← ask (.lookUp name) (·.lookUp name) with
  | .error f =>
      if f.isNotFound then pure none else fail f Coordinates.clusters.plural name
  | .ok entry => pure (some entry)

/-- Submit a request with its approval, if it can be written. The body names the version it was made
from, so a request that has changed since is not overwritten. -/
def submit (r : Request) : Act Request := do
  Client.ensure
  match r.written with
  | .error f => raise (.of f)
  | .ok body =>
      match ← ask (.replace r.name body) (·.replace r.name body) with
      | .error f => fail f Coordinates.requests.plural r.name
      | .ok answer => understand answer

end BootstrapApproval.Store
