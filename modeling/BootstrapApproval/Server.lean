import BootstrapApproval.Fault
import BootstrapApproval.Json.Basic

/-! # The server

The server keeps the bodies of requests by name and the names of registered clusters. A write is
accepted only when the version it was made from is the version that is stored. Failures can be
queued for each kind of call, one per call, and one other writer can be made to act just before the
next look-up is answered.
-/

namespace BootstrapApproval

structure Server where
  requests : Table Json
  clusters : List String
  readFaults : List Fault
  lookUpFaults : List Fault
  replaceFaults : List Fault
  /-- The body that another writer will store when the next look-up arrives. -/
  rival : Option Json
  deriving Repr

namespace Server

def empty : Server := ⟨[], [], [], [], [], none⟩

def nameOf (body : Json) : String := (((body.getD "metadata").getD "name").str?).getD ""

/-- The version in the metadata of a body; a missing version counts as `null`. -/
def versionOf (body : Json) : Json := (body.getD "metadata").getD "resourceVersion"

def notFound : Fault := .response ⟨some 404, some "Not Found"⟩

def conflict : Fault := .response ⟨some 409, some "Conflict"⟩

def storeAs (s : Server) (name : String) (body : Json) : Server :=
  { s with requests := s.requests.insert name body }

def store (s : Server) (body : Json) : Server := s.storeAs (nameOf body) body

def delete (s : Server) (name : String) : Server :=
  { s with requests := s.requests.erase name }

def register (s : Server) (name : String) : Server :=
  if s.clusters.contains name then s else { s with clusters := s.clusters ++ [name] }

def unregister (s : Server) (name : String) : Server :=
  { s with clusters := s.clusters.filter (· != name) }

def read (s : Server) (name : String) : Except Fault Json × Server :=
  match s.readFaults with
  | f :: rest => (.error f, { s with readFaults := rest })
  | [] =>
      match s.requests.find? name with
      | some body => (.ok body, s)
      | none => (.error notFound, s)

/-- Let the waiting writer store its body. -/
def race (s : Server) : Server :=
  match s.rival with
  | some body => { s with rival := none }.store body
  | none => s

def registration (name : String) : Json := .obj [("metadata", .obj [("name", .str name)])]

def lookUp (s : Server) (name : String) : Except Fault Json × Server :=
  let s := s.race
  match s.lookUpFaults with
  | f :: rest => (.error f, { s with lookUpFaults := rest })
  | [] => (if s.clusters.contains name then .ok (registration name) else .error notFound, s)

/-- The version after a stored one: a number counts on, anything else starts again. -/
def nextVersion (version : Json) : Json :=
  match version.str? with
  | some s =>
      match Digits.read? s.toList with
      | some n => .str (Digits.decimal (n + 1))
      | none => .str "1"
  | none => .str "1"

def withVersion (body version : Json) : Json :=
  .obj (body.members.insert "metadata"
    (.obj ((body.getD "metadata").members.insert "resourceVersion" version)))

/-- Whether a write made from one version is accepted over a stored one. A write that names no
version is always accepted. -/
def accepts (sent : Option Json) (stored : Json) : Bool :=
  match sent with
  | some v => v == stored
  | none => true

def replace (s : Server) (name : String) (body : Json) : Except Fault Json × Server :=
  match s.replaceFaults with
  | f :: rest => (.error f, { s with replaceFaults := rest })
  | [] =>
      match s.requests.find? name with
      | none => (.error notFound, s)
      | some stored =>
          if accepts ((body.getD "metadata").get? "resourceVersion") (versionOf stored) then
            let written := withVersion body (nextVersion (versionOf stored))
            (.ok written, s.storeAs name written)
          else (.error conflict, s)

@[simp] theorem requests_read (s : Server) (name : String) :
    (s.read name).2.requests = s.requests := by
  unfold read
  split
  · rfl
  · split <;> rfl

@[simp] theorem clusters_read (s : Server) (name : String) :
    (s.read name).2.clusters = s.clusters := by
  unfold read
  split
  · rfl
  · split <;> rfl

@[simp] theorem clusters_race (s : Server) : s.race.clusters = s.clusters := by
  unfold race
  split <;> rfl

@[simp] theorem requests_lookUp (s : Server) (name : String) :
    (s.lookUp name).2.requests = s.race.requests := by
  unfold lookUp
  dsimp only
  split <;> rfl

@[simp] theorem clusters_lookUp (s : Server) (name : String) :
    (s.lookUp name).2.clusters = s.clusters := by
  unfold lookUp
  dsimp only
  split <;> simp

@[simp] theorem clusters_replace (s : Server) (name : String) (body : Json) :
    (s.replace name body).2.clusters = s.clusters := by
  unfold replace
  split
  · rfl
  · split
    · rfl
    · split <;> rfl

end Server

end BootstrapApproval
