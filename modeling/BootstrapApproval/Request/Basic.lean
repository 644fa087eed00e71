import BootstrapApproval.Calendar.Timestamp
import BootstrapApproval.Json.Basic

/-! # Certificate signing requests

A request as far as approval looks at it. Every level keeps, beside its typed fields, the members it
does not know, so that nothing is lost when the request is written back.
-/

namespace BootstrapApproval

structure Condition where
  type : String
  status : String
  reason : Option String
  message : Option String
  lastUpdateTime : Option Timestamp
  lastTransitionTime : Option Timestamp
  extra : Table Json
  deriving DecidableEq, Repr

structure Metadata where
  name : String
  uid : Option String
  resourceVersion : Option String
  labels : Table String
  deletionTimestamp : Option Timestamp
  extra : Table Json
  deriving DecidableEq, Repr

structure RequestSpec where
  username : Option String
  extra : Table Json
  deriving DecidableEq, Repr

structure RequestStatus where
  conditions : List Condition
  extra : Table Json
  deriving DecidableEq, Repr

structure Request where
  apiVersion : String
  kind : String
  metadata : Metadata
  spec : RequestSpec
  status : RequestStatus
  extra : Table Json
  deriving DecidableEq, Repr

/-- A field of an object: the key it is written with, and the key it may also be read from when that
one is absent. -/
structure FieldName where
  key : String
  twin : String
  deriving DecidableEq, Repr

namespace FieldName

def plain (key : String) : FieldName := ⟨key, key⟩

def keyIn (f : FieldName) (t : Table Json) : Option String :=
  if t.has f.key then some f.key else if t.has f.twin then some f.twin else none

def read (f : FieldName) (t : Table Json) : Option (String × Json) :=
  (f.keyIn t).bind fun k => (t.find? k).map fun v => (k, v)

end FieldName

namespace Condition

def typeField : FieldName := .plain "type"
def statusField : FieldName := .plain "status"
def reasonField : FieldName := .plain "reason"
def messageField : FieldName := .plain "message"
def lastUpdateTimeField : FieldName := ⟨"lastUpdateTime", "last_update_time"⟩
def lastTransitionTimeField : FieldName := ⟨"lastTransitionTime", "last_transition_time"⟩

def fields : List FieldName :=
  [typeField, statusField, reasonField, messageField, lastUpdateTimeField, lastTransitionTimeField]

end Condition

namespace Metadata

def nameField : FieldName := .plain "name"
def uidField : FieldName := .plain "uid"
def resourceVersionField : FieldName := ⟨"resourceVersion", "resource_version"⟩
def labelsField : FieldName := .plain "labels"
def deletionTimestampField : FieldName := ⟨"deletionTimestamp", "deletion_timestamp"⟩

def fields : List FieldName :=
  [nameField, uidField, resourceVersionField, labelsField, deletionTimestampField]

end Metadata

namespace RequestSpec

def usernameField : FieldName := .plain "username"

def fields : List FieldName := [usernameField]

def empty : RequestSpec := ⟨none, []⟩

end RequestSpec

namespace RequestStatus

def conditionsField : FieldName := .plain "conditions"

def fields : List FieldName := [conditionsField]

def empty : RequestStatus := ⟨[], []⟩

end RequestStatus

namespace Request

def apiVersionField : FieldName := ⟨"apiVersion", "api_version"⟩
def kindField : FieldName := .plain "kind"
def metadataField : FieldName := .plain "metadata"
def specField : FieldName := .plain "spec"
def statusField : FieldName := .plain "status"

def fields : List FieldName := [apiVersionField, kindField, metadataField, specField, statusField]

def name (r : Request) : String := r.metadata.name

def labels (r : Request) : Table String := r.metadata.labels

def username (r : Request) : Option String := r.spec.username

def conditions (r : Request) : List Condition := r.status.conditions

def isDeleting (r : Request) : Bool := r.metadata.deletionTimestamp.isSome

def addCondition (r : Request) (c : Condition) : Request :=
  { r with status := { r.status with conditions := r.status.conditions ++ [c] } }

end Request

end BootstrapApproval
