import BootstrapApproval.Calendar.Printer
import BootstrapApproval.Request.Basic

/-! # Writing requests

A request is written with the own key of every field. Fields without a value and unknown members
that are `null` are left out; nulls deeper inside an unknown member stay.
-/

namespace BootstrapApproval

/-- The members of an object without those that are `null`. -/
def withoutNulls (t : Table Json) : Table Json := t.filter fun e => !e.2.isNull

/-- A timestamp in its written form, or `null`. -/
def Timestamp.json? : Option Timestamp → Json
  | some t => .str t.text
  | none => .null

namespace Condition

def members (c : Condition) : Table Json :=
  withoutNulls
    [(typeField.key, .str c.type), (statusField.key, .str c.status),
     (reasonField.key, .ofText? c.reason), (messageField.key, .ofText? c.message),
     (lastUpdateTimeField.key, Timestamp.json? c.lastUpdateTime),
     (lastTransitionTimeField.key, Timestamp.json? c.lastTransitionTime)]
  ++ withoutNulls c.extra

def toJson (c : Condition) : Json := .obj c.members

end Condition

namespace Metadata

def members (m : Metadata) : Table Json :=
  withoutNulls
    [(nameField.key, .str m.name), (uidField.key, .ofText? m.uid),
     (resourceVersionField.key, .ofText? m.resourceVersion),
     (labelsField.key, .obj (m.labels.map fun e => (e.1, .str e.2))),
     (deletionTimestampField.key, Timestamp.json? m.deletionTimestamp)]
  ++ withoutNulls m.extra

def toJson (m : Metadata) : Json := .obj m.members

end Metadata

namespace RequestSpec

def toJson (s : RequestSpec) : Json :=
  .obj (withoutNulls [(usernameField.key, .ofText? s.username)] ++ withoutNulls s.extra)

end RequestSpec

namespace RequestStatus

def toJson (s : RequestStatus) : Json :=
  .obj ((conditionsField.key, .arr (s.conditions.map Condition.toJson)) :: withoutNulls s.extra)

end RequestStatus

namespace Request

def body (r : Request) : Json :=
  .obj
    ([(apiVersionField.key, .str r.apiVersion), (kindField.key, .str r.kind),
      (metadataField.key, r.metadata.toJson), (specField.key, r.spec.toJson),
      (statusField.key, r.status.toJson)]
    ++ withoutNulls r.extra)

end Request

end BootstrapApproval
