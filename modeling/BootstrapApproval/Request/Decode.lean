import BootstrapApproval.Calendar.Parser
import BootstrapApproval.Checked
import BootstrapApproval.Coordinates
import BootstrapApproval.Request.Basic

/-! # Reading requests

Reading looks at every typed field and reports everything that is wrong. A field is read from its
own key or, when that is absent, from its twin; all other members are kept as they are.
-/

namespace BootstrapApproval

namespace FieldName

variable {α : Type u}

def checkD (f : FieldName) (t : Table Json) (default : α) (check : Json → Checked α) : Checked α :=
  match f.read t with
  | none => .ok default
  | some (k, v) => (check v).under (.key k)

def check (f : FieldName) (t : Table Json) (check : Json → Checked α) : Checked α :=
  match f.read t with
  | none => .bad [⟨[.key f.key], .missing⟩]
  | some (k, v) => (check v).under (.key k)

def leftover (fields : List FieldName) (t : Table Json) : Table Json :=
  t.filter fun e => !fields.any fun f => f.keyIn t == some e.1

end FieldName

namespace Request

def checkText : Json → Checked String
  | .str s => .ok s
  | _ => .fail .notText

def checkText? : Json → Checked (Option String)
  | .null => .ok none
  | .str s => .ok (some s)
  | _ => .fail .notText

def checkTimestamp? : Json → Checked (Option Timestamp)
  | .null => .ok none
  | j =>
      match Timestamp.ofJson j with
      | .ok t => .ok (some t)
      | .error .notATime => .fail .notTimestamp
      | .error .unreadable => .fail .badTimestamp
      | .error .outOfRange => .fail .badMoment

/-- Labels; nothing counts as no labels. -/
def checkLabels : Json → Checked (Table String)
  | .null => .ok []
  | .obj ms => .all (fun (k, v) => ((checkText v).map fun s => (k, s)).under (.key k)) ms
  | _ => .fail .notTexts

def checkObject {α : Type u} (check : Table Json → Checked α) : Json → Checked α
  | .obj ms => check ms
  | _ => .fail .notObject

def checkConditionMembers (t : Table Json) : Checked Condition :=
  (fun type status reason message updated changed =>
      { type, status, reason, message, lastUpdateTime := updated, lastTransitionTime := changed,
        extra := FieldName.leftover Condition.fields t }) <$>
    Condition.typeField.check t checkText <*>
    Condition.statusField.checkD t conditionHolds checkText <*>
    Condition.reasonField.checkD t none checkText? <*>
    Condition.messageField.checkD t none checkText? <*>
    Condition.lastUpdateTimeField.checkD t none checkTimestamp? <*>
    Condition.lastTransitionTimeField.checkD t none checkTimestamp?

def checkCondition : Json → Checked Condition := checkObject checkConditionMembers

/-- Conditions; nothing counts as none. -/
def checkConditions : Json → Checked (List Condition)
  | .null => .ok []
  | .arr items => .indexed checkCondition 0 items
  | _ => .fail .notList

def checkMetadataMembers (t : Table Json) : Checked Metadata :=
  (fun name uid version labels deletion =>
      { name, uid, resourceVersion := version, labels, deletionTimestamp := deletion,
        extra := FieldName.leftover Metadata.fields t }) <$>
    Metadata.nameField.check t checkText <*>
    Metadata.uidField.checkD t none checkText? <*>
    Metadata.resourceVersionField.checkD t none checkText? <*>
    Metadata.labelsField.checkD t [] checkLabels <*>
    Metadata.deletionTimestampField.checkD t none checkTimestamp?

def checkMetadata : Json → Checked Metadata := checkObject checkMetadataMembers

def checkSpecMembers (t : Table Json) : Checked RequestSpec :=
  (fun username => { username, extra := FieldName.leftover RequestSpec.fields t }) <$>
    RequestSpec.usernameField.checkD t none checkText?

/-- The specification; nothing counts as an empty one. -/
def checkSpec : Json → Checked RequestSpec
  | .null => .ok .empty
  | j => checkObject checkSpecMembers j

def checkStatusMembers (t : Table Json) : Checked RequestStatus :=
  (fun conditions => { conditions, extra := FieldName.leftover RequestStatus.fields t }) <$>
    RequestStatus.conditionsField.checkD t [] checkConditions

/-- The status; nothing counts as an empty one. -/
def checkStatus : Json → Checked RequestStatus
  | .null => .ok .empty
  | j => checkObject checkStatusMembers j

def checkMembers (t : Table Json) : Checked Request :=
  (fun apiVersion kind metadata spec status =>
      { apiVersion, kind, metadata, spec, status,
        extra := FieldName.leftover Request.fields t }) <$>
    Request.apiVersionField.checkD t Coordinates.requests.groupVersion checkText <*>
    Request.kindField.checkD t requestKind checkText <*>
    Request.metadataField.check t checkMetadata <*>
    Request.specField.checkD t .empty checkSpec <*>
    Request.statusField.checkD t .empty checkStatus

/-- The request a body stands for, or everything that is wrong with the body. -/
def ofBody (body : Json) : Checked Request := checkObject checkMembers body

end Request

end BootstrapApproval
