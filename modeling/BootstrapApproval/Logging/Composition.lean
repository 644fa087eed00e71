import BootstrapApproval.Logging.Record
import BootstrapApproval.Text.Template

/-! # Records from templates

The message of a record may be a template with values. Fields may take the place of what a record is
made from.
-/

namespace BootstrapApproval.Record

def templateField : String := "msg"

def argumentsField : String := "args"

/-- The field that takes the attached failure away when it is empty. -/
def failureField : String := "exc_info"

def compose (logger : String) (level : Level) (template : String) (values : List Json)
    (fields : Table Json) (failure : Option String) : Except Template.Misfit Record := do
  let template := ((fields.find? templateField).map Json.shown).getD template
  let arguments := ((fields.find? argumentsField).map .single).getD (.ofList values)
  let message ← Template.fill template arguments
  let failure := match fields.find? failureField with
    | some v => if v.isSet then failure else none
    | none => failure
  pure ⟨logger, level, message, fields, failure⟩

end BootstrapApproval.Record
