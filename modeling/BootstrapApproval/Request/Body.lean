import BootstrapApproval.Fault
import BootstrapApproval.Request.Decode

/-! # Bodies

A request is read from an object. A list of pairs stands for the object with these members, where a
pair is anything that holds two things: a list, a text, or an object, of which the keys count. What
stands for no object is refused before any field is looked at.
-/

namespace BootstrapApproval

namespace Body

inductive Misfit where
  | notMany (kind : String)
  | notSequence (index : Nat)
  | notPair (index length : Nat)
  | badKey (kind : String)
  deriving DecidableEq, Repr

def Misfit.fault : Misfit → Fault
  | notMany kind => .unexpected .type ("'" ++ kind ++ "' object is not iterable")
  | notSequence index =>
      .unexpected .type ("cannot convert dictionary update sequence element #" ++
        Digits.decimal index ++ " to a sequence")
  | notPair index length =>
      .unexpected .value ("dictionary update sequence element #" ++ Digits.decimal index ++
        " has length " ++ Digits.decimal length ++ "; 2 is required")
  | badKey kind => .unexpected .type ("unhashable type: '" ++ kind ++ "'")

def items? : Json → Option (List Json)
  | .arr items => some items
  | .str s => some (s.toList.map fun c => .str c.toString)
  | .obj members => some (members.map fun e => .str e.1)
  | _ => none

def key : Json → Except Misfit String
  | .arr items => .error (.badKey (Json.arr items).kindName)
  | .obj members => .error (.badKey (Json.obj members).kindName)
  | j => .ok j.shown

/-- The member that the item at an index stands for. -/
def pair (index : Nat) (item : Json) : Except Misfit (String × Json) :=
  match items? item with
  | none => .error (.notSequence index)
  | some [k, v] => (key k).map fun k => (k, v)
  | some things => .error (.notPair index things.length)

/-- The members that items stand for, the first of them at an index; of two with one key the later
one counts. -/
def pairs (index : Nat) (t : Table Json) : List Json → Except Misfit (Table Json)
  | [] => .ok t
  | item :: rest =>
      match pair index item with
      | .ok (k, v) => pairs (index + 1) (t.insert k v) rest
      | .error m => .error m

/-- The object that a value stands for. -/
def object : Json → Except Misfit Json
  | .obj members => .ok (.obj members)
  | j =>
      match items? j with
      | none => .error (.notMany j.kindName)
      | some items => (pairs 0 [] items).map .obj

@[simp] theorem object_obj (members : Table Json) : object (.obj members) = .ok (.obj members) :=
  rfl

end Body

namespace Request

/-- The request that a body stands for, or the fault of the body. -/
def understood (body : Json) : Except Fault Request :=
  match Body.object body with
  | .error m => .error m.fault
  | .ok o =>
      match ofBody o with
      | .ok r => .ok r
      | .bad ps => .error (.malformed ps)

theorem understood_of_ok {body : Json} {r : Request} (h : ofBody body = .ok r) :
    understood body = .ok r := by
  cases body <;> simp_all [understood, ofBody, checkObject, Checked.fail]

theorem understood_of_bad {members : Table Json} {ps : List Problem}
    (h : ofBody (.obj members) = .bad ps) : understood (.obj members) = .error (.malformed ps) := by
  simp [understood, h]

end Request

end BootstrapApproval
