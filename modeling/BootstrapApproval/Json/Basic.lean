import BootstrapApproval.Decimal.Basic
import BootstrapApproval.Table

/-! # JSON values

Objects keep the order of their members. Whole numbers and numbers with a fraction are told apart,
because they are written differently.
-/

namespace BootstrapApproval

inductive Json where
  | null
  | bool (b : Bool)
  | int (n : Int)
  | decimal (x : Decimal)
  | str (s : String)
  | arr (items : List Json)
  | obj (members : List (String × Json))
  deriving Repr, Inhabited

namespace Json

mutual
def decEq : (a b : Json) → Decidable (a = b)
  | .null, .null => isTrue rfl
  | .bool a, .bool b =>
      if h : a = b then isTrue (by rw [h]) else isFalse (fun e => h (Json.bool.inj e))
  | .int a, .int b =>
      if h : a = b then isTrue (by rw [h]) else isFalse (fun e => h (Json.int.inj e))
  | .decimal a, .decimal b =>
      if h : a = b then isTrue (by rw [h]) else isFalse (fun e => h (Json.decimal.inj e))
  | .str a, .str b =>
      if h : a = b then isTrue (by rw [h]) else isFalse (fun e => h (Json.str.inj e))
  | .arr a, .arr b =>
      match decEqItems a b with
      | isTrue h => isTrue (by rw [h])
      | isFalse h => isFalse (fun e => h (Json.arr.inj e))
  | .obj a, .obj b =>
      match decEqMembers a b with
      | isTrue h => isTrue (by rw [h])
      | isFalse h => isFalse (fun e => h (Json.obj.inj e))
  | .null, .bool _ | .null, .int _ | .null, .decimal _ | .null, .str _ | .null, .arr _
  | .null, .obj _ | .bool _, .null | .bool _, .int _ | .bool _, .decimal _ | .bool _, .str _
  | .bool _, .arr _ | .bool _, .obj _ | .int _, .null | .int _, .bool _ | .int _, .decimal _
  | .int _, .str _ | .int _, .arr _ | .int _, .obj _ | .decimal _, .null | .decimal _, .bool _
  | .decimal _, .int _ | .decimal _, .str _ | .decimal _, .arr _ | .decimal _, .obj _
  | .str _, .null | .str _, .bool _ | .str _, .int _ | .str _, .decimal _ | .str _, .arr _
  | .str _, .obj _ | .arr _, .null | .arr _, .bool _ | .arr _, .int _ | .arr _, .decimal _
  | .arr _, .str _ | .arr _, .obj _ | .obj _, .null | .obj _, .bool _ | .obj _, .int _
  | .obj _, .decimal _ | .obj _, .str _ | .obj _, .arr _ => isFalse (by intro e; cases e)

def decEqItems : (a b : List Json) → Decidable (a = b)
  | [], [] => isTrue rfl
  | [], _ :: _ => isFalse (by intro e; cases e)
  | _ :: _, [] => isFalse (by intro e; cases e)
  | a :: as, b :: bs =>
      match decEq a b, decEqItems as bs with
      | isTrue h, isTrue t => isTrue (by rw [h, t])
      | isFalse h, _ => isFalse (fun e => h (List.cons.inj e).1)
      | _, isFalse t => isFalse (fun e => t (List.cons.inj e).2)

def decEqMembers : (a b : List (String × Json)) → Decidable (a = b)
  | [], [] => isTrue rfl
  | [], _ :: _ => isFalse (by intro e; cases e)
  | _ :: _, [] => isFalse (by intro e; cases e)
  | (k, a) :: as, (l, b) :: bs =>
      if h : k = l then
        match decEq a b, decEqMembers as bs with
        | isTrue v, isTrue t => isTrue (by rw [h, v, t])
        | isFalse v, _ => isFalse (fun e => v (Prod.mk.inj (List.cons.inj e).1).2)
        | _, isFalse t => isFalse (fun e => t (List.cons.inj e).2)
      else isFalse (fun e => h (Prod.mk.inj (List.cons.inj e).1).1)
end

instance : DecidableEq Json := decEq

/-- The members of an object; other values have none. -/
def members : Json → Table Json
  | .obj ms => ms
  | _ => []

def get? (j : Json) (key : String) : Option Json := Table.find? j.members key

/-- The member of an object with this key; a missing member counts as `null`. -/
def getD (j : Json) (key : String) : Json := (j.get? key).getD .null

def str? : Json → Option String
  | .str s => some s
  | _ => none

/-- Whether the value is `null`. -/
def isNull : Json → Bool
  | .null => true
  | _ => false

/-- A text or `null`. -/
def ofText? : Option String → Json
  | some s => .str s
  | none => .null

/-- Whether a value counts as set: empty values, zero, `false` and `null` do not. -/
def isSet : Json → Bool
  | .null => false
  | .bool b => b
  | .int n => n != 0
  | .decimal x => x.digits != 0
  | .str s => !s.isEmpty
  | .arr items => !items.isEmpty
  | .obj ms => !ms.isEmpty

end Json

end BootstrapApproval
