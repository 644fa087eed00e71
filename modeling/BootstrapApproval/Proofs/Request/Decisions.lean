import BootstrapApproval.Proofs.Versions

/-! # Decisions

A request is decided by a condition that says so. The types of its conditions are the same in the
object it was read from, and writing it with an approval adds one type.
-/

namespace BootstrapApproval

open Server

namespace Json

/-- The types of the conditions in a body. -/
def conditionTypes (body : Json) : List Json :=
  match (body.getD "status").getD "conditions" with
  | .arr items => items.map fun c => c.getD "type"
  | _ => []

def isDecided (body : Json) : Bool :=
  match (body.getD "status").getD "conditions" with
  | .arr items =>
      items.any fun c => c.getD "type" == .str "Approved" || c.getD "type" == .str "Denied"
  | _ => false

theorem isDecided_eq (body : Json) :
    body.isDecided =
      body.conditionTypes.any fun type => type == .str "Approved" || type == .str "Denied" := by
  unfold isDecided conditionTypes
  cases (body.getD "status").getD "conditions" with
  | arr items => rw [List.any_map, Function.comp_def]
  | _ => rfl

theorem getD_eq_of_none {t : Table Json} {key : String} (none_ : t.find? key = none) :
    (obj t).getD key = .null := by
  simp [getD, get?, members, none_]

theorem getD_eq_of_some {t : Table Json} {key : String} {v : Json} (some_ : t.find? key = some v) :
    (obj t).getD key = v := by
  simp [getD, get?, members, some_]

end Json

def Condition.isDecision (c : Condition) : Bool := c.type == "Approved" || c.type == "Denied"

namespace Request

open FieldName

variable {t : Table Json} {r : Request}

theorem undecided_iff :
    r.resolution? = none ↔ ∀ c ∈ r.conditions, c.type ≠ "Approved" ∧ c.type ≠ "Denied" := by
  simp only [resolution?, List.findSome?_eq_none_iff, Condition.resolution?, Resolution.ofText?]
  refine forall₂_congr fun c _ => ?_
  change (if c.type = "Approved" then _ else if c.type = "Denied" then _ else _) = none ↔ _
  split_ifs <;> simp_all

theorem types_of_conditions {items : List Json} {conditions : List Condition}
    (each : List.Forall₂ (fun a c => checkCondition a = .ok c) items conditions) :
    (items.map fun c => c.getD "type") = conditions.map fun c => .str c.type := by
  induction each with
  | nil => rfl
  | @cons item c items conditions checked _ ih =>
      obtain ⟨t, rfl, checked⟩ := checkObject_eq_ok.mp checked
      obtain ⟨type, -⟩ := checkConditionMembers_eq_ok.mp checked
      obtain ⟨k, j, read, checked⟩ := check_eq_ok type
      obtain rfl := checkText_eq_ok.mp checked
      have own : (Json.obj t).getD "type" = .str c.type :=
        Json.getD_eq_str.mpr (find?_of_read_plain read)
      rw [List.map_cons, List.map_cons, ih, own]

/-- A request has the conditions of the object it was read from. -/
theorem conditionTypes_of_understood (understood : Request.understood (.obj t) = .ok r) :
    (Json.obj t).conditionTypes = r.conditions.map fun c => .str c.type := by
  obtain ⟨-, -, -, -, status, -⟩ := checkMembers_eq_ok.mp (understood_obj_eq_ok.mp understood)
  unfold Json.conditionTypes
  rcases checkD_eq_ok status with ⟨missing, same⟩ | ⟨k, j, read, checked⟩
  · rw [Json.getD_eq_of_none (find?_of_read_none missing), conditions, same]
    rfl
  · rw [Json.getD_eq_of_some (find?_of_read_plain read)]
    rcases checkStatus_eq_ok.mp checked with ⟨rfl, same⟩ | ⟨m, rfl, checked⟩
    · rw [conditions, same]
      rfl
    · obtain ⟨checked, -⟩ := checkStatusMembers_eq_ok.mp checked
      rcases checkD_eq_ok checked with ⟨missing, same⟩ | ⟨k, j, read, checked⟩
      · rw [Json.getD_eq_of_none (find?_of_read_none missing), conditions, same]
        rfl
      · rw [Json.getD_eq_of_some (find?_of_read_plain read)]
        rcases checkConditions_eq_ok.mp checked with ⟨rfl, same⟩ | ⟨items, rfl, each⟩
        · rw [conditions, same]
          rfl
        · exact types_of_conditions each

/-- A decision is read from an object exactly when it is there. -/
theorem isDecided_of_understood (understood : Request.understood (.obj t) = .ok r) :
    (Json.obj t).isDecided = r.conditions.any Condition.isDecision := by
  have each (c : Condition) :
      (Json.str c.type == .str "Approved" || Json.str c.type == .str "Denied") = c.isDecision := by
    rw [Condition.isDecision, Bool.eq_iff_iff]
    simp
  rw [Json.isDecided_eq, conditionTypes_of_understood understood, List.any_map]
  simp only [Function.comp_def, each]

theorem isDecided_eq_false_iff (understood : Request.understood (.obj t) = .ok r) :
    (Json.obj t).isDecided = false ↔ r.resolution? = none := by
  rw [isDecided_of_understood understood, undecided_iff, List.any_eq_false]
  simp [Condition.isDecision]

/-- No event about a decided request is accepted. -/
theorem acceptsEvent_of_decided (decided : (Json.obj t).isDecided = true) :
    acceptsEvent (.obj t) = false := by
  unfold acceptsEvent
  cases understood : Request.understood (.obj t) with
  | error f => rfl
  | ok r =>
      have resolved : r.resolution? ≠ none := by
        rw [Ne, ← isDecided_eq_false_iff understood, decided]
        exact Bool.noConfusion
      simp [isEligible, Option.isNone_iff_eq_none, resolved]

/-- A request that is written with an approval has one condition more. -/
theorem conditionTypes_approve (r : Request) (now : Timestamp) (version : Json) :
    (withVersion (r.approve now).body version).conditionTypes =
      (r.conditions.map fun c => .str c.type) ++ [.str "Approved"] := by
  have type (c : Condition) : c.toJson.getD "type" = .str c.type := rfl
  change ((r.conditions ++ [Condition.approval now]).map Condition.toJson).map
    (fun c => c.getD "type") = _
  rw [List.map_map, List.map_append, List.map_singleton]
  simp only [Function.comp_def, type]
  rfl

/-- A request with an approval is decided, whatever its version. -/
theorem isDecided_approve (r : Request) (now : Timestamp) (version : Json) :
    (withVersion (r.approve now).body version).isDecided = true := by
  rw [Json.isDecided_eq, conditionTypes_approve]
  simp

end Request

/-- The members of a request that waits for its approval: more of its metadata, its conditions, and
others beside them. -/
def willing (metadata : Table Json) (conditions : List Json) (others : Table Json) : Table Json :=
  ("metadata", .obj (("name", .str "a") :: ("labels", .obj [(clusterNameLabel, .str "c")]) ::
      metadata)) ::
    ("spec", .obj [("username", .str (expectedUsername "c"))]) ::
    ("status", .obj [("conditions", .arr conditions)]) :: others

namespace Server

/-- A server with one request and one cluster. -/
def holding (t : Table Json) : Server :=
  { empty with requests := [("a", .obj t)], clusters := ["c"] }

theorem named_holding {t : Table Json} (own : nameOf (.obj t) = "a") : (holding t).Named := by
  intro name body found
  obtain ⟨rfl, rfl⟩ : name = "a" ∧ body = .obj t := by
    simpa [holding] using Table.mem_of_find? found
  exact ⟨own, t, rfl⟩

end Server

end BootstrapApproval
