import BootstrapApproval.Proofs.Request.Fields
import BootstrapApproval.Request.Body
import Mathlib.Data.List.Forall2

/-! # What a read request was read from

A part of a request is read exactly when each of its fields is, and it keeps aside the members that
no field was read from.
-/

namespace BootstrapApproval

namespace Checked

variable {α : Type u} {β : Type v}

theorem indexed_eq_ok {check : α → Checked β} {n : Nat} {items : List α} {found : List β} :
    indexed check n items = .ok found ↔ List.Forall₂ (fun a b => check a = .ok b) items found := by
  induction items generalizing n found with
  | nil => cases found <;> simp [indexed]
  | cons a rest ih => cases found <;> simp [indexed, ih]

theorem all_eq_ok {check : α → Checked β} {items : List α} {found : List β} :
    all check items = .ok found ↔ List.Forall₂ (fun a b => check a = .ok b) items found := by
  induction items generalizing found with
  | nil => cases found <;> simp [all]
  | cons a rest ih => cases found <;> simp [all, ih]

theorem source_of_mem {R : α → β → Prop} {items : List α} {found : List β}
    (related : List.Forall₂ R items found) {b : β} (member : b ∈ found) : ∃ a ∈ items, R a b := by
  induction related with
  | nil => simp at member
  | @cons a _ rest _ head _ ih =>
      rcases List.mem_cons.mp member with rfl | later
      · exact ⟨a, List.mem_cons_self, head⟩
      · obtain ⟨a, inside, related⟩ := ih later
        exact ⟨a, List.mem_cons_of_mem _ inside, related⟩

end Checked

namespace Request

open FieldName

theorem checkObject_eq_ok {α : Type u} {check : Table Json → Checked α} {j : Json} {x : α} :
    checkObject check j = .ok x ↔ ∃ t, j = .obj t ∧ check t = .ok x := by
  cases j <;> simp [checkObject, Checked.fail]

theorem checkText_eq_ok {j : Json} {s : String} : checkText j = .ok s ↔ j = .str s := by
  cases j <;> simp [checkText, Checked.fail]

theorem checkText?_eq_ok {j : Json} {s : Option String} :
    checkText? j = .ok s ↔ j = .ofText? s := by
  cases j <;> cases s <;> simp [checkText?, Checked.fail, Json.ofText?]

theorem checkLabels_eq_ok {j : Json} {labels : Table String} :
    checkLabels j = .ok labels ↔
      j = .null ∧ labels = [] ∨ j = .obj (labels.map fun e => (e.1, .str e.2)) := by
  have item : ∀ (e : String × Json) (l : String × String),
      (((checkText e.2).map fun s => (e.1, s)).under (.key e.1) = .ok l) ↔
        e = (l.1, .str l.2) := by
    intro e l
    obtain ⟨k, v⟩ := e
    simp only [Checked.under_eq_ok, Checked.map_eq_ok, checkText_eq_ok]
    grind
  cases j with
  | obj members =>
      simp only [checkLabels, Checked.all_eq_ok, item, reduceCtorEq, false_and, false_or,
        Json.obj.injEq]
      rw [← List.forall₂_map_right_iff, List.forall₂_eq_eq_eq]
  | null => simp [checkLabels, eq_comm]
  | _ => simp [checkLabels, Checked.fail]

theorem checkConditionMembers_eq_ok {t : Table Json} {c : Condition} :
    checkConditionMembers t = .ok c ↔
      Condition.typeField.check t checkText = .ok c.type ∧
      Condition.statusField.checkD t conditionHolds checkText = .ok c.status ∧
      Condition.reasonField.checkD t none checkText? = .ok c.reason ∧
      Condition.messageField.checkD t none checkText? = .ok c.message ∧
      Condition.lastUpdateTimeField.checkD t none checkTimestamp? = .ok c.lastUpdateTime ∧
      Condition.lastTransitionTimeField.checkD t none checkTimestamp? =
        .ok c.lastTransitionTime ∧
      c.extra = leftover Condition.fields t := by
  cases c
  simp [checkConditionMembers]
  grind

theorem checkConditions_eq_ok {j : Json} {cs : List Condition} :
    checkConditions j = .ok cs ↔
      j = .null ∧ cs = [] ∨
        ∃ items, j = .arr items ∧ List.Forall₂ (fun a c => checkCondition a = .ok c) items cs := by
  cases j <;> simp [checkConditions, Checked.fail, Checked.indexed_eq_ok, eq_comm]

theorem checkMetadataMembers_eq_ok {t : Table Json} {m : Metadata} :
    checkMetadataMembers t = .ok m ↔
      Metadata.nameField.check t checkText = .ok m.name ∧
      Metadata.uidField.checkD t none checkText? = .ok m.uid ∧
      Metadata.resourceVersionField.checkD t none checkText? = .ok m.resourceVersion ∧
      Metadata.labelsField.checkD t [] checkLabels = .ok m.labels ∧
      Metadata.deletionTimestampField.checkD t none checkTimestamp? = .ok m.deletionTimestamp ∧
      m.extra = leftover Metadata.fields t := by
  cases m
  simp [checkMetadataMembers]
  grind

theorem checkSpecMembers_eq_ok {t : Table Json} {s : RequestSpec} :
    checkSpecMembers t = .ok s ↔
      RequestSpec.usernameField.checkD t none checkText? = .ok s.username ∧
      s.extra = leftover RequestSpec.fields t := by
  cases s
  simp [checkSpecMembers]
  grind

theorem checkStatusMembers_eq_ok {t : Table Json} {s : RequestStatus} :
    checkStatusMembers t = .ok s ↔
      RequestStatus.conditionsField.checkD t [] checkConditions = .ok s.conditions ∧
      s.extra = leftover RequestStatus.fields t := by
  cases s
  simp [checkStatusMembers]
  grind

theorem checkMembers_eq_ok {t : Table Json} {r : Request} :
    checkMembers t = .ok r ↔
      apiVersionField.checkD t Coordinates.requests.groupVersion checkText = .ok r.apiVersion ∧
      kindField.checkD t requestKind checkText = .ok r.kind ∧
      metadataField.check t checkMetadata = .ok r.metadata ∧
      specField.checkD t .empty checkSpec = .ok r.spec ∧
      statusField.checkD t .empty checkStatus = .ok r.status ∧
      r.extra = leftover fields t := by
  cases r
  simp [checkMembers]
  grind

theorem checkSpec_eq_ok {j : Json} {s : RequestSpec} :
    checkSpec j = .ok s ↔
      j = .null ∧ s = .empty ∨ ∃ t, j = .obj t ∧ checkSpecMembers t = .ok s := by
  cases j <;> simp [checkSpec, checkObject, Checked.fail, eq_comm]

theorem checkStatus_eq_ok {j : Json} {s : RequestStatus} :
    checkStatus j = .ok s ↔
      j = .null ∧ s = .empty ∨ ∃ t, j = .obj t ∧ checkStatusMembers t = .ok s := by
  cases j <;> simp [checkStatus, checkObject, Checked.fail, eq_comm]

/-- An object stands for a request exactly when its members do. -/
theorem understood_obj_eq_ok {t : Table Json} {r : Request} :
    understood (.obj t) = .ok r ↔ checkMembers t = .ok r := by
  simp only [understood, Body.object_obj, ofBody, checkObject]
  cases checkMembers t <;> simp

theorem exists_of_map_understood {body : Json} {f : Request → α} {x : α}
    (shown : (understood body).map f = .ok x) : ∃ r, understood body = .ok r ∧ f r = x := by
  cases result : understood body with
  | error e => simp [result, Except.map] at shown
  | ok r =>
      rw [result] at shown
      exact ⟨r, rfl, Except.ok.inj shown⟩

end Request

end BootstrapApproval
