import BootstrapApproval.Eligibility
import BootstrapApproval.Proofs.Request.Reading
import BootstrapApproval.Request.Writable
import BootstrapApproval.Server

/-! # Versions

The version a request was read with is the version it is written with, and the server accepts a
write only over that version.
-/

namespace BootstrapApproval

namespace Server

variable {s : Server} {name : String} {body : Json}

@[simp] theorem versionOf_withVersion (body version : Json) :
    versionOf (withVersion body version) = version := by
  simp [versionOf, withVersion, Json.getD, Json.get?, Json.members]

@[simp] theorem nameOf_withVersion (body version : Json) :
    nameOf (withVersion body version) = nameOf body := by
  have other : "name" ≠ "resourceVersion" := by decide
  simp [nameOf, withVersion, Json.getD, Json.get?, Json.members, Table.find?_insert_of_ne _ _ other]

theorem nextVersion_eq_str (version : Json) : ∃ v, nextVersion version = .str v := by
  unfold nextVersion
  split
  · split <;> exact ⟨_, rfl⟩
  · exact ⟨_, rfl⟩

/-- Every request is stored as an object, under its own name. -/
def Named (s : Server) : Prop :=
  ∀ name body, s.requests.find? name = some body → nameOf body = name ∧ ∃ t, body = .obj t

theorem read_eq_ok {b : Json} (answered : (s.read name).1 = .ok b) :
    s.requests.find? name = some b := by
  unfold read at answered
  cases faults : s.readFaults with
  | cons f rest => simp [faults] at answered
  | nil =>
      cases found : s.requests.find? name with
      | none => simp [faults, found] at answered
      | some stored => simpa [faults, found] using answered

/-- An accepted write was made from the stored version, and it is stored with the next one. -/
theorem replace_eq_ok {answer : Json} (accepted : (s.replace name body).1 = .ok answer) :
    ∃ stored, s.requests.find? name = some stored ∧
      accepts ((body.getD "metadata").get? "resourceVersion") (versionOf stored) = true ∧
      answer = withVersion body (nextVersion (versionOf stored)) ∧
      (s.replace name body).2 = s.storeAs name answer := by
  unfold replace at accepted ⊢
  cases faults : s.replaceFaults with
  | cons f rest => simp [faults] at accepted
  | nil =>
      cases found : s.requests.find? name with
      | none => simp [faults, found] at accepted
      | some stored =>
          by_cases current :
              accepts ((body.getD "metadata").get? "resourceVersion") (versionOf stored) = true
          · simp only [faults, found, current, if_true] at accepted ⊢
            obtain rfl := Except.ok.inj accepted
            exact ⟨stored, rfl, current, rfl, rfl⟩
          · simp [faults, found, current] at accepted

/-- A write that is not accepted changes no request. -/
theorem requests_replace_of_error {f : Fault} (refused : (s.replace name body).1 = .error f) :
    (s.replace name body).2.requests = s.requests := by
  unfold replace at refused ⊢
  split
  · rfl
  · split
    · rfl
    · split
      · simp_all
      · rfl

/-- A write that was made from another version ends in a conflict. -/
theorem replace_of_stale {stored : Json} (calm : s.replaceFaults = [])
    (found : s.requests.find? name = some stored)
    (stale : accepts ((body.getD "metadata").get? "resourceVersion") (versionOf stored) = false) :
    s.replace name body = (.error conflict, s) := by
  simp [replace, calm, found, stale]

end Server

theorem Json.getD_eq_str {j : Json} {key s : String} :
    j.getD key = .str s ↔ j.get? key = some (.str s) := by
  unfold Json.getD
  cases j.get? key <;> simp

namespace FieldName

theorem read_of_find? {f : FieldName} {t : Table Json} {v : Json} (found : t.find? f.key = some v) :
    f.read t = some (f.key, v) := by
  simp [read, keyIn, Table.has, found]

theorem find?_of_read_plain {key k : String} {t : Table Json} {v : Json}
    (read : (plain key).read t = some (k, v)) : t.find? key = some v := by
  cases found : t.find? key with
  | none => simp [FieldName.read, keyIn, plain, Table.has, found] at read
  | some w =>
      rw [read_of_find? (f := plain key) found] at read
      exact congrArg some (Prod.mk.inj (Option.some.inj read)).2

theorem find?_of_read_none {key : String} {t : Table Json} (missing : (plain key).read t = none) :
    t.find? key = none := by
  cases found : t.find? key with
  | none => rfl
  | some v => simp [read_of_find? (f := plain key) found] at missing

end FieldName

/-- What is written names the version that was read. -/
theorem Metadata.version_toJson {m : Metadata} {v : String} (version : m.resourceVersion = some v) :
    m.toJson.get? "resourceVersion" = some (.str v) := by
  obtain ⟨name, uid, resourceVersion, labels, deletion, extra⟩ := m
  subst version
  cases uid <;> rfl

namespace Request

open FieldName Server

theorem metadata_of_understood {t : Table Json} {r : Request}
    (understood : Request.understood (.obj t) = .ok r) :
    ∃ m, (Json.obj t).getD "metadata" = .obj m ∧ checkMetadataMembers m = .ok r.metadata := by
  obtain ⟨-, -, metadata, -⟩ := checkMembers_eq_ok.mp (understood_obj_eq_ok.mp understood)
  obtain ⟨k, j, read, checked⟩ := check_eq_ok metadata
  obtain ⟨m, rfl, checked⟩ := checkObject_eq_ok.mp checked
  refine ⟨m, ?_, checked⟩
  simp [Json.getD, Json.get?, Json.members, find?_of_read_plain read]

theorem name_of_understood {t : Table Json} {r : Request}
    (understood : Request.understood (.obj t) = .ok r) : r.name = nameOf (.obj t) := by
  obtain ⟨m, inside, checked⟩ := metadata_of_understood understood
  obtain ⟨name, -⟩ := checkMetadataMembers_eq_ok.mp checked
  obtain ⟨k, j, read, checked⟩ := check_eq_ok name
  obtain rfl := checkText_eq_ok.mp checked
  have own : (Json.obj m).getD "name" = .str r.name :=
    Json.getD_eq_str.mpr (find?_of_read_plain read)
  rw [nameOf, inside, own]
  rfl

/-- A body with a version is an object, and it is read with this version and with its own name. -/
theorem version_of_understood {b : Json} {r : Request} {v : String}
    (understood : Request.understood b = .ok r) (version : versionOf b = .str v) :
    r.metadata.resourceVersion = some v ∧ r.name = nameOf b := by
  cases b with
  | obj t =>
      obtain ⟨m, inside, checked⟩ := metadata_of_understood understood
      obtain ⟨-, -, resourceVersion, -⟩ := checkMetadataMembers_eq_ok.mp checked
      rw [versionOf, inside, Json.getD_eq_str] at version
      have same := checkD_of_read
        (read_of_find? (f := Metadata.resourceVersionField) version) resourceVersion
      exact ⟨(Checked.ok.inj same).symm, name_of_understood understood⟩
  | _ => simp [versionOf, Json.getD, Json.get?, Json.members] at version

theorem version_body {r : Request} {v : String} (version : r.metadata.resourceVersion = some v) :
    (r.body.getD "metadata").get? "resourceVersion" = some (.str v) :=
  Metadata.version_toJson version

theorem nameOf_body (r : Request) : nameOf r.body = r.name := rfl

end Request

end BootstrapApproval
