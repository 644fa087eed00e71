import BootstrapApproval.Proofs.Request.RoundTrip
import BootstrapApproval.Proofs.Versions

/-! # Answers to writes

The server answers a write with what was written, under the next version. When the request was read
from a body that names every field in one way only, the answer stands for a request again.
-/

namespace BootstrapApproval

namespace FieldName

variable {α : Type u} {f : FieldName} {k : String}

/-- A field is read as before when something else is written. -/
theorem read_insert_of_ne (t : Table Json) (v : Json) (own : f.key ≠ k) (twin : f.twin ≠ k) :
    f.read (t.insert k v) = f.read t := by
  have used : f.keyIn (t.insert k v) = f.keyIn t := by
    unfold keyIn Table.has
    rw [Table.find?_insert_of_ne t v own, Table.find?_insert_of_ne t v twin]
  unfold read
  rw [used]
  cases place : f.keyIn t with
  | none => rfl
  | some place_ =>
      have other : place_ ≠ k := by
        rcases keyIn_cases place with rfl | ⟨rfl, -⟩
        · exact own
        · exact twin
      simp only [Option.bind_some, Table.find?_insert_of_ne t v other]

theorem check_insert_of_ne (t : Table Json) (v : Json) (check_ : Json → Checked α)
    (own : f.key ≠ k) (twin : f.twin ≠ k) :
    f.check (t.insert k v) check_ = f.check t check_ := by
  rw [check, check, read_insert_of_ne t v own twin]

theorem checkD_insert_of_ne (t : Table Json) (v : Json) (default : α) (check_ : Json → Checked α)
    (own : f.key ≠ k) (twin : f.twin ≠ k) :
    f.checkD (t.insert k v) default check_ = f.checkD t default check_ := by
  rw [checkD, checkD, read_insert_of_ne t v own twin]

/-- A field is read from what is written under its own key. -/
theorem read_insert_self (f : FieldName) (t : Table Json) (v : Json) :
    f.read (t.insert f.key v) = some (f.key, v) :=
  read_of_find? (Table.find?_insert_self t f.key v)

/-- What is kept aside from some fields is kept aside whatever values they have. -/
theorem Settled.aside_of_named {fs gs : List (FieldName × Json)} {extra : Table Json}
    (settled : Settled fs extra) (named : gs.map Prod.fst = fs.map Prod.fst) :
    ∀ e ∈ gs, extra.values e.1.key = [] := by
  intro e member
  have inside : e.1 ∈ fs.map Prod.fst := named ▸ List.mem_map_of_mem member
  obtain ⟨e', member', same⟩ := List.mem_map.mp inside
  rw [← same]
  exact settled.aside e' member'

end FieldName

namespace Request

open FieldName Server

section Answers

variable {t m : Table Json} {r : Request} {d : Metadata} {v : String}

theorem checkMetadataMembers_insert (checked : checkMetadataMembers m = .ok d) (v : String) :
    ∃ d', checkMetadataMembers (m.insert "resourceVersion" (.str v)) = .ok d' ∧
      d'.resourceVersion = some v := by
  obtain ⟨name, uid, -, labels, deletion, -⟩ := checkMetadataMembers_eq_ok.mp checked
  let inserted := m.insert Metadata.resourceVersionField.key (.str v)
  refine ⟨{ d with
    resourceVersion := some v, extra := leftover Metadata.fields inserted }, ?_, rfl⟩
  refine checkMetadataMembers_eq_ok.mpr ⟨?_, ?_, ?_, ?_, ?_, rfl⟩
  · exact (check_insert_of_ne m _ checkText (by decide) (by decide)).trans name
  · exact (checkD_insert_of_ne m _ none checkText? (by decide) (by decide)).trans uid
  · have read := Metadata.resourceVersionField.read_insert_self m (.str v)
    change Metadata.resourceVersionField.checkD inserted none checkText? = _
    rw [checkD, read]
    rfl
  · exact (checkD_insert_of_ne m _ [] checkLabels (by decide) (by decide)).trans labels
  · exact (checkD_insert_of_ne m _ none checkTimestamp? (by decide) (by decide)).trans deletion

/-- An object that stands for a request still does so under another version. -/
theorem understood_withVersion (understood : Request.understood (.obj t) = .ok r) (v : String) :
    ∃ r', Request.understood (withVersion (.obj t) (.str v)) = .ok r' ∧
      r'.metadata.resourceVersion = some v := by
  obtain ⟨m, inside, checked⟩ := metadata_of_understood understood
  obtain ⟨d, checked, version⟩ := checkMetadataMembers_insert checked v
  obtain ⟨apiVersion, kind, -, spec, status, -⟩ :=
    checkMembers_eq_ok.mp (understood_obj_eq_ok.mp understood)
  let versioned : Json := .obj (Table.insert m "resourceVersion" (.str v))
  have written : withVersion (.obj t) (.str v) = .obj (t.insert metadataField.key versioned) := by
    rw [withVersion, inside]
    rfl
  rw [written]
  refine ⟨{ r with
    metadata := d, extra := leftover fields (t.insert metadataField.key versioned) },
    understood_obj_eq_ok.mpr (checkMembers_eq_ok.mpr ⟨?_, ?_, ?_, ?_, ?_, rfl⟩), version⟩
  · exact (checkD_insert_of_ne t _ _ checkText (by decide) (by decide)).trans apiVersion
  · exact (checkD_insert_of_ne t _ requestKind checkText (by decide) (by decide)).trans kind
  · rw [check, metadataField.read_insert_self t, checkMetadata]
    simp only [checkObject, versioned, checked, Checked.under]
  · exact (checkD_insert_of_ne t _ RequestSpec.empty checkSpec (by decide) (by decide)).trans spec
  · exact (checkD_insert_of_ne t _ RequestStatus.empty checkStatus (by decide) (by decide)).trans
      status

theorem settled_approval (now : Timestamp) :
    FieldName.Settled (Condition.approval now).entries (Condition.approval now).extra :=
  ⟨Condition.apart, fun _ _ => rfl, fun _ _ _ _ => rfl⟩

/-- An approval leaves every field its place. -/
theorem Settled.approve (settled : r.Settled) (now : Timestamp) : (r.approve now).Settled := by
  refine ⟨⟨apart, ?_, ?_⟩, settled.metadata, settled.spec, ⟨RequestStatus.apart, ?_, ?_⟩, ?_⟩
  · exact settled.root.aside_of_named rfl
  · intro e member null
    simp only [entries, List.mem_cons, List.not_mem_nil, or_false] at member
    rcases member with rfl | rfl | rfl | rfl | rfl <;>
      simp [Metadata.toJson, RequestSpec.toJson, RequestStatus.toJson] at null
  · exact settled.status.aside_of_named rfl
  · intro e member null
    obtain rfl := List.mem_singleton.mp member
    cases null
  · intro c member
    rcases List.mem_append.mp member with before | added
    · exact settled.conditions c before
    · obtain rfl := List.mem_singleton.mp added
      exact settled_approval now

/-- What the server answers when it accepts an approval stands for a request. -/
theorem understood_answer (settled : r.Settled) (now : Timestamp) (v : String) :
    ∃ r', Request.understood (withVersion (r.approve now).body (.str v)) = .ok r' := by
  obtain ⟨r', understood, -⟩ := understood_withVersion (reread (settled.approve now)) v
  exact ⟨r', understood⟩

end Answers

section Twins

/-- Whether some object has a member under the twin key of a field. -/
def HasTwin (t : Table Json) : Prop :=
  ∃ o ∈ objects t, ∃ f ∈ o.1, f.twin ≠ f.key ∧ o.2.has f.twin = true

instance (t : Table Json) : Decidable (HasTwin t) :=
  inferInstanceAs (Decidable (∃ o ∈ objects t, _))

theorem hasTwin_of_hides {t : Table Json} (hides : HidesValue t) : HasTwin t := by
  obtain ⟨o, inside, f, member, hidden⟩ := hides
  obtain ⟨two, -, -, some_⟩ := read_hides hidden
  refine ⟨o, inside, f, member, two.symm, Table.has_iff.mpr fun none_ => ?_⟩
  rw [none_] at some_
  cases some_

/-- A request is read from the object that its body stands for. -/
theorem object_of_understood {body : Json} {r : Request}
    (understood : Request.understood body = .ok r) :
    ∃ t, Body.object body = .ok (.obj t) ∧ Request.understood (.obj t) = .ok r := by
  unfold Request.understood at understood
  cases object : Body.object body with
  | error m => simp [object] at understood
  | ok o =>
      simp only [object] at understood
      cases o with
      | obj t => exact ⟨t, rfl, understood⟩
      | _ => cases understood

/-- Whether a body names every field in one way only, wherever it is read as a request. -/
def IsTwinless (body : Json) : Prop := ∀ o, Body.object body = .ok o → ¬ HasTwin o.members

instance (body : Json) : Decidable (IsTwinless body) :=
  match object : Body.object body with
  | .error _ => isTrue fun _ same => nomatch object.symm.trans same
  | .ok o =>
      decidable_of_iff (¬ HasTwin o.members)
        ⟨fun single _ same => Except.ok.inj (object.symm.trans same) ▸ single,
          fun twinless => twinless o object⟩

theorem settled_of_twinless {body : Json} {r : Request} (twinless : IsTwinless body)
    (understood : Request.understood body = .ok r) : r.Settled := by
  obtain ⟨t, object, understood⟩ := object_of_understood understood
  exact settled_of_shown understood fun hides => twinless (.obj t) object (hasTwin_of_hides hides)

end Twins

end Request

/-- Every stored body names its fields in one way only. -/
def Server.IsTwinless (s : Server) : Prop := ∀ e ∈ s.requests, Request.IsTwinless e.2

instance (s : Server) : Decidable s.IsTwinless :=
  inferInstanceAs (Decidable (∀ e ∈ s.requests, Request.IsTwinless e.2))

/-- When a request was read from such a server, and its approval is accepted by whatever the server
has become, the answer stands for a request. -/
theorem Server.IsTwinless.understood_accepted {s t : Server} (twinless : s.IsTwinless)
    {name other : String} {body written : Json} {r : Request} {now : Timestamp}
    (answer : (s.read name).1 = .ok body) (understood : Request.understood body = .ok r)
    (accepted : (t.replace other (r.approve now).body).1 = .ok written) :
    ∃ again, Request.understood written = .ok again := by
  have member := Table.mem_of_find? (read_eq_ok answer)
  have settled := Request.settled_of_twinless (twinless _ member) understood
  obtain ⟨stored, -, -, rfl, -⟩ := replace_eq_ok accepted
  obtain ⟨v, next⟩ := nextVersion_eq_str (versionOf stored)
  rw [next]
  exact Request.understood_answer settled now v

end BootstrapApproval
