import BootstrapApproval.Proofs.Request.Reread

/-! # The round trip of a request

Writing a request that was read from an object and reading it again gives the same typed fields and
the same written form exactly when the request can be written and no object of it hides a value.
-/

namespace BootstrapApproval

open FieldName

def FieldName.inside (f : FieldName) (t : Table Json) : List (Table Json) :=
  match f.read t with
  | some (_, .obj members) => [members]
  | _ => []

namespace Request

def conditionObjects (status : Table Json) : List (Table Json) :=
  match RequestStatus.conditionsField.read status with
  | some (_, .arr items) => items.map Json.members
  | _ => []

/-- The objects that a request is read from, each with its fields. -/
def objects (t : Table Json) : List (List FieldName × Table Json) :=
  (fields, t) :: (metadataField.inside t).map (Metadata.fields, ·)
    ++ (specField.inside t).map (RequestSpec.fields, ·)
    ++ (statusField.inside t).map (RequestStatus.fields, ·)
    ++ ((statusField.inside t).flatMap conditionObjects).map (Condition.fields, ·)

/-- Whether some object has a `null` under the own key of a field whose twin key holds a value. -/
def HidesValue (t : Table Json) : Prop :=
  ∃ o ∈ objects t, ∃ f ∈ o.1, f.isHidden o.2 = true

instance (t : Table Json) : Decidable (HidesValue t) :=
  inferInstanceAs (Decidable (∃ o ∈ objects t, _))

section Accepted

variable {t : Table Json} {r : Request}

theorem metadata_inside {m : Metadata} (checked : metadataField.check t checkMetadata = .ok m) :
    ∃ members, metadataField.inside t = [members] ∧ checkMetadataMembers members = .ok m := by
  obtain ⟨k, v, read, checked⟩ := check_eq_ok checked
  obtain ⟨members, rfl, checked⟩ := checkObject_eq_ok.mp checked
  exact ⟨members, by simp [inside, read], checked⟩

/-- The status was read from an object, or it is empty. -/
theorem status_inside {s : RequestStatus}
    (checked : statusField.checkD t .empty checkStatus = .ok s) :
    s = .empty ∧ (statusField.inside t).flatMap conditionObjects = [] ∨
      ∃ members, statusField.inside t = [members] ∧ checkStatusMembers members = .ok s := by
  rcases checkD_eq_ok checked with ⟨read, same⟩ | ⟨k, v, read, checked⟩
  · exact .inl ⟨same, by simp [inside, read]⟩
  · rcases checkStatus_eq_ok.mp checked with ⟨rfl, same⟩ | ⟨members, rfl, checked⟩
    · exact .inl ⟨same, by simp [inside, read]⟩
    · exact .inr ⟨members, by simp [inside, read], checked⟩

theorem conditions_inside {s : RequestStatus}
    (checked : statusField.checkD t .empty checkStatus = .ok s) :
    List.Forall₂ (fun members c => checkConditionMembers members = .ok c)
      ((statusField.inside t).flatMap conditionObjects) s.conditions := by
  rcases status_inside checked with ⟨rfl, none_⟩ | ⟨members, found, checked⟩
  · rw [none_]
    exact .nil
  · obtain ⟨checked, -⟩ := checkStatusMembers_eq_ok.mp checked
    rw [found, List.flatMap_singleton]
    rcases checkD_eq_ok checked with ⟨read, same⟩ | ⟨k, v, read, checked⟩
    · simp [conditionObjects, read, same]
    · rcases checkConditions_eq_ok.mp checked with ⟨rfl, same⟩ | ⟨items, rfl, each⟩
      · simp [conditionObjects, read, same]
      · simp only [conditionObjects, read]
        rw [List.forall₂_map_left_iff]
        refine each.imp fun a c checked => ?_
        obtain ⟨t, rfl, checked⟩ := checkObject_eq_ok.mp checked
        exact checked

/-- A request leaves every field its place when its metadata and its conditions do. -/
theorem settled_of_parts (accepted : understood (.obj t) = .ok r)
    (inMetadata : FieldName.Settled r.metadata.entries r.metadata.extra)
    (inConditions : ∀ c ∈ r.conditions, FieldName.Settled c.entries c.extra) : r.Settled := by
  obtain ⟨-, -, -, spec, status, extra⟩ :=
    checkMembers_eq_ok.mp (understood_obj_eq_ok.mp accepted)
  refine ⟨⟨apart, extra ▸ aside_leftover rfl t, ?_⟩, inMetadata, ?_, ?_, inConditions⟩
  · intro e member null
    simp only [entries, List.mem_cons, List.not_mem_nil, or_false] at member
    rcases member with rfl | rfl | rfl | rfl | rfl <;>
      simp [Metadata.toJson, RequestSpec.toJson, RequestStatus.toJson] at null
  · rcases checkD_eq_ok spec with ⟨-, same⟩ | ⟨k, v, -, checked⟩
    · exact RequestSpec.settled_of_checked (j := .null) (congrArg Checked.ok same.symm)
    · exact RequestSpec.settled_of_checked checked
  · rcases checkD_eq_ok status with ⟨-, same⟩ | ⟨k, v, -, checked⟩
    · exact RequestStatus.settled_of_checked (j := .null) (congrArg Checked.ok same.symm)
    · exact RequestStatus.settled_of_checked checked

/-- A request that was read from an object without hidden values leaves every field its place. -/
theorem settled_of_shown (accepted : understood (.obj t) = .ok r) (shown : ¬ HidesValue t) :
    r.Settled := by
  obtain ⟨-, -, metadata, -, status, -⟩ :=
    checkMembers_eq_ok.mp (understood_obj_eq_ok.mp accepted)
  have visible : ∀ o ∈ objects t, ∀ f ∈ o.1, f.isHidden o.2 = false := by
    intro o inside f member
    by_contra hidden
    exact shown ⟨o, inside, f, member, by simpa using hidden⟩
  refine settled_of_parts accepted ?_ ?_
  · obtain ⟨members, found, checked⟩ := metadata_inside metadata
    exact Metadata.settled_of_shown checked (visible (Metadata.fields, members) (by
      simp [objects, found]))
  · intro c member
    obtain ⟨members, inside, checked⟩ := Checked.source_of_mem (conditions_inside status) member
    exact Condition.settled_of_shown checked (visible (Condition.fields, members) (by
      simp only [objects, List.mem_append, List.mem_map]
      exact .inr ⟨members, inside, rfl⟩))

end Accepted

/-- Conditions that are the same when they are read back were read without hidden values. -/
theorem shown_of_conditions {sources : List (Table Json)} {first second : List Condition}
    (read : List.Forall₂ (fun members c => checkConditionMembers members = .ok c) sources first)
    (reread : List.Forall₂ (fun c d => checkConditionMembers c.members = .ok d) first second)
    (same : second.map Condition.typed = first.map Condition.typed) :
    ∀ members ∈ sources, ∀ f ∈ Condition.fields, f.isHidden members = false := by
  induction read generalizing second with
  | nil => simp
  | @cons source c sources first checked _ ih =>
      cases reread with
      | cons again rest =>
          obtain ⟨head, tail⟩ := List.cons.inj same
          intro members inside f member
          rcases List.mem_cons.mp inside with rfl | later
          · by_contra hidden
            exact Condition.typed_ne_of_hidden checked again
              ⟨f, member, by simpa using hidden⟩ head
          · exact ih rest tail members later f member

section Reread

variable {t : Table Json} {r again : Request}

/-- What is read back in the place of each section, whatever is kept aside. -/
theorem reread_sections (accepted : understood (.obj t) = .ok r)
    (reread : understood r.body = .ok again) :
    checkMetadata r.metadata.toJson = .ok again.metadata ∧
      checkSpec r.spec.toJson = .ok again.spec ∧ checkStatus r.status.toJson = .ok again.status ∧
      again.extra = leftover fields (FieldName.written r.entries r.extra) := by
  obtain ⟨-, -, -, -, -, extra⟩ := checkMembers_eq_ok.mp (understood_obj_eq_ok.mp accepted)
  obtain ⟨-, -, metadata, spec, status, extra'⟩ :=
    checkMembers_eq_ok.mp (understood_obj_eq_ok.mp (r.body_eq ▸ reread))
  have aside : ∀ e ∈ r.entries, r.extra.values e.1.key = [] := extra ▸ aside_leftover rfl t
  have distinct : (r.entries.map (·.1.key)).Nodup := apart.1
  have readMetadata := read_written distinct aside
    (show (metadataField, r.metadata.toJson) ∈ r.entries by simp [entries])
    (by simp [Metadata.toJson])
  have readSpec := read_written distinct aside
    (show (specField, r.spec.toJson) ∈ r.entries by simp [entries])
    (by simp [RequestSpec.toJson])
  have readStatus := read_written distinct aside
    (show (statusField, r.status.toJson) ∈ r.entries by simp [entries])
    (by simp [RequestStatus.toJson])
  exact ⟨check_of_read readMetadata metadata, checkD_of_read readSpec spec,
    checkD_of_read readStatus status, extra'⟩

/-- What is read back in the place of the metadata and of the conditions. -/
theorem reread_parts (accepted : understood (.obj t) = .ok r)
    (reread : understood r.body = .ok again) :
    checkMetadataMembers r.metadata.members = .ok again.metadata ∧
      List.Forall₂ (fun c d => checkConditionMembers c.members = .ok d) r.conditions
        again.conditions := by
  obtain ⟨-, -, -, -, status, -⟩ := checkMembers_eq_ok.mp (understood_obj_eq_ok.mp accepted)
  obtain ⟨metadata', -, status', -⟩ := reread_sections accepted reread
  have distinctStatus : (r.status.entries.map (·.1.key)).Nodup := RequestStatus.apart.1
  have asideStatus : ∀ e ∈ r.status.entries, r.status.extra.values e.1.key = [] := by
    rcases status_inside status with ⟨same, -⟩ | ⟨members, -, checked⟩
    · exact same ▸ fun _ _ => rfl
    · exact (checkStatusMembers_eq_ok.mp checked).2 ▸ aside_leftover rfl members
  have readConditions := read_written distinctStatus asideStatus
    (show (RequestStatus.conditionsField, .arr (r.conditions.map Condition.toJson)) ∈
      r.status.entries by simp [RequestStatus.entries, conditions])
    (by simp)
  have statusMembers : checkStatusMembers (FieldName.written r.status.entries r.status.extra) =
      .ok again.status := status'
  have items : List.Forall₂ (fun a d => checkCondition a = .ok d)
      (r.conditions.map Condition.toJson) again.conditions := by
    simpa [checkConditions_eq_ok, conditions] using
      checkD_of_read readConditions (checkStatusMembers_eq_ok.mp statusMembers).1
  exact ⟨metadata', List.forall₂_map_left_iff.mp items⟩

/-- A request that is the same when it is read back was read without hidden values. -/
theorem shown_of_same (accepted : understood (.obj t) = .ok r)
    (reread : understood r.body = .ok again) (same : again.typed = r.typed) : ¬ HidesValue t := by
  obtain ⟨apiVersion, -, metadata, -, status, -⟩ :=
    checkMembers_eq_ok.mp (understood_obj_eq_ok.mp accepted)
  obtain ⟨metadata', conditions'⟩ := reread_parts accepted reread
  obtain ⟨members, found, checked⟩ := metadata_inside metadata
  rintro ⟨o, inside, f, member, hidden⟩
  have two := (read_hides hidden).1
  simp only [objects, found, List.mem_append, List.mem_cons, List.mem_map, List.map_cons,
    List.map_nil, List.not_mem_nil, or_false] at inside
  rcases inside with (((rfl | rfl) | ⟨members, -, rfl⟩) | ⟨members, -, rfl⟩) | ⟨source, inside, rfl⟩
  · simp only [fields, List.mem_cons, List.not_mem_nil, or_false] at member
    rcases member with rfl | rfl | rfl | rfl | rfl
    · -- the version of the interface is never read from `null`
      obtain ⟨-, read, -⟩ := read_hides hidden
      simpa [checkText, Checked.fail] using checkD_of_read read apiVersion
    all_goals exact two rfl
  · exact Metadata.typed_ne_of_hidden checked metadata' ⟨f, member, hidden⟩
      (congrArg Request.metadata same)
  · obtain rfl : f = RequestSpec.usernameField := by simpa [RequestSpec.fields] using member
    exact two rfl
  · obtain rfl : f = RequestStatus.conditionsField := by
      simpa [RequestStatus.fields] using member
    exact two rfl
  · have shown := shown_of_conditions (conditions_inside status) conditions'
      (congrArg (fun r => r.status.conditions) same) source inside f member
    simp [shown] at hidden

/-- A request survives writing and reading exactly when it can be written and hides no value. -/
theorem roundTrip_iff (accepted : understood (.obj t) = .ok r) :
    (∃ body again, r.written = .ok body ∧ understood body = .ok again ∧
        again.typed = r.typed ∧ again.written = .ok body) ↔
      r.isWritable = true ∧ ¬ HidesValue t := by
  constructor
  · rintro ⟨body, again, written, reread, same, -⟩
    have writable : r.isWritable = true := by
      by_contra high
      simp [Request.written, high] at written
    rw [written_eq_ok written] at reread
    exact ⟨writable, shown_of_same accepted reread same⟩
  · rintro ⟨writable, shown⟩
    refine ⟨r.body, r.pruned, by simp [Request.written, writable],
      reread (settled_of_shown accepted shown), typed_pruned r, ?_⟩
    simp [Request.written, isWritable_pruned writable, body_pruned]

end Reread

/-- The members of a request with both keys of several fields, untyped members with nulls inside, a
condition in local time and a specification of which nothing is known. -/
def crowded : Table Json :=
  [("api_version", .str "certificates.k8s.io/v1"),
   ("metadata", .obj [("name", .str "a"), ("resource_version", .str "7"),
     ("resourceVersion", .str "8"), ("labels", .null), ("ownerReferences", .arr [.null])]),
   ("spec", .obj [("username", .null), ("usages", .null)]),
   ("status", .obj [("conditions", .arr [.obj [("type", .str "Failed"), ("status", .str "False"),
     ("last_update_time", .str "2024-05-01 12:00:00")]])])]

theorem roundTrip_crowded :
    ∃ r, understood (.obj crowded) = .ok r ∧
      ∃ body again, r.written = .ok body ∧ understood body = .ok again ∧
        again.typed = r.typed ∧ again.written = .ok body := by
  have writable : (understood (.obj crowded)).map isWritable = .ok true := rfl
  cases accepted : understood (.obj crowded) with
  | error f => simp [accepted, Except.map] at writable
  | ok r =>
      rw [accepted] at writable
      exact ⟨r, rfl, (roundTrip_iff accepted).mpr ⟨Except.ok.inj writable, by decide⟩⟩

/-- A request with an unknown member that is too high cannot be written. -/
theorem written_of_high {r : Request} {e : String × Json} (member : e ∈ r.extra)
    (high : maxHeight < e.2.height) : r.written = .error tooHigh := by
  have flat : isFlat r.extra = false := by
    rw [isFlat, List.all_eq_false]
    exact ⟨e, member, by simp; omega⟩
  simp [Request.written, isWritable, flat]

/-- Lists one in the other. -/
def nested : Nat → Json
  | 0 => .arr []
  | n + 1 => .arr [nested n]

theorem height_nested (n : Nat) : (nested n).height = n + 1 := by
  induction n with
  | zero => rfl
  | succ n ih => simp [nested, Json.height, Json.heightItems, ih]

/-- A request of which only the name is known, with a member beside its metadata and one inside. -/
def bare (beside inside : Table Json) : Request :=
  { apiVersion := Coordinates.requests.groupVersion, kind := requestKind,
    metadata := ⟨"a", none, none, [], none, inside⟩, spec := .empty, status := .empty,
    extra := beside }

/-- A deletion under the twin key comes to light when the `null` under the own key is gone. An
unknown member that is too high keeps a request from being written at all. -/
theorem roundTrip_fails :
    (∃ t r, understood (.obj t) = .ok r ∧ r.written = .ok r.body ∧ r.isDeleting = false ∧
      (understood r.body).map isDeleting = .ok true) ∧
    ∃ t r, understood (.obj t) = .ok r ∧ r.written = .error tooHigh := by
  constructor
  · exact ⟨[("metadata", .obj [("name", .str "a"), ("deletionTimestamp", .null),
        ("deletion_timestamp", .str "2024-05-01T12:00:00Z")])],
      bare [] [("deletion_timestamp", .str "2024-05-01T12:00:00Z")], rfl, rfl, rfl, rfl⟩
  · refine ⟨[("metadata", .obj [("name", .str "a")]), ("note", nested 255)],
      bare [("note", nested 255)] [], rfl, ?_⟩
    exact written_of_high (List.mem_singleton_self _) (by simp [height_nested, maxHeight])

end Request

end BootstrapApproval
