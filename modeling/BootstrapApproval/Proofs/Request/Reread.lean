import BootstrapApproval.Proofs.Calendar.RoundTrip
import BootstrapApproval.Proofs.Request.Reading
import BootstrapApproval.Request.Writable

/-! # Written requests are read back

A request that is written and read again is the same request, except that members which were `null`
are gone. The one way to lose this is a field that is `null` under its own key while its twin key
holds a value: writing leaves the `null` out, and the next reading finds the twin.
-/

namespace BootstrapApproval

open FieldName

theorem Json.ofText?_eq_null {s : Option String} : Json.ofText? s = .null ↔ s = none := by
  cases s <;> simp [Json.ofText?]

theorem Timestamp.json?_eq_null {t : Option Timestamp} : Timestamp.json? t = .null ↔ t = none := by
  cases t <;> simp [Timestamp.json?]

namespace Request

theorem checkText?_ofText? (s : Option String) : checkText? (.ofText? s) = .ok s := by
  cases s <;> rfl

theorem checkTimestamp?_json? (t : Option Timestamp) :
    checkTimestamp? (Timestamp.json? t) = .ok t := by
  cases t with
  | none => rfl
  | some t => simp [Timestamp.json?, checkTimestamp?, Timestamp.ofJson_text]

/-- Only `null` counts as no timestamp. -/
theorem eq_null_of_checkTimestamp? {j : Json} (checked : checkTimestamp? j = .ok none) :
    j = .null := by
  cases j with
  | null => rfl
  | _ =>
      simp only [checkTimestamp?] at checked
      split at checked <;> simp [Checked.fail] at checked

theorem ofJson_of_checkTimestamp? {j : Json} {t : Timestamp}
    (checked : checkTimestamp? j = .ok (some t)) : Timestamp.ofJson j = .ok t := by
  cases j with
  | null => simp [checkTimestamp?] at checked
  | _ =>
      simp only [checkTimestamp?] at checked
      split at checked <;> simp_all [Checked.fail]

theorem eq_null_of_checkText? {j : Json} (checked : checkText? j = .ok none) : j = .null :=
  checkText?_eq_ok.mp checked

theorem checkLabels_written (labels : Table String) :
    checkLabels (.obj (labels.map fun e => (e.1, .str e.2))) = .ok labels :=
  checkLabels_eq_ok.mpr (.inr rfl)

end Request

namespace FieldName

section Optional

variable {α : Type} {f : FieldName} {t : Table Json} {check : Json → Checked (Option α)}

/-- A field without a value was read from `null`, or not at all. -/
theorem null_of_checkD_none (faithful : ∀ v, check v = .ok none → v = .null)
    (checked : f.checkD t none check = .ok none) :
    ∀ k v, f.read t = some (k, v) → v = .null := by
  intro k v read
  rcases checkD_eq_ok checked with ⟨none_, -⟩ | ⟨k', v', read', checked⟩
  · simp [none_] at read
  · obtain ⟨rfl, rfl⟩ : k' = k ∧ v' = v := by simpa [read] using read'.symm
    exact faithful _ checked

/-- A field without a value leaves no member aside that could take its place. -/
theorem clear_of_checkD {fs : List FieldName} (apart : Apart fs) (member : f ∈ fs)
    (two : f.key ≠ f.twin) (faithful : ∀ v, check v = .ok none → v = .null)
    (checked : f.checkD t none check = .ok none) (shown : f.isHidden t = false) :
    ((leftover fs t).values f.twin).filter (fun v => !v.isNull) = [] :=
  clear_of_not_hidden apart member two (null_of_checkD_none faithful checked) shown

theorem checkD_hidden (harmless : check .null = .ok none) (hidden : f.isHidden t = true)
    {x : Option α} (checked : f.checkD t none check = .ok x) : x = none := by
  obtain ⟨-, read, -⟩ := read_hides hidden
  rw [checkD, read] at checked
  simpa [harmless, Checked.under, eq_comm] using checked

/-- A hidden field has no value, but it has one when it is read again. -/
theorem ne_of_hidden {fs : List (FieldName × Json)} {names : List FieldName}
    (apart : Apart names) (named : fs.map Prod.fst = names) {write : Option α → Json}
    (absent : write none = .null) (harmless : check .null = .ok none)
    (faithful : ∀ v, check v = .ok none → v = .null) (hidden : f.isHidden t = true)
    {x y : Option α} (member : (f, write x) ∈ fs) (checked : f.checkD t none check = .ok x)
    (again : f.checkD (written fs (leftover names t)) none check = .ok y) : y ≠ x := by
  obtain rfl := checkD_hidden harmless hidden checked
  subst named
  rw [absent] at member
  obtain ⟨two, -, own, some_⟩ := read_hides hidden
  have inside : ∀ e ∈ fs, e.1 ∈ fs.map Prod.fst := fun e h => List.mem_map_of_mem h
  have aside : ∀ e ∈ fs, (leftover (fs.map Prod.fst) t).values e.1.key = [] :=
    fun e h => values_leftover_key (inside e h) t
  rw [← values_leftover_twin apart (inside _ member) two own] at some_
  obtain ⟨v, read, present⟩ := read_hidden apart aside member two some_
  rw [checkD, read, Checked.under_eq_ok] at again
  rintro rfl
  exact present (faithful v again)

end Optional

section Hidden

variable {names : List FieldName} {f : FieldName} {t : Table Json}

theorem clear_of_text? (apart : Apart names) (member : f ∈ names) (two : f.key ≠ f.twin)
    {s : Option String} (checked : f.checkD t none Request.checkText? = .ok s)
    (null : Json.ofText? s = .null) (shown : f.isHidden t = false) :
    ((leftover names t).values f.twin).filter (fun v => !v.isNull) = [] := by
  obtain rfl := Json.ofText?_eq_null.mp null
  exact clear_of_checkD apart member two (fun _ => Request.eq_null_of_checkText?) checked shown

theorem clear_of_timestamp? (apart : Apart names) (member : f ∈ names) (two : f.key ≠ f.twin)
    {time : Option Timestamp} (checked : f.checkD t none Request.checkTimestamp? = .ok time)
    (null : Timestamp.json? time = .null) (shown : f.isHidden t = false) :
    ((leftover names t).values f.twin).filter (fun v => !v.isNull) = [] := by
  obtain rfl := Timestamp.json?_eq_null.mp null
  exact clear_of_checkD apart member two (fun _ => Request.eq_null_of_checkTimestamp?) checked shown

variable {fs : List (FieldName × Json)}

theorem text?_ne_of_hidden (apart : Apart names) (named : fs.map Prod.fst = names)
    (hidden : f.isHidden t = true) {s s' : Option String} (member : (f, .ofText? s) ∈ fs)
    (checked : f.checkD t none Request.checkText? = .ok s)
    (again : f.checkD (written fs (leftover names t)) none Request.checkText? = .ok s') : s' ≠ s :=
  ne_of_hidden apart named rfl rfl (fun _ => Request.eq_null_of_checkText?) hidden member checked
    again

theorem timestamp?_ne_of_hidden (apart : Apart names) (named : fs.map Prod.fst = names)
    (hidden : f.isHidden t = true) {time time' : Option Timestamp}
    (member : (f, Timestamp.json? time) ∈ fs)
    (checked : f.checkD t none Request.checkTimestamp? = .ok time)
    (again : f.checkD (written fs (leftover names t)) none Request.checkTimestamp? = .ok time') :
    time' ≠ time :=
  ne_of_hidden apart named rfl rfl (fun _ => Request.eq_null_of_checkTimestamp?) hidden member
    checked again

end Hidden

section Reread

variable {fs : List (FieldName × Json)} {extra : Table Json} {f : FieldName}

theorem Settled.text (settled : Settled fs extra) {s : String} (member : (f, .str s) ∈ fs) :
    f.check (written fs extra) Request.checkText = .ok s :=
  settled.check member (by simp) rfl

theorem Settled.textD (settled : Settled fs extra) {s default : String}
    (member : (f, .str s) ∈ fs) :
    f.checkD (written fs extra) default Request.checkText = .ok s :=
  settled.checkD member (by simp) fun _ => rfl

theorem Settled.text? (settled : Settled fs extra) {s : Option String}
    (member : (f, .ofText? s) ∈ fs) :
    f.checkD (written fs extra) none Request.checkText? = .ok s :=
  settled.checkD member (fun none_ => (Json.ofText?_eq_null.mp none_).symm)
    fun _ => Request.checkText?_ofText? s

theorem Settled.timestamp? (settled : Settled fs extra) {t : Option Timestamp}
    (member : (f, Timestamp.json? t) ∈ fs) :
    f.checkD (written fs extra) none Request.checkTimestamp? = .ok t :=
  settled.checkD member (fun none_ => (Timestamp.json?_eq_null.mp none_).symm)
    fun _ => Request.checkTimestamp?_json? t

/-- Members kept aside never stand in the way of fields with one key each. -/
theorem Settled.of_plain (apart : Apart (fs.map Prod.fst))
    (aside : ∀ e ∈ fs, extra.values e.1.key = []) (plain : ∀ e ∈ fs, e.1.key = e.1.twin) :
    Settled fs extra :=
  ⟨apart, aside, fun e member _ two => absurd (plain e member) two⟩

theorem aside_leftover {names : List FieldName} (named : fs.map Prod.fst = names) (t : Table Json) :
    ∀ e ∈ fs, (leftover names t).values e.1.key = [] := by
  intro e member
  subst named
  exact values_leftover_key (List.mem_map_of_mem member) t

end Reread

end FieldName

namespace Condition

/-- The fields of a condition with the values they are written with. -/
def entries (c : Condition) : List (FieldName × Json) :=
  [(typeField, .str c.type), (statusField, .str c.status),
   (reasonField, .ofText? c.reason), (messageField, .ofText? c.message),
   (lastUpdateTimeField, Timestamp.json? c.lastUpdateTime),
   (lastTransitionTimeField, Timestamp.json? c.lastTransitionTime)]

theorem members_eq (c : Condition) : c.members = FieldName.written c.entries c.extra := rfl

/-- The condition without unknown members that are `null`. -/
def pruned (c : Condition) : Condition := { c with extra := withoutNulls c.extra }

/-- The typed fields alone. -/
def typed (c : Condition) : Condition := { c with extra := [] }

theorem apart : Apart fields := by decide

theorem reread {c : Condition} (settled : Settled c.entries c.extra) :
    Request.checkConditionMembers c.members = .ok c.pruned := by
  rw [Request.checkConditionMembers_eq_ok, members_eq]
  exact ⟨settled.text (by simp [entries, pruned]), settled.textD (by simp [entries, pruned]),
    settled.text? (by simp [entries, pruned]), settled.text? (by simp [entries, pruned]),
    settled.timestamp? (by simp [entries, pruned]),
    settled.timestamp? (by simp [entries, pruned]), settled.leftover.symm⟩

/-- A condition that was read without a hidden field is read back. -/
theorem settled_of_shown {t : Table Json} {c : Condition}
    (checked : Request.checkConditionMembers t = .ok c)
    (shown : ∀ f ∈ fields, f.isHidden t = false) : Settled c.entries c.extra := by
  obtain ⟨-, -, -, -, updated, changed, extra⟩ := Request.checkConditionMembers_eq_ok.mp checked
  refine ⟨apart, extra ▸ aside_leftover rfl t, ?_⟩
  · intro e member null two
    rw [extra]
    simp only [entries, List.mem_cons, List.not_mem_nil, or_false] at member
    rcases member with rfl | rfl | rfl | rfl | rfl | rfl
    · exact absurd rfl two
    · exact absurd rfl two
    · exact absurd rfl two
    · exact absurd rfl two
    · exact clear_of_timestamp? apart (by simp [fields]) two updated null
        (shown _ (by simp [fields]))
    · exact clear_of_timestamp? apart (by simp [fields]) two changed null
        (shown _ (by simp [fields]))

/-- A condition that was read with a hidden field is another one when it is read back. -/
theorem typed_ne_of_hidden {t : Table Json} {c again : Condition}
    (checked : Request.checkConditionMembers t = .ok c)
    (reread : Request.checkConditionMembers c.members = .ok again)
    (hidden : ∃ f ∈ fields, f.isHidden t = true) : again.typed ≠ c.typed := by
  obtain ⟨-, -, -, -, updated, changed, extra⟩ := Request.checkConditionMembers_eq_ok.mp checked
  obtain ⟨-, -, -, -, updated', changed', -⟩ := Request.checkConditionMembers_eq_ok.mp reread
  rw [members_eq, extra] at updated' changed'
  obtain ⟨f, member, hidden⟩ := hidden
  have two := (read_hides hidden).1
  intro same
  simp only [fields, List.mem_cons, List.not_mem_nil, or_false] at member
  rcases member with rfl | rfl | rfl | rfl | rfl | rfl
  · exact two rfl
  · exact two rfl
  · exact two rfl
  · exact two rfl
  · have kept := congrArg lastUpdateTime same
    exact timestamp?_ne_of_hidden apart rfl hidden (by simp [entries]) updated updated' kept
  · have kept := congrArg lastTransitionTime same
    exact timestamp?_ne_of_hidden apart rfl hidden (by simp [entries]) changed changed' kept

end Condition

namespace Metadata

def entries (m : Metadata) : List (FieldName × Json) :=
  [(nameField, .str m.name), (uidField, .ofText? m.uid),
   (resourceVersionField, .ofText? m.resourceVersion),
   (labelsField, .obj (m.labels.map fun e => (e.1, .str e.2))),
   (deletionTimestampField, Timestamp.json? m.deletionTimestamp)]

theorem members_eq (m : Metadata) : m.members = FieldName.written m.entries m.extra := rfl

/-- The metadata without unknown members that are `null`. -/
def pruned (m : Metadata) : Metadata := { m with extra := withoutNulls m.extra }

def typed (m : Metadata) : Metadata := { m with extra := [] }

theorem apart : Apart fields := by decide

theorem reread {m : Metadata} (settled : Settled m.entries m.extra) :
    Request.checkMetadataMembers m.members = .ok m.pruned := by
  rw [Request.checkMetadataMembers_eq_ok, members_eq]
  have labels : (labelsField, .obj (m.labels.map fun e => (e.1, .str e.2))) ∈ m.entries := by
    simp [entries]
  exact ⟨settled.text (by simp [entries, pruned]), settled.text? (by simp [entries, pruned]),
    settled.text? (by simp [entries, pruned]),
    settled.checkD labels (by simp) fun _ => Request.checkLabels_written m.labels,
    settled.timestamp? (by simp [entries, pruned]), settled.leftover.symm⟩

/-- Metadata that were read without a hidden field are read back. -/
theorem settled_of_shown {t : Table Json} {m : Metadata}
    (checked : Request.checkMetadataMembers t = .ok m)
    (shown : ∀ f ∈ fields, f.isHidden t = false) : Settled m.entries m.extra := by
  obtain ⟨-, -, version, -, deletion, extra⟩ := Request.checkMetadataMembers_eq_ok.mp checked
  refine ⟨apart, extra ▸ aside_leftover rfl t, ?_⟩
  · intro e member null two
    rw [extra]
    simp only [entries, List.mem_cons, List.not_mem_nil, or_false] at member
    rcases member with rfl | rfl | rfl | rfl | rfl
    · exact absurd rfl two
    · exact absurd rfl two
    · exact clear_of_text? apart (by simp [fields]) two version null (shown _ (by simp [fields]))
    · exact absurd rfl two
    · exact clear_of_timestamp? apart (by simp [fields]) two deletion null
        (shown _ (by simp [fields]))

/-- Metadata that were read with a hidden field are others when they are read back. -/
theorem typed_ne_of_hidden {t : Table Json} {m again : Metadata}
    (checked : Request.checkMetadataMembers t = .ok m)
    (reread : Request.checkMetadataMembers m.members = .ok again)
    (hidden : ∃ f ∈ fields, f.isHidden t = true) : again.typed ≠ m.typed := by
  obtain ⟨-, -, version, -, deletion, extra⟩ := Request.checkMetadataMembers_eq_ok.mp checked
  obtain ⟨-, -, version', -, deletion', -⟩ := Request.checkMetadataMembers_eq_ok.mp reread
  rw [members_eq, extra] at version' deletion'
  obtain ⟨f, member, hidden⟩ := hidden
  have two := (read_hides hidden).1
  intro same
  simp only [fields, List.mem_cons, List.not_mem_nil, or_false] at member
  rcases member with rfl | rfl | rfl | rfl | rfl
  · exact two rfl
  · exact two rfl
  · have kept := congrArg resourceVersion same
    exact text?_ne_of_hidden apart rfl hidden (by simp [entries]) version version' kept
  · exact two rfl
  · have kept := congrArg deletionTimestamp same
    exact timestamp?_ne_of_hidden apart rfl hidden (by simp [entries]) deletion deletion' kept

end Metadata

namespace RequestSpec

def entries (s : RequestSpec) : List (FieldName × Json) := [(usernameField, .ofText? s.username)]

theorem toJson_eq (s : RequestSpec) : s.toJson = .obj (FieldName.written s.entries s.extra) := rfl

/-- The specification without unknown members that are `null`. -/
def pruned (s : RequestSpec) : RequestSpec := { s with extra := withoutNulls s.extra }

def typed (s : RequestSpec) : RequestSpec := { s with extra := [] }

theorem apart : Apart fields := by decide

theorem settled_of_checked {j : Json} {s : RequestSpec} (checked : Request.checkSpec j = .ok s) :
    Settled s.entries s.extra := by
  refine Settled.of_plain apart ?_ ?_
  · rcases Request.checkSpec_eq_ok.mp checked with ⟨-, rfl⟩ | ⟨t, -, checked⟩
    · exact fun _ _ => rfl
    · exact (Request.checkSpecMembers_eq_ok.mp checked).2 ▸ aside_leftover rfl t
  · simp [entries, usernameField, plain]

theorem reread {s : RequestSpec} (settled : Settled s.entries s.extra) :
    Request.checkSpec s.toJson = .ok s.pruned := by
  rw [Request.checkSpec_eq_ok, toJson_eq]
  refine .inr ⟨_, rfl, Request.checkSpecMembers_eq_ok.mpr ?_⟩
  exact ⟨settled.text? (by simp [entries, pruned]), settled.leftover.symm⟩

end RequestSpec

namespace RequestStatus

def entries (s : RequestStatus) : List (FieldName × Json) :=
  [(conditionsField, .arr (s.conditions.map Condition.toJson))]

theorem toJson_eq (s : RequestStatus) : s.toJson = .obj (FieldName.written s.entries s.extra) := rfl

/-- The status without unknown members that are `null`. -/
def pruned (s : RequestStatus) : RequestStatus :=
  ⟨s.conditions.map Condition.pruned, withoutNulls s.extra⟩

def typed (s : RequestStatus) : RequestStatus := ⟨s.conditions.map Condition.typed, []⟩

theorem apart : Apart fields := by decide

theorem settled_of_checked {j : Json} {s : RequestStatus}
    (checked : Request.checkStatus j = .ok s) : Settled s.entries s.extra := by
  refine Settled.of_plain apart ?_ ?_
  · rcases Request.checkStatus_eq_ok.mp checked with ⟨-, rfl⟩ | ⟨t, -, checked⟩
    · exact fun _ _ => rfl
    · exact (Request.checkStatusMembers_eq_ok.mp checked).2 ▸ aside_leftover rfl t
  · simp [entries, conditionsField, plain]

theorem reread {s : RequestStatus} (settled : Settled s.entries s.extra)
    (conditions : ∀ c ∈ s.conditions, Settled c.entries c.extra) :
    Request.checkStatus s.toJson = .ok s.pruned := by
  have items : List.Forall₂ (fun a c => Request.checkCondition a = .ok c)
      (s.conditions.map Condition.toJson) (s.conditions.map Condition.pruned) := by
    rw [List.forall₂_map_left_iff, List.forall₂_map_right_iff, List.forall₂_same]
    exact fun c member => Condition.reread (conditions c member)
  have written : (conditionsField, .arr (s.conditions.map Condition.toJson)) ∈ s.entries := by
    simp [entries]
  rw [Request.checkStatus_eq_ok, toJson_eq]
  refine .inr ⟨_, rfl, Request.checkStatusMembers_eq_ok.mpr ⟨?_, settled.leftover.symm⟩⟩
  exact settled.checkD written (by simp) fun _ =>
    Request.checkConditions_eq_ok.mpr (.inr ⟨_, rfl, items⟩)

end RequestStatus

namespace Request

def entries (r : Request) : List (FieldName × Json) :=
  [(apiVersionField, .str r.apiVersion), (kindField, .str r.kind),
   (metadataField, r.metadata.toJson), (specField, r.spec.toJson), (statusField, r.status.toJson)]

theorem body_eq (r : Request) : r.body = .obj (FieldName.written r.entries r.extra) := rfl

/-- The request without unknown members that are `null`. -/
def pruned (r : Request) : Request :=
  { r with
    metadata := r.metadata.pruned, spec := r.spec.pruned, status := r.status.pruned,
    extra := withoutNulls r.extra }

/-- The typed fields alone, at every level. -/
def typed (r : Request) : Request :=
  { r with
    metadata := r.metadata.typed, spec := r.spec.typed, status := r.status.typed, extra := [] }

theorem apart : Apart fields := by decide

/-- Every object of a request leaves its fields their places when it is read again. -/
structure Settled (r : Request) : Prop where
  root : FieldName.Settled r.entries r.extra
  metadata : FieldName.Settled r.metadata.entries r.metadata.extra
  spec : FieldName.Settled r.spec.entries r.spec.extra
  status : FieldName.Settled r.status.entries r.status.extra
  conditions : ∀ c ∈ r.conditions, FieldName.Settled c.entries c.extra

theorem reread {r : Request} (settled : r.Settled) : understood r.body = .ok r.pruned := by
  have metadata : checkMetadata r.metadata.toJson = .ok r.metadata.pruned :=
    Metadata.reread settled.metadata
  have spec : checkSpec r.spec.toJson = .ok r.spec.pruned := RequestSpec.reread settled.spec
  have status : checkStatus r.status.toJson = .ok r.status.pruned :=
    RequestStatus.reread settled.status settled.conditions
  rw [body_eq, understood_obj_eq_ok, checkMembers_eq_ok]
  have inMetadata : (metadataField, r.metadata.toJson) ∈ r.entries := by simp [entries]
  have inSpec : (specField, r.spec.toJson) ∈ r.entries := by simp [entries]
  have inStatus : (statusField, r.status.toJson) ∈ r.entries := by simp [entries]
  exact ⟨settled.root.textD (by simp [entries, pruned]),
    settled.root.textD (by simp [entries, pruned]),
    settled.root.check inMetadata (by simp [Metadata.toJson]) metadata,
    settled.root.checkD inSpec (by simp [RequestSpec.toJson]) fun _ => spec,
    settled.root.checkD inStatus (by simp [RequestStatus.toJson]) fun _ => status,
    settled.root.leftover.symm⟩

theorem members_pruned_condition (c : Condition) : c.pruned.toJson = c.toJson := by
  simp [Condition.toJson, Condition.members, Condition.pruned, Table.withoutNulls_withoutNulls]

theorem body_pruned (r : Request) : r.pruned.body = r.body := by
  simp [body, pruned, Metadata.toJson, Metadata.members, Metadata.pruned, RequestSpec.toJson,
    RequestSpec.pruned, RequestStatus.toJson, RequestStatus.pruned,
    Table.withoutNulls_withoutNulls, Function.comp_def, members_pruned_condition]

theorem typed_pruned (r : Request) : r.pruned.typed = r.typed := by
  simp [typed, pruned, Metadata.typed, Metadata.pruned, RequestSpec.typed, RequestSpec.pruned,
    RequestStatus.typed, RequestStatus.pruned, Function.comp_def, Condition.typed,
    Condition.pruned]

theorem isFlat_withoutNulls {t : Table Json} (flat : isFlat t = true) :
    isFlat (withoutNulls t) = true := by
  simp only [isFlat, withoutNulls, List.all_eq_true, List.mem_filter] at flat ⊢
  exact fun e member => flat e member.1

theorem isWritable_pruned {r : Request} (writable : r.isWritable = true) :
    r.pruned.isWritable = true := by
  simp only [isWritable, Bool.and_eq_true, List.all_eq_true] at writable ⊢
  obtain ⟨⟨⟨⟨root, metadata⟩, spec⟩, status⟩, conditions⟩ := writable
  refine ⟨⟨⟨⟨isFlat_withoutNulls root, isFlat_withoutNulls metadata⟩, isFlat_withoutNulls spec⟩,
    isFlat_withoutNulls status⟩, ?_⟩
  intro c member
  obtain ⟨d, inside, rfl⟩ := List.mem_map.mp member
  exact isFlat_withoutNulls (conditions d inside)

end Request

end BootstrapApproval
