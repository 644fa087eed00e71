import BootstrapApproval.Proofs.Reconciler.Conclusions
import BootstrapApproval.Proofs.Request.RoundTrip

/-! # What writing a request changes

A request is written with what it was read from, member by member. For every field there is one rule
about what is written; a member that no field was read from keeps its key and its value, unless it
is `null`. An approval then differs from what was read by one condition more.
-/

namespace BootstrapApproval

open FieldName

/-- What a field of an object may be written with. -/
structure FieldRule where
  field : FieldName
  /-- What is written for a missing field. -/
  missing : Option Json
  /-- What is written for a value. -/
  writes : Json → Option Json → Prop

/-- Whether a written value follows the rule for the field that was read from an object. -/
def FieldRule.Allows (rule : FieldRule) (t : Table Json) (w : Option Json) : Prop :=
  match rule.field.read t with
  | none => w = rule.missing
  | some (_, v) => rule.writes v w

/-- An object is written again: each field under its own key, by its rule, and all other members as
they are, except those that are `null`. -/
structure Rewrites (rules : List FieldRule) (t t' : Table Json) : Prop where
  fields : ∀ rule ∈ rules, ∃ w, t'.values rule.field.key = w.toList ∧ rule.Allows t w
  others : ∀ k, (∀ rule ∈ rules, rule.field.key ≠ k) →
    t'.values k =
      if rules.any fun rule => rule.field.keyIn t == some k then []
      else (t.values k).filter fun v => !v.isNull

def Rewrites.objects (rules : List FieldRule) (a b : Json) : Prop :=
  ∃ t t', a = .obj t ∧ b = .obj t' ∧ Rewrites rules t t'

namespace FieldRule

def text (field : FieldName) (missing : Option Json) : FieldRule :=
  ⟨field, missing, fun v w => w = some v⟩

/-- A text or `null`. -/
def text? (field : FieldName) : FieldRule :=
  ⟨field, none, fun v w => w = if v.isNull then none else some v⟩

/-- A time is written in one form, whatever form it was read from. -/
def time? (field : FieldName) : FieldRule :=
  ⟨field, none, fun v w => v = .null ∧ w = none ∨
    ∃ time, Timestamp.ofJson v = .ok time ∧ w = some (.str time.text)⟩

def nested (field : FieldName) (rewrites : Json → Json → Prop) : FieldRule :=
  ⟨field, none, fun v w => ∃ v', w = some v' ∧ rewrites v v'⟩

/-- A value that is rewritten by a rule of its own; nothing counts as empty. -/
def orEmpty (field : FieldName) (empty : Json) (rewrites : Json → Json → Prop) : FieldRule :=
  ⟨field, some empty, fun v w => v = .null ∧ w = some empty ∨ ∃ v', w = some v' ∧ rewrites v v'⟩

end FieldRule

def Condition.rules : List FieldRule :=
  [.text typeField none, .text statusField (some (.str conditionHolds)),
   .text? reasonField, .text? messageField,
   .time? lastUpdateTimeField, .time? lastTransitionTimeField]

/-- Labels in the place of labels: the very same. -/
def Metadata.KeepsLabels (v v' : Json) : Prop := v' = v ∧ ∃ labels, v = .obj labels

def Metadata.rules : List FieldRule :=
  [.text nameField none, .text? uidField, .text? resourceVersionField,
   .orEmpty labelsField (.obj []) KeepsLabels, .time? deletionTimestampField]

def RequestSpec.rules : List FieldRule := [.text? usernameField]

/-- Conditions in the place of conditions: as many, in the same order. -/
def RequestStatus.RewritesConditions (v v' : Json) : Prop :=
  ∃ items items', v = .arr items ∧ v' = .arr items' ∧
    List.Forall₂ (Rewrites.objects Condition.rules) items items'

def RequestStatus.rules : List FieldRule := [.orEmpty conditionsField (.arr []) RewritesConditions]

def Request.rules : List FieldRule :=
  [.text apiVersionField (some (.str Coordinates.requests.groupVersion)),
   .text kindField (some (.str requestKind)),
   .nested metadataField (Rewrites.objects Metadata.rules),
   .orEmpty specField (.obj []) (Rewrites.objects RequestSpec.rules),
   .orEmpty statusField (.obj [(RequestStatus.conditionsField.key, .arr [])])
     (Rewrites.objects RequestStatus.rules)]

/-- A value that is written unless it is `null`. -/
def Json.present? (v : Json) : Option Json := if v.isNull then none else some v

namespace FieldRule

variable {t : Table Json} {f : FieldName}

theorem allows_of_checkD {α : Type} {rule : FieldRule} {check : Json → Checked α} {default x : α}
    {v : Json} (checked : rule.field.checkD t default check = .ok x)
    (missing : x = default → v.present? = rule.missing)
    (writes : ∀ j, check j = .ok x → rule.writes j v.present?) : rule.Allows t v.present? := by
  unfold Allows
  rcases checkD_eq_ok checked with ⟨read, same⟩ | ⟨k, j, read, checked⟩
  · rw [read]
    exact missing same
  · rw [read]
    exact writes j checked

theorem allows_of_check {α : Type} {rule : FieldRule} {check : Json → Checked α} {x : α} {v : Json}
    (checked : rule.field.check t check = .ok x)
    (writes : ∀ j, check j = .ok x → rule.writes j v.present?) : rule.Allows t v.present? := by
  obtain ⟨k, j, read, checked⟩ := check_eq_ok checked
  unfold Allows
  rw [read]
  exact writes j checked

theorem text_allows {s : String} (checked : f.check t Request.checkText = .ok s) :
    (text f none).Allows t (Json.str s).present? := by
  refine allows_of_check checked fun j checked => ?_
  rw [Request.checkText_eq_ok.mp checked]
  rfl

theorem textD_allows {s default : String}
    (checked : f.checkD t default Request.checkText = .ok s) :
    (text f (some (.str default))).Allows t (Json.str s).present? := by
  refine allows_of_checkD checked (fun same => by rw [same]; rfl) fun j checked => ?_
  rw [Request.checkText_eq_ok.mp checked]
  rfl

theorem text?_allows {s : Option String}
    (checked : f.checkD t none Request.checkText? = .ok s) :
    (text? f).Allows t (Json.ofText? s).present? := by
  refine allows_of_checkD checked (fun same => by rw [same]; rfl) fun j checked => ?_
  rw [Request.checkText?_eq_ok.mp checked]
  rfl

theorem time?_allows {time : Option Timestamp}
    (checked : f.checkD t none Request.checkTimestamp? = .ok time) :
    (time? f).Allows t (Timestamp.json? time).present? := by
  refine allows_of_checkD checked (fun same => by rw [same]; rfl) fun j checked => ?_
  cases time with
  | none => exact .inl ⟨Request.eq_null_of_checkTimestamp? checked, rfl⟩
  | some time => exact .inr ⟨time, Request.ofJson_of_checkTimestamp? checked, rfl⟩

theorem nested_allows {α : Type} {check : Json → Checked α} {rewrites : Json → Json → Prop} {x : α}
    {v : Json} (some_ : v.isNull = false) (checked : f.check t check = .ok x)
    (rewritten : ∀ j, check j = .ok x → rewrites j v) :
    (nested f rewrites).Allows t v.present? := by
  refine allows_of_check checked fun j checked => ⟨v, ?_, rewritten j checked⟩
  simp [Json.present?, some_]

theorem orEmpty_allows {α : Type} {check : Json → Checked α} {rewrites : Json → Json → Prop}
    {default x : α} {empty v : Json} (some_ : v.isNull = false)
    (checked : f.checkD t default check = .ok x) (missing : x = default → v = empty)
    (rewritten : ∀ j, check j = .ok x → j = .null ∧ x = default ∨ rewrites j v) :
    (orEmpty f empty rewrites).Allows t v.present? := by
  have written : v.present? = some v := by simp [Json.present?, some_]
  refine allows_of_checkD checked ?_ fun j checked => ?_
  · intro same
    rw [written, missing same]
    rfl
  · rcases rewritten j checked with ⟨null, same⟩ | follows
    · exact .inl ⟨null, by rw [written, missing same]⟩
    · exact .inr ⟨v, written, follows⟩

end FieldRule

/-- An object that is written with values its rules allow is rewritten by them. -/
theorem Rewrites.of_written {rules : List FieldRule} {fs : List (FieldName × Json)}
    {t extra : Table Json} (apart : Apart (fs.map Prod.fst))
    (kept : extra = leftover (fs.map Prod.fst) t)
    (allowed :
      List.Forall₂ (fun rule e => e.1 = rule.field ∧ rule.Allows t e.2.present?) rules fs) :
    Rewrites rules t (written fs extra) := by
  subst kept
  have named : rules.map (·.field) = fs.map Prod.fst := by
    rw [← List.forall₂_eq_eq_eq, List.forall₂_map_left_iff, List.forall₂_map_right_iff]
    exact allowed.imp fun _ _ follows => follows.1.symm
  have distinct : (fs.map (·.1.key)).Nodup := by simpa [Function.comp_def] using apart.1
  refine ⟨?_, ?_⟩
  · intro rule member
    obtain ⟨e, inside, same, allows⟩ := Checked.source_of_mem allowed.flip member
    refine ⟨e.2.present?, ?_, allows⟩
    rw [← same, values_written_key distinct (aside_leftover rfl t) (v := e.2) inside, Json.present?]
    split <;> rfl
  · intro k other
    have apartFrom : ∀ e ∈ fs, e.1.key ≠ k := by
      intro e inside
      have field : e.1 ∈ rules.map (·.field) := named ▸ List.mem_map_of_mem inside
      obtain ⟨rule, member, same⟩ := List.mem_map.mp field
      exact same ▸ other rule member
    rw [values_written_of_ne apartFrom, values_leftover, ← named, List.any_map]
    simp only [Function.comp_def]
    split <;> rfl

theorem Condition.rewrites {t : Table Json} {c : Condition}
    (checked : Request.checkConditionMembers t = .ok c) : Rewrites rules t c.members := by
  obtain ⟨type, status, reason, message, updated, changed, extra⟩ :=
    Request.checkConditionMembers_eq_ok.mp checked
  rw [members_eq]
  refine Rewrites.of_written apart extra ?_
  exact .cons ⟨rfl, FieldRule.text_allows type⟩ <| .cons ⟨rfl, FieldRule.textD_allows status⟩ <|
    .cons ⟨rfl, FieldRule.text?_allows reason⟩ <| .cons ⟨rfl, FieldRule.text?_allows message⟩ <|
    .cons ⟨rfl, FieldRule.time?_allows updated⟩ <| .cons ⟨rfl, FieldRule.time?_allows changed⟩ .nil

theorem Metadata.rewrites {t : Table Json} {m : Metadata}
    (checked : Request.checkMetadataMembers t = .ok m) : Rewrites rules t m.members := by
  obtain ⟨name, uid, version, labels, deletion, extra⟩ :=
    Request.checkMetadataMembers_eq_ok.mp checked
  have labels : (FieldRule.orEmpty labelsField (.obj []) KeepsLabels).Allows t
      (Json.obj (m.labels.map fun e => (e.1, .str e.2))).present? :=
    FieldRule.orEmpty_allows rfl labels (fun same => by rw [same]; rfl) fun j checked =>
      (Request.checkLabels_eq_ok.mp checked).imp id fun same => ⟨same.symm, _, same⟩
  rw [members_eq]
  refine Rewrites.of_written apart extra ?_
  exact .cons ⟨rfl, FieldRule.text_allows name⟩ <| .cons ⟨rfl, FieldRule.text?_allows uid⟩ <|
    .cons ⟨rfl, FieldRule.text?_allows version⟩ <| .cons ⟨rfl, labels⟩ <|
    .cons ⟨rfl, FieldRule.time?_allows deletion⟩ .nil

theorem RequestSpec.rewrites {t : Table Json} {s : RequestSpec}
    (checked : Request.checkSpecMembers t = .ok s) :
    Rewrites rules t (written s.entries s.extra) := by
  obtain ⟨username, extra⟩ := Request.checkSpecMembers_eq_ok.mp checked
  exact Rewrites.of_written apart extra (.cons ⟨rfl, FieldRule.text?_allows username⟩ .nil)

theorem RequestStatus.rewrites {t : Table Json} {s : RequestStatus}
    (checked : Request.checkStatusMembers t = .ok s) :
    Rewrites rules t (written s.entries s.extra) := by
  obtain ⟨conditions, extra⟩ := Request.checkStatusMembers_eq_ok.mp checked
  have conditions : (FieldRule.orEmpty conditionsField (.arr []) RewritesConditions).Allows t
      (Json.arr (s.conditions.map Condition.toJson)).present? := by
    refine FieldRule.orEmpty_allows rfl conditions (fun same => by rw [same]; rfl) ?_
    intro j checked
    refine (Request.checkConditions_eq_ok.mp checked).imp id ?_
    rintro ⟨items, same, each⟩
    refine ⟨items, _, same, rfl, List.forall₂_map_right_iff.mpr (each.imp fun item c checked => ?_)⟩
    obtain ⟨t, rfl, checked⟩ := Request.checkObject_eq_ok.mp checked
    exact ⟨t, c.members, rfl, rfl, Condition.rewrites checked⟩
  exact Rewrites.of_written apart extra (.cons ⟨rfl, conditions⟩ .nil)

namespace Request

variable {t : Table Json} {r : Request}

theorem rewrites (accepted : understood (.obj t) = .ok r) :
    Rewrites rules t (FieldName.written r.entries r.extra) := by
  obtain ⟨apiVersion, kind, metadata, spec, status, extra⟩ :=
    checkMembers_eq_ok.mp (understood_obj_eq_ok.mp accepted)
  have metadata : (FieldRule.nested metadataField (Rewrites.objects Metadata.rules)).Allows t
      r.metadata.toJson.present? := by
    refine FieldRule.nested_allows rfl metadata fun j checked => ?_
    obtain ⟨t, rfl, checked⟩ := checkObject_eq_ok.mp checked
    exact ⟨t, _, rfl, rfl, Metadata.rewrites checked⟩
  have spec : (FieldRule.orEmpty specField (.obj []) (Rewrites.objects RequestSpec.rules)).Allows t
      r.spec.toJson.present? :=
    FieldRule.orEmpty_allows rfl spec (fun same => by rw [same]; rfl) fun j checked =>
      (checkSpec_eq_ok.mp checked).imp id fun ⟨t, same, checked⟩ =>
        ⟨t, _, same, rfl, RequestSpec.rewrites checked⟩
  have status : (FieldRule.orEmpty statusField
      (.obj [(RequestStatus.conditionsField.key, .arr [])])
      (Rewrites.objects RequestStatus.rules)).Allows t r.status.toJson.present? :=
    FieldRule.orEmpty_allows rfl status (fun same => by rw [same]; rfl) fun j checked =>
      (checkStatus_eq_ok.mp checked).imp id fun ⟨t, same, checked⟩ =>
        ⟨t, _, same, rfl, RequestStatus.rewrites checked⟩
  refine Rewrites.of_written apart extra ?_
  exact .cons ⟨rfl, FieldRule.textD_allows apiVersion⟩ <|
    .cons ⟨rfl, FieldRule.textD_allows kind⟩ <| .cons ⟨rfl, metadata⟩ <| .cons ⟨rfl, spec⟩ <|
    .cons ⟨rfl, status⟩ .nil

/-- A body with one condition more, after all others. -/
def appended (body condition : Json) : Json :=
  let status := body.getD statusField.key
  let conditions := match status.getD RequestStatus.conditionsField.key with
    | .arr items => items ++ [condition]
    | _ => [condition]
  .obj (body.members.insert statusField.key
    (.obj (status.members.insert RequestStatus.conditionsField.key (.arr conditions))))

/-- The condition that an approval adds, as it is written. -/
def approvalJson (now : Timestamp) : Json :=
  .obj [("type", .str "Approved"), ("status", .str "True"), ("reason", .str approvalReason),
    ("message", .str approvalMessage), ("lastUpdateTime", .str now.text),
    ("lastTransitionTime", .str now.text)]

/-- An approval adds one condition and changes nothing else. -/
theorem body_approve (r : Request) (now : Timestamp) :
    (r.approve now).body = appended r.body (approvalJson now) := by
  have condition : (Condition.approval now).toJson = approvalJson now := rfl
  have conditions : (r.status.conditions ++ [Condition.approval now]).map Condition.toJson =
      r.status.conditions.map Condition.toJson ++ [approvalJson now] := by
    rw [List.map_append, List.map_singleton, condition]
  simp only [approve, addCondition, body, RequestStatus.toJson, conditions]
  rfl

/-- A request is written as it was read, but for what the rules of its fields allow. Its approval
adds one condition, and that is all that a reconciliation writes which has read this object. -/
theorem written_faithfully (accepted : understood (.obj t) = .ok r) :
    (∃ t', r.body = .obj t' ∧ Rewrites rules t t' ∧
      r.written = if r.isWritable then .ok (.obj t') else .error tooHigh) ∧
    (∀ now, (r.approve now).body = appended r.body (approvalJson now) ∧
      (r.approve now).written =
        if r.isWritable then .ok (appended r.body (approvalJson now)) else .error tooHigh) ∧
    ∀ (rc : Reconciler) (name : String) (s : State), (s.server.read name).1 = .ok (.obj t) →
      ∃ new, (rc.reconcile name s).2.outside.asked = s.outside.asked ++ new ∧
        ∀ n sent, Call.replace n sent ∈ new →
          ∃ now, (rc.now s).1 = .ok now ∧ n = r.name ∧
            sent = appended r.body (approvalJson now) := by
  refine ⟨⟨_, body_eq r, rewrites accepted, by rw [← body_eq]; rfl⟩, ?_, ?_⟩
  · intro now
    refine ⟨body_approve r now, ?_⟩
    rw [Request.written, isWritable_approve, body_approve]
  · intro rc name s answer
    obtain ⟨start, same, outside⟩ := rc.outside_reconcile name s
    have server : start.server = s.server := congrArg Outside.server same
    obtain ⟨new, asked, sends⟩ :=
      rc.sent_by_review name start (by rw [server]; exact answer) accepted
    refine ⟨new, ?_, ?_⟩
    · rw [outside, asked, same]
    · intro n sent member
      obtain ⟨now, shown, sameName, sameBody⟩ := sends n sent member
      refine ⟨now, ?_, sameName, sameBody.trans (body_approve r now)⟩
      rw [← rc.now_of_around (congrArg Outside.around same)]
      exact shown

/-- The members of a request that waits for its approval, with something untyped on every object. -/
def waiting : Table Json :=
  [("metadata", .obj [("name", .str "a"), ("resource_version", .str "7"),
     ("labels", .obj [(clusterNameLabel, .str "c")]), ("ownerReferences", .arr [.null])]),
   ("spec", .obj [("username", .str (expectedUsername "c")), ("usages", .null)]),
   ("status", .obj [("conditions", .arr [.obj [("type", .str "Failed"), ("status", .str "False"),
     ("last_update_time", .str "2024-05-01 12:00:00"), ("observed", .int 3)]])])]

def waitingServer : Server :=
  { Server.empty with requests := [("a", .obj waiting)], clusters := ["c"] }

theorem written_faithfully_waiting :
    ∃ r t', understood (.obj waiting) = .ok r ∧ r.written = .ok (.obj t') ∧
      Rewrites rules waiting t' ∧
      ∃ sent, Call.replace "a" sent ∈
          (Reconciler.steady.reconcile "a" (.steady waitingServer)).2.outside.asked ∧
        sent = appended (.obj t') (approvalJson .epoch) := by
  have writable : (understood (.obj waiting)).map isWritable = .ok true := rfl
  have writes : ∃ c ∈ (Reconciler.steady.reconcile "a" (.steady waitingServer)).2.outside.asked,
      c.writes "a" = true := by decide +kernel
  cases accepted : understood (.obj waiting) with
  | error f => simp [accepted, Except.map] at writable
  | ok r =>
      rw [accepted] at writable
      obtain ⟨⟨t', body, rewrites, written⟩, -, reconciled⟩ := written_faithfully accepted
      obtain ⟨new, asked, sends⟩ := reconciled .steady "a" (.steady waitingServer) rfl
      rw [if_pos (Except.ok.inj writable)] at written
      obtain ⟨c, member, isWrite⟩ := writes
      obtain ⟨sent, rfl⟩ := Call.writes_iff.mp isWrite
      refine ⟨r, t', rfl, written, rewrites, sent, member, ?_⟩
      rw [asked] at member
      obtain ⟨now, shown, -, sameBody⟩ := sends _ sent member
      obtain rfl : Timestamp.epoch = now := Except.ok.inj shown
      exact body ▸ sameBody

/-- A request with an unknown member that is too high is read, but not written. -/
theorem written_nowhere :
    ∃ t r, understood (.obj t) = .ok r ∧ ¬ ∃ t', r.written = .ok (.obj t') := by
  refine ⟨[("metadata", .obj [("name", .str "a")]), ("note", nested 255)],
    bare [("note", nested 255)] [], rfl, ?_⟩
  rintro ⟨t', written⟩
  rw [written_of_high (List.mem_singleton_self _) (by simp [height_nested, maxHeight])] at written
  simp at written

end Request

end BootstrapApproval
