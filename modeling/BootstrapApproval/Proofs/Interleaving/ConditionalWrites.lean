import BootstrapApproval.Proofs.Interleaving.Origins
import BootstrapApproval.Proofs.Request.Decisions
import BootstrapApproval.Proofs.Request.Reread

/-! # Writes on a condition

A write names the version that was read, so it fails when another version is stored by then. But a
request can be read without a version. Then its approval names none, and it is stored over whatever
is there.
-/

namespace BootstrapApproval

open Server

/-- Written metadata names a version exactly when a version was read. -/
theorem Metadata.get?_version {t : Table Json} {m : Metadata}
    (checked : Request.checkMetadataMembers t = .ok m) :
    m.toJson.get? "resourceVersion" = m.resourceVersion.map .str := by
  obtain ⟨-, -, -, -, -, extra⟩ := Request.checkMetadataMembers_eq_ok.mp checked
  have distinct : (m.entries.map (·.1.key)).Nodup := apart.1
  have member : (resourceVersionField, Json.ofText? m.resourceVersion) ∈ m.entries := by
    simp [entries]
  have aside : ∀ e ∈ m.entries, m.extra.values e.1.key = [] :=
    extra ▸ FieldName.aside_leftover rfl t
  have values := FieldName.values_written_key distinct aside member
  change Table.find? m.members resourceVersionField.key = _
  rw [Table.find?_eq_head, members_eq, values]
  cases m.resourceVersion <;> rfl

namespace Request

variable {body : Json} {r : Request}

theorem metadata_checked (understood : Request.understood body = .ok r) :
    ∃ m, checkMetadataMembers m = .ok r.metadata := by
  unfold Request.understood at understood
  cases object : Body.object body with
  | error misfit => simp [object] at understood
  | ok o =>
      cases checked : ofBody o with
      | bad problems => simp [object, checked] at understood
      | ok q =>
          simp only [object, checked, Except.ok.injEq] at understood
          subst understood
          obtain ⟨t, rfl, members⟩ := checkObject_eq_ok.mp checked
          obtain ⟨-, -, metadata, -⟩ := checkMembers_eq_ok.mp members
          obtain ⟨k, j, -, inner⟩ := FieldName.check_eq_ok metadata
          obtain ⟨m, rfl, inside⟩ := checkObject_eq_ok.mp inner
          exact ⟨m, inside⟩

/-- An approval names the version that was read, if there was one. -/
theorem version_approve (understood : Request.understood body = .ok r) (now : Timestamp) :
    ((r.approve now).body.getD "metadata").get? "resourceVersion" =
      r.metadata.resourceVersion.map .str := by
  obtain ⟨m, checked⟩ := metadata_checked understood
  exact Metadata.get?_version checked

end Request

namespace Server

variable {s : Server} {name : String} {body stored : Json}

theorem accepts_of_ne {v : String} (other : versionOf stored ≠ .str v) :
    accepts (some (.str v)) (versionOf stored) = false :=
  beq_eq_false_iff_ne.mpr (Ne.symm other)

/-- A write that names a version leaves every other version stored. -/
theorem requests_replace_of_other {v : String}
    (names : (body.getD "metadata").get? "resourceVersion" = some (.str v))
    (found : s.requests.find? name = some stored) (other : versionOf stored ≠ .str v) :
    (s.replace name body).2.requests = s.requests := by
  cases answered : (s.replace name body).1 with
  | error f => exact requests_replace_of_error answered
  | ok answer =>
      obtain ⟨stored', found', current, -⟩ := replace_eq_ok answered
      obtain rfl := Option.some.inj (found.symm.trans found')
      rw [names, accepts_of_ne other] at current
      cases current

/-- A write that names no version is stored over any other. -/
theorem replace_of_unnamed (names : (body.getD "metadata").get? "resourceVersion" = none)
    (calm : s.replaceFaults = []) (found : s.requests.find? name = some stored) :
    s.replace name body =
      (.ok (withVersion body (nextVersion (versionOf stored))),
        s.storeAs name (withVersion body (nextVersion (versionOf stored)))) := by
  simp [replace, calm, found, names, accepts]

end Server

/-- A write for one version: it names this version, and as long as another one is stored nothing
comes of it but a conflict. -/
structure Exchange.Conditional (x : Exchange) (name : String) (sent : Json) (v : String) : Prop
    where
  names : (sent.getD "metadata").get? "resourceVersion" = some (.str v)
  spares : ∀ stored, x.before.requests.find? name = some stored → versionOf stored ≠ .str v →
    x.after.requests = x.before.requests
  conflicts : ∀ stored, x.before.requests.find? name = some stored → versionOf stored ≠ .str v →
    x.before.replaceFaults = [] → x.answer = .error conflict ∧ x.after = x.before ∧
      ∃ e, x.left = .ended (.error e) ∧
        e.fault = .operator (.conflict Coordinates.requests.plural name (some "ApiException"))

/-- A write for no version: it names none, and it is stored over whatever is there. -/
structure Exchange.Blind (x : Exchange) (name : String) (sent : Json) : Prop where
  names : (sent.getD "metadata").get? "resourceVersion" = none
  overwrites : ∀ stored, x.before.requests.find? name = some stored → x.before.replaceFaults = [] →
    x.after = x.before.storeAs name (withVersion sent (nextVersion (versionOf stored)))

namespace Exchange.Origin

variable {earlier : List Exchange} {x : Exchange} {name sentTo : String} {sent body : Json}
  {r : Request}

theorem names (origin : x.Origin earlier name sentTo sent body r) :
    (sent.getD "metadata").get? "resourceVersion" = r.metadata.resourceVersion.map .str := by
  obtain ⟨now, rfl⟩ := origin.made
  exact Request.version_approve origin.watch.understood now

theorem conditional (origin : x.Origin earlier name sentTo sent body r)
    (call : x.call = .replace sentTo sent) {v : String}
    (version : r.metadata.resourceVersion = some v) : x.Conditional sentTo sent v := by
  have names : (sent.getD "metadata").get? "resourceVersion" = some (.str v) := by
    rw [origin.names, version]
    rfl
  refine ⟨names, ?_, ?_⟩
  · intro stored found other
    rw [origin.after]
    exact requests_replace_of_other names found other
  · intro stored found other calm
    have stale : accepts ((sent.getD "metadata").get? "resourceVersion") (versionOf stored) =
        false := by rw [names, accepts_of_ne other]
    have refused := replace_of_stale calm found stale
    have answer : x.answer = .error conflict := by
      rw [Exchange.answer, call]
      exact congrArg Prod.fst refused
    have left := origin.left
    rw [answer] at left
    exact ⟨answer, by rw [origin.after, refused], _, left, rfl⟩

theorem blind (origin : x.Origin earlier name sentTo sent body r)
    (version : r.metadata.resourceVersion = none) : x.Blind sentTo sent := by
  have names : (sent.getD "metadata").get? "resourceVersion" = none := by
    rw [origin.names, version]
    rfl
  refine ⟨names, ?_⟩
  intro stored found calm
  rw [origin.after, replace_of_unnamed names calm found]

end Exchange.Origin

/-- Whatever reviews and others do, every write goes back to a read of the same review. It is a
conditional one when a version was read, and a blind one otherwise. -/
theorem writes_conditional_on_version {s : Server} {moves : List Move} {front back : List Exchange}
    {x : Exchange} (happened : ((World.opened s).run moves).trace = front ++ x :: back)
    {name : String} {sent : Json} (call : x.call = .replace name sent) :
    ∃ y ∈ front, y.flight = x.flight ∧ ∃ asked body r, y.call = .read asked ∧
      y.answer = .ok body ∧ Request.understood body = .ok r ∧ name = r.name ∧
      (∀ v, versionOf body = .str v → r.metadata.resourceVersion = some v) ∧
      (∀ v, r.metadata.resourceVersion = some v → x.Conditional name sent v) ∧
      (r.metadata.resourceVersion = none → x.Blind name sent) := by
  obtain ⟨asked, body, r, origin⟩ :=
    ((World.Traced.opened s).run moves).writes front x back happened name sent call
  obtain ⟨y, earlier, same, reads, answered⟩ := origin.watch.read
  exact ⟨y, earlier, same, asked, body, r, reads, answered, origin.watch.understood, origin.own,
    fun v version => (Request.version_of_understood origin.watch.understood version).1,
    fun v version => origin.conditional call version, origin.blind⟩

def denial : Json := .obj [("type", .str "Denied"), ("status", .str "True")]

/-- A request is read, then it is denied, and then the review goes on. -/
def denialBetween (denied : Table Json) : List Move :=
  [.start .steady "a", .advance 0 (.steady .empty), .edit (.holding denied),
   .advance 0 (.steady .empty), .advance 0 (.steady .empty)]

/-- The trace of a review of a request that is denied meanwhile. -/
def denialTrace (before denied : Table Json) : List Exchange :=
  ((World.opened (.holding (willing before [] []))).run
    (denialBetween (willing denied [denial] []))).trace

def Server.types (s : Server) (name : String) : List Json :=
  ((s.requests.find? name).map Json.conditionTypes).getD []

/-- With versions, the denial stays. -/
theorem writes_conditional_on_version_denied :
    ∃ x ∈ denialTrace [("resourceVersion", .str "7")] [("resourceVersion", .str "8")],
      ∃ sent, x.call = .replace "a" sent ∧ x.Conditional "a" sent "7" ∧
        x.answer = .error conflict ∧ x.after.types "a" = [.str "Denied"] := by
  obtain ⟨x, member, call, answer, types⟩ :
      ∃ x ∈ denialTrace [("resourceVersion", .str "7")] [("resourceVersion", .str "8")],
        x.call.writes "a" = true ∧ x.refusal? = some conflict ∧
          x.after.types "a" = [.str "Denied"] := by decide +kernel
  have versions : ∀ y ∈ denialTrace [("resourceVersion", .str "7")] [("resourceVersion", .str "8")],
      (match y.call with
        | .read _ => y.answer.toOption.map versionOf == some (.str "7")
        | _ => true) = true := by decide +kernel
  obtain ⟨sent, call⟩ := Call.writes_iff.mp call
  obtain ⟨front, back, happened⟩ := List.append_of_mem member
  obtain ⟨y, earlier, -, asked, body, r, reads, answered, -, -, named, conditional, -⟩ :=
    writes_conditional_on_version happened call
  have version : versionOf body = .str "7" := by
    have own := versions y (happened ▸ List.mem_append_left _ earlier)
    simpa [reads, answered, Except.toOption] using own
  exact ⟨x, member, sent, call, conditional "7" (named "7" version),
    Exchange.refusal?_eq_some.mp answer, types⟩

/-- Without a version, the approval takes the place of the denial. -/
theorem denial_overwritten :
    ∃ x ∈ denialTrace [] [("resourceVersion", .str "8")], x.Accepts "a" ∧
      x.before.types "a" = [.str "Denied"] ∧ x.after.types "a" = [.str "Approved"] := by
  decide +kernel

end BootstrapApproval
