import BootstrapApproval.Proofs.Interleaving.Snapshots
import BootstrapApproval.Proofs.Request.Decisions

/-! # Guards hold when a write is accepted

A review judges a request long before its approval is written. The version in the write makes up for
it: when the server accepts the write, the judged request is still the stored one.
-/

namespace BootstrapApproval

open Server

namespace Fresh

variable {seen : List Server} {s : Server} {name : String} {body : Json} {r : Request}

theorem accepts_eq (fresh : Fresh seen s name body)
    (understood : Request.understood body = .ok r) (now : Timestamp) (stored : Json) :
    accepts (((r.approve now).body.getD "metadata").get? "resourceVersion") (versionOf stored) =
      (versionOf body == versionOf stored) := by
  obtain ⟨-, v, version⟩ := fresh.versioned
  have read : (r.approve now).metadata.resourceVersion = some v :=
    (Request.version_of_understood understood version).1
  rw [Request.version_body read, version]
  rfl

/-- What an accepted write replaces is the body that was read. -/
theorem stored_of_accepted (fresh : Fresh seen s name body)
    (understood : Request.understood body = .ok r) {now : Timestamp} {answer : Json}
    (accepted : (s.replace name (r.approve now).body).1 = .ok answer) :
    s.requests.find? name = some body ∧
      (s.replace name (r.approve now).body).2 =
        s.storeAs name (withVersion (r.approve now).body (nextVersion (versionOf body))) := by
  obtain ⟨stored, found, current, rfl, after⟩ := replace_eq_ok accepted
  rw [fresh.accepts_eq understood, beq_iff_eq] at current
  obtain rfl := fresh.current stored found current.symm
  exact ⟨found, after⟩

theorem conflict_of_other (fresh : Fresh seen s name body)
    (understood : Request.understood body = .ok r) (now : Timestamp) {stored : Json}
    (calm : s.replaceFaults = []) (found : s.requests.find? name = some stored)
    (other : stored ≠ body) : s.replace name (r.approve now).body = (.error conflict, s) := by
  apply replace_of_stale calm found
  rw [fresh.accepts_eq understood, beq_eq_false_iff_ne]
  exact fun same => other (fresh.current stored found same.symm)

end Fresh

/-- An accepted write replaces the body that its review has read. -/
theorem Exchange.Founded.of_accepts {earlier : List Exchange} {x : Exchange} {name : String}
    (founded : x.Founded earlier) (accepted : x.Accepts name) :
    ∃ body r now, Watch earlier x.flight name body r ∧
      Clearance earlier x.flight x.reconciler r ∧ IsVersioned name body ∧
      x.before.requests.find? name = some body ∧
      x.after = x.before.storeAs name
        (withVersion (r.approve now).body (nextVersion (versionOf body))) := by
  obtain ⟨sent, stored, call, answered⟩ := accepted
  obtain ⟨seen, body, r, now, watch, fresh, clearance, rfl, after, -⟩ := founded name sent call
  have accepted : (x.before.replace name (r.approve now).body).1 = .ok stored := by
    rwa [Exchange.answer, call] at answered
  obtain ⟨found, written⟩ := fresh.stored_of_accepted watch.understood accepted
  exact ⟨body, r, now, watch, clearance, fresh.versioned, found, after.trans written⟩

/-- An accepted write found a request stored that may be approved. -/
structure Exchange.Guarded (earlier : List Exchange) (x : Exchange) (name : String) (body : Json)
    (r : Request) (cluster : String) : Prop where
  stored : x.before.requests.find? name = some body
  valid : Request.understood body = .ok r
  live : r.isDeleting = false
  labelled : r.labels.find? clusterNameLabel = some cluster
  named : cluster ≠ ""
  own : r.username = some (expectedUsername cluster)
  undecided : ∀ c ∈ r.conditions, c.type ≠ "Approved" ∧ c.type ≠ "Denied"
  /-- The same review has found the cluster registered. -/
  registered : ∃ y ∈ earlier, y.flight = x.flight ∧ y.call = .lookUp cluster ∧
    ∃ entry, y.answer = .ok entry
  earnest : x.reconciler.dryRun = false

theorem Request.label_of_clusterName {r : Request} (labelled : r.clusterName ≠ "") :
    r.labels.find? clusterNameLabel = some r.clusterName := by
  unfold clusterName at labelled ⊢
  cases found : r.labels.find? clusterNameLabel with
  | none => simp [found] at labelled
  | some cluster => rfl

/-- Every request is stored under its own name, with a version. Then, whatever reviews and others
do, an accepted write approves a request that may be approved as it is stored when the write is
accepted. -/
theorem accepted_write_guarded {s : Server} (proper : s.Proper) {moves : List Move}
    (lawful : (World.opened s).Lawful moves) {front back : List Exchange} {x : Exchange}
    (happened : ((World.opened s).run moves).trace = front ++ x :: back) {name : String}
    (accepted : x.Accepts name) : ∃ body r cluster, x.Guarded front name body r cluster := by
  have sound := (World.Sound.opened proper).run lawful
  obtain ⟨body, r, now, watch, clearance, -, found, -⟩ :=
    (sound.writes front x back happened).of_accepts accepted
  exact ⟨body, r, r.clusterName,
    { stored := found
      valid := watch.understood
      live := watch.live
      labelled := Request.label_of_clusterName watch.labelled
      named := watch.labelled
      own := by simpa [Request.isFrom] using clearance.own
      undecided := Request.undecided_iff.mp clearance.undecided
      registered := clearance.registered
      earnest := clearance.earnest }⟩

/-- The body of a request that waits for its approval. -/
def awaiting (version : String) : Json :=
  .obj [("metadata", .obj [("name", .str "a"), ("resourceVersion", .str version),
      ("labels", .obj [(clusterNameLabel, .str "c")])]),
    ("spec", .obj [("username", .str (expectedUsername "c"))])]

/-- A server with one request and no cluster. -/
def lateServer : Server := { Server.empty with requests := [("a", awaiting "7")] }

/-- The body of a request of which nothing but its version is known. -/
def bystander : Json :=
  .obj [("metadata", .obj [("name", .str "b"), ("resourceVersion", .str "1")])]

/-- The request is read before its cluster is registered and another request comes up. -/
def lateRegistration : List Move :=
  [.start .steady "a", .advance 0 (.steady .empty),
   .edit { Server.empty with
     requests := [("a", awaiting "7"), ("b", bystander)], clusters := ["c"] },
   .advance 0 (.steady .empty), .advance 0 (.steady .empty)]

theorem lawful_lateRegistration : (World.opened lateServer).Lawful lateRegistration := by
  refine ⟨trivial, World.allows_alone (by decide +kernel) (by decide +kernel), ?_,
    World.allows_alone (by decide +kernel) (by decide +kernel),
    World.allows_alone (by decide +kernel) (by decide +kernel), trivial⟩
  intro name body found
  have entry := Table.mem_of_find? found
  simp only [List.mem_cons, Prod.mk.injEq, List.not_mem_nil, or_false] at entry
  rcases entry with ⟨rfl, rfl⟩ | ⟨rfl, rfl⟩
  · exact .inl (by decide +kernel)
  · refine .inr ⟨⟨rfl, "1", rfl⟩, ?_⟩
    intro old member stored before
    have absent : ∀ old ∈ (((World.opened lateServer).move (.start .steady "a")).move
        (.advance 0 (.steady .empty))).seen, old.requests.find? "b" = none := by decide +kernel
    simp [absent old member] at before

theorem accepted_write_guarded_late :
    ∃ front x back, ((World.opened lateServer).run lateRegistration).trace = front ++ x :: back ∧
      x.Accepts "a" ∧ ∃ body r cluster, x.Guarded front "a" body r cluster := by
  have proper : lateServer.Proper := by
    intro name body found
    obtain ⟨rfl, rfl⟩ : name = "a" ∧ body = awaiting "7" := by
      simpa [lateServer] using Table.mem_of_find? found
    exact ⟨rfl, "7", rfl⟩
  obtain ⟨x, member, accepted⟩ :
      ∃ x ∈ ((World.opened lateServer).run lateRegistration).trace, x.Accepts "a" := by
    decide +kernel
  obtain ⟨front, back, happened⟩ := List.append_of_mem member
  exact ⟨front, x, back, happened, accepted,
    accepted_write_guarded proper lawful_lateRegistration happened accepted⟩

end BootstrapApproval
