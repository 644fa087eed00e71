import BootstrapApproval.Proofs.Handler.Reports
import BootstrapApproval.Proofs.Reconciler.Answers
import BootstrapApproval.Proofs.Table
import BootstrapApproval.Proofs.Versions

/-! # What a reconciliation sees and changes

A reconciliation reads and writes under one name, and it looks up clusters. So it changes no request
under another name, and it cannot tell two states apart that agree on the request under its name, on
the clusters, on the failures to come and on the time. In particular, it cannot see what has become
of other requests.
-/

namespace BootstrapApproval

open Act

/-- Whether a call is one that the review of a request can make. -/
def Call.concerns (name : String) : Call → Bool
  | .read n | .replace n _ => n == name
  | .lookUp _ => true
  | _ => false

namespace Server

variable {name : String} {s s' t : Server}

/-- The second server is the first one after at most one request, that of a name, was rewritten. -/
structure Revises (name : String) (s s' : Server) : Prop where
  clusters : s'.clusters = s.clusters
  requests : s'.requests = s.requests ∨ ∃ entries, nameOf (.obj entries) = name ∧
    s.requests.has name = true ∧ s'.requests = s.requests.insert name (.obj entries)

namespace Revises

theorem of_same (clusters : s'.clusters = s.clusters) (requests : s'.requests = s.requests) :
    Revises name s s' := ⟨clusters, .inl requests⟩

theorem elsewhere (revises : Revises name s s') {other : String} (different : other ≠ name) :
    s'.requests.find? other = s.requests.find? other := by
  rcases revises.requests with same | ⟨entries, -, -, written⟩
  · rw [same]
  · rw [written, Table.find?_insert_of_ne _ _ different]

theorem named (revises : Revises name s s') (named : s.Named) : s'.Named := by
  intro other body found
  by_cases same : other = name
  · subst same
    rcases revises.requests with unchanged | ⟨entries, own, -, written⟩
    · rw [unchanged] at found
      exact named other body found
    · rw [written, Table.find?_insert_self] at found
      obtain rfl := Option.some.inj found
      exact ⟨own, entries, rfl⟩
  · rw [revises.elsewhere same] at found
    exact named other body found

/-- What has become of the request says what has become of the table. -/
theorem settled (revises : Revises name s s') :
    s'.requests = s.requests.settle name (s'.requests.find? name) ∧
      ((s'.requests.find? name).isSome = true → s.requests.has name = true) := by
  rcases revises.requests with same | ⟨entries, -, present, written⟩
  · rw [same, Table.settle_find?]
    exact ⟨rfl, id⟩
  · rw [written, Table.find?_insert_self]
    exact ⟨rfl, fun _ => present⟩

/-- Rewriting one request and rewriting another one can change places. -/
theorem comm {other : String} {u v w : Server} (different : other ≠ name)
    (first : Revises name s t) (second : Revises other t u) (first' : Revises other s v)
    (second' : Revises name v w) (own : w.requests.find? name = t.requests.find? name)
    (own' : u.requests.find? other = v.requests.find? other) : u.requests = w.requests := by
  obtain ⟨here, present⟩ := first.settled
  have there := first'.settled.1
  calc u.requests
      = t.requests.settle other (v.requests.find? other) := second.settled.1.trans (by rw [own'])
    _ = (s.requests.settle name (t.requests.find? name)).settle other
          (v.requests.find? other) := by rw [← here]
    _ = (s.requests.settle other (v.requests.find? other)).settle name
          (t.requests.find? name) := Table.settle_settle_comm present different _
    _ = v.requests.settle name (t.requests.find? name) := by rw [← there]
    _ = w.requests := (second'.settled.1.trans (by rw [own])).symm

end Revises

/-- The write of an approval rewrites the request that it approves, or nothing. -/
theorem revises_replace (s : Server) (r : Request) (now : Timestamp) :
    Revises r.name s (s.replace r.name (r.approve now).body).2 := by
  refine ⟨clusters_replace .., ?_⟩
  cases answered : (s.replace r.name (r.approve now).body).1 with
  | error f => exact .inl (requests_replace_of_error answered)
  | ok answer =>
      obtain ⟨stored, found, -, rfl, after⟩ := replace_eq_ok answered
      rw [after]
      have own : nameOf (withVersion (r.approve now).body (nextVersion (versionOf stored))) =
          r.name := nameOf_withVersion ..
      exact .inr ⟨_, own, Table.has_of_find? found, rfl⟩

/-- Two servers that agree on one request, on the clusters and on the failures to come, when no
other writer waits at either. -/
structure AgreeOn (name : String) (s t : Server) : Prop where
  request : t.requests.find? name = s.requests.find? name
  clusters : t.clusters = s.clusters
  reads : t.readFaults = s.readFaults
  lookUps : t.lookUpFaults = s.lookUpFaults
  replaces : t.replaceFaults = s.replaceFaults
  unopposed : s.rival = none
  unopposed' : t.rival = none

namespace AgreeOn

variable (agree : AgreeOn name s t)
include agree

theorem read :
    (t.read name).1 = (s.read name).1 ∧ AgreeOn name (s.read name).2 (t.read name).2 := by
  unfold Server.read
  rw [agree.reads]
  cases faults : s.readFaults with
  | cons f rest => exact ⟨rfl, { agree with reads := rfl }⟩
  | nil =>
      dsimp only
      rw [agree.request]
      cases s.requests.find? name <;> exact ⟨rfl, agree⟩

theorem lookUp (cluster : String) :
    (t.lookUp cluster).1 = (s.lookUp cluster).1 ∧
      AgreeOn name (s.lookUp cluster).2 (t.lookUp cluster).2 := by
  unfold Server.lookUp race
  rw [agree.unopposed, agree.unopposed']
  dsimp only
  rw [agree.lookUps]
  cases faults : s.lookUpFaults with
  | cons f rest => exact ⟨rfl, { agree with lookUps := rfl }⟩
  | nil =>
      dsimp only
      rw [agree.clusters]
      exact ⟨rfl, agree⟩

theorem replace (body : Json) :
    (t.replace name body).1 = (s.replace name body).1 ∧
      AgreeOn name (s.replace name body).2 (t.replace name body).2 := by
  unfold Server.replace
  rw [agree.replaces]
  cases faults : s.replaceFaults with
  | cons f rest => exact ⟨rfl, { agree with replaces := rfl }⟩
  | nil =>
      dsimp only
      rw [agree.request]
      cases s.requests.find? name with
      | none => exact ⟨rfl, agree⟩
      | some stored =>
          dsimp only
          split
          · refine ⟨rfl, { agree with request := ?_ }⟩
            simp [storeAs]
          · exact ⟨rfl, agree⟩

theorem respond {c : Call} (concerns : c.concerns name = true) :
    (t.respond c).1 = (s.respond c).1 ∧ AgreeOn name (s.respond c).2 (t.respond c).2 := by
  cases c with
  | read n =>
      obtain rfl := eq_of_beq concerns
      exact agree.read
  | lookUp cluster => exact agree.lookUp cluster
  | replace n body =>
      obtain rfl := eq_of_beq concerns
      exact agree.replace body
  | _ => cases concerns

end AgreeOn

end Server

/-- Two states with credentials and at one time, with servers that agree on one request. -/
structure State.AgreeOn (name : String) (s t : State) : Prop where
  server : s.server.AgreeOn name t.server
  time : t.around.wallClock = s.around.wallClock
  equipped : s.isEquipped = true
  equipped' : t.isEquipped = true

theorem State.AgreeOn.congr {name : String} {s s' t t' : State} (agree : s.AgreeOn name t)
    (same : s'.outside = s.outside) (same' : t'.outside = t.outside)
    (equipped : s'.isEquipped = true) (equipped' : t'.isEquipped = true) : s'.AgreeOn name t' where
  server := by
    have server : s'.server = s.server := congrArg Outside.server same
    have server' : t'.server = t.server := congrArg Outside.server same'
    rw [server, server']
    exact agree.server
  time := by
    have around : s'.around = s.around := congrArg Outside.around same
    have around' : t'.around = t.around := congrArg Outside.around same'
    rw [around, around']
    exact agree.time
  equipped := equipped
  equipped' := equipped'

theorem State.Equips.isEquipped {s t : State} (equips : s.Equips t)
    (equipped : s.isEquipped = true) : t.isEquipped = true := by
  rcases equips with same | ⟨rc, -, given⟩
  · rw [State.isEquipped_congr same, equipped]
  · rw [State.isEquipped, given]
    rfl

/-- Doing something gives the same from both states, asks the same, and leaves states behind that
agree on one request. -/
structure SameFor {α : Type} (name : String) (s t : State) (a b : α × State) : Prop where
  given : b.1 = a.1
  agree : a.2.AgreeOn name b.2
  asked : ∃ new, a.2.outside.asked = s.outside.asked ++ new ∧
    b.2.outside.asked = t.outside.asked ++ new

namespace SameFor

variable {α β : Type} {name : String} {s t : State} {a b : α × State} {c : Call}

theorem of_unasked (agree : s.AgreeOn name t) (x : α) : SameFor name s t (x, s) (x, t) :=
  ⟨rfl, agree, [], (List.append_nil _).symm, (List.append_nil _).symm⟩

/-- What asks the same question and goes on from the answer is the same, when the servers agree. -/
theorem of_asked (agree : s.AgreeOn name t) (concerns : c.concerns name = true)
    (heard : Except Fault Json → α) (given : a.1 = heard (s.server.respond c).1)
    (given' : b.1 = heard (t.server.respond c).1) (after : a.2.outside = s.outside.ask c)
    (after' : b.2.outside = t.outside.ask c) (equipped : a.2.isEquipped = true)
    (equipped' : b.2.isEquipped = true) : SameFor name s t a b := by
  obtain ⟨answer, agrees⟩ := agree.server.respond concerns
  refine ⟨?_, ⟨?_, ?_, equipped, equipped'⟩, [c], ?_, ?_⟩
  · rw [given, given', answer]
  · have server : a.2.server = (s.server.respond c).2 := congrArg Outside.server after
    have server' : b.2.server = (t.server.respond c).2 := congrArg Outside.server after'
    rw [server, server']
    exact agrees
  · have around : a.2.around = s.around := congrArg Outside.around after
    have around' : b.2.around = t.around := congrArg Outside.around after'
    rw [around, around']
    exact agree.time
  · rw [after]
    rfl
  · rw [after']
    rfl

theorem trans {a' b' : β × State} (first : SameFor name s t a b)
    (second : SameFor name a.2 b.2 a' b') : SameFor name s t a' b' := by
  obtain ⟨new, asked, asked'⟩ := first.asked
  obtain ⟨more, later, later'⟩ := second.asked
  refine ⟨second.given, second.agree, new ++ more, ?_, ?_⟩
  · rw [later, asked, List.append_assoc]
  · rw [later', asked', List.append_assoc]

end SameFor

/-- Whether a review goes on with the request under a name. -/
def Progress.IsOf (name : String) : Progress → Prop
  | .read r | .cleared r => r.name = name
  | _ => True

namespace Reconciler

variable {rc : Reconciler} {name : String} {s t : State} {p q : Progress} {o : Outside}

theorem Advances.isOf (step : rc.Advances name s p q o) (named : s.server.Named)
    (own : p.IsOf name) : q.IsOf name := by
  cases step with
  | reads answer understood =>
      obtain ⟨same, entries, rfl⟩ := named name _ (Server.read_eq_ok answer)
      exact (Request.name_of_understood understood).trans same
  | clears => exact own
  | _ => trivial

/-- A step of a review rewrites at most the request of the review. -/
theorem Advances.revises (step : rc.Advances name s p q o) (own : p.IsOf name)
    (unopposed : s.server.rival = none) : s.server.Revises name o.server := by
  have looked (cluster : String) : s.server.Revises name (s.server.lookUp cluster).2 := by
    refine .of_same (Server.clusters_lookUp ..) ?_
    rw [Server.requests_lookUp, Server.race, unopposed]
  cases step with
  | rests | ends => exact .of_same rfl rfl
  | refuses | reads => exact .of_same (Server.clusters_read ..) (Server.requests_read ..)
  | rejects r | @clears r => exact looked r.clusterName
  | @commits r now =>
      obtain rfl : r.name = name := own
      exact s.server.revises_replace r now

variable (rc name)

theorem readStep_sameFor (agree : s.AgreeOn name t) :
    SameFor name s t (readStep name s) (readStep name t) := by
  have read := readStep_apply name (Client.ensure_of_equipped agree.equipped)
  have read' := readStep_apply name (Client.ensure_of_equipped agree.equipped')
  rw [read, read']
  exact .of_asked agree (BEq.rfl) (fun a => Store.readResult name a >>= fun found =>
    .ok (.afterRead found)) rfl rfl (s.outside_asked rfl) (t.outside_asked rfl) agree.equipped
    agree.equipped'

theorem lookUpStep_sameFor (agree : s.AgreeOn name t) (r : Request) :
    SameFor name s t (rc.lookUpStep name r s) (rc.lookUpStep name r t) := by
  obtain ⟨given, after, equipped⟩ := rc.lookUpStep_equipped name agree.equipped r
  obtain ⟨given', after', equipped'⟩ := rc.lookUpStep_equipped name agree.equipped' r
  have concerns : (Call.lookUp r.clusterName).concerns name = true := rfl
  exact .of_asked agree concerns (fun a => (registered (Store.lookUpResult r.clusterName a)).map
    (.afterLookUp name rc.dryRun r)) given given' after after' equipped equipped'

theorem commitStep_sameFor (agree : s.AgreeOn name t) {r : Request} (own : r.name = name) :
    SameFor name s t (rc.commitStep name r s) (rc.commitStep name r t) := by
  have now := rc.now_of_time agree.time
  cases shown : (rc.now s).1 with
  | error e =>
      rw [rc.commitStep_timeless name shown, rc.commitStep_timeless name (now.trans shown)]
      exact .of_unasked agree _
  | ok time =>
      rw [rc.commitStep_equipped name agree.equipped shown,
        rc.commitStep_equipped name agree.equipped' (now.trans shown)]
      cases r.isWritable with
      | false => exact .of_unasked agree _
      | true =>
          rw [if_pos rfl, if_pos rfl]
          have concerns : (Call.replace r.name (r.approve time).body).concerns name = true := by
            rw [own]
            exact BEq.rfl
          exact .of_asked agree concerns (fun a => Store.submitResult r.name a >>= fun _ =>
            .ok (.approved name r.clusterName)) rfl rfl (s.outside_asked rfl)
            (t.outside_asked rfl) agree.equipped agree.equipped'

/-- A step of a review is the same from states that agree on the request. -/
theorem advance_sameFor (agree : s.AgreeOn name t) {p : Progress} (own : p.IsOf name) :
    SameFor name s t (rc.advance name s p) (rc.advance name t p) := by
  cases p with
  | called =>
      obtain ⟨given, after, asked⟩ := readStep_sameFor name agree
      exact ⟨congrArg (Progress.after .read) given, after, asked⟩
  | read r =>
      obtain ⟨given, after, asked⟩ := rc.lookUpStep_sameFor name agree r
      exact ⟨congrArg (Progress.after .cleared) given, after, asked⟩
  | cleared r =>
      obtain ⟨given, after, asked⟩ := rc.commitStep_sameFor name agree own
      exact ⟨congrArg Progress.ended given, after, asked⟩
  | ended result => exact .of_unasked agree _

/-- A review is the same from states that agree on its request: it is made of steps that are. -/
theorem review_sameFor (agree : s.AgreeOn name t) (named : s.server.Named) :
    SameFor name s t (rc.review name s) (rc.review name t) := by
  obtain ⟨p, s₁, q, s₂, first, second, third⟩ := rc.review_eq_advance name s
  obtain ⟨p', t₁, q', t₂, first', second', third'⟩ := rc.review_eq_advance name t
  have reading := rc.advances name s .called
  have looking := rc.advances name s₁ p
  have start := rc.advance_sameFor name agree (p := .called) trivial
  rw [first] at reading
  rw [second] at looking
  rw [first, first'] at start
  -- the first step shows the same request to both, so the second one asks both the same
  obtain rfl : p' = p := start.given
  have own : p'.IsOf name := reading.isOf named trivial
  have middle := rc.advance_sameFor name start.agree own
  rw [second, second'] at middle
  obtain rfl : q' = q := middle.given
  have still : s₁.server.Named := (reading.revises trivial agree.server.unopposed).named named
  have own' : q'.IsOf name := looking.isOf still own
  have finish := rc.advance_sameFor name middle.agree own'
  rw [third, third'] at finish
  obtain ⟨given, after, asked⟩ := (start.trans middle).trans finish
  exact ⟨Progress.ended.inj given, after, asked⟩

theorem equipped_reconcile (equipped : s.isEquipped = true) :
    (rc.reconcile name s).2.isEquipped = true :=
  (rc.reconcile_reports name s).memory.isEquipped equipped

/-- A reconciliation is the same from states that agree on its request. -/
theorem reconcile_sameFor (agree : s.AgreeOn name t) (named : s.server.Named) :
    SameFor name s t (rc.reconcile name s) (rc.reconcile name t) := by
  have opened : (rc.opened name s).AgreeOn name (rc.opened name t) :=
    agree.congr (rc.outside_opened name s) (rc.outside_opened name t) agree.equipped agree.equipped'
  obtain ⟨given, after, asked⟩ := rc.review_sameFor name opened named
  have outside := rc.outside_reconcile_opened name s
  have outside' := rc.outside_reconcile_opened name t
  refine ⟨?_, ?_, ?_⟩
  · rw [(rc.reconcile_reports name s).given, (rc.reconcile_reports name t).given, given]
  · exact after.congr outside outside' (rc.equipped_reconcile name agree.equipped)
      (rc.equipped_reconcile name agree.equipped')
  · rw [outside, outside']
    exact asked

/-- A reconciliation rewrites at most its own request. What else changes is the edit of another
writer that was due with the look-up. -/
theorem reconcile_revises (named : s.server.Named) :
    ∃ calls, (rc.reconcile name s).2.outside.asked = s.outside.asked ++ calls ∧
      Server.Revises name (if calls.any Call.isLookUp then s.server.race else s.server)
        (rc.reconcile name s).2.server := by
  obtain ⟨result, concludes, -⟩ := rc.reconcile_concludes name s
  generalize left : (rc.reconcile name s).2.outside = o at concludes
  have server : (rc.reconcile name s).2.server = o.server := congrArg Outside.server left
  rw [server]
  rcases concludes.spares_or_commits with
    ⟨calls, spares⟩ | ⟨body, r, now, considers, -, -, -, rfl, -⟩
  · refine ⟨calls, spares.asked, .of_same ?_ spares.requests⟩
    rw [spares.clusters]
    split
    · exact (Server.clusters_race _).symm
    · rfl
  · obtain ⟨same, entries, rfl⟩ := named name body (Server.read_eq_ok considers.answer)
    obtain rfl : r.name = name := (Request.name_of_understood considers.understood).trans same
    refine ⟨_, s.outside.asked_askAll _, ?_⟩
    have revises := (s.server.lookUp r.clusterName).2.revises_replace r now
    rw [considers.server_written]
    refine ⟨?_, ?_⟩
    · rw [revises.clusters, Server.clusters_lookUp]
      exact (Server.clusters_race _).symm
    · have requests := revises.requests
      rw [Server.requests_lookUp] at requests
      exact requests

end Reconciler

end BootstrapApproval
