import BootstrapApproval.Proofs.Handler.Retries
import BootstrapApproval.Proofs.Isolation.Agreement

/-! # Requests in isolation

At one desk, requests are reconciled while others edit the server. A reconciliation may be done as a
whole, or its review may take its steps one by one, with anything in between. Failures belong to the
turn in which they strike. Whatever is done for other requests, and however it ends, a request fares
as if it had not been done.
-/

namespace BootstrapApproval

open Reconciler

/-- The time of a turn, and the failures that wait for its calls. -/
structure Circumstances where
  time : Timestamp
  read : Option Fault
  lookUp : Option Fault
  replace : Option Fault
  deriving DecidableEq, Repr

namespace Server

def facing (s : Server) (c : Circumstances) : Server :=
  { s with
    readFaults := c.read.toList
    lookUpFaults := c.lookUp.toList
    replaceFaults := c.replace.toList
    rival := none }

/-- The server when no failure waits. -/
def calmed (s : Server) : Server :=
  { s with readFaults := [], lookUpFaults := [], replaceFaults := [], rival := none }

theorem calmed_congr {s t : Server} (requests : s.requests = t.requests)
    (clusters : s.clusters = t.clusters) : s.calmed = t.calmed := by
  rw [calmed, calmed, requests, clusters]

end Server

namespace State

def facing (s : State) (c : Circumstances) : State :=
  { s.timed c.time with server := s.server.facing c }

/-- The state after a turn: a failure that has not struck does not wait any longer. -/
def calmed (s : State) : State := { s with server := s.server.calmed }

/-- Two states with credentials, with servers that agree on one request and on the clusters. -/
structure Shares (name : String) (s t : State) : Prop where
  request : t.server.requests.find? name = s.server.requests.find? name
  clusters : t.server.clusters = s.server.clusters
  equipped : s.isEquipped = true
  equipped' : t.isEquipped = true

variable {name : String} {s t : State}

/-- Under the same circumstances, they agree on all that a reconciliation of the request can see. -/
theorem Shares.facing (shares : s.Shares name t) (c : Circumstances) :
    (s.facing c).AgreeOn name (t.facing c) where
  server := ⟨shares.request, shares.clusters, rfl, rfl, rfl, rfl, rfl⟩
  time := rfl
  equipped := shares.equipped
  equipped' := shares.equipped'

theorem AgreeOn.shares (agree : s.AgreeOn name t) : s.Shares name t where
  request := agree.server.request
  clusters := agree.server.clusters
  equipped := agree.equipped
  equipped' := agree.equipped'

theorem AgreeOn.calmed (agree : s.AgreeOn name t) : s.calmed.AgreeOn name t.calmed where
  server := ⟨agree.server.request, agree.server.clusters, rfl, rfl, rfl, rfl, rfl⟩
  time := agree.time
  equipped := agree.equipped
  equipped' := agree.equipped'

/-- The first state may change elsewhere. -/
theorem Shares.of_revises {s' : State} {other : String} (shares : s.Shares name t)
    (revises : s.server.Revises other s'.server) (different : name ≠ other)
    (equipped : s'.isEquipped = true) : s'.Shares name t where
  request := shares.request.trans (revises.elsewhere different).symm
  clusters := shares.clusters.trans revises.clusters.symm
  equipped := equipped
  equipped' := shares.equipped'

end State

/-- What is done under given circumstances, and the state when they are over. -/
def State.under {α : Type} (s : State) (c : Circumstances) (x : State → α × State) : α × State :=
  ((x (s.facing c)).1, (x (s.facing c)).2.calmed)

theorem SameFor.under {α : Type} {name : String} {s t : State} {c : Circumstances}
    {x y : State → α × State} (same : SameFor name (s.facing c) (t.facing c) (x (s.facing c))
      (y (t.facing c))) : SameFor name s t (s.under c x) (t.under c y) :=
  ⟨same.given, same.agree.calmed, same.asked⟩

namespace Reconciler

variable (rc : Reconciler) (name : String) (c : Circumstances) {s t : State}

/-- A whole reconciliation under given circumstances. -/
def visit (s : State) : Except Raised Outcome × State := s.under c (rc.reconcile name)

/-- One step of a review under given circumstances. -/
def pace (p : Progress) (s : State) : Progress × State :=
  s.under c fun s => rc.advance name s p

theorem calmed_visit : (rc.visit name c s).2.server.calmed = (rc.visit name c s).2.server := rfl

theorem equipped_visit (equipped : s.isEquipped = true) :
    (rc.visit name c s).2.isEquipped = true :=
  rc.equipped_reconcile name (s := s.facing c) equipped

theorem revises_visit (named : s.server.Named) :
    s.server.Revises name (rc.visit name c s).2.server := by
  obtain ⟨calls, -, revises⟩ := rc.reconcile_revises name (s := s.facing c) named
  have unopposed : (s.facing c).server.race = (s.facing c).server := rfl
  rw [unopposed, ite_self] at revises
  exact ⟨revises.clusters, revises.requests⟩

theorem visit_sameFor (shares : s.Shares name t) (named : s.server.Named) :
    SameFor name s t (rc.visit name c s) (rc.visit name c t) :=
  (rc.reconcile_sameFor name (shares.facing c) named).under

variable {p : Progress}

theorem equipped_advance (equipped : s.isEquipped = true) (p : Progress) :
    (rc.advance name s p).2.isEquipped = true := by
  have carried := rc.carried_murmurs name
  cases p with
  | called => exact (carried.readStep.carries s).memory.isEquipped equipped
  | read r => exact ((carried.lookUpStep r).carries s).memory.isEquipped equipped
  | cleared r => exact ((carried.commitStep r).carries s).memory.isEquipped equipped
  | ended => exact equipped

theorem isOf_pace (named : s.server.Named) (own : p.IsOf name) :
    (rc.pace name c p s).1.IsOf name :=
  (rc.advances name (s.facing c) p).isOf named own

theorem revises_pace (own : p.IsOf name) : s.server.Revises name (rc.pace name c p s).2.server := by
  have revises := (rc.advances name (s.facing c) p).revises own rfl
  exact ⟨revises.clusters, revises.requests⟩

theorem pace_sameFor (shares : s.Shares name t) (own : p.IsOf name) :
    SameFor name s t (rc.pace name c p s) (rc.pace name c p t) :=
  SameFor.under (x := fun s => rc.advance name s p) (y := fun s => rc.advance name s p)
    (rc.advance_sameFor name (shares.facing c) own)

end Reconciler

/-- What others can do to a server, all at once. -/
inductive Edit where
  | store (entries : Table Json)
  | delete (name : String)
  | register (cluster : String)
  | unregister (cluster : String)

namespace Edit

def apply (s : Server) : Edit → Server
  | .store entries => s.store (.obj entries)
  | .delete name => s.delete name
  | .register cluster => s.register cluster
  | .unregister cluster => s.unregister cluster

theorem requests_register (s : Server) (cluster : String) :
    (s.register cluster).requests = s.requests := by
  unfold Server.register
  split <;> rfl

theorem named {s : Server} (named : s.Named) (e : Edit) : (e.apply s).Named := by
  intro name body found
  cases e with
  | store entries =>
      by_cases own : name = Server.nameOf (.obj entries)
      · have stored : (s.requests.insert name (.obj entries)).find? name = some body := by
          rw [own] at found ⊢
          exact found
        rw [Table.find?_insert_self] at stored
        obtain rfl := Option.some.inj stored
        exact ⟨own.symm, entries, rfl⟩
      · exact named name body ((Table.find?_insert_of_ne _ _ own).symm.trans found)
  | delete deleted =>
      by_cases gone : name = deleted
      · subst gone
        have nothing : (s.requests.erase name).find? name = some body := found
        rw [Table.find?_erase_self] at nothing
        cases nothing
      · exact named name body ((Table.find?_erase_of_ne _ gone).symm.trans found)
  | register cluster =>
      change (s.register cluster).requests.find? name = some body at found
      rw [requests_register] at found
      exact named name body found
  | unregister cluster => exact named name body found

variable {name : String} {s t : Server}

theorem find?_apply (same : t.requests.find? name = s.requests.find? name) (e : Edit) :
    (e.apply t).requests.find? name = (e.apply s).requests.find? name := by
  cases e with
  | store entries =>
      change (t.requests.insert _ _).find? name = (s.requests.insert _ _).find? name
      by_cases own : name = Server.nameOf (.obj entries)
      · rw [← own, Table.find?_insert_self, Table.find?_insert_self]
      · rw [Table.find?_insert_of_ne _ _ own, Table.find?_insert_of_ne _ _ own, same]
  | delete deleted =>
      change (t.requests.erase deleted).find? name = (s.requests.erase deleted).find? name
      by_cases gone : name = deleted
      · rw [gone, Table.find?_erase_self, Table.find?_erase_self]
      · rw [Table.find?_erase_of_ne _ gone, Table.find?_erase_of_ne _ gone, same]
  | register cluster =>
      change (t.register cluster).requests.find? name = (s.register cluster).requests.find? name
      rw [requests_register, requests_register, same]
  | unregister cluster => exact same

theorem clusters_apply (same : t.clusters = s.clusters) (e : Edit) :
    (e.apply t).clusters = (e.apply s).clusters := by
  cases e with
  | store | delete => exact same
  | register cluster =>
      change (t.register cluster).clusters = (s.register cluster).clusters
      unfold Server.register
      rw [same]
      split <;> simp [same]
  | unregister cluster =>
      change t.clusters.filter _ = s.clusters.filter _
      rw [same]

end Edit

/-- What can happen next at a desk. -/
inductive Turn where
  | edit (e : Edit)
  | reconcile (name : String) (c : Circumstances)
  /-- One of the reviews of a request takes its next step. -/
  | step (name : String) (review : Nat) (c : Circumstances)

/-- Whether a turn belongs to a request: all but those that are done for other requests. -/
def Turn.concerns (name : String) : Turn → Bool
  | .edit _ => true
  | .reconcile n _ | .step n _ _ => n == name

/-- What can be told of a turn that is done for a request. -/
structure Report where
  name : String
  asked : List Call
  /-- What the reconciliation gives, if it has ended. -/
  given : Option (Except Raised Outcome)
  /-- What is stored under the name afterwards. -/
  stored : Option Json

def Report.of {α : Type} (name : String) (s : State) (given : α → Option (Except Raised Outcome))
    (a : α × State) : Report :=
  ⟨name, a.2.outside.asked.drop s.outside.asked.length, given a.1,
    a.2.server.requests.find? name⟩

theorem SameFor.report {α : Type} {name : String} {s t : State} {a b : α × State}
    (same : SameFor name s t a b) (given : α → Option (Except Raised Outcome)) :
    Report.of name t given b = Report.of name s given a := by
  obtain ⟨new, asked, asked'⟩ := same.asked
  simp only [Report.of, asked, asked', List.drop_left, same.given, same.agree.server.request]

def Progress.given? : Progress → Option (Except Raised Outcome)
  | .ended result => some (reported result)
  | _ => none

/-- A state, and how far the reviews have come. Those of one request are told apart by numbers. -/
structure Desk where
  state : State
  reviews : String → Nat → Progress

namespace Desk

/-- A desk at which no review has been started. -/
def opened (s : State) : Desk := ⟨s, fun _ _ => .called⟩

def turn (rc : Reconciler) (d : Desk) : Turn → Desk
  | .edit e => { d with state := { d.state with server := e.apply d.state.server } }
  | .reconcile name c => { d with state := (rc.visit name c d.state).2 }
  | .step name k c =>
      let (p, state) := rc.pace name c (d.reviews name k) d.state
      { state, reviews := fun n i => if n = name ∧ i = k then p else d.reviews n i }

def report? (rc : Reconciler) (d : Desk) : Turn → Option Report
  | .edit _ => none
  | .reconcile name c => some (.of name d.state some (rc.visit name c d.state))
  | .step name k c =>
      some (.of name d.state Progress.given? (rc.pace name c (d.reviews name k) d.state))

def run (rc : Reconciler) (d : Desk) (turns : List Turn) : Desk := turns.foldl (turn rc) d

/-- What can be told of a run. -/
def reports (rc : Reconciler) : Desk → List Turn → List Report
  | _, [] => []
  | d, t :: turns => (d.report? rc t).toList ++ (d.turn rc t).reports rc turns

/-- Requests are stored under their names, reviews go on with their own requests, and there are
credentials. -/
structure Proper (d : Desk) : Prop where
  named : d.state.server.Named
  own : ∀ name k, (d.reviews name k).IsOf name
  equipped : d.state.isEquipped = true

theorem Proper.opened {s : State} (named : s.server.Named) (equipped : s.isEquipped = true) :
    (Desk.opened s).Proper := ⟨named, fun _ _ => trivial, equipped⟩

/-- Two desks that agree on one request and on its reviews. -/
structure AgreeOn (name : String) (d e : Desk) : Prop where
  shares : d.state.Shares name e.state
  reviews : ∀ k, e.reviews name k = d.reviews name k

variable (rc : Reconciler) {d e : Desk} {name : String}

theorem Proper.turn (proper : d.Proper) (t : Turn) : (d.turn rc t).Proper := by
  cases t with
  | edit edit => exact ⟨edit.named proper.named, proper.own, proper.equipped⟩
  | reconcile n c =>
      refine ⟨?_, proper.own, rc.equipped_visit n c proper.equipped⟩
      exact (rc.revises_visit n c proper.named).named proper.named
  | step n k c =>
      have own := proper.own n k
      refine ⟨(rc.revises_pace n c own).named proper.named, ?_, ?_⟩
      · intro m i
        dsimp only [Desk.turn]
        split
        · rename_i this
          obtain ⟨rfl, rfl⟩ := this
          exact rc.isOf_pace m c proper.named own
        · exact proper.own m i
      · exact rc.equipped_advance n (s := d.state.facing c) proper.equipped _

/-- A turn that belongs to the request is told in the same way at both desks, and they go on to
agree. -/
theorem AgreeOn.turn_own (agree : AgreeOn name d e) (proper : d.Proper) {t : Turn}
    (concerns : t.concerns name = true) :
    e.report? rc t = d.report? rc t ∧ (∀ r ∈ d.report? rc t, r.name = name) ∧
      AgreeOn name (d.turn rc t) (e.turn rc t) := by
  cases t with
  | edit edit =>
      have shares := agree.shares
      refine ⟨rfl, ?_, ⟨?_, ?_, shares.equipped, shares.equipped'⟩, agree.reviews⟩
      · intro r member
        cases member
      · exact edit.find?_apply shares.request
      · exact edit.clusters_apply shares.clusters
  | reconcile n c =>
      obtain rfl := eq_of_beq concerns
      have same := rc.visit_sameFor n c agree.shares proper.named
      refine ⟨congrArg some (same.report some), ?_, same.agree.shares, agree.reviews⟩
      intro r member
      obtain rfl := Option.some.inj member
      rfl
  | step n k c =>
      obtain rfl := eq_of_beq concerns
      have same := rc.pace_sameFor n c agree.shares (proper.own n k)
      have given := same.given
      refine ⟨?_, ?_, ?_, ?_⟩
      · simp only [report?, agree.reviews k]
        exact congrArg some (same.report Progress.given?)
      · intro r member
        obtain rfl := Option.some.inj member
        rfl
      · simp only [Desk.turn, agree.reviews k]
        exact same.agree.shares
      · intro i
        simp only [Desk.turn, agree.reviews, given]

/-- A turn that is done for another request does not change what the desks agree on. -/
theorem AgreeOn.turn_other (agree : AgreeOn name d e) (proper : d.Proper) {t : Turn}
    (foreign : t.concerns name = false) :
    (∀ r ∈ d.report? rc t, r.name ≠ name) ∧ AgreeOn name (d.turn rc t) e := by
  have after : (d.turn rc t).Proper := proper.turn rc t
  cases t with
  | edit edit => cases foreign
  | reconcile n c =>
      have different : n ≠ name := ne_of_beq_false foreign
      have revises := rc.revises_visit n c proper.named
      refine ⟨?_, agree.shares.of_revises revises different.symm after.equipped, agree.reviews⟩
      intro r member
      obtain rfl := Option.some.inj member
      exact different
  | step n k c =>
      have different : n ≠ name := ne_of_beq_false foreign
      have revises := rc.revises_pace n c (s := d.state) (proper.own n k)
      refine ⟨?_, agree.shares.of_revises revises different.symm after.equipped, ?_⟩
      · intro r member
        obtain rfl := Option.some.inj member
        exact different
      · intro i
        simp only [Desk.turn, different.symm, false_and, if_false]
        exact agree.reviews i

/-- So without the turns for other requests, a run tells the same of a request. -/
theorem AgreeOn.run (agree : AgreeOn name d e) (proper : d.Proper) (turns : List Turn) :
    e.reports rc (turns.filter (Turn.concerns name)) =
        (d.reports rc turns).filter (fun r => r.name == name) ∧
      AgreeOn name (d.run rc turns) (e.run rc (turns.filter (Turn.concerns name))) := by
  -- turn by turn: the desks agree on the request before the turn, so they do after it
  induction turns generalizing d e with
  | nil => exact ⟨rfl, agree⟩
  | cons t turns ih =>
      cases concerns : t.concerns name with
      | true =>
          obtain ⟨told, mine, still⟩ := agree.turn_own rc proper concerns
          obtain ⟨same, after⟩ := ih still (proper.turn rc t)
          rw [List.filter_cons_of_pos concerns]
          refine ⟨?_, after⟩
          rw [reports, reports, List.filter_append, told, same]
          congr 1
          cases report : d.report? rc t with
          | none => rfl
          | some r =>
              have own := mine r (report ▸ rfl)
              simp [own]
      | false =>
          obtain ⟨others, still⟩ := agree.turn_other rc proper concerns
          obtain ⟨same, after⟩ := ih still (proper.turn rc t)
          rw [List.filter_cons_of_neg (ne_true_of_eq_false concerns)]
          refine ⟨?_, after⟩
          rw [reports, List.filter_append, same]
          cases report : d.report? rc t with
          | none => rfl
          | some r =>
              have other := others r (report ▸ rfl)
              simp [other]

end Desk

namespace State

variable {name : String} {s : State}

theorem Shares.refl (equipped : s.isEquipped = true) : s.Shares name s :=
  ⟨rfl, rfl, equipped, equipped⟩

end State

namespace Reconciler

variable (rc : Reconciler) {n m : String} (c d : Circumstances) {s : State}

/-- A reconciliation gives the same after that of another request. -/
theorem visit_after (different : m ≠ n) (named : s.server.Named)
    (equipped : s.isEquipped = true) :
    (rc.visit m d (rc.visit n c s).2).1 = (rc.visit m d s).1 ∧
      (rc.visit m d (rc.visit n c s).2).2.server.requests.find? m =
        (rc.visit m d s).2.server.requests.find? m := by
  have revises := rc.revises_visit n c named
  have shares : (rc.visit n c s).2.Shares m s :=
    (State.Shares.refl equipped).of_revises revises different (rc.equipped_visit n c equipped)
  have same := rc.visit_sameFor m d shares (revises.named named)
  exact ⟨same.given.symm, same.agree.server.request.symm⟩

/-- The reconciliations of two requests can change places. -/
theorem visit_comm (different : m ≠ n) (named : s.server.Named) (equipped : s.isEquipped = true) :
    (rc.visit m d (rc.visit n c s).2).2.server = (rc.visit n c (rc.visit m d s).2).2.server := by
  have first := rc.revises_visit n c named
  have first' := rc.revises_visit m d named
  have second := rc.revises_visit m d (first.named named)
  have second' := rc.revises_visit n c (first'.named named)
  -- what is written under either name is the same in both orders, and no key is new
  have own := (rc.visit_after d c different.symm named equipped).2
  have own' := (rc.visit_after c d different named equipped).2
  have requests := first.comm different second first' second' own own'
  have clusters := second.clusters.trans
    (first.clusters.trans (first'.clusters.symm.trans second'.clusters.symm))
  exact (rc.calmed_visit m d).symm.trans
    ((Server.calmed_congr requests clusters).trans (rc.calmed_visit n c))

end Reconciler

/-- Every request is stored under its own name. Then a reconciliation never changes a request under
another name or the clusters; what else is changed is the edit of another writer that was due with
the look-up. Without the turns that are done for other requests, all that can be told of a request
in a run is the same. And two requests can be reconciled in either order. -/
theorem requests_isolated (rc : Reconciler) (s : State) (named : s.server.Named)
    (equipped : s.isEquipped = true) :
    (∀ name, ∃ calls, (rc.reconcile name s).2.outside.asked = s.outside.asked ++ calls ∧
      (rc.reconcile name s).2.server.clusters = s.server.clusters ∧
      ∀ other, other ≠ name → (rc.reconcile name s).2.server.requests.find? other =
        (if calls.any Call.isLookUp then s.server.race else s.server).requests.find? other) ∧
    (∀ name turns,
      let whole := (Desk.opened s).run rc turns
      let part := (Desk.opened s).run rc (turns.filter (Turn.concerns name))
      (Desk.opened s).reports rc (turns.filter (Turn.concerns name)) =
          ((Desk.opened s).reports rc turns).filter (fun r => r.name == name) ∧
        part.state.server.requests.find? name = whole.state.server.requests.find? name ∧
        part.state.server.clusters = whole.state.server.clusters) ∧
    ∀ n m c d, n ≠ m →
      (rc.visit m d (rc.visit n c s).2).1 = (rc.visit m d s).1 ∧
      (rc.visit n c (rc.visit m d s).2).1 = (rc.visit n c s).1 ∧
      (rc.visit m d (rc.visit n c s).2).2.server = (rc.visit n c (rc.visit m d s).2).2.server := by
  refine ⟨?_, ?_, ?_⟩
  · intro name
    obtain ⟨calls, asked, revises⟩ := rc.reconcile_revises name named
    refine ⟨calls, asked, ?_, fun other different => revises.elsewhere different⟩
    rw [revises.clusters]
    split
    · exact Server.clusters_race _
    · rfl
  · intro name turns
    have agree : Desk.AgreeOn name (Desk.opened s) (Desk.opened s) :=
      ⟨.refl equipped, fun _ => rfl⟩
    obtain ⟨told, after⟩ := agree.run rc (.opened named equipped) turns
    exact ⟨told, after.shares.request, after.shares.clusters⟩
  · intro n m c d different
    exact ⟨(rc.visit_after c d different.symm named equipped).1,
      (rc.visit_after d c different named equipped).1,
      rc.visit_comm c d different.symm named equipped⟩

/-- A request that waits for its approval. -/
def pending (name : String) : Json :=
  .obj [("metadata", .obj [("name", .str name), ("labels", .obj [(clusterNameLabel, .str "c")]),
      ("resourceVersion", .str "7")]),
    ("spec", .obj [("username", .str (expectedUsername "c"))])]

/-- A state in which two requests wait. -/
def crowd : State :=
  .steady { Server.empty with
    requests := [("a", pending "a"), ("b", pending "b")], clusters := ["c"] }

theorem named_crowd : crowd.server.Named := by
  intro name body found
  have member := Table.mem_of_find? found
  simp only [crowd, State.steady, State.initial, List.mem_cons, List.not_mem_nil, or_false,
    Prod.mk.injEq] at member
  rcases member with ⟨rfl, rfl⟩ | ⟨rfl, rfl⟩ <;> exact ⟨rfl, _, rfl⟩

/-- Between the steps of a review, another reconciliation is interrupted and done again. -/
def bustle : List Turn :=
  let quiet : Circumstances := ⟨.epoch, none, none, none⟩
  [.step "b" 0 quiet, .reconcile "a" { quiet with replace := some (.interrupt "stop") },
    .step "b" 0 quiet, .reconcile "a" quiet, .step "b" 0 quiet]

/-- The review ends with an approval, as it does alone. -/
theorem requests_isolated_crowd :
    let told := (Desk.opened crowd).reports .steady bustle
    told.filter (fun r => r.name == "b") =
        (Desk.opened crowd).reports .steady (bustle.filter (Turn.concerns "b")) ∧
      (told.filter fun r => r.name == "b").map Report.given =
        [none, none, some (.ok .approved)] := by
  obtain ⟨-, isolated, -⟩ := requests_isolated .steady crowd named_crowd rfl
  have same := (isolated "b" bustle).1
  refine ⟨same.symm, ?_⟩
  rw [← same]
  decide +kernel

end BootstrapApproval
