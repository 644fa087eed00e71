import BootstrapApproval.Proofs.Interleaving.Origins
import BootstrapApproval.Proofs.Request.Reading

/-! # Identities and clusters

The bootstrap identity of a cluster repeats the name of the cluster around a separator that may
stand in the name as well. It belongs to this cluster alone all the same, since its length gives
away how long the name is. So whoever has the identity of one cluster is never approved for another
one.
-/

namespace BootstrapApproval

theorem expectedUsername_injective : Function.Injective expectedUsername := by
  intro a b same
  have chars := congrArg String.toList same
  simp only [expectedUsername, String.toList_append, List.append_assoc,
    List.append_right_inj] at chars
  -- the separator may stand in the names, so it is the lengths that say where the first name ends
  have lengths := congrArg List.length chars
  simp only [List.length_append] at lengths
  have length : a.toList.length = b.toList.length := by omega
  exact String.toList_injective (List.append_inj_left chars length)

namespace Request

variable {r r' : Request} {cluster cluster' : String}

theorem isFrom_iff : r.isFrom cluster = true ↔ r.username = some (expectedUsername cluster) := by
  simp [isFrom]

theorem isFrom_unique (one : r.isFrom cluster = true) (other : r'.isFrom cluster' = true)
    (same : r.username = r'.username) : cluster = cluster' := by
  rw [isFrom_iff] at one other
  apply expectedUsername_injective
  rw [one, other] at same
  exact Option.some.inj same

theorem isFrom_of_eligible (eligible : r.isEligible = true) : r.isFrom r.clusterName = true := by
  simp only [isEligible, Bool.and_eq_true] at eligible
  exact eligible.2

end Request

def Call.isRead : Call → Bool
  | .read _ => true
  | _ => false

namespace World

/-- No review reads a second time: what it asks for after its first question is no read. -/
structure ReadsOnce (w : World) : Prop where
  started : ∀ x ∈ w.trace, x.flight < w.flights.length
  fresh : ∀ (i : Nat) (f : Flight), w.flights[i]? = some f → f.progress = .called →
    ∀ x ∈ w.trace, x.flight ≠ i
  once : w.trace.Pairwise fun x y => x.flight = y.flight → y.call.isRead = false

namespace ReadsOnce

variable {w w' : World} {i : Nat} {f g : Flight} {later : List Exchange}

theorem opened (s : Server) : (World.opened s).ReadsOnce where
  started := by simp [World.opened]
  fresh := by simp [World.opened]
  once := List.Pairwise.nil

theorem start (once : w.ReadsOnce) (rc : Reconciler) (name : String) :
    (w.move (.start rc name)).ReadsOnce where
  started := by
    intro x member
    have before := once.started x member
    simp only [World.move, List.length_append, List.length_singleton]
    omega
  fresh := by
    refine forall_flight_append once.fresh ?_
    intro _ x member
    exact Nat.ne_of_lt (once.started x member)
  once := once.once

/-- A review that asks for a read has asked for nothing before. -/
theorem of_advance (once : w.ReadsOnce) (found : w.flights[i]? = some f)
    (flights : w'.flights = w.flights.set i g) (trace : w'.trace = w.trace ++ later)
    (gone : g.progress ≠ .called)
    (new : later = [] ∨ ∃ x, later = [x] ∧ x.flight = i ∧
      (x.call.isRead = true → f.progress = .called)) : w'.ReadsOnce := by
  have mine : ∀ x ∈ later, x.flight = i ∧ (x.call.isRead = true → f.progress = .called) := by
    intro x member
    rcases new with rfl | ⟨y, rfl, here, first⟩
    · simp at member
    · obtain rfl := List.mem_singleton.mp member
      exact ⟨here, first⟩
  refine ⟨?_, ?_, ?_⟩
  · intro x member
    rw [flights, List.length_set]
    rw [trace] at member
    rcases List.mem_append.mp member with earlier | last
    · exact once.started x earlier
    · rw [(mine x last).1]
      exact (List.getElem?_eq_some_iff.mp found).1
  · rw [flights]
    refine forall_flight_set (fun called => absurd called gone) ?_
    intro j h other at_j called x member
    rw [trace] at member
    rcases List.mem_append.mp member with earlier | last
    · exact once.fresh j h at_j called x earlier
    · rw [(mine x last).1]
      exact Ne.symm other
  · rw [trace, List.pairwise_append]
    refine ⟨once.once, ?_, ?_⟩
    · rcases new with rfl | ⟨y, rfl, -⟩
      · exact List.Pairwise.nil
      · exact List.pairwise_singleton ..
    · intro x earlier y last same
      cases reads : y.call.isRead with
      | false => rfl
      | true =>
          have called := (mine y last).2 reads
          exact absurd (same.trans (mine y last).1) (once.fresh i f found called x earlier)

theorem advance (once : w.ReadsOnce) (i : Nat) (here : State) :
    (w.move (.advance i here)).ReadsOnce := by
  cases found : w.flights[i]? with
  | none => simpa [World.move, found] using once
  | some f =>
      obtain ⟨rc, name, p⟩ := f
      have taken := takes_advance here found
      generalize w.move (.advance i here) = w' at taken ⊢
      cases taken with
      | ends =>
          exact once.of_advance found rfl (List.append_nil _).symm Progress.noConfusion (.inl rfl)
      | refuses | reads =>
          exact once.of_advance found rfl rfl Progress.noConfusion
            (.inr ⟨_, rfl, rfl, fun _ => rfl⟩)
      | rejects | clears | commits =>
          exact once.of_advance found rfl rfl Progress.noConfusion
            (.inr ⟨_, rfl, rfl, Bool.noConfusion⟩)

theorem move (once : w.ReadsOnce) (m : Move) : (w.move m).ReadsOnce := by
  cases m with
  | edit server => exact ⟨once.started, once.fresh, once.once⟩
  | start rc name => exact once.start rc name
  | advance i here => exact once.advance i here

theorem run (once : w.ReadsOnce) (moves : List Move) : (w.run moves).ReadsOnce := by
  induction moves generalizing w with
  | nil => exact once
  | cons m moves ih => exact ih (once.move m)

/-- There is one read of a review at most. -/
theorem unique (once : w.ReadsOnce) {x y : Exchange} (x_member : x ∈ w.trace)
    (y_member : y ∈ w.trace) (same : x.flight = y.flight) (x_reads : x.call.isRead = true)
    (y_reads : y.call.isRead = true) : x = y := by
  obtain ⟨j, j_inside, rfl⟩ := List.mem_iff_getElem.mp x_member
  obtain ⟨k, k_inside, rfl⟩ := List.mem_iff_getElem.mp y_member
  have ordered := List.pairwise_iff_getElem.mp once.once
  rcases Nat.lt_trichotomy j k with before | rfl | after
  · have never := ordered j k j_inside k_inside before same
    simp [y_reads] at never
  · rfl
  · have never := ordered k j k_inside j_inside after same.symm
    simp [x_reads] at never

end ReadsOnce

/-- A review that has read a request with the identity of one cluster and the label of another one
never writes. -/
theorem unwritten_of_foreign (s : Server) (moves : List Move) {x y : Exchange} {name : String}
    {body : Json} {r : Request} {cluster : String}
    (y_member : y ∈ ((World.opened s).run moves).trace) (reads : y.call = .read name)
    (answer : y.answer = .ok body) (understood : Request.understood body = .ok r)
    (identity : r.username = some (expectedUsername cluster)) (foreign : r.clusterName ≠ cluster)
    (x_member : x ∈ ((World.opened s).run moves).trace) (same : x.flight = y.flight)
    (sentTo : String) (sent : Json) : x.call ≠ .replace sentTo sent := by
  intro call
  obtain ⟨front, back, happened⟩ := List.append_of_mem x_member
  obtain ⟨own, read, q, origin⟩ :=
    ((World.Traced.opened s).run moves).writes front x back happened sentTo sent call
  obtain ⟨y', member, same', reads', answer'⟩ := origin.watch.read
  have y'_member : y' ∈ ((World.opened s).run moves).trace := by
    rw [happened]
    exact List.mem_append_left _ member
  -- the request that was written is the request of the one read
  obtain rfl : y = y' := ((ReadsOnce.opened s).run moves).unique y_member y'_member
    (same.symm.trans same'.symm) (by rw [reads]; rfl) (by rw [reads']; rfl)
  obtain rfl : body = read := Except.ok.inj (answer.symm.trans answer')
  obtain rfl : r = q := Except.ok.inj (understood.symm.trans origin.watch.understood)
  apply foreign
  exact Request.isFrom_unique origin.clearance.own (Request.isFrom_iff.mpr identity) rfl

end World

/-- No two clusters have the same identity. So requests with the same username are eligible under
one label only, and whatever happens to the server meanwhile, no review writes a request that it has
read with the identity of one cluster and the label of another one. -/
theorem identity_bound_to_cluster :
    (∀ a b, expectedUsername a = expectedUsername b → a = b) ∧
    (∀ r r' : Request, r.isEligible = true → r'.isEligible = true → r.username = r'.username →
      r.clusterName = r'.clusterName) ∧
    ∀ (s : Server) (moves : List Move), ∀ y ∈ ((World.opened s).run moves).trace,
      ∀ name body r cluster, y.call = .read name → y.answer = .ok body →
        Request.understood body = .ok r → r.username = some (expectedUsername cluster) →
        r.clusterName ≠ cluster →
        ∀ x ∈ ((World.opened s).run moves).trace, x.flight = y.flight →
          ∀ sentTo sent, x.call ≠ .replace sentTo sent := by
  refine ⟨fun a b => @expectedUsername_injective a b, ?_, ?_⟩
  · intro r r' eligible eligible' same
    exact Request.isFrom_unique (Request.isFrom_of_eligible eligible)
      (Request.isFrom_of_eligible eligible') same
  · intro s moves y y_member name body r cluster reads answer understood identity foreign x
      x_member same
    exact World.unwritten_of_foreign s moves y_member reads answer understood identity foreign
      x_member same

/-- A request with the identity of one cluster and the label of another one. -/
def impostor : Json :=
  .obj [("metadata", .obj [("name", .str "a"), ("labels", .obj [(clusterNameLabel, .str "c:c")])]),
    ("spec", .obj [("username", .str (expectedUsername "c"))])]

/-- A server on which both clusters of the request are registered. -/
def ambiguous : Server :=
  { Server.empty with requests := [("a", impostor)], clusters := ["c", "c:c"] }

/-- A review of the request that nothing interrupts. -/
def impostorReview : List Move :=
  let here := State.steady .empty
  (World.opened ambiguous).uninterrupted .steady "a" here here here

/-- The request is read and its cluster is found, but it is not written. -/
theorem identity_bound_to_cluster_impostor :
    expectedUsername "c" ≠ expectedUsername "c:c" ∧
      (((World.opened ambiguous).run impostorReview).trace.map fun x => x.call) =
        [.read "a", .lookUp "c:c"] ∧
      ∀ x ∈ ((World.opened ambiguous).run impostorReview).trace, x.flight = 0 →
        ∀ sentTo sent, x.call ≠ .replace sentTo sent := by
  obtain ⟨injective, -, unwritten⟩ := identity_bound_to_cluster
  refine ⟨fun same => absurd (injective _ _ same) (by decide), by decide +kernel, ?_⟩
  obtain ⟨y, member, flight, reads, answer⟩ :
      ∃ y ∈ ((World.opened ambiguous).run impostorReview).trace,
        y.flight = 0 ∧ y.call = .read "a" ∧ y.answer.toOption = some impostor := by
    decide +kernel
  have answered : y.answer = .ok impostor := by
    cases given : y.answer with
    | error f => simp [given, Except.toOption] at answer
    | ok body => simpa [given, Except.toOption] using answer
  have shown : (Request.understood impostor).map (fun r => (r.username, r.clusterName)) =
      .ok (some (expectedUsername "c"), "c:c") := rfl
  obtain ⟨r, understood, same⟩ := Request.exists_of_map_understood shown
  obtain ⟨identity, label⟩ := Prod.mk.inj same
  have foreign : r.clusterName ≠ "c" := by
    rw [label]
    decide
  intro x x_member here
  exact unwritten ambiguous impostorReview y member "a" impostor r "c" reads answered understood
    identity foreign x x_member (here.trans flight.symm)

end BootstrapApproval
