import BootstrapApproval.Proofs.Interleaving.Origins
import BootstrapApproval.Proofs.Versions

/-! # Reviews hold what is stored

A review decides on the body it has read, and others may store another one meanwhile. As long as
every other body comes with a version that was never there, a stored body with the version that was
read is the body that was read.
-/

namespace BootstrapApproval

open Server

namespace Server

def IsVersioned (name : String) (body : Json) : Prop :=
  nameOf body = name ∧ ∃ v, versionOf body = .str v

/-- Every request is stored under its own name, with a version. -/
def Proper (s : Server) : Prop :=
  ∀ name body, s.requests.find? name = some body → IsVersioned name body

/-- Whatever is stored anew comes with a version that was never there under its name. -/
def Renews (seen : List Server) (s s' : Server) : Prop :=
  ∀ name body, s'.requests.find? name = some body →
    s.requests.find? name = some body ∨ IsVersioned name body ∧
      ∀ old ∈ seen, ∀ stored, old.requests.find? name = some stored →
        versionOf stored ≠ versionOf body

theorem Renews.of_requests_eq {seen : List Server} {s s' : Server}
    (same : s'.requests = s.requests) : Renews seen s s' :=
  fun _ _ found => .inl (same ▸ found)

theorem Renews.congr {seen : List Server} {s s' s'' : Server} (renews : Renews seen s s')
    (same : s''.requests = s'.requests) : Renews seen s s'' :=
  fun name body found => renews name body (same ▸ found)

theorem race_of_calm {s : Server} (calm : s.rival.isNone = true) : s.race = s := by
  rw [race, Option.isNone_iff_eq_none.mp calm]

/-- A write under the own name of its body leaves every request its own name and a version. -/
theorem Proper.replace {s : Server} (proper : s.Proper) (body : Json) :
    (s.replace (nameOf body) body).2.Proper := by
  cases answered : (s.replace (nameOf body) body).1 with
  | error f =>
      intro name stored found
      rw [requests_replace_of_error answered] at found
      exact proper name stored found
  | ok answer =>
      obtain ⟨old, -, -, rfl, after⟩ := replace_eq_ok answered
      intro name stored found
      rw [after] at found
      by_cases same : name = nameOf body
      · subst same
        obtain rfl := Option.some.inj ((Table.find?_insert_self ..).symm.trans found)
        exact ⟨nameOf_withVersion .., by
          rw [versionOf_withVersion]
          exact nextVersion_eq_str _⟩
      · exact proper name stored ((Table.find?_insert_of_ne _ _ same).symm.trans found)

theorem Renews.proper {seen : List Server} {s s' : Server} (renews : Renews seen s s')
    (proper : s.Proper) : s'.Proper := by
  intro name body found
  rcases renews name body found with same | ⟨versioned, -⟩
  · exact proper name body same
  · exact versioned

end Server

/-- Whether a review has read a request and not ended yet. -/
def Progress.isOpen : Progress → Bool
  | .read _ | .cleared _ => true
  | _ => false

/-- What may happen: others store bodies with new versions only, also just before a look-up is
answered. To a review that has read a request, the other reviews are others like any other. -/
def World.Allows (w : World) : Move → Prop
  | .edit server => Renews w.seen w.server server
  | .start _ _ => True
  | .advance i here =>
      (∀ f r, w.flights[i]? = some f → f.progress = .read r →
        Renews w.seen w.server w.server.race) ∧
      ((∃ (j : Nat) (g : Flight), j ≠ i ∧ w.flights[j]? = some g ∧ g.progress.isOpen = true) →
        Renews w.seen w.server (w.move (.advance i here)).server)

/-- A review may go on while no other one is open and nobody waits for its look-up. -/
theorem World.allows_alone {w : World} {i : Nat} {here : State}
    (calm : w.server.rival.isNone = true)
    (alone : ((w.flights.eraseIdx i).all fun g => !g.progress.isOpen) = true) :
    w.Allows (.advance i here) := by
  constructor
  · intro f r _ _
    exact .of_requests_eq (congrArg Server.requests (race_of_calm calm))
  · rintro ⟨j, g, other, found, isOpen⟩
    have rest : g ∈ w.flights.eraseIdx i := List.mem_eraseIdx_iff_getElem?.mpr ⟨j, other, found⟩
    have closed := List.all_eq_true.mp alone g rest
    simp [isOpen] at closed

def World.Lawful (w : World) : List Move → Prop
  | [] => True
  | m :: moves => w.Allows m ∧ (w.move m).Lawful moves

/-- A body that was stored once, and that is the only one with its version. -/
structure Fresh (seen : List Server) (server : Server) (name : String) (body : Json) : Prop where
  versioned : IsVersioned name body
  known : ∃ old ∈ seen, old.requests.find? name = some body
  current : ∀ stored, server.requests.find? name = some stored →
    versionOf stored = versionOf body → stored = body

theorem Fresh.step {seen : List Server} {s s' : Server} {name : String} {body : Json}
    (fresh : Fresh seen s name body) (renews : Renews seen s s') :
    Fresh (s' :: seen) s' name body := by
  obtain ⟨old, member, found⟩ := fresh.known
  refine ⟨fresh.versioned, ⟨old, List.mem_cons_of_mem _ member, found⟩, ?_⟩
  intro stored now same
  rcases renews name stored now with before | ⟨-, new⟩
  · exact fresh.current stored before same
  · exact absurd same.symm (new old member body found)

/-- What holds of a review by how far it has come. -/
def Flight.Sound (w : World) (i : Nat) (f : Flight) : Prop :=
  match f.progress with
  | .read r => ∃ body, Watch w.trace i f.name body r ∧ Fresh w.seen w.server f.name body
  | .cleared r => ∃ body, Watch w.trace i f.name body r ∧ Fresh w.seen w.server f.name body ∧
      Clearance w.trace i f.reconciler r
  | _ => True

/-- A write comes from a review that was cleared for it, and ends that review. -/
def Exchange.Founded (earlier : List Exchange) (x : Exchange) : Prop :=
  ∀ name sent, x.call = .replace name sent → ∃ seen body r now,
    Watch earlier x.flight name body r ∧ Fresh seen x.before name body ∧
      Clearance earlier x.flight x.reconciler r ∧ sent = (r.approve now).body ∧
      x.after = (x.before.replace name sent).2 ∧
      x.left = .ended (Store.submitResult name x.answer >>= fun _ =>
        .ok (.approved name r.clusterName))

/-- What holds of the world after any moves that may happen. -/
structure World.Sound (w : World) : Prop where
  proper : w.server.Proper
  present : w.server ∈ w.seen
  flights : ∀ (i : Nat) (f : Flight), w.flights[i]? = some f → f.Sound w i
  writes : ∀ front x back, w.trace = front ++ x :: back → x.Founded front

theorem Flight.Sound.step {w w' : World} {i : Nat} {f : Flight} {later : List Exchange}
    (sound : f.Sound w i) (trace : w'.trace = w.trace ++ later)
    (seen : w'.seen = w'.server :: w.seen)
    (renews : f.progress.isOpen = true → Renews w.seen w.server w'.server) : f.Sound w' i := by
  unfold Flight.Sound at sound ⊢
  cases progress : f.progress with
  | called | ended => trivial
  | read r =>
      rw [progress] at sound renews
      obtain ⟨body, watch, fresh⟩ := sound
      exact ⟨body, trace ▸ watch.mono, seen ▸ fresh.step (renews rfl)⟩
  | cleared r =>
      rw [progress] at sound renews
      obtain ⟨body, watch, fresh, clearance⟩ := sound
      exact ⟨body, trace ▸ watch.mono, seen ▸ fresh.step (renews rfl), trace ▸ clearance.mono⟩

namespace World.Sound

variable {w : World}

theorem opened {s : Server} (proper : s.Proper) : (World.opened s).Sound where
  proper := proper
  present := List.mem_singleton_self s
  flights := by simp [World.opened]
  writes := by simp [World.opened]

theorem edit (sound : w.Sound) {server : Server} (renews : Renews w.seen w.server server) :
    (w.move (.edit server)).Sound where
  proper := renews.proper sound.proper
  present := List.mem_cons_self
  flights i f found :=
    (sound.flights i f found).step (List.append_nil _).symm rfl fun _ => renews
  writes := sound.writes

theorem start (sound : w.Sound) (rc : Reconciler) (name : String) :
    (w.move (.start rc name)).Sound where
  proper := sound.proper
  present := sound.present
  flights := forall_flight_append sound.flights trivial
  writes := sound.writes

/-- One review goes on; the others have the server before them that it leaves. -/
theorem of_advance {w' : World} {i : Nat} {g : Flight} {later : List Exchange} (sound : w.Sound)
    (flights : w'.flights = w.flights.set i g) (seen : w'.seen = w'.server :: w.seen)
    (trace : w'.trace = w.trace ++ later) (proper : w'.server.Proper)
    (others : (∃ (j : Nat) (g : Flight),
      j ≠ i ∧ w.flights[j]? = some g ∧ g.progress.isOpen = true) →
        Renews w.seen w.server w'.server)
    (mine : g.Sound w' i)
    (founded : later = [] ∨ ∃ x, later = [x] ∧ x.Founded w.trace) : w'.Sound where
  proper := proper
  present := seen ▸ List.mem_cons_self
  flights := by
    rw [flights]
    refine forall_flight_set mine fun j f other found => ?_
    -- to an open review this step is an edit by somebody else
    exact (sound.flights j f found).step trace seen fun isOpen =>
      others ⟨j, f, other, found, isOpen⟩
  writes := by
    rw [trace]
    exact forall_exchange_append sound.writes founded

/-- Whatever a review does next, the world stays sound. -/
theorem advance (sound : w.Sound) {i : Nat} {here : State}
    (allowed : w.Allows (.advance i here)) : (w.move (.advance i here)).Sound := by
  cases found : w.flights[i]? with
  | none =>
      simpa [move, found] using sound
  | some f =>
      obtain ⟨raced, others⟩ := allowed
      obtain ⟨rc, name, p⟩ := f
      have raced (r : Request) := raced _ r found
      have mine := sound.flights i _ found
      have taken := takes_advance here found
      generalize w.move (.advance i here) = w' at taken others ⊢
      cases taken with
      | ends =>
          exact sound.of_advance rfl rfl (List.append_nil _).symm sound.proper others trivial
            (.inl rfl)
      | refuses =>
          have renews : Renews w.seen w.server (w.server.read name).2 :=
            .of_requests_eq (requests_read ..)
          exact sound.of_advance rfl rfl rfl (renews.proper sound.proper) others trivial
            (.inr ⟨_, rfl, fun _ _ call => Call.noConfusion call⟩)
      | @reads body r answer understood live labelled =>
          have same : (w.server.read name).2.requests = w.server.requests :=
            requests_read w.server name
          have stored := read_eq_ok answer
          have renews : Renews w.seen w.server (w.server.read name).2 := .of_requests_eq same
          refine sound.of_advance rfl rfl rfl (renews.proper sound.proper) others
            ⟨body, ⟨?_, understood, live, labelled⟩, sound.proper name body stored,
              ⟨w.server, ?_, stored⟩, ?_⟩
            (.inr ⟨_, rfl, fun _ _ call => Call.noConfusion call⟩)
          · exact ⟨_, List.mem_append_right _ (List.mem_singleton_self _), rfl, rfl, answer⟩
          · exact List.mem_cons_of_mem _ sound.present
          · -- a read stores nothing, so what is stored is still what was read
            intro now found _
            change (w.server.read name).2.requests.find? name = some now at found
            rw [same] at found
            exact Option.some.inj (found.symm.trans stored)
      | rejects r =>
          have renews : Renews w.seen w.server (w.server.lookUp r.clusterName).2 :=
            (raced r rfl).congr (requests_lookUp ..)
          exact sound.of_advance rfl rfl rfl (renews.proper sound.proper) others trivial
            (.inr ⟨_, rfl, fun _ _ call => Call.noConfusion call⟩)
      | @clears r entry answer undecided own earnest =>
          have renews : Renews w.seen w.server (w.server.lookUp r.clusterName).2 :=
            (raced r rfl).congr (requests_lookUp ..)
          obtain ⟨body, watch, fresh⟩ := mine
          refine sound.of_advance rfl rfl rfl (renews.proper sound.proper) others
            ⟨body, watch.mono, fresh.step renews, undecided, own, earnest, ?_⟩
            (.inr ⟨_, rfl, fun _ _ call => Call.noConfusion call⟩)
          exact ⟨_, List.mem_append_right _ (List.mem_singleton_self _), rfl, rfl, entry, answer⟩
      | @commits r now shown =>
          obtain ⟨body, watch, fresh, clearance⟩ := mine
          -- the write goes to the name in the body, which is the name that was read
          obtain ⟨own, v, version⟩ := fresh.versioned
          have named : r.name = name :=
            (Request.version_of_understood watch.understood version).2.trans own
          have proper := sound.proper.replace (r.approve now).body
          rw [Request.nameOf_body] at proper
          refine sound.of_advance rfl rfl rfl proper others trivial (.inr ⟨_, rfl, ?_⟩)
          intro n sent call
          obtain ⟨same, rfl⟩ := Call.replace.inj call
          obtain rfl : n = name := same.symm.trans named
          refine ⟨w.seen, body, r, now, watch, fresh, clearance, rfl, ?_, ?_⟩
          · simp only [respond, named]
          · simp only [Exchange.answer, respond, named]

theorem move (sound : w.Sound) {m : Move} (allowed : w.Allows m) : (w.move m).Sound := by
  cases m with
  | edit server => exact sound.edit allowed
  | start rc name => exact sound.start rc name
  | advance i here => exact sound.advance allowed

theorem run (sound : w.Sound) {moves : List Move} (lawful : w.Lawful moves) :
    (w.run moves).Sound := by
  induction moves generalizing w with
  | nil => exact sound
  | cons m moves ih => exact ih (sound.move lawful.1) lawful.2

end World.Sound

end BootstrapApproval
