import BootstrapApproval.Proofs.Interleaving.World

/-! # Where a write comes from

Whatever happens to the server meanwhile, a review goes by what it has read itself. So behind every
write there is a read of the same review, of a request that it has found alive, with a cluster, and
undecided, and after it a look-up of this cluster. Nothing is assumed about the others.
-/

namespace BootstrapApproval

/-- What a review has found: a request read from a body, alive and with a cluster. -/
structure Watch (earlier : List Exchange) (i : Nat) (name : String) (body : Json) (r : Request) :
    Prop where
  read : ∃ y ∈ earlier, y.flight = i ∧ y.call = .read name ∧ y.answer = .ok body
  understood : Request.understood body = .ok r
  live : r.isDeleting = false
  labelled : r.clusterName ≠ ""

/-- What clears a request for its approval. -/
structure Clearance (earlier : List Exchange) (i : Nat) (rc : Reconciler) (r : Request) :
    Prop where
  undecided : r.resolution? = none
  own : r.isFrom r.clusterName = true
  earnest : rc.dryRun = false
  registered : ∃ y ∈ earlier, y.flight = i ∧ y.call = .lookUp r.clusterName ∧
    ∃ entry, y.answer = .ok entry

theorem Watch.mono {earlier later : List Exchange} {i : Nat} {name : String} {body : Json}
    {r : Request} (watch : Watch earlier i name body r) :
    Watch (earlier ++ later) i name body r := by
  obtain ⟨y, member, facts⟩ := watch.read
  exact { watch with read := ⟨y, List.mem_append_left _ member, facts⟩ }

theorem Clearance.mono {earlier later : List Exchange} {i : Nat} {rc : Reconciler} {r : Request}
    (clearance : Clearance earlier i rc r) : Clearance (earlier ++ later) i rc r := by
  obtain ⟨y, member, facts⟩ := clearance.registered
  exact { clearance with registered := ⟨y, List.mem_append_left _ member, facts⟩ }

/-- What a review goes by, by how far it has come. -/
def Flight.Traced (earlier : List Exchange) (i : Nat) (f : Flight) : Prop :=
  match f.progress with
  | .read r => ∃ body, Watch earlier i f.name body r
  | .cleared r => ∃ body, Watch earlier i f.name body r ∧ Clearance earlier i f.reconciler r
  | _ => True

theorem Flight.Traced.mono {earlier later : List Exchange} {i : Nat} {f : Flight}
    (traced : f.Traced earlier i) : f.Traced (earlier ++ later) i := by
  unfold Flight.Traced at traced ⊢
  cases progress : f.progress with
  | called | ended => trivial
  | read r =>
      rw [progress] at traced
      obtain ⟨body, watch⟩ := traced
      exact ⟨body, watch.mono⟩
  | cleared r =>
      rw [progress] at traced
      obtain ⟨body, watch, clearance⟩ := traced
      exact ⟨body, watch.mono, clearance.mono⟩

/-- Where a write comes from, and what it does: it is the request that its review has read, with an
approval, and it ends the review. -/
structure Exchange.Origin (earlier : List Exchange) (x : Exchange) (name sentTo : String)
    (sent body : Json) (r : Request) : Prop where
  watch : Watch earlier x.flight name body r
  clearance : Clearance earlier x.flight x.reconciler r
  own : sentTo = r.name
  made : ∃ now, sent = (r.approve now).body
  after : x.after = (x.before.replace sentTo sent).2
  left : x.left = .ended (Store.submitResult sentTo x.answer >>= fun _ =>
    .ok (.approved name r.clusterName))

def Exchange.Traced (earlier : List Exchange) (x : Exchange) : Prop :=
  ∀ sentTo sent, x.call = .replace sentTo sent →
    ∃ name body r, x.Origin earlier name sentTo sent body r

/-- Every review and every write goes by what was read. -/
structure World.Traced (w : World) : Prop where
  flights : ∀ (i : Nat) (f : Flight), w.flights[i]? = some f → f.Traced w.trace i
  writes : ∀ front x back, w.trace = front ++ x :: back → x.Traced front

namespace World

section Lists

/-- What holds of every exchange, given those before it, holds of all when it holds of the next. -/
theorem forall_exchange_append {P : List Exchange → Exchange → Prop} {trace later : List Exchange}
    (held : ∀ front x back, trace = front ++ x :: back → P front x)
    (next : later = [] ∨ ∃ x, later = [x] ∧ P trace x) :
    ∀ front x back, trace ++ later = front ++ x :: back → P front x := by
  intro front x back happened
  rcases next with rfl | ⟨new, rfl, holds⟩
  · rw [List.append_nil] at happened
    exact held front x back happened
  · rcases List.eq_nil_or_concat back with rfl | ⟨back, last, rfl⟩
    · obtain ⟨rfl, same⟩ := List.append_inj' happened rfl
      obtain rfl := List.singleton_inj.mp same
      exact holds
    · have longer : trace ++ [new] = (front ++ x :: back) ++ [last] := by simpa using happened
      exact held front x back (List.append_inj' longer rfl).1

theorem forall_flight_set {P : Nat → Flight → Prop} {flights : List Flight} {i : Nat} {g : Flight}
    (mine : P i g) (others : ∀ j f, j ≠ i → flights[j]? = some f → P j f) :
    ∀ j f, (flights.set i g)[j]? = some f → P j f := by
  intro j f found
  by_cases same : i = j
  · subst same
    have inside : i < flights.length := by
      have := (List.getElem?_eq_some_iff.mp found).1
      rwa [List.length_set] at this
    rw [List.getElem?_set_self inside] at found
    exact Option.some.inj found ▸ mine
  · rw [List.getElem?_set_ne same] at found
    exact others j f (Ne.symm same) found

theorem forall_flight_append {P : Nat → Flight → Prop} {flights : List Flight} {g : Flight}
    (held : ∀ j f, flights[j]? = some f → P j f) (new : P flights.length g) :
    ∀ j f, (flights ++ [g])[j]? = some f → P j f := by
  intro j f found
  rcases Nat.lt_or_ge j flights.length with before | after
  · rw [List.getElem?_append_left before] at found
    exact held j f found
  · rw [List.getElem?_append_right after, List.getElem?_singleton] at found
    split at found
    · obtain rfl := Option.some.inj found
      obtain rfl : j = flights.length := by omega
      exact new
    · simp at found

end Lists

namespace Traced

variable {w : World}

theorem opened (s : Server) : (World.opened s).Traced where
  flights := by simp [World.opened]
  writes := by simp [World.opened]

theorem start (traced : w.Traced) (rc : Reconciler) (name : String) :
    (w.move (.start rc name)).Traced where
  flights := forall_flight_append traced.flights trivial
  writes := traced.writes

theorem of_advance {w' : World} {i : Nat} {g : Flight} {later : List Exchange} (traced : w.Traced)
    (flights : w'.flights = w.flights.set i g) (trace : w'.trace = w.trace ++ later)
    (mine : g.Traced w'.trace i) (new : later = [] ∨ ∃ x, later = [x] ∧ x.Traced w.trace) :
    w'.Traced where
  flights := by
    rw [flights]
    refine forall_flight_set mine fun j f _ found => ?_
    rw [trace]
    exact (traced.flights j f found).mono
  writes := by
    rw [trace]
    exact forall_exchange_append traced.writes new

theorem advance (traced : w.Traced) (i : Nat) (here : State) :
    (w.move (.advance i here)).Traced := by
  cases found : w.flights[i]? with
  | none => simpa [move, found] using traced
  | some f =>
      obtain ⟨rc, name, p⟩ := f
      have mine := traced.flights i _ found
      have taken := takes_advance here found
      generalize w.move (.advance i here) = w' at taken ⊢
      cases taken with
      | ends => exact traced.of_advance rfl (List.append_nil _).symm trivial (.inl rfl)
      | refuses | rejects =>
          exact traced.of_advance rfl rfl trivial
            (.inr ⟨_, rfl, fun _ _ call => Call.noConfusion call⟩)
      | @reads body r answer understood live labelled =>
          refine traced.of_advance rfl rfl ⟨body, ?_, understood, live, labelled⟩
            (.inr ⟨_, rfl, fun _ _ call => Call.noConfusion call⟩)
          exact ⟨_, List.mem_append_right _ (List.mem_singleton_self _), rfl, rfl, answer⟩
      | @clears r entry answer undecided own earnest =>
          obtain ⟨body, watch⟩ := mine
          refine traced.of_advance rfl rfl ⟨body, watch.mono, undecided, own, earnest, ?_⟩
            (.inr ⟨_, rfl, fun _ _ call => Call.noConfusion call⟩)
          exact ⟨_, List.mem_append_right _ (List.mem_singleton_self _), rfl, rfl, entry, answer⟩
      | @commits r now shown =>
          obtain ⟨body, watch, clearance⟩ := mine
          refine traced.of_advance rfl rfl trivial (.inr ⟨_, rfl, ?_⟩)
          intro sentTo sent call
          obtain ⟨rfl, rfl⟩ := Call.replace.inj call
          exact ⟨name, body, r, watch, clearance, rfl, ⟨now, rfl⟩, rfl, rfl⟩

theorem move (traced : w.Traced) (m : Move) : (w.move m).Traced := by
  cases m with
  | edit server => exact ⟨traced.flights, traced.writes⟩
  | start rc name => exact traced.start rc name
  | advance i here => exact traced.advance i here

/-- In every run, every write has an origin. -/
theorem run (traced : w.Traced) (moves : List Move) : (w.run moves).Traced := by
  induction moves generalizing w with
  | nil => exact traced
  | cons m moves ih => exact ih (traced.move m)

end Traced

end World

end BootstrapApproval
