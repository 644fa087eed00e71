import BootstrapApproval.Proofs.Interleaving.Guards
import BootstrapApproval.Proofs.Text.Numbers

/-! # One approval for each request

When versions are numbers that only grow, and nobody takes a decision back, a write is made from the
body it replaces, and every other write for the same request comes to nothing.
-/

namespace BootstrapApproval

open Server

/-- A body that was cleared for an approval holds no decision. -/
theorem Request.isDecided_eq_false {name : String} {body : Json} {r : Request}
    (versioned : IsVersioned name body) (understood : Request.understood body = .ok r)
    (undecided : r.resolution? = none) : body.isDecided = false := by
  obtain ⟨-, v, version⟩ := versioned
  cases body with
  | obj t => exact (isDecided_eq_false_iff understood).mpr undecided
  | _ => simp [versionOf, Json.getD, Json.get?, Json.members] at version

namespace Server

def number? (body : Json) : Option Nat := (versionOf body).str?.bind fun s => Digits.read? s.toList

/-- Every request is stored under its own name, with a number as its version. -/
def Numbered (s : Server) : Prop :=
  ∀ name body, s.requests.find? name = some body →
    nameOf body = name ∧ ∃ n, number? body = some n

/-- A later body of a request: a greater version, and every decision kept. -/
def Later (before now : Json) : Prop :=
  ∃ m n, number? before = some m ∧ number? now = some n ∧ m < n ∧
    (before.isDecided = true → now.isDecided = true)

/-- Whatever is stored anew comes later than what was stored, or is the first under its name. -/
def Grows (seen : List Server) (s s' : Server) : Prop :=
  ∀ name body, s'.requests.find? name = some body →
    s.requests.find? name = some body ∨ nameOf body = name ∧ (∃ n, number? body = some n) ∧
      ((∃ before, s.requests.find? name = some before ∧ Later before body) ∨
        ∀ old ∈ seen, old.requests.find? name = none)

theorem Later.trans {a b c : Json} (first : Later a b) (second : Later b c) : Later a c := by
  obtain ⟨l, m, read, read', less, kept⟩ := first
  obtain ⟨m', n, again, read'', less', kept'⟩ := second
  obtain rfl : m = m' := Option.some.inj (read'.symm.trans again)
  exact ⟨l, n, read, read'', Nat.lt_trans less less', kept' ∘ kept⟩

theorem version_of_number {body : Json} {n : Nat} (number : number? body = some n) :
    ∃ v, versionOf body = .str v := by
  unfold number? at number
  cases version : versionOf body with
  | str v => exact ⟨v, rfl⟩
  | _ => simp [version, Json.str?] at number

theorem Later.version_ne {before now : Json} (later : Later before now) :
    versionOf before ≠ versionOf now := by
  obtain ⟨m, n, read, read', less, -⟩ := later
  intro same
  unfold number? at read read'
  rw [same, read'] at read
  have := Option.some.inj read
  omega

theorem number_nextVersion {old : Json} {n : Nat} (number : number? old = some n) (body : Json) :
    number? (withVersion body (nextVersion (versionOf old))) = some (n + 1) := by
  unfold number? at number ⊢
  rw [versionOf_withVersion]
  cases version : versionOf old with
  | str v =>
      have read : Digits.read? v.toList = some n := by simpa [version, Json.str?] using number
      simp [nextVersion, Json.str?, read, Digits.decimal, Digits.read?_write]
  | _ => simp [version, Json.str?] at number

theorem Numbered.proper {s : Server} (numbered : s.Numbered) : s.Proper := by
  intro name body found
  obtain ⟨own, n, number⟩ := numbered name body found
  exact ⟨own, version_of_number number⟩

theorem Grows.of_requests_eq {seen : List Server} {s s' : Server}
    (same : s'.requests = s.requests) : Grows seen s s' :=
  fun _ _ found => .inl (same ▸ found)

theorem Grows.congr {seen : List Server} {s s' s'' : Server} (grows : Grows seen s s')
    (same : s''.requests = s'.requests) : Grows seen s s'' :=
  fun name body found => grows name body (same ▸ found)

theorem Grows.numbered {seen : List Server} {s s' : Server} (grows : Grows seen s s')
    (numbered : s.Numbered) : s'.Numbered := by
  intro name body found
  rcases grows name body found with same | ⟨own, number, -⟩
  · exact numbered name body same
  · exact ⟨own, number⟩

/-- An accepted approval comes later than what it replaces. -/
theorem Numbered.grows_replace {s : Server} (numbered : s.Numbered) (seen : List Server)
    (r : Request) (now : Timestamp) :
    Grows seen s (s.replace r.name (r.approve now).body).2 := by
  cases answered : (s.replace r.name (r.approve now).body).1 with
  | error f => exact .of_requests_eq (requests_replace_of_error answered)
  | ok answer =>
      obtain ⟨old, found, -, rfl, after⟩ := replace_eq_ok answered
      obtain ⟨-, n, number⟩ := numbered r.name old found
      intro name body stored
      rw [after] at stored
      by_cases same : name = r.name
      · subst same
        obtain rfl := Option.some.inj ((Table.find?_insert_self ..).symm.trans stored)
        have next := number_nextVersion number (r.approve now).body
        refine .inr ⟨nameOf_withVersion .., ⟨_, next⟩,
          .inl ⟨old, found, n, n + 1, number, next, ?_⟩⟩
        exact ⟨Nat.lt_succ_self n, fun _ => r.isDecided_approve now _⟩
      · exact .inl ((Table.find?_insert_of_ne _ _ same).symm.trans stored)

end Server

/-- What may happen among writers that count versions on: others store later bodies only, also just
before a look-up is answered. -/
def World.Permits (w : World) : Move → Prop
  | .edit server => Grows w.seen w.server server
  | .start _ _ => True
  | .advance i _ =>
      ∀ f r, w.flights[i]? = some f → f.progress = .read r → Grows w.seen w.server w.server.race

theorem World.permits_calm {w : World} {i : Nat} {here : State}
    (calm : w.server.rival.isNone = true) : w.Permits (.advance i here) := by
  intro f r _ _
  exact .of_requests_eq (congrArg Server.requests (race_of_calm calm))

def World.Peaceful (w : World) : List Move → Prop
  | [] => True
  | m :: moves => w.Permits m ∧ (w.move m).Peaceful moves

/-- What is stored now comes later than everything else that was stored under the same name. An
accepted approval is one of these, so there is no second one. -/
structure World.Ordered (w : World) : Prop where
  numbered : w.server.Numbered
  growth : ∀ old ∈ w.seen, ∀ name before now, old.requests.find? name = some before →
    w.server.requests.find? name = some now → now = before ∨ Later before now
  approved : ∀ x ∈ w.trace, ∀ name, x.Accepts name → ∃ old ∈ w.seen, ∃ stored,
    old.requests.find? name = some stored ∧ stored.isDecided = true
  once : w.trace.Pairwise fun x y => ∀ name, ¬ (x.Accepts name ∧ y.Accepts name)

namespace World.Ordered

variable {w : World}

theorem opened {s : Server} (numbered : s.Numbered) : (World.opened s).Ordered where
  numbered := numbered
  growth old member name before now found stored := by
    obtain rfl := List.mem_singleton.mp member
    exact .inl (Option.some.inj (stored.symm.trans found))
  approved := by simp [World.opened]
  once := .nil

/-- A body that comes later than what is stored has a version that was never there. -/
theorem renews (ordered : w.Ordered) {server : Server} (grows : Grows w.seen w.server server) :
    Renews w.seen w.server server := by
  intro name body found
  rcases grows name body found with same | ⟨own, ⟨n, number⟩, later | first⟩
  · exact .inl same
  · obtain ⟨before, stored, later⟩ := later
    refine .inr ⟨⟨own, version_of_number number⟩, fun old member b was => ?_⟩
    -- a version cannot return: whatever was stored is below what is stored now
    rcases ordered.growth old member name b before was stored with rfl | between
    · exact later.version_ne
    · exact (between.trans later).version_ne
  · refine .inr ⟨⟨own, version_of_number number⟩, fun old member b was => ?_⟩
    simp [first old member] at was

theorem growth_step (ordered : w.Ordered) {server : Server}
    (grows : Grows w.seen w.server server) :
    ∀ old ∈ server :: w.seen, ∀ name before now, old.requests.find? name = some before →
      server.requests.find? name = some now → now = before ∨ Later before now := by
  intro old member name before now was stored
  rcases List.mem_cons.mp member with rfl | member
  · exact .inl (Option.some.inj (stored.symm.trans was))
  · rcases grows name now stored with same | ⟨-, -, ⟨middle, found, later⟩ | first⟩
    · exact ordered.growth old member name before now was same
    · rcases ordered.growth old member name before middle was found with rfl | between
      · exact .inr later
      · exact .inr (between.trans later)
    · simp [first old member] at was

/-- Whatever a review does next, what it leaves stored comes later. -/
theorem grows_advance (ordered : w.Ordered) {i : Nat} {here : State}
    (permitted : w.Permits (.advance i here)) :
    Grows w.seen w.server (w.move (.advance i here)).server := by
  cases found : w.flights[i]? with
  | none =>
      have same : (w.move (.advance i here)).server = w.server := by simp [move, found]
      exact .of_requests_eq (congrArg Server.requests same)
  | some f =>
      have raced := permitted f
      obtain ⟨rc, name, p⟩ := f
      have taken := takes_advance here found
      generalize w.move (.advance i here) = w' at taken raced ⊢
      cases taken with
      | ends => exact .of_requests_eq rfl
      | refuses | reads => exact .of_requests_eq (requests_read w.server name)
      | rejects | clears => exact (raced _ found rfl).congr (requests_lookUp ..)
      | commits => exact ordered.numbered.grows_replace _ _ _

/-- Permitted moves bring new versions only. -/
theorem allows (ordered : w.Ordered) {m : Move} (permitted : w.Permits m) : w.Allows m := by
  cases m with
  | edit server => exact ordered.renews permitted
  | start rc name => exact trivial
  | advance i here =>
      exact ⟨fun f r found progress => ordered.renews (permitted f r found progress),
        fun _ => ordered.renews (ordered.grows_advance permitted)⟩

theorem advance (ordered : w.Ordered) {i : Nat} {here : State}
    (permitted : w.Permits (.advance i here)) (sound : (w.move (.advance i here)).Sound) :
    (w.move (.advance i here)).Ordered := by
  have grows := ordered.grows_advance permitted
  rcases w.trace_advance i here with same | ⟨seen, shape⟩
  · rwa [same]
  · have numbered := grows.numbered ordered.numbered
    have growth := ordered.growth_step grows
    rw [← seen] at growth
    have approved : ∀ x ∈ w.trace, ∀ name, x.Accepts name →
        ∃ old ∈ (w.move (.advance i here)).seen, ∃ stored,
          old.requests.find? name = some stored ∧ stored.isDecided = true := by
      intro x member name accepted
      obtain ⟨old, inside, facts⟩ := ordered.approved x member name accepted
      exact ⟨old, seen ▸ List.mem_cons_of_mem _ inside, facts⟩
    rcases shape with same | ⟨x, trace, before, after⟩
    · exact ⟨numbered, growth, same ▸ approved, same ▸ ordered.once⟩
    · have founded := sound.writes w.trace x [] trace
      refine ⟨numbered, growth, ?_, ?_⟩
      · intro y member name accepted
        rw [trace, List.mem_append, List.mem_singleton] at member
        rcases member with member | rfl
        · exact approved y member name accepted
        · obtain ⟨body, r, now, -, -, -, -, written⟩ := founded.of_accepts accepted
          have stored : y.after.requests.find? name =
              some (withVersion (r.approve now).body (nextVersion (versionOf body))) := by
            rw [written]
            exact Table.find?_insert_self ..
          refine ⟨y.after, ?_, _, stored, r.isDecided_approve now _⟩
          rw [seen, after]
          exact List.mem_cons_self
      · rw [trace, List.pairwise_append]
        refine ⟨ordered.once, List.pairwise_singleton .., ?_⟩
        intro y member z last name ⟨accepted, again⟩
        obtain rfl := List.mem_singleton.mp last
        obtain ⟨body, r, now, watch, clearance, versioned, found, -⟩ := founded.of_accepts again
        have undecided :=
          Request.isDecided_eq_false versioned watch.understood clearance.undecided
        -- the earlier approval was stored, and nothing that comes later takes it back
        obtain ⟨old, inside, stored, was, decided⟩ := ordered.approved y member name accepted
        rw [before] at found
        rcases ordered.growth old inside name stored body was found with rfl | ⟨-, -, -, -, -, kept⟩
        · rw [undecided] at decided
          exact Bool.noConfusion decided
        · rw [undecided] at kept
          exact Bool.noConfusion (kept decided)

theorem edit (ordered : w.Ordered) {server : Server} (grows : Grows w.seen w.server server) :
    (w.move (.edit server)).Ordered where
  numbered := grows.numbered ordered.numbered
  growth := ordered.growth_step grows
  approved x member name accepted := by
    obtain ⟨old, inside, facts⟩ := ordered.approved x member name accepted
    exact ⟨old, List.mem_cons_of_mem _ inside, facts⟩
  once := ordered.once

theorem start (ordered : w.Ordered) (rc : Reconciler) (name : String) :
    (w.move (.start rc name)).Ordered :=
  ⟨ordered.numbered, ordered.growth, ordered.approved, ordered.once⟩

/-- Permitted moves keep the world sound and ordered. -/
theorem run (sound : w.Sound) (ordered : w.Ordered) {moves : List Move}
    (peaceful : w.Peaceful moves) : (w.run moves).Sound ∧ (w.run moves).Ordered := by
  induction moves generalizing w with
  | nil => exact ⟨sound, ordered⟩
  | cons m moves ih =>
      obtain ⟨permitted, rest⟩ := peaceful
      have next := sound.move (ordered.allows permitted)
      refine ih next ?_ rest
      cases m with
      | edit server => exact ordered.edit permitted
      | start rc name => exact ordered.start rc name
      | advance i here => exact ordered.advance permitted next

end World.Ordered

/-- A write is made from the body that its review has read. When it is accepted, that body is the
one it replaces; when another body is stored by then, the review ends in a conflict and nothing is
stored. -/
structure Exchange.Consistent (x : Exchange) (name : String) (sent body : Json) : Prop where
  made : ∃ r now, Request.understood body = .ok r ∧ sent = (r.approve now).body
  accepted : ∀ answer, x.answer = .ok answer → x.before.requests.find? name = some body ∧
    x.after = x.before.storeAs name (withVersion sent (nextVersion (versionOf body)))
  refused : ∀ stored, x.before.requests.find? name = some stored → stored ≠ body →
    x.before.replaceFaults = [] → x.answer = .error conflict ∧ x.after = x.before ∧
      ∃ e, x.left = .ended (.error e) ∧
        e.fault = .operator (.conflict Coordinates.requests.plural name (some "ApiException"))

/-- Every request is stored under its own name, with a number as its version. Then, among any number
of reviews and of writers that count versions on, no write is lost, and for each request at most one
approval is ever accepted. -/
theorem no_lost_update {s : Server} (numbered : s.Numbered) {moves : List Move}
    (peaceful : (World.opened s).Peaceful moves) :
    (∀ front x back, ((World.opened s).run moves).trace = front ++ x :: back →
      ∀ name sent, x.call = .replace name sent →
        ∃ y ∈ front, y.flight = x.flight ∧ y.call = .read name ∧
          ∃ body, y.answer = .ok body ∧ x.Consistent name sent body) ∧
    ∀ name, ((World.opened s).run moves).trace.Pairwise
      fun x y => ¬ (x.Accepts name ∧ y.Accepts name) := by
  obtain ⟨sound, ordered⟩ :=
    World.Ordered.run (.opened numbered.proper) (.opened numbered) peaceful
  refine ⟨?_, fun name => ordered.once.imp fun never => never name⟩
  intro front x back happened name sent call
  obtain ⟨seen, body, r, now, watch, fresh, clearance, rfl, after, left⟩ :=
    sound.writes front x back happened name sent call
  have answer : x.answer = (x.before.replace name (r.approve now).body).1 := by
    rw [Exchange.answer, call]
    rfl
  obtain ⟨y, earlier, same, reads, answered⟩ := watch.read
  refine ⟨y, earlier, same, reads, body, answered, ⟨r, now, watch.understood, rfl⟩, ?_, ?_⟩
  · intro stored accepted
    rw [answer] at accepted
    obtain ⟨found, written⟩ := fresh.stored_of_accepted watch.understood accepted
    exact ⟨found, after.trans written⟩
  · intro stored found other calm
    have refused := fresh.conflict_of_other watch.understood now calm found other
    have conflicts : x.answer = .error conflict := by rw [answer, refused]
    rw [conflicts] at left
    exact ⟨conflicts, by rw [after, refused], _, left, rfl⟩

def sharedServer : Server :=
  { Server.empty with requests := [("a", awaiting "7")], clusters := ["c"] }

/-- Two reviews read and clear the same request before the first of them writes. -/
def firstWrite : List Move :=
  let here := State.steady .empty
  [.start .steady "a", .start .steady "a", .advance 0 here, .advance 1 here, .advance 0 here,
   .advance 1 here, .advance 0 here]

/-- The server after the first write, with the version counted on by another writer. -/
def countedOn : Server :=
  let server := ((World.opened sharedServer).run firstWrite).server
  { server with requests := server.requests.map fun e => (e.1, withVersion e.2 (.str "9")) }

/-- Another writer comes before the second review writes, too. -/
def secondWrite : List Move := firstWrite ++ [.edit countedOn, .advance 1 (.steady .empty)]

theorem grows_countedOn (seen : List Server) :
    Grows seen ((World.opened sharedServer).run firstWrite).server countedOn := by
  intro name body found
  have later : ∀ e ∈ countedOn.requests,
      e.1 = "a" ∧ nameOf e.2 = "a" ∧ number? e.2 = some 9 ∧ e.2.isDecided = true := by
    decide +kernel
  obtain ⟨e, -, stored, number⟩ :
      ∃ e ∈ ((World.opened sharedServer).run firstWrite).server.requests,
        ((World.opened sharedServer).run firstWrite).server.requests.find? "a" = some e.2 ∧
          number? e.2 = some 8 := by decide +kernel
  obtain ⟨rfl, own, number', decided⟩ := later _ (Table.mem_of_find? found)
  exact .inr ⟨own, ⟨9, number'⟩, .inl ⟨e.2, stored, 8, 9, number, number', by decide,
    fun _ => decided⟩⟩

theorem peaceful_secondWrite : (World.opened sharedServer).Peaceful secondWrite :=
  ⟨trivial, trivial, World.permits_calm (by decide +kernel),
    World.permits_calm (by decide +kernel), World.permits_calm (by decide +kernel),
    World.permits_calm (by decide +kernel), World.permits_calm (by decide +kernel),
    grows_countedOn _, World.permits_calm (by decide +kernel), trivial⟩

theorem no_lost_update_second :
    (∃ x ∈ ((World.opened sharedServer).run secondWrite).trace, x.Accepts "a") ∧
    (∃ x ∈ ((World.opened sharedServer).run secondWrite).trace, x.answer = .error conflict ∧
      ∃ sent body, x.call = .replace "a" sent ∧ x.Consistent "a" sent body) ∧
    ((World.opened sharedServer).run secondWrite).trace.Pairwise
      fun x y => ¬ (x.Accepts "a" ∧ y.Accepts "a") := by
  have numbered : sharedServer.Numbered := by
    intro name body found
    obtain ⟨rfl, rfl⟩ : name = "a" ∧ body = awaiting "7" := by
      simpa [sharedServer] using Table.mem_of_find? found
    exact ⟨rfl, 7, by decide⟩
  obtain ⟨writes, once⟩ := no_lost_update numbered peaceful_secondWrite
  refine ⟨by decide +kernel, ?_, once "a"⟩
  obtain ⟨x, member, call, answer⟩ :
      ∃ x ∈ ((World.opened sharedServer).run secondWrite).trace,
        x.call.writes "a" = true ∧ x.refusal? = some conflict := by decide +kernel
  obtain ⟨sent, call⟩ := Call.writes_iff.mp call
  obtain ⟨front, back, happened⟩ := List.append_of_mem member
  obtain ⟨y, -, -, -, body, -, consistent⟩ := writes front x back happened "a" sent call
  exact ⟨x, member, Exchange.refusal?_eq_some.mp answer, sent, body, call, consistent⟩

end BootstrapApproval
