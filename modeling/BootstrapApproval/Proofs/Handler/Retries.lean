import BootstrapApproval.Proofs.Handler.Errands
import BootstrapApproval.Proofs.Reconciler.Answers
import BootstrapApproval.Proofs.Reconciler.Steady
import BootstrapApproval.Proofs.Request.Decisions
import BootstrapApproval.Proofs.Request.Versioned

/-! # Failed errands and the next attempt

An errand that raises a fault has changed nothing on the server, and one that was hit by a failure
has changed nothing either. So however many attempts have failed, the next one ends as the first
one would have ended.
-/

namespace BootstrapApproval

open Act Handler

/-- The three kinds of calls on the server. -/
inductive Verb where
  | read
  | lookUp
  | replace
  deriving DecidableEq, Repr

namespace Server

/-- The server on which the next call of one kind will fail, when none is bound to fail before. -/
def failing (s : Server) (f : Fault) : Verb → Server
  | .read => { s with readFaults := s.readFaults ++ [f] }
  | .lookUp => { s with lookUpFaults := s.lookUpFaults ++ [f] }
  | .replace => { s with replaceFaults := s.replaceFaults ++ [f] }

/-- No call is bound to fail, and no other writer waits. -/
structure IsCalm (s : Server) : Prop where
  read : s.readFaults = []
  lookUp : s.lookUpFaults = []
  replace : s.replaceFaults = []
  rival : s.rival = none

theorem failing_not_calm (s : Server) (f : Fault) (v : Verb) : ¬ (s.failing f v).IsCalm := by
  intro still
  cases v with
  | read => simpa [failing] using still.read
  | lookUp => simpa [failing] using still.lookUp
  | replace => simpa [failing] using still.replace

section Calm

variable {s : Server} (calm : s.IsCalm) (f : Fault) (name : String) (body : Json)
include calm

theorem read_failing : (s.failing f .read).read name = (.error f, s) := by
  obtain ⟨requests, clusters, reads, lookUps, replaces, rival⟩ := s
  obtain rfl : reads = [] := calm.read
  rfl

theorem lookUp_failing : (s.failing f .lookUp).lookUp name = (.error f, s) := by
  obtain ⟨requests, clusters, reads, lookUps, replaces, rival⟩ := s
  obtain rfl : lookUps = [] := calm.lookUp
  obtain rfl : rival = none := calm.rival
  rfl

theorem replace_failing : (s.failing f .replace).replace name body = (.error f, s) := by
  obtain ⟨requests, clusters, reads, lookUps, replaces, rival⟩ := s
  obtain rfl : replaces = [] := calm.replace
  rfl

theorem read_unhit {v : Verb} (other : v ≠ .read) :
    ((s.failing f v).read name).2 = s.failing f v := by
  have quiet : (s.failing f v).readFaults = [] := by
    cases v with
    | read => exact absurd rfl other
    | _ => exact calm.read
  unfold Server.read
  rw [quiet]
  dsimp only
  split <;> rfl

theorem lookUp_unhit {v : Verb} (other : v ≠ .lookUp) :
    ((s.failing f v).lookUp name).2 = s.failing f v := by
  have quiet : (s.failing f v).lookUpFaults = [] := by
    cases v with
    | lookUp => exact absurd rfl other
    | _ => exact calm.lookUp
  have alone : (s.failing f v).race = s.failing f v := by
    have rival : (s.failing f v).rival = none := by cases v <;> exact calm.rival
    rw [race, rival]
  unfold Server.lookUp
  rw [alone]
  dsimp only
  rw [quiet]

end Calm

end Server

namespace Reconciler

variable {rc : Reconciler} {name : String} {s : State} {result : Except Raised Verdict}
  {o : Outside}

theorem Concludes.around (concludes : rc.Concludes name s result o) : o.around = s.around := by
  cases concludes <;> rfl

/-- A review that fails leaves the requests and the clusters as they were, but for the edit of
another writer that was due with the look-up. -/
theorem Concludes.keeps (concludes : rc.Concludes name s result o) {e : Raised}
    (failed : result = .error e) (twinless : s.server.IsTwinless) :
    ∃ calls, o.asked = s.outside.asked ++ calls ∧ o.server.clusters = s.server.clusters ∧
      o.server.requests =
        (if calls.any Call.isLookUp then s.server.race else s.server).requests := by
  rcases concludes.spares_or_commits with
    ⟨calls, spares⟩ | ⟨body, r, now, considers, clears, shown, writable, rfl, rfl⟩
  · exact ⟨calls, spares.asked, spares.clusters, spares.requests⟩
  · let sent := (r.approve now).body
    let t := (s.server.lookUp r.clusterName).2
    have written := considers.server_written sent
    refine ⟨_, s.outside.asked_askAll [.read name, .lookUp r.clusterName, .replace r.name sent],
      ?_, ?_⟩
    · refine (congrArg Server.clusters written).trans ?_
      rw [Server.clusters_replace, Server.clusters_lookUp]
    · refine (congrArg Server.requests written).trans ?_
      change _ = s.server.race.requests
      rw [← Server.requests_lookUp s.server r.clusterName]
      cases answer : (t.replace r.name sent).1 with
      | error f => exact Server.requests_replace_of_error answer
      | ok body =>
          -- the answer to an accepted write stands for a request, so the review does not fail
          obtain ⟨again, understood⟩ :=
            twinless.understood_accepted considers.answer considers.understood answer
          change (t.replace r.name sent).1 = _ at answer
          rw [answer, Store.submitResult, Store.given, understood] at failed
          cases failed

/-- A review that has been hit by the one failure that waited for it leaves the server as it was
before the failure was bound to happen. -/
theorem Concludes.server_of_hit (concludes : rc.Concludes name s result o) {t : Server}
    (calm : t.IsCalm) {f : Fault} {v : Verb} (waiting : s.server = t.failing f v)
    (hit : o.server.IsCalm) : o.server = t ∧ (Client.ensure s).1 = .ok () := by
  have unread (other : v ≠ .read) : (s.server.read name).2 = t.failing f v := by
    rw [waiting, Server.read_unhit calm f name other]
  -- a review that has read a request was not hit by then
  have spared {body : Json} {r : Request} (considers : Considers name s body r) : v ≠ .read := by
    rintro rfl
    have answer := considers.answer
    rw [waiting, Server.read_failing calm] at answer
    cases answer
  have looked {body : Json} {r : Request} (considers : Considers name s body r)
      (here : o.server = (t.failing f v |>.lookUp r.clusterName).2) : o.server = t := by
    by_cases verb : v = .lookUp
    · rw [here, verb, Server.lookUp_failing calm]
    · rw [here, Server.lookUp_unhit calm f _ verb] at hit
      exact absurd hit (Server.failing_not_calm t f v)
  have lookUp {body : Json} {r : Request} (considers : Considers name s body r) :
      ((s.outside.ask (.read name)).ask (.lookUp r.clusterName)).server =
        ((t.failing f v).lookUp r.clusterName).2 := by
    change ((s.server.read name).2.lookUp r.clusterName).2 = _
    rw [unread (spared considers)]
  have read (ensured : (Client.ensure s).1 = .ok ()) (here : o = s.outside.ask (.read name)) :
      o.server = t ∧ (Client.ensure s).1 = .ok () := by
    refine ⟨?_, ensured⟩
    have server : o.server = (s.server.read name).2 := congrArg Outside.server here
    by_cases verb : v = .read
    · rw [server, waiting, verb, Server.read_failing calm]
    · rw [server, unread verb] at hit
      exact absurd hit (Server.failing_not_calm t f v)
  cases concludes with
  | powerless =>
      change s.server.IsCalm at hit
      rw [waiting] at hit
      exact absurd hit (Server.failing_not_calm t f v)
  | unread ensured => exact read ensured rfl
  | dismisses ensured => exact read ensured rfl
  | unknown considers => exact ⟨looked considers (lookUp considers), considers.ensured⟩
  | judges considers => exact ⟨looked considers (lookUp considers), considers.ensured⟩
  | timeless considers => exact ⟨looked considers (lookUp considers), considers.ensured⟩
  | unwritable considers => exact ⟨looked considers (lookUp considers), considers.ensured⟩
  | @commits body r now considers clears shown writable =>
      refine ⟨?_, considers.ensured⟩
      obtain ⟨entry, answer⟩ := clears.entry
      have other : v ≠ .lookUp := by
        rintro rfl
        rw [waiting, Server.lookUp_failing calm] at answer
        cases answer
      change (Server.replace _ r.name (r.approve now).body).2 = t
      rw [lookUp considers, Server.lookUp_unhit calm f _ other]
      cases v with
      | read => exact absurd rfl (spared considers)
      | lookUp => exact absurd rfl other
      | replace => rw [Server.replace_failing calm]

end Reconciler

/-- The same surroundings at another time. -/
def Surroundings.timed (a : Surroundings) (now : Timestamp) : Surroundings :=
  { a with wallClock := now }

def State.timed (s : State) (now : Timestamp) : State := { s with around := s.around.timed now }

theorem Client.ensure_of_timed {s t : State} {now : Timestamp}
    (timed : t.around = s.around.timed now) (same : t.reconciler = s.reconciler) :
    (ensure t).1 = (ensure s).1 := by
  refine ensure_of_credentials ?_ ?_ same
  · rw [timed]
    rfl
  · rw [timed]
    rfl

namespace Handler

/-- From one state to the other, time may have passed and the reconciler may have been made or given
a client. Of what an errand depends on, nothing else has changed. -/
structure Unchanged (s t : State) : Prop where
  server : t.server = s.server
  around : ∃ now, t.around = s.around.timed now
  settings : t.settings = s.settings
  reconciler : used t = used s ∨ used t = { used s with hasClient := true }
  credentials : (Client.ensure (ready t)).1 = (Client.ensure (ready s)).1

namespace Unchanged

variable {s t u : State}

theorem refl (s : State) : Unchanged s s := ⟨rfl, ⟨s.around.wallClock, rfl⟩, rfl, .inl rfl, rfl⟩

theorem trans (first : Unchanged s t) (second : Unchanged t u) : Unchanged s u := by
  obtain ⟨earlier, first_around⟩ := first.around
  obtain ⟨later, second_around⟩ := second.around
  refine ⟨second.server.trans first.server, ⟨later, ?_⟩, second.settings.trans first.settings, ?_,
    second.credentials.trans first.credentials⟩
  · rw [second_around, first_around]
    rfl
  rcases second.reconciler with same | equipped
  · rw [same]
    exact first.reconciler
  · right
    rw [equipped]
    rcases first.reconciler with same | equipped'
    · rw [same]
    · rw [equipped']

/-- At one time, the surroundings are the same. -/
theorem around_timed (unchanged : Unchanged s t) (now : Timestamp) :
    (t.timed now).around = (s.timed now).around := by
  obtain ⟨later, around⟩ := unchanged.around
  change t.around.timed now = s.around.timed now
  rw [around]
  rfl

theorem credentials_timed (unchanged : Unchanged s t) (now : Timestamp) :
    (Client.ensure (ready (t.timed now))).1 = (Client.ensure (ready (s.timed now))).1 := by
  have timed (u : State) : (Client.ensure (ready (u.timed now))).1 = (Client.ensure (ready u)).1 :=
    Client.ensure_of_timed (s := ready u) (t := ready (u.timed now)) rfl rfl
  rw [timed, timed, unchanged.credentials]

theorem review_same (unchanged : Unchanged s t) (name : String) :
    (used t).review name = (used s).review name := by
  rcases unchanged.reconciler with same | equipped
  · rw [same]
  · rw [equipped]
    rfl

end Unchanged

end Handler

/-- An attempt at an errand, at some time, that is hit by a failure. -/
structure Attempt where
  errand : Errand
  time : Timestamp
  verb : Verb
  fault : Fault
  deriving DecidableEq, Repr

namespace Attempt

/-- The state in which an attempt starts: a failure waits for it. -/
def before (a : Attempt) (s : State) : State :=
  { s.timed a.time with server := s.server.failing a.fault a.verb }

def after (a : Attempt) (name : String) (s : State) : State :=
  (a.errand.run name (a.before s)).2

/-- An attempt that was hit has changed nothing but the time. -/
theorem unchanged {a : Attempt} {name : String} {s : State} (calm : s.server.IsCalm)
    (hit : (a.after name s).server.IsCalm) : Unchanged s (a.after name s) := by
  obtain ⟨result, leads⟩ := a.errand.leads name (a.before s)
  have concludes := leads.reviewed.concludes
  obtain ⟨server, ensured⟩ := concludes.server_of_hit (s := ready (a.before s)) calm rfl hit
  have around : (a.after name s).around = s.around.timed a.time := concludes.around
  have before : (Client.ensure (ready s)).1 = .ok () :=
    (Client.ensure_of_timed (s := ready s) (t := ready (a.before s)) rfl rfl).symm.trans ensured
  rcases leads.memory with same | ⟨rc, known, equipped⟩
  · have known : (a.after name s).reconciler = some (used s) := same
    have reconciler : used (a.after name s) = used s := by
      rw [used, known]
      rfl
    refine ⟨server, ⟨a.time, around⟩, leads.settings, .inl reconciler, ?_⟩
    exact Client.ensure_of_timed around (congrArg some reconciler)
  · obtain rfl : used s = rc := Option.some.inj known
    have known : (a.after name s).reconciler = some { used s with hasClient := true } := equipped
    have reconciler : used (a.after name s) = { used s with hasClient := true } := by
      rw [used, known]
      rfl
    have client : (ready (a.after name s)).isEquipped = true := by
      rw [State.isEquipped, ready, reconciler]
      rfl
    refine ⟨server, ⟨a.time, around⟩, leads.settings, .inr reconciler, ?_⟩
    rw [before, Client.ensure_of_equipped client]

end Attempt

/-- Some attempts in turn, each of which was hit: the failure that waited for it waits no more. -/
inductive Attempts (name : String) (s : State) : List Attempt → State → Prop where
  | none : Attempts name s [] s
  | next {attempts : List Attempt} {t : State} (earlier : Attempts name s attempts t) (a : Attempt)
      (hit : (a.after name t).server.IsCalm) : Attempts name s (attempts ++ [a]) (a.after name t)

theorem Attempts.unchanged {name : String} {s t : State} {attempts : List Attempt}
    (calm : s.server.IsCalm) (failed : Attempts name s attempts t) : Unchanged s t := by
  induction failed with
  | none => exact .refl s
  | @next attempts t earlier a hit ih =>
      have still : t.server.IsCalm := ih.server ▸ calm
      exact ih.trans (a.unchanged still hit)

namespace Errand

/-- An errand ends in the same way in two states: with the same result, the same server and the same
spans left behind. -/
structure EndsAlike (errand : Errand) (name : String) (s t : State) : Prop where
  result : (errand.run name t).1 = (errand.run name s).1
  server : (errand.run name t).2.server = (errand.run name s).2.server
  spans : ∃ new, (errand.run name s).2.spans = s.spans ++ new ∧
    (errand.run name t).2.spans = t.spans ++ new

theorem endsAlike (errand : Errand) (name : String) {s t : State} (unchanged : Unchanged s t)
    (now : Timestamp) : errand.EndsAlike name (s.timed now) (t.timed now) := by
  obtain ⟨result, leads⟩ := errand.leads name (s.timed now)
  obtain ⟨result', leads'⟩ := errand.leads name (t.timed now)
  obtain ⟨u, outside, known, given, left⟩ := leads.reviewed.review
  obtain ⟨u', outside', known', given', left'⟩ := leads'.reviewed.review
  have ensured : (Client.ensure u).1 = (Client.ensure (ready (s.timed now))).1 :=
    Client.ensure_of_same (congrArg Outside.around outside) known
  have ensured' : (Client.ensure u').1 = (Client.ensure (ready (t.timed now))).1 :=
    Client.ensure_of_same (congrArg Outside.around outside') known'
  have agrees := (used s).review_agrees name (s := u) (t := u')
    ((congrArg Outside.server outside').trans
      (unchanged.server.trans (congrArg Outside.server outside).symm))
    ((congrArg Outside.around outside').trans
      ((unchanged.around_timed now).trans (congrArg Outside.around outside).symm))
    (ensured'.trans ((unchanged.credentials_timed now).trans ensured.symm))
  have same : (used (t.timed now)).review name = (used s).review name := unchanged.review_same name
  rw [same] at given' left'
  obtain rfl : result' = result := given'.symm.trans (agrees.1.trans given)
  refine ⟨leads'.given.trans leads.given.symm, ?_, _, leads.spans, leads'.spans⟩
  exact (congrArg Outside.server left').symm.trans
    (agrees.2.trans (congrArg Outside.server left))

theorem error_of_given {errand : Errand} {result : Except Raised Verdict} {e : Raised}
    (raised : errand.given result = .error e) : ∃ inner, result = .error inner := by
  cases result with
  | error inner => exact ⟨inner, rfl⟩
  | ok v => cases errand <;> cases raised

/-- The stored bodies name their fields in one way only. Then an errand that raises a fault leaves
the stored requests and clusters as they were, but for the edit of another writer when that was due
with the look-up of the cluster. After any number of attempts that were hit by failures, at whatever
times, an errand ends as it would have ended at its time without them. -/
theorem retries_converge (name : String) (s : State) (twinless : s.server.IsTwinless) :
    (∀ errand e, (run name errand s).1 = .error e →
      ∃ calls, (run name errand s).2.outside.asked = s.outside.asked ++ calls ∧
        (run name errand s).2.server.clusters = s.server.clusters ∧
        (run name errand s).2.server.requests =
          (if calls.any Call.isLookUp then s.server.race else s.server).requests) ∧
    ∀ attempts t, s.server.IsCalm → Attempts name s attempts t →
      ∀ (errand : Errand) (now : Timestamp), errand.EndsAlike name (s.timed now) (t.timed now) := by
  constructor
  · intro errand e raised
    obtain ⟨result, leads⟩ := errand.leads name s
    rw [leads.given] at raised
    obtain ⟨inner, failed⟩ := error_of_given raised
    exact leads.reviewed.concludes.keeps failed twinless
  · intro attempts t calm failed errand now
    exact errand.endsAlike name (failed.unchanged calm) now

/-- A state in which a request waits for its approval, and the time is read off the wall clock. -/
def waiting : State :=
  { State.steady (.holding (willing [("resourceVersion", .str "7")] [] [])) with
    reconciler := some { Reconciler.steady with clock := .wall } }

/-- Ten seconds after the epoch. -/
def later : Timestamp := { Timestamp.epoch with clock := .ofMicros 10000000 }

/-- A write that is refused and a look-up that is interrupted do not keep the request from being
approved ten seconds later. -/
theorem retries_converge_waiting :
    let refused : Attempt := ⟨.handle none, .epoch, .replace, .response ⟨some 500, none⟩⟩
    let cut : Attempt := ⟨.reconcile, later, .lookUp, .interrupt "stop"⟩
    (∃ e, (run "a" refused.errand (refused.before waiting)).1 = .error e ∧
      (refused.after "a" waiting).server.requests = waiting.server.requests) ∧
    ∃ t, Attempts "a" waiting [refused, cut] t ∧
      (run "a" .reconcile (t.timed later)).1 = .ok (some .approved) := by
  intro refused cut
  have twinless : waiting.server.IsTwinless := by decide
  have approves : (run "a" .reconcile (waiting.timed later)).1 = .ok (some .approved) := by
    decide +kernel
  have failed : Attempts "a" waiting [refused, cut] (cut.after "a" (refused.after "a" waiting)) :=
    .next (.next .none refused ⟨by decide +kernel, by decide +kernel, by decide +kernel,
      by decide +kernel⟩) cut ⟨by decide +kernel, by decide +kernel, by decide +kernel,
      by decide +kernel⟩
  refine ⟨?_, _, failed, ?_⟩
  · cases raised : (run "a" refused.errand (refused.before waiting)).1 with
    | ok o =>
        have none_ : (run "a" refused.errand (refused.before waiting)).1.toOption = none := by
          decide +kernel
        rw [raised] at none_
        cases none_
    | error e =>
        obtain ⟨calls, -, -, requests⟩ :=
          (retries_converge "a" (refused.before waiting) twinless).1 refused.errand e raised
        refine ⟨e, rfl, ?_⟩
        rw [Attempt.after, requests]
        split <;> rfl
  · have alike := (retries_converge "a" waiting twinless).2 _ _ ⟨rfl, rfl, rfl, rfl⟩ failed
      .reconcile later
    exact alike.result.trans approves

end Errand

end BootstrapApproval
