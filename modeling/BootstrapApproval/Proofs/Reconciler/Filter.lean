import BootstrapApproval.Proofs.Reconciler.Conclusions
import BootstrapApproval.Proofs.Request.Decisions
import BootstrapApproval.Proofs.Request.RoundTrip

/-! # The filter for events and the reconciliation

An event is filtered by the body that comes with it, a reconciliation judges the body that it reads.
When nothing fails and the cluster is registered, the two agree on every body, but for what only the
reconciliation looks at: whether the request is being deleted and whether it can be written.
-/

namespace BootstrapApproval

/-- An event is accepted for a request that names a cluster, is not decided and comes from it. -/
theorem acceptsEvent_iff {body : Json} :
    acceptsEvent body = true ↔ ∃ r, Request.understood body = .ok r ∧ r.clusterName ≠ "" ∧
      r.resolution? = none ∧ r.isFrom r.clusterName = true := by
  unfold acceptsEvent
  cases Request.understood body with
  | error f => simp
  | ok r => simp [Request.isEligible, and_assoc]

namespace Server

variable {s : Server} {name cluster : String} {body : Json}

theorem read_of_calm (calm : s.readFaults = []) (found : s.requests.find? name = some body) :
    (s.read name).1 = .ok body := by
  simp [read, calm, found]

theorem lookUpFaults_race (s : Server) : s.race.lookUpFaults = s.lookUpFaults := by
  unfold race
  cases s.rival <;> rfl

theorem lookUp_of_calm (calm : s.lookUpFaults = []) :
    (∃ entry, (s.lookUp cluster).1 = .ok entry) ↔ cluster ∈ s.clusters := by
  have raced : s.race.lookUpFaults = [] := (lookUpFaults_race s).trans calm
  by_cases known : cluster ∈ s.clusters <;> simp [lookUp, raced, known]

end Server

namespace Reconciler

variable {rc : Reconciler} {name : String} {s : State} {body : Json} {r : Request}

theorem Considers.afterRead (considers : Considers name s body r) :
    Store.readResult name (s.server.read name).1 = .ok (some r) ∧
      Review.afterRead (some r) = .candidate r :=
  ⟨Store.readResult_eq_some.mpr ⟨body, considers.answer, considers.understood⟩,
    Review.afterRead_eq_candidate.mpr ⟨rfl, considers.live, considers.labelled⟩⟩

theorem Considers.unique {body' : Json} {r' : Request} (considers : Considers name s body r)
    (again : Considers name s body' r') : r' = r := by
  have same := again.afterRead.1.symm.trans considers.afterRead.1
  exact Option.some.inj (Except.ok.inj same)

theorem Clears.afterLookUp (clears : rc.Clears s r) (name : String) :
    registered (Store.lookUpResult r.clusterName (s.server.lookUp r.clusterName).1) = .ok true ∧
      Review.afterLookUp name rc.dryRun r true = .candidate r := by
  obtain ⟨entry, answer⟩ := clears.entry
  refine ⟨by rw [answer]; rfl, ?_⟩
  exact Review.afterLookUp_eq_candidate.mpr
    ⟨rfl, clears.undecided, clears.own, clears.earnest, rfl⟩

/-- What a review writes for: a request that it considers and clears, at a time, and that can be
written. -/
structure Commits (rc : Reconciler) (name : String) (s : State) (body : Json) (r : Request) : Prop
    where
  considers : Considers name s body r
  clears : rc.Clears s r
  clock : ∃ now, (rc.now s).1 = .ok now
  writable : r.isWritable = true

/-- However a review ends, it has asked for a write exactly when there was something to write
for. -/
theorem Concludes.writes_iff {result : Except Raised Verdict} {o : Outside}
    (concludes : rc.Concludes name s result o) :
    ∃ new, o.asked = s.outside.asked ++ new ∧
      (new.any Call.isReplace = true ↔ ∃ body r, rc.Commits name s body r) := by
  have never {new : List Call} (unwritten : new.any Call.isReplace = false)
      (nothing : ∀ body r, ¬ rc.Commits name s body r) :
      new.any Call.isReplace = true ↔ ∃ body r, rc.Commits name s body r := by
    simp [unwritten, nothing]
  cases concludes with
  | powerless failed =>
      refine ⟨[], (List.append_nil _).symm, never rfl fun body r commits => ?_⟩
      cases failed.symm.trans commits.considers.ensured
  | unread ensured refused =>
      refine ⟨[.read name], rfl, never rfl fun body r commits => ?_⟩
      cases refused.symm.trans commits.considers.afterRead.1
  | dismisses ensured read decided =>
      refine ⟨[.read name], rfl, never rfl fun body r commits => ?_⟩
      obtain ⟨found, goesOn⟩ := commits.considers.afterRead
      obtain rfl := Except.ok.inj (read.symm.trans found)
      cases decided.symm.trans goesOn
  | @unknown body r e considers refused =>
      refine ⟨[.read name, .lookUp r.clusterName], by simp [Outside.ask], never rfl ?_⟩
      intro body' r' commits
      obtain rfl := considers.unique commits.considers
      cases refused.symm.trans (commits.clears.afterLookUp name).1
  | @judges body r known v considers result decided =>
      refine ⟨[.read name, .lookUp r.clusterName], by simp [Outside.ask], never rfl ?_⟩
      intro body' r' commits
      obtain rfl := considers.unique commits.considers
      obtain ⟨registered, goesOn⟩ := commits.clears.afterLookUp name
      obtain rfl := Except.ok.inj (result.symm.trans registered)
      cases decided.symm.trans goesOn
  | @timeless body r e considers clears late =>
      refine ⟨[.read name, .lookUp r.clusterName], by simp [Outside.ask], never rfl ?_⟩
      intro body' r' commits
      obtain ⟨now, shown⟩ := commits.clock
      cases late.symm.trans shown
  | @unwritable body r now considers clears shown high =>
      refine ⟨[.read name, .lookUp r.clusterName], by simp [Outside.ask], never rfl ?_⟩
      intro body' r' commits
      obtain rfl := considers.unique commits.considers
      cases high.symm.trans commits.writable
  | @commits body r now considers clears shown writable =>
      refine ⟨[.read name, .lookUp r.clusterName, .replace r.name (r.approve now).body],
        by simp [Outside.ask], ?_⟩
      exact iff_of_true rfl ⟨body, r, considers, clears, ⟨now, shown⟩, writable⟩

/-- Nothing fails that is asked for before a write. -/
structure Calm (s : State) : Prop where
  ensured : (Client.ensure s).1 = .ok ()
  reads : s.server.readFaults = []
  lookUps : s.server.lookUpFaults = []

/-- Where nothing fails, a review has something to write for when the filter accepts the stored
body, its cluster is registered, and the request is alive, at a time, and can be written. -/
theorem Calm.commits_iff (calm : Calm s) (stored : s.server.requests.find? name = some body)
    (earnest : rc.dryRun = false) :
    (∃ body r, rc.Commits name s body r) ↔ acceptsEvent body = true ∧
      ∃ r, Request.understood body = .ok r ∧ r.isDeleting = false ∧ r.isWritable = true ∧
        (∃ now, (rc.now s).1 = .ok now) ∧ r.clusterName ∈ s.server.clusters := by
  have answer := Server.read_of_calm calm.reads stored
  constructor
  · rintro ⟨body', r, ⟨-, answered, understood, live, labelled⟩, ⟨entry, undecided, own, -⟩, clock,
      writable⟩
    obtain rfl : body' = body := Except.ok.inj (answered.symm.trans answer)
    exact ⟨acceptsEvent_iff.mpr ⟨r, understood, labelled, undecided, own⟩,
      r, understood, live, writable, clock, (Server.lookUp_of_calm calm.lookUps).mp entry⟩
  · rintro ⟨accepted, r, understood, live, writable, clock, registered⟩
    obtain ⟨r', again, labelled, undecided, own⟩ := acceptsEvent_iff.mp accepted
    obtain rfl : r' = r := Except.ok.inj (again.symm.trans understood)
    have entry := (Server.lookUp_of_calm calm.lookUps).mpr registered
    exact ⟨body, r', ⟨calm.ensured, answer, understood, live, labelled⟩,
      ⟨entry, undecided, own, earnest⟩, clock, writable⟩

/-- Where nothing fails and a label names registered clusters only, a reconciliation writes exactly
when the filter accepts the stored object and the request is alive and can be written at a time.
Where the cluster is not registered, it never writes. The system clock always gives a time; a clock
that has been put in may raise instead. -/
theorem reconcile_writes_iff_accepted {t : Table Json} (calm : Calm s)
    (stored : s.server.requests.find? name = some (.obj t)) (earnest : rc.dryRun = false) :
    ∃ new, (rc.reconcile name s).2.outside.asked = s.outside.asked ++ new ∧
      ((∀ r, Request.understood (.obj t) = .ok r → r.clusterName ≠ "" →
          r.clusterName ∈ s.server.clusters) →
        ((∃ n sent, Call.replace n sent ∈ new) ↔ acceptsEvent (.obj t) = true ∧
          ∃ r, Request.understood (.obj t) = .ok r ∧ r.isDeleting = false ∧
            r.isWritable = true ∧ ∃ now, (rc.now s).1 = .ok now)) ∧
      ((∀ r, Request.understood (.obj t) = .ok r → r.clusterName ∉ s.server.clusters) →
        ∀ n sent, Call.replace n sent ∉ new) ∧
      (rc.OnSystemTime s → ∃ now, (rc.now s).1 = .ok now) := by
  obtain ⟨result, concludes, -⟩ := rc.reconcile_concludes name s
  obtain ⟨new, asked, writes⟩ := concludes.writes_iff
  rw [calm.commits_iff stored earnest, Call.any_isReplace] at writes
  refine ⟨new, asked, fun registered => writes.trans ?_, fun unregistered n sent member => ?_,
    fun onTime => ⟨_, onTime.now⟩⟩
  · constructor
    · rintro ⟨accepted, r, understood, live, writable, clock, -⟩
      exact ⟨accepted, r, understood, live, writable, clock⟩
    · rintro ⟨accepted, r, understood, live, writable, clock⟩
      obtain ⟨r', again, labelled, -⟩ := acceptsEvent_iff.mp accepted
      obtain rfl : r' = r := Except.ok.inj (again.symm.trans understood)
      exact ⟨accepted, r', understood, live, writable, clock, registered r' understood labelled⟩
  · obtain ⟨-, r, understood, -, -, -, known⟩ := writes.mp ⟨n, sent, member⟩
    exact unregistered r understood known

end Reconciler

open Reconciler

theorem calm_holding (t : Table Json) : Calm (.steady (.holding t)) := ⟨rfl, rfl, rfl⟩

theorem reconcile_writes_iff_accepted_willing :
    let s := State.steady (.holding (willing [] [] []))
    acceptsEvent (.obj (willing [] [] [])) = true ∧
      ∃ n sent, Call.replace n sent ∈ (Reconciler.steady.reconcile "a" s).2.outside.asked := by
  have accepted : acceptsEvent (.obj (willing [] [] [])) = true := by decide +kernel
  have stored : (State.steady (.holding (willing [] [] []))).server.requests.find? "a" =
      some (.obj (willing [] [] [])) := rfl
  have earnest : Reconciler.steady.dryRun = false := rfl
  have shown : (Request.understood (.obj (willing [] [] []))).map
      (fun r => (r.isDeleting, r.isWritable, r.clusterName)) = .ok (false, true, "c") := rfl
  obtain ⟨r, understood, same⟩ := Request.exists_of_map_understood shown
  obtain ⟨live, writable, cluster⟩ : r.isDeleting = false ∧ r.isWritable = true ∧
      r.clusterName = "c" := by simpa using same
  obtain ⟨new, asked, writes, -⟩ := reconcile_writes_iff_accepted (calm_holding _) stored earnest
  have registered : ∀ q, Request.understood (.obj (willing [] [] [])) = .ok q → q.clusterName ≠ "" →
      q.clusterName ∈ (Server.holding (willing [] [] [])).clusters := by
    intro q again _
    obtain rfl : q = r := Except.ok.inj (again.symm.trans understood)
    rw [cluster]
    exact List.mem_singleton_self _
  obtain ⟨n, sent, member⟩ := (writes registered).mpr
    ⟨accepted, r, understood, live, writable, .epoch, rfl⟩
  exact ⟨accepted, n, sent, asked ▸ List.mem_append_right _ member⟩

/-- Nothing fails, the cluster is registered and the filter accepts a request that is alive, but it
is not written. -/
structure Neglects (rc : Reconciler) (name : String) (s : State) (t : Table Json) : Prop where
  calm : Calm s
  stored : s.server.requests.find? name = some (.obj t)
  own : Server.nameOf (.obj t) = name
  earnest : rc.dryRun = false
  accepted : acceptsEvent (.obj t) = true
  alive : ∃ r, Request.understood (.obj t) = .ok r ∧ r.isDeleting = false ∧
    r.clusterName ∈ s.server.clusters
  unwritten : (rc.reconcile name s).2.outside.asked.any Call.isReplace = false

/-- An unknown member that is too high. -/
def tower : Table Json := [("note", Request.nested 255)]

/-- A reconciler with a clock that has been put in and raises. -/
def Reconciler.clockless : Reconciler :=
  { Reconciler.steady with clock := .raising (.unexpected .runtime "no time") }

/-- A request that is too high is accepted and not written. So is any request when the clock that
has been put in raises. -/
theorem accepted_unwritten :
    Neglects .steady "a" (.steady (.holding (willing [] [] tower))) (willing [] [] tower) ∧
      Neglects .clockless "a" (.steady (.holding (willing [] [] []))) (willing [] [] []) := by
  have alive {t : Table Json} (shown : (Request.understood (.obj t)).map
      (fun r => (r.isDeleting, r.clusterName)) = .ok (false, "c")) :
      ∃ r, Request.understood (.obj t) = .ok r ∧ r.isDeleting = false ∧ r.clusterName ∈ ["c"] := by
    obtain ⟨r, understood, same⟩ := Request.exists_of_map_understood shown
    exact ⟨r, understood, by simpa using same⟩
  exact ⟨⟨calm_holding _, rfl, rfl, rfl, by decide +kernel, alive rfl, by decide +kernel⟩,
    ⟨calm_holding _, rfl, rfl, rfl, by decide +kernel, alive rfl, by decide +kernel⟩⟩

end BootstrapApproval
