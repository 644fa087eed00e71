import BootstrapApproval.Proofs.Reconciler.Steps

/-! # How a review ends

A review needs credentials for its first question only: once it has read a request, they are there.
So what it concludes, and what it has asked by then, follow from the answers to at most three
questions, from the time and from what can be written.
-/

namespace BootstrapApproval

open Act

/-- Whether nothing has to be loaded before the server can be asked. -/
def State.isEquipped (s : State) : Bool := s.reconciler.all (·.hasClient)

theorem State.isEquipped_congr {s t : State} (same : t.reconciler = s.reconciler) :
    t.isEquipped = s.isEquipped := by
  rw [isEquipped, isEquipped, same]

namespace Client

variable {s t : State}

theorem ensure_of_equipped (equipped : s.isEquipped = true) : ensure s = (.ok (), s) := by
  unfold ensure
  rw [bind_ok (see_apply ..)]
  cases known : s.reconciler with
  | none => rfl
  | some rc =>
      have client : rc.hasClient = true := by simpa [State.isEquipped, known] using equipped
      simp [client]

theorem equipped_of_ensure (ensured : ensure s = (.ok (), t)) : t.isEquipped = true := by
  unfold ensure at ensured
  rw [bind_ok (see_apply ..)] at ensured
  cases known : s.reconciler with
  | none =>
      rw [known] at ensured
      obtain rfl : s = t := (Prod.mk.inj ensured).2
      simp [State.isEquipped, known]
  | some rc =>
      rw [known] at ensured
      cases client : rc.hasClient with
      | true =>
          simp only [client, if_true, pure_apply] at ensured
          obtain rfl : s = t := (Prod.mk.inj ensured).2
          simp [State.isEquipped, known, client]
      | false =>
          simp only [client, Bool.false_eq_true, if_false] at ensured
          cases loaded : load s with
          | mk result u =>
              cases result with
              | error e =>
                  rw [bind_error loaded] at ensured
                  simp at ensured
              | ok v =>
                  rw [bind_ok loaded, change_apply] at ensured
                  obtain rfl := (Prod.mk.inj ensured).2
                  rfl

theorem load_of_same (inCluster : t.around.inCluster = s.around.inCluster)
    (kubeconfig : t.around.kubeconfig = s.around.kubeconfig) : (load t).1 = (load s).1 := by
  rw [load_fst, load_fst, Surroundings.credentials, Surroundings.credentials, inCluster, kubeconfig]

/-- Whether credentials are there or can be loaded depends on where they may lie alone. -/
theorem ensure_of_credentials (inCluster : t.around.inCluster = s.around.inCluster)
    (kubeconfig : t.around.kubeconfig = s.around.kubeconfig) (same : t.reconciler = s.reconciler) :
    (ensure t).1 = (ensure s).1 := by
  unfold ensure
  rw [bind_ok (see_apply ..), bind_ok (see_apply ..), same]
  cases s.reconciler with
  | none => rfl
  | some rc =>
      dsimp only
      cases rc.hasClient with
      | true => rfl
      | false =>
          have loaded := load_of_same inCluster kubeconfig
          simp only [Bool.false_eq_true, if_false, bind_apply]
          cases first : load t with
          | mk result u =>
              cases second : load s with
              | mk result' u' =>
                  rw [first, second] at loaded
                  obtain rfl : result = result' := loaded
                  cases result <;> rfl

theorem ensure_of_same (around : t.around = s.around) (same : t.reconciler = s.reconciler) :
    (ensure t).1 = (ensure s).1 :=
  ensure_of_credentials (congrArg Surroundings.inCluster around)
    (congrArg Surroundings.kubeconfig around) same

end Client

theorem Server.read_snd_of_ok {s : Server} {name : String} {body : Json}
    (answered : (s.read name).1 = .ok body) : (s.read name).2 = s := by
  unfold read at answered ⊢
  cases faults : s.readFaults with
  | cons f rest => simp [faults] at answered
  | nil =>
      simp only
      split <;> rfl

/-- A read gives a request when the answer is a body that stands for it. -/
theorem Store.readResult_eq_some {name : String} {answer : Except Fault Json} {r : Request} :
    readResult name answer = .ok (some r) ↔
      ∃ body, answer = .ok body ∧ Request.understood body = .ok r := by
  cases answer with
  | error f =>
      simp only [readResult, failed]
      split <;> simp
  | ok body =>
      simp only [readResult, given, Except.ok.injEq]
      cases understood : Request.understood body with
      | error f =>
          change Except.error _ = Except.ok (some r) ↔ _
          simp [understood]
      | ok q =>
          change Except.ok (some q) = Except.ok (some r) ↔ _
          simp [understood]

/-- A read gives no request when there is none under the name. -/
theorem Store.readResult_eq_none {name : String} {answer : Except Fault Json} :
    readResult name answer = .ok none ↔ ∃ f, answer = .error f ∧ f.isNotFound = true := by
  cases answer with
  | error f =>
      simp only [readResult, failed]
      split <;> simp_all
  | ok body =>
      simp only [readResult, given]
      cases Request.understood body with
      | error f =>
          change Except.error _ = Except.ok none ↔ _
          simp
      | ok q =>
          change Except.ok (some q) = Except.ok none ↔ _
          simp

theorem Request.isWritable_approve (r : Request) (now : Timestamp) :
    (r.approve now).isWritable = r.isWritable := by
  rw [approve, isWritable_addCondition]
  exact Bool.and_true _

namespace Reconciler

variable (rc : Reconciler) (name : String)

section Equipped

variable {s t : State}

theorem readStep_apply (ensured : Client.ensure s = (.ok (), t)) :
    readStep name s =
      (Store.readResult name (t.server.read name).1 >>= fun found => .ok (.afterRead found),
        t.asked (.read name)) := by
  unfold readStep
  rw [bind_apply, Store.read_apply ensured]
  cases Store.readResult name (t.server.read name).1 <;> rfl

theorem lookUpStep_equipped (equipped : s.isEquipped = true) (r : Request) :
    (rc.lookUpStep name r s).1 =
        (registered (Store.lookUpResult r.clusterName (s.server.lookUp r.clusterName).1)).map
          (.afterLookUp name rc.dryRun r) ∧
      (rc.lookUpStep name r s).2.outside = s.outside.ask (.lookUp r.clusterName) ∧
      (rc.lookUpStep name r s).2.isEquipped = true := by
  obtain ⟨logs, looked⟩ := rc.lookUpStep_apply name r s
  rw [Store.lookUp_apply (Client.ensure_of_equipped equipped)] at looked
  rw [looked]
  exact ⟨rfl, s.outside_asked rfl, equipped⟩

theorem now_snd (s : State) : (rc.now s).2 = s := congrArg Prod.snd (rc.now_apply s)

theorem commitStep_timeless {r : Request} {e : Raised} (late : (rc.now s).1 = .error e) :
    rc.commitStep name r s = (.error e, s) :=
  bind_error (Prod.ext late (rc.now_snd s))

/-- A time and credentials are all that a commit needs, unless the request cannot be written. -/
theorem commitStep_equipped (equipped : s.isEquipped = true) {now : Timestamp}
    (shown : (rc.now s).1 = .ok now) (r : Request) :
    rc.commitStep name r s =
      if r.isWritable then
        (Store.submitResult r.name (s.server.replace r.name (r.approve now).body).1 >>= fun _ =>
          .ok (.approved name r.clusterName), s.asked (.replace r.name (r.approve now).body))
      else (.error (.of tooHigh), s) := by
  have time : rc.now s = (.ok now, s) := Prod.ext shown (rc.now_snd s)
  have ensured := Client.ensure_of_equipped equipped
  have approved := r.isWritable_approve now
  unfold commitStep
  rw [bind_ok time, bind_apply]
  cases writable : r.isWritable with
  | true =>
      have named : (r.approve now).name = r.name := rfl
      rw [Store.submit_apply ensured (approved.trans writable), named, if_pos rfl]
      cases Store.submitResult r.name (s.server.replace r.name (r.approve now).body).1 <;> rfl
  | false =>
      rw [Store.submit_unwritable ensured (approved.trans writable)]
      rfl

end Equipped

/-- The read of a review gives it a request to go on with. -/
structure Considers (name : String) (s : State) (body : Json) (r : Request) : Prop where
  ensured : (Client.ensure s).1 = .ok ()
  answer : (s.server.read name).1 = .ok body
  understood : Request.understood body = .ok r
  live : r.isDeleting = false
  labelled : r.clusterName ≠ ""

/-- The look-up of a review leaves nothing that speaks against the request. -/
structure Clears (s : State) (r : Request) : Prop where
  entry : ∃ entry, (s.server.lookUp r.clusterName).1 = .ok entry
  undecided : r.resolution? = none
  own : r.isFrom r.clusterName = true
  earnest : rc.dryRun = false

/-- All the ways in which a review can end: what it concludes, and what it leaves outside. -/
inductive Concludes (s : State) : Except Raised Verdict → Outside → Prop where
  /-- There are no credentials. -/
  | powerless {e : Raised} (failed : (Client.ensure s).1 = .error e) :
      Concludes s (.error e) s.outside
  | unread {e : Raised} (ensured : (Client.ensure s).1 = .ok ())
      (refused : Store.readResult name (s.server.read name).1 = .error e) :
      Concludes s (.error e) (s.outside.ask (.read name))
  /-- What was read decides. -/
  | dismisses {found : Option Request} {v : Verdict} (ensured : (Client.ensure s).1 = .ok ())
      (read : Store.readResult name (s.server.read name).1 = .ok found)
      (decided : Review.afterRead found = .decided v) :
      Concludes s (.ok v) (s.outside.ask (.read name))
  | unknown {body : Json} {r : Request} {e : Raised} (considers : Considers name s body r)
      (refused : registered
        (Store.lookUpResult r.clusterName (s.server.lookUp r.clusterName).1) = .error e) :
      Concludes s (.error e) ((s.outside.ask (.read name)).ask (.lookUp r.clusterName))
  /-- What is known of the cluster, or the request itself, decides. -/
  | judges {body : Json} {r : Request} {known : Bool} {v : Verdict}
      (considers : Considers name s body r)
      (known_ : registered
        (Store.lookUpResult r.clusterName (s.server.lookUp r.clusterName).1) = .ok known)
      (decided : Review.afterLookUp name rc.dryRun r known = .decided v) :
      Concludes s (.ok v) ((s.outside.ask (.read name)).ask (.lookUp r.clusterName))
  | timeless {body : Json} {r : Request} {e : Raised} (considers : Considers name s body r)
      (clears : rc.Clears s r) (late : (rc.now s).1 = .error e) :
      Concludes s (.error e) ((s.outside.ask (.read name)).ask (.lookUp r.clusterName))
  | unwritable {body : Json} {r : Request} {now : Timestamp} (considers : Considers name s body r)
      (clears : rc.Clears s r) (shown : (rc.now s).1 = .ok now) (high : r.isWritable = false) :
      Concludes s (.error (.of tooHigh))
        ((s.outside.ask (.read name)).ask (.lookUp r.clusterName))
  | commits {body : Json} {r : Request} {now : Timestamp} (considers : Considers name s body r)
      (clears : rc.Clears s r) (shown : (rc.now s).1 = .ok now) (writable : r.isWritable = true) :
      Concludes s
        (Store.submitResult r.name
            ((s.server.lookUp r.clusterName).2.replace r.name (r.approve now).body).1 >>= fun _ =>
          .ok (.approved name r.clusterName))
        (((s.outside.ask (.read name)).ask (.lookUp r.clusterName)).ask
          (.replace r.name (r.approve now).body))

variable {rc name}

/-- How a review ends depends on the outside and on the credentials alone. -/
theorem Concludes.congr {s t : State} {result : Except Raised Verdict} {o : Outside}
    (concludes : rc.Concludes name t result o) (outside : t.outside = s.outside)
    (same : t.reconciler = s.reconciler) : rc.Concludes name s result o := by
  have server : t.server = s.server := congrArg Outside.server outside
  have around : t.around = s.around := congrArg Outside.around outside
  have ensure := Client.ensure_of_same around same
  have now := rc.now_of_around around
  have considers {body : Json} {r : Request} :
      Considers name t body r → Considers name s body r := by
    rintro ⟨ensured, answer, understood, live, labelled⟩
    exact ⟨ensure ▸ ensured, server ▸ answer, understood, live, labelled⟩
  have clears {r : Request} : rc.Clears t r → rc.Clears s r := by
    rintro ⟨entry, undecided, own, earnest⟩
    exact ⟨server ▸ entry, undecided, own, earnest⟩
  cases concludes with
  | powerless failed =>
      rw [outside]
      exact .powerless (ensure ▸ failed)
  | unread ensured refused =>
      rw [outside]
      exact .unread (ensure ▸ ensured) (server ▸ refused)
  | dismisses ensured read decided =>
      rw [outside]
      exact .dismisses (ensure ▸ ensured) (server ▸ read) decided
  | unknown considers_ refused =>
      rw [outside]
      exact .unknown (considers considers_) (server ▸ refused)
  | judges considers_ known decided =>
      rw [outside]
      exact .judges (considers considers_) (server ▸ known) decided
  | timeless considers_ clears_ late =>
      rw [outside]
      exact .timeless (considers considers_) (clears clears_) (now ▸ late)
  | unwritable considers_ clears_ shown high =>
      rw [outside]
      exact .unwritable (considers considers_) (clears clears_) (now ▸ shown) high
  | commits considers_ clears_ shown writable =>
      rw [outside, server]
      exact .commits (considers considers_) (clears clears_) (now ▸ shown) writable

theorem known_of_registered {cluster : String} {answer : Except Fault Json}
    (known : registered (Store.lookUpResult cluster answer) = .ok true) :
    ∃ entry, answer = .ok entry := by
  cases answer with
  | ok entry => exact ⟨entry, rfl⟩
  | error f =>
      cases result : Store.lookUpResult cluster (.error f) with
      | ok found =>
          have absent : found = none := by
            simp only [Store.lookUpResult, Store.failed] at result
            split at result <;> simp_all
          simp [result, absent, registered] at known
      | error e => cases fault : e.fault <;> simp [result, registered, fault] at known

/-- A review in whose look-up nothing spoke against the request ends with the commit. -/
theorem commit_concludes {s u : State} {body : Json} {r : Request}
    (considers : Considers name s body r) (clears : rc.Clears s r)
    (outside : u.outside = (s.outside.ask (.read name)).ask (.lookUp r.clusterName))
    (equipped : u.isEquipped = true) :
    rc.Concludes name s (rc.commitStep name r u).1 (rc.commitStep name r u).2.outside := by
  have around : u.around = s.around := congrArg Outside.around outside
  have now := rc.now_of_around around
  have unchanged : (s.server.read name).2 = s.server := Server.read_snd_of_ok considers.answer
  have server : u.server = (s.server.lookUp r.clusterName).2 := by
    have asked : u.server = ((s.server.read name).2.lookUp r.clusterName).2 :=
      congrArg Outside.server outside
    rw [asked, unchanged]
  cases shown : (rc.now u).1 with
  | error e =>
      rw [rc.commitStep_timeless name shown, outside]
      exact .timeless considers clears (now ▸ shown)
  | ok t =>
      rw [rc.commitStep_equipped name equipped shown]
      cases writable : r.isWritable with
      | false =>
          rw [if_neg Bool.false_ne_true, outside]
          exact .unwritable considers clears (now ▸ shown) writable
      | true =>
          rw [if_pos rfl, u.outside_asked rfl, outside, server]
          exact .commits considers clears (now ▸ shown) writable

/-- A review that has read a request ends with the look-up or with the commit. -/
theorem lookUp_concludes {s t : State} {body : Json} {r : Request}
    (considers : Considers name s body r) (outside : t.outside = s.outside.ask (.read name))
    (equipped : t.isEquipped = true) {rest : Act Verdict}
    (continues : rest = do
      match ← rc.lookUpStep name r with
      | .decided v => pure v
      | .candidate q => rc.commitStep name q) :
    rc.Concludes name s (rest t).1 (rest t).2.outside := by
  have server : t.server = s.server := by
    have asked : t.server = (s.server.read name).2 := congrArg Outside.server outside
    rw [asked, Server.read_snd_of_ok considers.answer]
  obtain ⟨given, after, still⟩ := rc.lookUpStep_equipped name equipped r
  rw [server] at given
  rw [outside] at after
  rw [continues, bind_apply]
  cases looked : rc.lookUpStep name r t with
  | mk result u =>
      rw [looked] at given after still
      change result = _ at given
      cases known : registered
          (Store.lookUpResult r.clusterName (s.server.lookUp r.clusterName).1) with
      | error e =>
          rw [known] at given
          subst given
          change rc.Concludes name s _ u.outside
          rw [after]
          exact .unknown considers known
      | ok k =>
          rw [known] at given
          subst given
          dsimp only [Except.map]
          cases decided : Review.afterLookUp name rc.dryRun r k with
          | decided v =>
              change rc.Concludes name s _ u.outside
              rw [after]
              exact .judges considers known decided
          | candidate q =>
              obtain ⟨rfl, undecided, own, earnest, rfl⟩ :=
                Review.afterLookUp_eq_candidate.mp decided
              have clears : rc.Clears s q :=
                ⟨known_of_registered known, undecided, own, earnest⟩
              exact commit_concludes considers clears after still

/-- Every review ends in one of the ways in which it can end. -/
theorem review_concludes (rc : Reconciler) (name : String) (s : State) :
    rc.Concludes name s (rc.review name s).1 (rc.review name s).2.outside := by
  have same := Client.quiet_ensure.outside s
  unfold review
  cases ensured : Client.ensure s with
  | mk result t =>
      rw [ensured] at same
      have first : (Client.ensure s).1 = result := congrArg Prod.fst ensured
      cases result with
      | error e =>
          have failed : readStep name s = (.error e, t) := bind_error (bind_error ensured)
          rw [bind_error failed, same]
          exact .powerless first
      | ok v =>
          have server : t.server = s.server := congrArg Outside.server same
          have asked : (t.asked (.read name)).outside = s.outside.ask (.read name) := by
            rw [t.outside_asked rfl, same]
          rw [bind_apply, readStep_apply name ensured, server]
          cases read : Store.readResult name (s.server.read name).1 with
          | error e =>
              change rc.Concludes name s _ (t.asked (.read name)).outside
              rw [asked]
              exact .unread first read
          | ok found =>
              simp only [bind, Except.bind]
              cases decided : Review.afterRead found with
              | decided v =>
                  change rc.Concludes name s _ (t.asked (.read name)).outside
                  rw [asked]
                  exact .dismisses first read decided
              | candidate r =>
                  obtain ⟨rfl, live, labelled⟩ := Review.afterRead_eq_candidate.mp decided
                  obtain ⟨body, answer, understood⟩ := Store.readResult_eq_some.mp read
                  have considers : Considers name s body r :=
                    ⟨first, answer, understood, live, labelled⟩
                  have equipped : (t.asked (.read name)).isEquipped = true :=
                    Client.equipped_of_ensure (t := t) ensured
                  exact lookUp_concludes considers asked equipped rfl

/-- What a review concludes, as the reconciliation around it gives it to its caller. -/
def reported (result : Except Raised Verdict) : Except Raised Outcome :=
  (result.map Verdict.outcome).mapError surfaced

theorem decide_fst (rc : Reconciler) (name : String) (s : State) :
    (rc.decide name s).1 = reported (rc.review name s).1 := by
  unfold decide
  rw [bind_ok (attempt_apply ..), bind_apply]
  cases rc.review name s with
  | mk result t =>
      cases result with
      | ok v => rfl
      | error e =>
          dsimp only
          unfold logFault
          cases (surfaced e).fault.isOrdinary <;> rfl

theorem tracked_fst {α : Type} (x : Act α) (s : State) : (tracked x s).1 = (x s).1 := by
  unfold tracked
  rw [bind_ok (attempt_apply ..)]
  cases (x s).1 <;> rfl

theorem reconcile_concludes (rc : Reconciler) (name : String) (s : State) :
    ∃ result, rc.Concludes name s result (rc.reconcile name s).2.outside ∧
      (rc.reconcile name s).1 = reported result := by
  let t := (rc.log.start (.str requestType) (.str name) none s).2
  have started : rc.log.start (.str requestType) (.str name) none s = (.ok _, t) := rfl
  have outside : t.outside = s.outside :=
    (OperatorLog.quiet_start rc.log (.str requestType) (.str name) none).outside s
  have given : (rc.reconcile name s).1 = reported (rc.review name t).1 := by
    have inner := (tracked_fst (rc.decide name) t).trans (rc.decide_fst name t)
    unfold reconcile
    rw [bind_ok started, bind_apply]
    cases tracked_ : tracked (rc.decide name) t with
    | mk result u =>
        rw [tracked_] at inner
        obtain rfl : result = _ := inner
        cases reported (rc.review name t).1 <;> rfl
  refine ⟨(rc.review name t).1, ?_, given⟩
  rw [rc.outside_reconcile_started name s started]
  exact (rc.review_concludes name t).congr outside rfl

end Reconciler

end BootstrapApproval
