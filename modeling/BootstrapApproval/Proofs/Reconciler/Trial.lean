import BootstrapApproval.Proofs.Handler.Retries
import BootstrapApproval.Proofs.Reconciler.Decision
import BootstrapApproval.Proofs.Reconciler.Filter

/-! # Trials

A reconciler on trial does all that the same reconciler does in earnest, up to the commit. Where it
comes to no commit, the two cannot be told apart. Where it comes to one, the trial says so, and in
earnest the request is written, unless a clock that has been put in raises or it cannot be written.
-/

namespace BootstrapApproval

open Act

namespace Review

variable {name : String} {r : Request} {known : Bool} {v : Verdict}

theorem outcome_of_dismissed {found : Option Request} (decided : afterRead found = .decided v) :
    v.outcome ≠ .dryRun := by
  cases found with
  | none =>
      obtain rfl := Review.decided.inj decided
      simp [Verdict.notFound]
  | some r =>
      simp only [afterRead] at decided
      split_ifs at decided
      · obtain rfl := Review.decided.inj decided
        simp [Verdict.deleting]
      · obtain rfl := Review.decided.inj decided
        simp [Verdict.unlabelled]

/-- A trial decides as the reconciler in earnest, except where that one would commit. -/
theorem afterLookUp_onTrial (name : String) (r : Request) (known : Bool) :
    afterLookUp name true r known = afterLookUp name false r known ∨
      afterLookUp name true r known = .decided (.dryRun name r.clusterName) ∧
        afterLookUp name false r known = .candidate r := by
  unfold afterLookUp
  cases known with
  | false => exact .inl rfl
  | true =>
      cases r.resolution? with
      | some d => exact .inl rfl
      | none =>
          cases own : r.isFrom r.clusterName with
          | false => exact .inl (by simp [own])
          | true => exact .inr ⟨by simp [own], by simp [own]⟩

/-- What stands in the way of a commit is no trial. -/
theorem outcome_of_judged (decided : afterLookUp name false r known = .decided v) :
    v.outcome ≠ .dryRun := by
  unfold afterLookUp at decided
  cases known with
  | false =>
      obtain rfl := Review.decided.inj decided
      simp [Verdict.unregistered]
  | true =>
      cases resolution : r.resolution? with
      | some d =>
          simp only [resolution] at decided
          obtain rfl := Review.decided.inj decided
          simp [Verdict.resolved]
      | none =>
          cases own : r.isFrom r.clusterName with
          | false =>
              simp only [resolution, own] at decided
              obtain rfl := Review.decided.inj decided
              simp [Verdict.mismatch]
          | true => simp [resolution, own] at decided

end Review

namespace Reconciler

/-- The same reconciler, which decides but never writes. -/
def onTrial (rc : Reconciler) : Reconciler := { rc with dryRun := true }

/-- The same reconciler, which writes what it approves. -/
def inEarnest (rc : Reconciler) : Reconciler := { rc with dryRun := false }

variable (rc : Reconciler) (name : String) (s : State)

theorem lookUpStep_onTrial (r : Request) :
    rc.onTrial.lookUpStep name r s = rc.inEarnest.lookUpStep name r s ∨
      ∃ t, rc.onTrial.lookUpStep name r s =
        (.ok (.decided (.dryRun name r.clusterName)), t) := by
  have asks : rc.onTrial.isRegistered name r.clusterName =
      rc.inEarnest.isRegistered name r.clusterName := rfl
  unfold lookUpStep
  rw [asks, bind_apply, bind_apply]
  cases rc.inEarnest.isRegistered name r.clusterName s with
  | mk result t =>
      cases result with
      | error e => exact .inl rfl
      | ok known =>
          rcases Review.afterLookUp_onTrial name r known with same | ⟨trial, -⟩
          · left
            exact congrArg (fun review => (Except.ok review, t)) same
          · right
            exact ⟨t, congrArg (fun review => (Except.ok review, t)) trial⟩

/-- Up to the commit, a trial is the review in earnest. -/
theorem review_onTrial :
    rc.onTrial.review name s = rc.inEarnest.review name s ∨
      ∃ cluster t, rc.onTrial.review name s = (.ok (.dryRun name cluster), t) := by
  unfold review
  rw [bind_apply, bind_apply]
  cases readStep name s with
  | mk result t =>
      cases result with
      | error e => exact .inl rfl
      | ok read =>
          cases read with
          | decided v => exact .inl rfl
          | candidate r =>
              dsimp only
              rcases rc.lookUpStep_onTrial name t r with same | ⟨u, trial⟩
              · left
                rw [bind_apply, bind_apply, same]
                rfl
              · right
                exact ⟨r.clusterName, u, bind_ok trial⟩

theorem reconcile_onTrial :
    rc.inEarnest.reconcile name s = rc.onTrial.reconcile name s ∨
      (rc.onTrial.reconcile name s).1 = .ok .dryRun := by
  have opened : rc.onTrial.opened name s = rc.inEarnest.opened name s := rfl
  rcases rc.review_onTrial name (rc.onTrial.opened name s) with same | ⟨cluster, t, trial⟩
  · left
    cases reviewed : rc.onTrial.review name (rc.onTrial.opened name s) with
    | mk result t =>
        have reviewed' := same.symm.trans reviewed
        rw [opened] at reviewed'
        cases result with
        | ok v =>
            rw [reconcile_of_verdict reviewed, reconcile_of_verdict reviewed']
            rfl
        | error e =>
            rw [reconcile_of_fault reviewed, reconcile_of_fault reviewed']
            rfl
  · right
    rw [reconcile_of_verdict trial]
    rfl

section Parting

variable {rc name s} {body : Json} {r : Request} {result : Except Raised Verdict} {o : Outside}

theorem Concludes.spares_onTrial (concludes : rc.onTrial.Concludes name s result o) :
    ∃ calls, Spares s calls o := by
  rcases concludes.spares_or_commits with spares | ⟨body, r, now, -, clears, -⟩
  · exact spares
  · cases clears.earnest

theorem reported_eq_ok {outcome : Outcome} :
    reported result = .ok outcome ↔ ∃ v, result = .ok v ∧ v.outcome = outcome := by
  cases result <;> simp [reported, Except.map, Except.mapError]

/-- A trial ends as a trial only for a request against which nothing speaks. -/
theorem Concludes.cleared_of_trial (concludes : rc.onTrial.Concludes name s result o)
    (trial : reported result = .ok .dryRun) :
    ∃ body r, Considers name s body r ∧ rc.inEarnest.Clears s r := by
  obtain ⟨v, given, outcome⟩ := reported_eq_ok.mp trial
  cases concludes with
  | powerless => cases given
  | unread => cases given
  | unknown => cases given
  | timeless => cases given
  | unwritable => cases given
  | dismisses ensured read decided =>
      obtain rfl := Except.ok.inj given
      exact absurd outcome (Review.outcome_of_dismissed decided)
  | @judges body r known _ considers answered decided =>
      obtain rfl := Except.ok.inj given
      rcases Review.afterLookUp_onTrial name r known with same | ⟨-, commits⟩
      · exact absurd outcome (Review.outcome_of_judged (same.symm.trans decided))
      · obtain ⟨rfl, undecided, own, -⟩ := Review.afterLookUp_eq_candidate.mp commits
        exact ⟨body, r, considers, known_of_registered answered, undecided, own, rfl⟩
  | commits _ clears => cases clears.earnest

/-- Why a request against which nothing speaks is not written: a clock that has been put in the
place of the system's raises, or the request cannot be written. -/
inductive Withheld (rc : Reconciler) (s : State) (r : Request) : Raised → Prop where
  | timeless {e : Raised} (late : (rc.now s).1 = .error e) (putIn : ¬ rc.OnSystemTime s) :
      Withheld rc s r e
  | unwritable {now : Timestamp} (shown : (rc.now s).1 = .ok now) (high : r.isWritable = false) :
      Withheld rc s r (.of tooHigh)

/-- How a review ends in which nothing speaks against the request: on trial it says so and asks no
more, and in earnest the request is written or withheld. -/
inductive Parts (rc : Reconciler) (name : String) (s : State) (r : Request) :
    Except Raised Verdict → List Call → Prop where
  | tries (trial : rc.dryRun = true) :
      Parts rc name s r (.ok (.dryRun name r.clusterName)) [.read name, .lookUp r.clusterName]
  | withholds {e : Raised} (earnest : rc.dryRun = false) (withheld : Withheld rc s r e) :
      Parts rc name s r (.error e) [.read name, .lookUp r.clusterName]
  | writes (earnest : rc.dryRun = false) (result : Except Raised Verdict) (now : Timestamp) :
      Parts rc name s r result
        [.read name, .lookUp r.clusterName, .replace r.name (r.approve now).body]

theorem Concludes.parts (concludes : rc.Concludes name s result o)
    (considers : Considers name s body r) (clears : rc.inEarnest.Clears s r) :
    ∃ calls, Parts rc name s r result calls ∧ o = s.outside.askAll calls := by
  obtain ⟨found, goesOn⟩ := considers.afterRead
  obtain ⟨registered_, commits⟩ := clears.afterLookUp name
  cases concludes with
  | powerless failed => cases failed.symm.trans considers.ensured
  | unread ensured refused => cases refused.symm.trans found
  | dismisses ensured read decided =>
      obtain rfl := Except.ok.inj (read.symm.trans found)
      cases decided.symm.trans goesOn
  | unknown considers' refused =>
      obtain rfl := considers.unique considers'
      cases refused.symm.trans registered_
  | @judges _ r known v considers' answered decided =>
      obtain rfl := considers.unique considers'
      obtain rfl := Except.ok.inj (answered.symm.trans registered_)
      cases trial : rc.dryRun with
      | false =>
          rw [trial] at decided
          cases decided.symm.trans commits
      | true =>
          rw [trial] at decided
          rcases Review.afterLookUp_onTrial name r true with same | ⟨tries, -⟩
          · cases decided.symm.trans (same.trans commits)
          · obtain rfl := Review.decided.inj (decided.symm.trans tries)
            exact ⟨_, .tries trial, rfl⟩
  | timeless considers' clears' late =>
      obtain rfl := considers.unique considers'
      have putIn : ¬ rc.OnSystemTime s := fun onTime => by cases late.symm.trans onTime.now
      exact ⟨_, .withholds clears'.earnest (.timeless late putIn), rfl⟩
  | unwritable considers' clears' shown high =>
      obtain rfl := considers.unique considers'
      exact ⟨_, .withholds clears'.earnest (.unwritable shown high), rfl⟩
  | @commits _ _ now considers' clears' =>
      obtain rfl := considers.unique considers'
      exact ⟨_, .writes clears'.earnest _ now, rfl⟩

end Parting

/-- In earnest, a reconciliation fails after what the trial has asked, for a request against which
nothing speaks. -/
structure Fails (rc : Reconciler) (name : String) (s : State) (asked : List Call) (body : Json)
    (r : Request) (e : Raised) : Prop where
  considers : Considers name s body r
  clears : rc.inEarnest.Clears s r
  withheld : Withheld rc.inEarnest s r e
  raises : (rc.inEarnest.reconcile name s).1 = .error (surfaced e)
  asked : (rc.inEarnest.reconcile name s).2.outside.asked = s.outside.asked ++ asked

/-- Where a trial ends as a trial, the reconciliation in earnest asks the same and then for a write,
or it fails for one of the two reasons for which an approval is withheld. -/
theorem trial_iff_writes_or_fails {new : List Call}
    (asked : (rc.onTrial.reconcile name s).2.outside.asked = s.outside.asked ++ new) :
    (rc.onTrial.reconcile name s).1 = .ok .dryRun ↔
      (∃ n sent, (rc.inEarnest.reconcile name s).2.outside.asked =
        s.outside.asked ++ new ++ [.replace n sent]) ∨
      ∃ body r e, rc.Fails name s new body r e := by
  obtain ⟨tried, trial, given⟩ := rc.onTrial.reconcile_concludes name s
  obtain ⟨result, earnest, given'⟩ := rc.inEarnest.reconcile_concludes name s
  have cleared {body : Json} {r : Request} (considers : Considers name s body r)
      (clears : rc.inEarnest.Clears s r) :
      (rc.onTrial.reconcile name s).1 = .ok .dryRun ∧
        new = [.read name, .lookUp r.clusterName] := by
    obtain ⟨calls, parts, here⟩ := trial.parts considers clears
    rw [here] at asked
    obtain rfl := Outside.calls_of_asked _ asked
    cases parts with
    | tries => exact ⟨given, rfl⟩
    | withholds earnest => cases earnest
    | writes earnest => cases earnest
  constructor
  · intro ended
    obtain ⟨body, r, considers, clears⟩ := trial.cleared_of_trial (given.symm.trans ended)
    obtain ⟨-, rfl⟩ := cleared considers clears
    obtain ⟨calls, parts, here⟩ := earnest.parts considers clears
    have whole : (rc.inEarnest.reconcile name s).2.outside.asked = s.outside.asked ++ calls := by
      rw [here, Outside.asked_askAll]
    cases parts with
    | tries trial => cases trial
    | withholds _ withheld =>
        right
        exact ⟨body, r, _, considers, clears, withheld, given', whole⟩
    | writes _ _ now =>
        left
        refine ⟨r.name, (r.approve now).body, ?_⟩
        rw [whole, List.append_assoc]
        rfl
  · rintro (⟨n, sent, asks⟩ | ⟨body, r, e, fails⟩)
    · -- a write is never asked for on trial, so the two have parted
      rcases rc.reconcile_onTrial name s with same | ended
      · obtain ⟨calls, spares⟩ := trial.spares_onTrial
        have whole := spares.asked
        rw [← same, asks, List.append_assoc] at whole
        have unwritten := spares.unwritten
        rw [← List.append_cancel_left whole, List.any_append] at unwritten
        simp [Call.isReplace] at unwritten
      · exact ended
    · exact (cleared fails.considers fails.clears).1

/-- A trial asks for no write and leaves the requests and the clusters as they were, but for the
edit of another writer that was due with the look-up. It ends as a trial exactly when the
reconciliation in earnest, from the same state, asks the same and then for a write, or else fails
because the approval is withheld. In every other case the two give the same and leave the same
behind. -/
theorem trial_shadows_earnest :
    ∃ new, (rc.onTrial.reconcile name s).2.outside.asked = s.outside.asked ++ new ∧
      (∀ n sent, Call.replace n sent ∉ new) ∧
      (rc.onTrial.reconcile name s).2.server.clusters = s.server.clusters ∧
      (rc.onTrial.reconcile name s).2.server.requests =
        (if new.any Call.isLookUp then s.server.race else s.server).requests ∧
      ((rc.onTrial.reconcile name s).1 = .ok .dryRun ↔
        (∃ n sent, (rc.inEarnest.reconcile name s).2.outside.asked =
          s.outside.asked ++ new ++ [.replace n sent]) ∨
        ∃ body r e, rc.Fails name s new body r e) ∧
      ((rc.onTrial.reconcile name s).1 ≠ .ok .dryRun →
        rc.inEarnest.reconcile name s = rc.onTrial.reconcile name s) := by
  obtain ⟨result, trial, given⟩ := rc.onTrial.reconcile_concludes name s
  obtain ⟨new, spares⟩ := trial.spares_onTrial
  refine ⟨new, spares.asked, ?_, spares.clusters, spares.requests,
    rc.trial_iff_writes_or_fails name s spares.asked, ?_⟩
  · intro n sent member
    have written := Call.any_isReplace.mpr ⟨n, sent, member⟩
    rw [spares.unwritten] at written
    cases written
  · intro other
    exact (rc.reconcile_onTrial name s).resolve_right other

/-- A trial that foretells a write which the reconciliation in earnest does not ask for. -/
structure Misleads (rc : Reconciler) (name : String) (s : State) : Prop where
  foretold : (rc.onTrial.reconcile name s).1 = .ok .dryRun
  unwritten : (rc.inEarnest.reconcile name s).2.outside.asked.any Call.isReplace = false

/-- A request that is too high is withheld, and so is any request when the clock that has been put
in raises. -/
theorem trial_misleads :
    Reconciler.steady.Misleads "a" (.steady (.holding (willing [] [] tower))) ∧
      Reconciler.clockless.Misleads "a" (.steady (.holding (willing [] [] []))) :=
  ⟨⟨by decide +kernel, by decide +kernel⟩, ⟨by decide +kernel, by decide +kernel⟩⟩

end Reconciler

end BootstrapApproval
