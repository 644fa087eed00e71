import BootstrapApproval.Proofs.Handler.Errands
import BootstrapApproval.Proofs.Reconciler.Answers
import BootstrapApproval.Proofs.Reconciler.Decision
import BootstrapApproval.Proofs.Request.Versioned

/-! # The books of the counters

However a run of errands goes, the counters agree with each other and with the errands that were
run. Where every stored body names its fields in one way only, the approvals of a cluster are the
writes that the server has accepted for its requests.
-/

namespace BootstrapApproval

open Act Handler

theorem Tally.count_add (t : Tally) (labels other : List String) :
    (t.add labels).count other = t.count other + if other = labels then 1 else 0 := by
  by_cases same : other = labels
  · rw [if_pos same, same]
    exact t.count_add_self labels
  · rw [if_neg same]
    exact t.count_add_of_ne same

namespace Metrics

/-- The counters agree with each other after some reconciliations. -/
structure Balanced (m : Metrics) (reconciliations : Nat) : Prop where
  endings : m.endings.count ["success"] + m.endings.count ["error"] + m.endings.count ["unknown"] =
    reconciliations
  durations : m.durations = reconciliations
  errors : m.endings.count ["error"] = m.errors.total
  decisions : m.endings.count ["success"] = m.decisions.total
  approvals : m.decisions.count ["approved"] = m.approvals.total

theorem balanced_zero : Balanced .zero 0 := ⟨rfl, rfl, rfl, rfl, rfl⟩

theorem countDecision_approved (m : Metrics) {c : String} (known : c ≠ "") :
    m.countDecision "approved" (some c) =
      { m with decisions := m.decisions.add ["approved"], approvals := m.approvals.add [c] } :=
  if_pos ⟨rfl, known⟩

theorem countDecision_other (m : Metrics) {o : Outcome} (cluster : Option String)
    (other : o ≠ .approved) :
    m.countDecision o.code cluster = { m with decisions := m.decisions.add [o.code] } := by
  cases cluster with
  | none => rfl
  | some c => exact if_neg fun approved => other (Outcome.code_injective approved.1)

/-- What the end of a reconciliation does to the counters: when it is an approval, it counts for a
cluster. -/
inductive Counts (m : Metrics) : Option String → Metrics → Prop where
  | approved {c : String} (known : c ≠ "") :
      Counts m (some c) ((m.countDecision "approved" (some c)).countEnding .success)
  | decided {o : Outcome} (cluster : Option String) (other : o ≠ .approved) :
      Counts m none ((m.countDecision o.code cluster).countEnding .success)
  | failed (type : String) (retryable : Bool) :
      Counts m none ((m.countError type retryable).countEnding .error)
  | interrupted : Counts m none (m.countEnding .unknown)

variable {m m' : Metrics} {cluster : Option String}

/-- Counting an ending balances counters that miss just this ending. -/
theorem balanced_of_ending {n : Nat} {e : Ending}
    (endings : m.endings.count ["success"] + m.endings.count ["error"] +
      m.endings.count ["unknown"] = n)
    (durations : m.durations = n)
    (errors : m.endings.count ["error"] + (if e = .error then 1 else 0) = m.errors.total)
    (decisions : m.endings.count ["success"] + (if e = .success then 1 else 0) = m.decisions.total)
    (approvals : m.decisions.count ["approved"] = m.approvals.total) :
    Balanced (m.countEnding e) (n + 1) := by
  have counted (label : String) : (m.countEnding e).endings.count [label] =
      m.endings.count [label] + if label = e.label then 1 else 0 := by
    have same : ([label] = [e.label]) = (label = e.label) := by simp
    simp only [countEnding, Tally.count_add, same]
  refine ⟨?_, congrArg (· + 1) durations, ?_, ?_, approvals⟩
  · rw [counted, counted, counted]
    cases e <;> simp [Ending.label] <;> omega
  · rw [counted]
    refine Eq.trans ?_ errors
    cases e <;> simp [Ending.label]
  · rw [counted]
    refine Eq.trans ?_ decisions
    cases e <;> simp [Ending.label]

theorem Balanced.step {n : Nat} (balanced : Balanced m n) (counts : Counts m cluster m') :
    Balanced m' (n + 1) := by
  obtain ⟨endings, durations, errors, decisions, approvals⟩ := balanced
  cases counts with
  | @approved c known =>
      rw [countDecision_approved m known]
      refine balanced_of_ending endings durations errors ?_ ?_
      · rw [Tally.total_add]
        exact congrArg (· + 1) decisions
      · rw [Tally.total_add, Tally.count_add_self]
        exact congrArg (· + 1) approvals
  | @decided o cluster other =>
      have code : ["approved"] ≠ [o.code] := by
        intro same
        exact other (Outcome.code_injective (List.cons.inj same).1.symm)
      rw [countDecision_other m cluster other]
      refine balanced_of_ending endings durations errors ?_ ?_
      · rw [Tally.total_add]
        exact congrArg (· + 1) decisions
      · rw [Tally.count_add_of_ne _ code]
        exact approvals
  | failed type retryable =>
      refine balanced_of_ending endings durations ?_ decisions approvals
      rw [countError, Tally.total_add]
      exact congrArg (· + 1) errors
  | interrupted => exact balanced_of_ending endings durations errors decisions approvals

theorem Counts.approvals (counts : Counts m cluster m') (c : String) :
    m'.approvals.count [c] = m.approvals.count [c] + if cluster = some c then 1 else 0 := by
  cases counts with
  | @approved c' known =>
      have same : ([c] = [c']) = (some c' = some c) := by simp [eq_comm]
      rw [countDecision_approved m known]
      simp only [countEnding, Tally.count_add, same]
  | decided cluster other =>
      rw [countDecision_other m cluster other]
      rfl
  | failed => rfl
  | interrupted => rfl

end Metrics

open Metrics

/-- A failed review counts as a failure or as an interrupt. -/
theorem Metrics.counts_of_error (m : Metrics) (e : Raised) :
    Counts m none (counted (Reconciler.reported (.error e)) (m.judged (.error e))) := by
  change Counts m none (counted (.error (Reconciler.surfaced e) : Except Raised Outcome) m)
  unfold counted ending
  dsimp only
  cases (Reconciler.surfaced e).fault.isOrdinary with
  | true => exact .failed ..
  | false => exact .interrupted

theorem Metrics.counts_of_other (m : Metrics) {v : Verdict} (other : v.outcome ≠ .approved) :
    Counts m none (counted (Reconciler.reported (.ok v)) (m.judged (.ok v))) :=
  .decided v.cluster other

namespace Review

theorem outcome_afterRead {found : Option Request} {v : Verdict}
    (decided : afterRead found = .decided v) : v.outcome ≠ .approved := by
  unfold afterRead at decided
  cases found with
  | none =>
      obtain rfl := Review.decided.inj decided
      simp [Verdict.notFound]
  | some r =>
      dsimp only at decided
      split at decided
      · obtain rfl := Review.decided.inj decided
        simp [Verdict.deleting]
      · split at decided
        · obtain rfl := Review.decided.inj decided
          simp [Verdict.unlabelled]
        · cases decided

theorem outcome_afterLookUp {name : String} {dryRun known : Bool} {r : Request} {v : Verdict}
    (decided : afterLookUp name dryRun r known = .decided v) : v.outcome ≠ .approved := by
  unfold afterLookUp at decided
  dsimp only at decided
  split at decided
  · obtain rfl := Review.decided.inj decided
    simp [Verdict.unregistered]
  · split at decided
    · obtain rfl := Review.decided.inj decided
      simp [Verdict.resolved]
    · split at decided
      · obtain rfl := Review.decided.inj decided
        simp [Verdict.mismatch]
      · split at decided
        · obtain rfl := Review.decided.inj decided
          simp [Verdict.dryRun]
        · cases decided

end Review

/-- Whether a call is a write that was accepted. -/
def isAcceptedWrite : Call × Except Fault Json → Bool
  | (.replace _ _, .ok _) => true
  | _ => false

/-- The cluster that a request that was read names, if one was read. -/
def clusterRead? : Call × Except Fault Json → Option String
  | (.read _, .ok body) => some (Findings.clusterIn (.ok body))
  | _ => none

/-- The writes among some calls that were accepted, when the request that was read names a cluster;
none otherwise. -/
def acceptedFor (cluster : String) (exchanges : List (Call × Except Fault Json)) : Nat :=
  if exchanges.findSome? clusterRead? = some cluster then exchanges.countP isAcceptedWrite else 0

theorem acceptedFor_of_unwritten {exchanges : List (Call × Except Fault Json)}
    (unwritten : exchanges.countP isAcceptedWrite = 0) (c : String) :
    acceptedFor c exchanges = 0 := by
  unfold acceptedFor
  rw [unwritten, ite_self]

namespace Reconciler

variable {rc : Reconciler} {name : String} {s : State} {result : Except Raised Verdict}
  {o : Outside}

/-- A review is counted by its end. Where the stored bodies name their fields in one way only, it
counts as an approval of a cluster exactly when the server has accepted a write for it. -/
theorem Concludes.counts (concludes : rc.Concludes name s result o) (m : Metrics) :
    ∃ cluster calls, o.asked = s.outside.asked ++ calls ∧
      Counts m cluster (counted (reported result) (m.judged result)) ∧
      (s.server.IsTwinless → ∀ c,
        acceptedFor c (s.server.answers calls) = if cluster = some c then 1 else 0) := by
  have unwritten (calls : List Call) (here : o = s.outside.askAll calls)
      (counts : Counts m none (counted (reported result) (m.judged result)))
      (never : (s.server.answers calls).countP isAcceptedWrite = 0) :
      ∃ cluster calls, o.asked = s.outside.asked ++ calls ∧
        Counts m cluster (counted (reported result) (m.judged result)) ∧
        (s.server.IsTwinless → ∀ c,
          acceptedFor c (s.server.answers calls) = if cluster = some c then 1 else 0) :=
    ⟨none, calls, here ▸ s.outside.asked_askAll calls, counts,
      fun _ => acceptedFor_of_unwritten never⟩
  cases concludes with
  | powerless => exact unwritten [] rfl (counts_of_error m _) rfl
  | unread => exact unwritten [.read name] rfl (counts_of_error m _) rfl
  | dismisses ensured read decided =>
      exact unwritten [.read name] rfl (counts_of_other m (Review.outcome_afterRead decided)) rfl
  | @unknown body r =>
      exact unwritten [.read name, .lookUp r.clusterName] rfl (counts_of_error m _) rfl
  | @judges body r known v considers answered decided =>
      exact unwritten [.read name, .lookUp r.clusterName] rfl
        (counts_of_other m (Review.outcome_afterLookUp decided)) rfl
  | @timeless body r =>
      exact unwritten [.read name, .lookUp r.clusterName] rfl (counts_of_error m _) rfl
  | @unwritable body r =>
      exact unwritten [.read name, .lookUp r.clusterName] rfl (counts_of_error m _) rfl
  | @commits body r now considers clears shown writable =>
      let calls : List Call :=
        [.read name, .lookUp r.clusterName, .replace r.name (r.approve now).body]
      have answers : s.server.answers calls =
          [(.read name, .ok body), (.lookUp r.clusterName, (s.server.lookUp r.clusterName).1),
            (.replace r.name (r.approve now).body,
              ((s.server.lookUp r.clusterName).2.replace r.name (r.approve now).body).1)] :=
        considers.answers _
      have named : Findings.clusterIn (.ok body) = r.clusterName := by
        rw [Findings.clusterIn, Findings.requestIn_ok considers.understood]
        rfl
      cases answer : ((s.server.lookUp r.clusterName).2.replace r.name (r.approve now).body).1 with
      | error f =>
          rw [answer] at answers unwritten
          refine unwritten calls rfl (counts_of_error m _) ?_
          rw [answers]
          rfl
      | ok written =>
          rw [answer] at answers
          cases understood : Request.understood written with
          | ok again =>
              refine ⟨some r.clusterName, calls, s.outside.asked_askAll calls, ?_, fun _ c => ?_⟩
              · rw [Store.submitResult, Store.given, understood]
                exact .approved considers.labelled
              · rw [answers, acceptedFor, ← named]
                rfl
          | error f =>
              refine ⟨none, calls, s.outside.asked_askAll calls, ?_, fun twinless => ?_⟩
              · rw [Store.submitResult, Store.given, understood]
                exact counts_of_error m _
              · obtain ⟨again, fine⟩ :=
                  twinless.understood_accepted considers.answer considers.understood answer
                rw [fine] at understood
                cases understood

end Reconciler

/-- An errand that was run for a request, with the state in which it started. -/
structure Visit where
  errand : Errand
  name : String
  state : State

namespace Visit

def after (v : Visit) : State := (v.errand.run v.name v.state).2

/-- What the server was asked on a visit, with its answers. -/
def exchanges (v : Visit) : List (Call × Except Fault Json) :=
  v.state.server.answers (v.after.outside.asked.drop v.state.outside.asked.length)

/-- Whether the request that was read on a visit names a cluster. -/
def isFor (c : String) (v : Visit) : Bool := v.exchanges.findSome? clusterRead? == some c

/-- How many writes the server has accepted on the visits whose request names a cluster. -/
def accepted (c : String) (visits : List Visit) : Nat :=
  ((visits.filter (isFor c)).flatMap exchanges).countP isAcceptedWrite

theorem accepted_append (c : String) (visits : List Visit) (v : Visit) :
    accepted c (visits ++ [v]) = accepted c visits + acceptedFor c v.exchanges := by
  unfold accepted acceptedFor
  rw [List.filter_append, List.flatMap_append, List.countP_append]
  by_cases here : v.exchanges.findSome? clusterRead? = some c
  · simp [isFor, here]
  · simp [isFor, here]

theorem counts (v : Visit) :
    ∃ cluster, Counts v.state.metrics cluster v.after.metrics ∧
      (v.state.server.IsTwinless → ∀ c,
        acceptedFor c v.exchanges = if cluster = some c then 1 else 0) := by
  obtain ⟨result, leads⟩ := v.errand.leads v.name v.state
  obtain ⟨cluster, calls, asked, counts, accepted⟩ :=
    leads.reviewed.concludes.counts v.state.metrics
  have exchanges : v.exchanges = v.state.server.answers calls := by
    have asked : v.after.outside.asked = v.state.outside.asked ++ calls := asked
    rw [Visit.exchanges, asked, List.drop_left]
  refine ⟨cluster, ?_, fun twinless c => ?_⟩
  · have metrics : v.after.metrics = _ := leads.metrics
    rw [metrics]
    exact counts
  · rw [exchanges]
    exact accepted twinless c

end Visit

/-- A run of errands from one state to another. Between two errands everything may change but the
counters. -/
inductive Run (s : State) : List Visit → State → Prop where
  | start : Run s [] s
  | meanwhile {visits : List Visit} {t : State} (before : Run s visits t) (u : State)
      (same : u.metrics = t.metrics) : Run s visits u
  | visit {visits : List Visit} {t : State} (before : Run s visits t) (errand : Errand)
      (name : String) : Run s (visits ++ [⟨errand, name, t⟩]) (errand.run name t).2

namespace Run

variable {s t : State} {visits : List Visit}

theorem balanced (run : Run s visits t) (fresh : s.metrics = .zero) :
    Balanced t.metrics visits.length := by
  induction run with
  | start =>
      rw [fresh]
      exact balanced_zero
  | meanwhile before u same ih =>
      rw [same]
      exact ih
  | @visit visits t before errand name ih =>
      obtain ⟨cluster, counts, -⟩ := Visit.counts ⟨errand, name, t⟩
      rw [List.length_append]
      exact ih.step counts

theorem approvals (run : Run s visits t) (fresh : s.metrics = .zero)
    (twinless : ∀ v ∈ visits, v.state.server.IsTwinless) (c : String) :
    t.metrics.approvals.count [c] = Visit.accepted c visits := by
  induction run with
  | start =>
      rw [fresh]
      rfl
  | meanwhile before u same ih =>
      rw [same]
      exact ih twinless
  | @visit visits t before errand name ih =>
      obtain ⟨cluster, counts, accepted⟩ := Visit.counts ⟨errand, name, t⟩
      have last := accepted (twinless _ (List.mem_append_right _ (List.mem_singleton_self _))) c
      have earlier := ih fun v member => twinless v (List.mem_append_left _ member)
      rw [Visit.accepted_append, ← earlier, last]
      exact counts.approvals c

/-- After every run of errands from fresh counters, the endings of reconciliations and the durations
are as many as the errands, failures are as many as errors, successes as many as decisions, and
approvals as many as decisions to approve. Where the stored bodies name their fields in one way
only, the approvals of each cluster are the writes that the server has accepted for requests that
were read with this cluster. -/
theorem books_balance (run : Run s visits t) (fresh : s.metrics = .zero) :
    Balanced t.metrics visits.length ∧
      ((∀ v ∈ visits, v.state.server.IsTwinless) → ∀ c,
        t.metrics.approvals.count [c] = Visit.accepted c visits) :=
  ⟨run.balanced fresh, run.approvals fresh⟩

/-- An event about a request that waits, and a reconciliation after it. -/
def secondLook : List Visit :=
  let first : Visit := ⟨.handle none, "a", .steady (.holding (willing [] [] []))⟩
  [first, ⟨.reconcile, "a", first.after⟩]

/-- The first errand approves the request, and the second one finds it approved. -/
theorem books_balance_secondLook :
    ∃ t, Run (.steady (.holding (willing [] [] []))) secondLook t ∧ Balanced t.metrics 2 ∧
      t.metrics.decisions.count ["already_resolved"] = 1 ∧ t.metrics.approvals.count ["c"] = 1 ∧
      Visit.accepted "c" secondLook = 1 := by
  have run : Run (.steady (.holding (willing [] [] []))) secondLook _ :=
    .visit (.visit .start (.handle none) "a") .reconcile "a"
  obtain ⟨balanced, writes⟩ := run.books_balance rfl
  have accepted := writes (by decide +kernel) "c"
  have approvals : Visit.accepted "c" secondLook = 1 := by decide +kernel
  exact ⟨_, run, balanced, by decide +kernel, accepted.trans approvals, approvals⟩

end Run

end BootstrapApproval
