import BootstrapApproval.Proofs.Reconciler.Conclusions
import BootstrapApproval.Proofs.Request.Decisions

/-! # The first outcome that applies

Each outcome has a reason of its own: something in the answer to the read, in the answer to the
look-up, or the wish for a trial. Several reasons may hold at once. A reconciliation that returns
gives the first outcome whose reason holds, and it has asked just as much as that outcome needs.
-/

namespace BootstrapApproval

namespace Outcome

/-- The outcomes in the order in which their reasons count. -/
def precedence : List Outcome :=
  [requestNotFound, deleting, missingClusterLabel, clusterNotRegistered, alreadyResolved,
   usernameMismatch, dryRun, approved]

/-- What is asked before an outcome is given. -/
def questions (name cluster : String) (sent : Json) : Outcome → List Call
  | requestNotFound | deleting | missingClusterLabel => [.read name]
  | clusterNotRegistered | alreadyResolved | usernameMismatch | dryRun =>
      [.read name, .lookUp cluster]
  | approved => [.read name, .lookUp cluster, .replace name sent]

theorem nodup_questions (name cluster : String) (sent : Json) (o : Outcome) :
    (o.questions name cluster sent).Nodup := by
  cases o <;> simp [questions]

end Outcome

/-- Whether a failed look-up is passed on as an operator error: refusals and missing answers are. -/
def Fault.isReported : Fault → Bool
  | .response _ | .transport _ _ | .operator _ => true
  | _ => false

/-- What a reconciliation has to go by. -/
structure Findings where
  read : Except Fault Json
  /-- The answer to looking up the cluster that the request names. -/
  lookUp : Except Fault Json
  dryRun : Bool

namespace Findings

def requestIn (answer : Except Fault Json) : Option Request :=
  answer.toOption.bind fun body => (Request.understood body).toOption

theorem requestIn_ok {body : Json} {r : Request} (understood : Request.understood body = .ok r) :
    requestIn (.ok body) = some r := by
  simp [requestIn, Except.toOption, understood]

/-- The request that was read, if it was. -/
def request? (w : Findings) : Option Request := requestIn w.read

def clusterIn (answer : Except Fault Json) : String :=
  ((requestIn answer).map Request.clusterName).getD ""

def cluster (w : Findings) : String := clusterIn w.read

/-- What a server gives a reconciliation to go by. -/
def ofServer (rc : Reconciler) (name : String) (s : Server) : Findings :=
  { read := (s.read name).1
    lookUp := (s.lookUp (clusterIn (s.read name).1)).1
    dryRun := rc.dryRun }

/-- Whether the reason for an outcome holds, each reason by itself. -/
def applies (w : Findings) : Outcome → Bool
  | .requestNotFound => match w.read with | .error f => f.isNotFound | .ok _ => false
  | .deleting => w.request?.any fun r => r.metadata.deletionTimestamp.isSome
  | .missingClusterLabel =>
      w.request?.any fun r => (r.labels.find? clusterNameLabel).all fun label => label == ""
  | .clusterNotRegistered => match w.lookUp with | .error f => f.isReported | .ok _ => false
  | .alreadyResolved =>
      w.request?.any fun r => r.conditions.any fun c => c.type == "Approved" || c.type == "Denied"
  | .usernameMismatch =>
      w.request?.any fun r => r.username != some (expectedUsername w.cluster)
  | .dryRun => w.dryRun
  | .approved => true

section Applies

variable {w : Findings} {r : Request}

theorem cluster_eq (read : w.request? = some r) : w.cluster = r.clusterName := by
  have found : requestIn w.read = some r := read
  simp [cluster, clusterIn, found]

theorem applies_requestNotFound (read : w.request? = some r) :
    w.applies .requestNotFound = false := by
  cases answer : w.read with
  | ok body => simp [applies, answer]
  | error f => simp [request?, requestIn, answer, Except.toOption] at read

theorem applies_deleting (read : w.request? = some r) :
    w.applies .deleting = r.isDeleting := by
  simp [applies, read, Request.isDeleting]

theorem applies_missingClusterLabel (read : w.request? = some r) :
    w.applies .missingClusterLabel = decide (r.clusterName = "") := by
  simp only [applies, read, Option.any_some]
  unfold Request.clusterName
  cases found : r.labels.find? clusterNameLabel with
  | none => rfl
  | some label => exact beq_eq_decide label ""

theorem applies_alreadyResolved (read : w.request? = some r) :
    w.applies .alreadyResolved = r.resolution?.isSome := by
  have undecided : w.applies .alreadyResolved = false ↔ r.resolution? = none := by
    simp [applies, read, Request.undecided_iff]
  cases reason : w.applies .alreadyResolved with
  | true =>
      rw [reason] at undecided
      simpa [Option.isSome_iff_ne_none] using undecided
  | false => rw [undecided.mp reason, Option.isSome_none]

theorem applies_usernameMismatch (read : w.request? = some r) :
    w.applies .usernameMismatch = !r.isFrom r.clusterName := by
  simp [applies, read, cluster_eq read, Request.isFrom, bne]

/-- What counts as no when a cluster is looked up is what speaks for an unknown cluster. -/
theorem applies_clusterNotRegistered {cluster : String} {known : Bool}
    (result : Reconciler.registered (Store.lookUpResult cluster w.lookUp) = .ok known) :
    w.applies .clusterNotRegistered = !known := by
  cases answer : w.lookUp with
  | ok entry =>
      rw [answer] at result
      obtain rfl : true = known := Except.ok.inj result
      simp [applies, answer]
  | error f =>
      rw [answer] at result
      have reason : w.applies .clusterNotRegistered = f.isReported := by simp [applies, answer]
      rw [reason]
      cases f with
      | response response =>
          have negative : known = false := by
            simp only [Store.lookUpResult, Store.failed] at result
            split at result <;> simpa [Reconciler.registered, Raised.diagnosed, Raised.of,
              Raised.because, Fault.operatorError?, eq_comm] using result
          rw [negative]
          rfl
      | transport kind text =>
          obtain rfl : false = known := Except.ok.inj result
          rfl
      | operator e =>
          obtain rfl : false = known := Except.ok.inj result
          rfl
      | _ => cases result

end Applies

section First

variable {w : Findings} {r : Request} {v : Verdict}

/-- What a read decides is the first outcome whose reason holds. -/
theorem first_of_dismissed {found : Option Request} {name : String}
    (read : Store.readResult name w.read = .ok found)
    (decided : Review.afterRead found = .decided v) :
    Outcome.precedence.find? w.applies = some v.outcome ∧
      ∀ name cluster sent, v.outcome.questions name cluster sent = [.read name] := by
  cases found with
  | none =>
      obtain ⟨f, answer, absent⟩ := Store.readResult_eq_none.mp read
      have reason : w.applies .requestNotFound = true := by simpa [applies, answer] using absent
      obtain rfl : Verdict.notFound = v := Review.decided.inj decided
      exact ⟨List.find?_cons_of_pos reason, fun _ _ _ => rfl⟩
  | some r =>
      obtain ⟨body, answer, understood⟩ := Store.readResult_eq_some.mp read
      have request : w.request? = some r := by rw [request?, answer, requestIn_ok understood]
      simp only [Outcome.precedence, List.find?_cons, applies_requestNotFound request,
        applies_deleting request, applies_missingClusterLabel request]
      simp only [Review.afterRead] at decided
      cases deleting : r.isDeleting with
      | true =>
          rw [if_pos deleting] at decided
          obtain rfl : Verdict.deleting = v := Review.decided.inj decided
          exact ⟨rfl, fun _ _ _ => rfl⟩
      | false =>
          rw [if_neg (ne_true_of_eq_false deleting)] at decided
          by_cases unlabelled : r.clusterName = ""
          · rw [if_pos unlabelled] at decided
            obtain rfl : Verdict.unlabelled = v := Review.decided.inj decided
            rw [decide_eq_true unlabelled]
            exact ⟨rfl, fun _ _ _ => rfl⟩
          · rw [if_neg unlabelled] at decided
            cases decided

/-- What has been read leaves the decision to the look-up. -/
theorem first_of_considered (request : w.request? = some r) (live : r.isDeleting = false)
    (labelled : r.clusterName ≠ "") :
    Outcome.precedence.find? w.applies =
      [Outcome.clusterNotRegistered, .alreadyResolved, .usernameMismatch, .dryRun, .approved].find?
        w.applies := by
  simp only [Outcome.precedence, List.find?_cons, applies_requestNotFound request,
    applies_deleting request, live, applies_missingClusterLabel request, decide_eq_false labelled]

/-- What a look-up decides is the first outcome whose reason holds. -/
theorem first_of_judged {name cluster : String} {known : Bool} (request : w.request? = some r)
    (live : r.isDeleting = false) (labelled : r.clusterName ≠ "")
    (result : Reconciler.registered (Store.lookUpResult cluster w.lookUp) = .ok known)
    (decided : Review.afterLookUp name w.dryRun r known = .decided v) :
    Outcome.precedence.find? w.applies = some v.outcome ∧
      ∀ name cluster sent,
        v.outcome.questions name cluster sent = [.read name, .lookUp cluster] := by
  simp only [first_of_considered request live labelled, List.find?_cons,
    applies_clusterNotRegistered result, applies_alreadyResolved request,
    applies_usernameMismatch request]
  unfold Review.afterLookUp at decided
  cases known with
  | false =>
      obtain rfl := Review.decided.inj decided
      exact ⟨rfl, fun _ _ _ => rfl⟩
  | true =>
      cases resolution : r.resolution? with
      | some d =>
          simp only [resolution] at decided
          obtain rfl := Review.decided.inj decided
          exact ⟨rfl, fun _ _ _ => rfl⟩
      | none =>
          cases own : r.isFrom r.clusterName with
          | false =>
              simp only [resolution, own] at decided
              obtain rfl := Review.decided.inj decided
              exact ⟨rfl, fun _ _ _ => rfl⟩
          | true =>
              cases trial : w.dryRun with
              | true =>
                  simp only [resolution, own, trial] at decided
                  obtain rfl := Review.decided.inj decided
                  rw [applies, trial]
                  exact ⟨rfl, fun _ _ _ => rfl⟩
              | false => simp [resolution, own, trial] at decided

/-- When no other reason holds, the outcome is an approval. -/
theorem first_of_cleared {entry : Json} (request : w.request? = some r)
    (live : r.isDeleting = false) (labelled : r.clusterName ≠ "") (answer : w.lookUp = .ok entry)
    (undecided : r.resolution? = none) (own : r.isFrom r.clusterName = true)
    (earnest : w.dryRun = false) : Outcome.precedence.find? w.applies = some .approved := by
  have known : w.applies .clusterNotRegistered = false := by simp [applies, answer]
  have serious : w.applies .dryRun = false := earnest
  simp only [first_of_considered request live labelled, List.find?_cons, known,
    applies_alreadyResolved request, undecided, applies_usernameMismatch request, own, serious]
  rfl

end First

/-- What a reconciliation gives and has asked, in the light of what it had to go by. -/
def Explains (w : Findings) (name : String) (asked : List Call) : Except Raised Outcome → Prop
  | .ok o => Outcome.precedence.find? w.applies = some o ∧ o.requeue = false ∧
      ∃ sent, asked = o.questions name w.cluster sent
  | .error _ => ∃ sent, asked <+: Outcome.approved.questions name w.cluster sent

theorem Explains.nodup {w : Findings} {name : String} {asked : List Call}
    {result : Except Raised Outcome} (explains : w.Explains name asked result) : asked.Nodup := by
  cases result with
  | ok o =>
      obtain ⟨-, -, sent, rfl⟩ := explains
      exact Outcome.nodup_questions ..
  | error e =>
      obtain ⟨sent, part⟩ := explains
      exact part.sublist.nodup (Outcome.nodup_questions ..)

end Findings

open Findings Reconciler

variable {rc : Reconciler} {name : String} {s : State}

theorem Reconciler.Considers.request? {body : Json} {r : Request}
    (considers : Considers name s body r) :
    (ofServer rc name s.server).request? = some r ∧
      (ofServer rc name s.server).lookUp = (s.server.lookUp r.clusterName).1 := by
  have found : requestIn (s.server.read name).1 = some r := by
    rw [considers.answer, requestIn_ok considers.understood]
  refine ⟨found, ?_⟩
  simp only [ofServer, clusterIn, found, Option.map_some, Option.getD_some]

/-- However a review ends, what it had to go by explains it. -/
theorem Reconciler.Concludes.explained {result : Except Raised Verdict} {o : Outside}
    (named : s.server.Named) (concludes : rc.Concludes name s result o) :
    ∃ asked, o.asked = s.outside.asked ++ asked ∧
      (ofServer rc name s.server).Explains name asked (reported result) := by
  cases concludes with
  | powerless => exact ⟨[], (List.append_nil _).symm, .null, List.nil_prefix⟩
  | unread => exact ⟨[.read name], rfl, .null, _, rfl⟩
  | dismisses ensured read decided =>
      obtain ⟨first, needed⟩ :=
        first_of_dismissed (w := ofServer rc name s.server) read decided
      exact ⟨[.read name], rfl, first, rfl, .null, (needed ..).symm⟩
  | @unknown body r e considers refused =>
      obtain ⟨request, -⟩ := considers.request?
      refine ⟨[.read name, .lookUp r.clusterName], by simp [Outside.ask], .null, ?_⟩
      rw [cluster_eq request]
      exact ⟨_, rfl⟩
  | @judges body r known v considers result decided =>
      obtain ⟨request, answer⟩ := considers.request?
      rw [← answer] at result
      obtain ⟨first, needed⟩ :=
        first_of_judged request considers.live considers.labelled result decided
      refine ⟨[.read name, .lookUp r.clusterName], by simp [Outside.ask], first, rfl, .null, ?_⟩
      rw [cluster_eq request]
      exact (needed ..).symm
  | @timeless body r e considers | @unwritable body r now considers =>
      obtain ⟨request, -⟩ := considers.request?
      refine ⟨[.read name, .lookUp r.clusterName], by simp [Outside.ask], .null, ?_⟩
      rw [cluster_eq request]
      exact ⟨_, rfl⟩
  | @commits body r now considers clears =>
      obtain ⟨request, answer⟩ := considers.request?
      obtain ⟨own, t, rfl⟩ := named name body (Server.read_eq_ok considers.answer)
      have same : r.name = name := (Request.name_of_understood considers.understood).trans own
      refine ⟨[.read name, .lookUp r.clusterName, .replace name (r.approve now).body], ?_, ?_⟩
      · simp [Outside.ask, same]
      · cases Store.submitResult r.name
          ((s.server.lookUp r.clusterName).2.replace r.name (r.approve now).body).1 with
        | error e =>
            refine ⟨(r.approve now).body, ?_⟩
            rw [cluster_eq request]
            exact List.prefix_rfl
        | ok q =>
            obtain ⟨entry, known⟩ := clears.entry
            have first := first_of_cleared request considers.live considers.labelled
              (answer.trans known) clears.undecided clears.own clears.earnest
            refine ⟨first, rfl, (r.approve now).body, ?_⟩
            rw [cluster_eq request]
            rfl

/-- Where every request is stored under its own name, a reconciliation that returns gives the first
outcome whose reason holds, never with the advice to ask again, after exactly the questions that
this outcome needs. One that fails has asked the first few of the questions that an approval needs.
Nothing is asked twice. -/
theorem reconcile_decides (rc : Reconciler) (name : String) (s : State) (named : s.server.Named) :
    ∃ asked, (rc.reconcile name s).2.outside.asked = s.outside.asked ++ asked ∧ asked.Nodup ∧
      (ofServer rc name s.server).Explains name asked (rc.reconcile name s).1 := by
  obtain ⟨result, concludes, given⟩ := rc.reconcile_concludes name s
  obtain ⟨asked, whole, explains⟩ := concludes.explained named
  rw [← given] at explains
  exact ⟨asked, whole, explains.nodup, explains⟩

/-- A request that has been denied, and that its cluster did not ask for. -/
def disputed : Table Json :=
  [("metadata", .obj [("name", .str "a"), ("labels", .obj [(clusterNameLabel, .str "c")])]),
    ("spec", .obj [("username", .str "somebody")]),
    ("status", .obj [("conditions", .arr [.obj [("type", .str "Denied")]])])]

/-- Three reasons hold, and the first of them is the one that is given. -/
theorem reconcile_decides_disputed :
    let trial : Reconciler := { Reconciler.steady with dryRun := true }
    let s := State.steady (.holding disputed)
    (trial.reconcile "a" s).1.toOption = some .alreadyResolved ∧
      ∃ asked, (trial.reconcile "a" s).2.outside.asked = s.outside.asked ++ asked ∧ asked.Nodup ∧
        (ofServer trial "a" s.server).Explains "a" asked (trial.reconcile "a" s).1 :=
  ⟨by decide +kernel, reconcile_decides _ "a" _ (Server.named_holding rfl)⟩

end BootstrapApproval
