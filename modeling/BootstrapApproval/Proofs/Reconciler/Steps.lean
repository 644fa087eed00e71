import BootstrapApproval.Proofs.Asking

/-! # The steps of a review

A review is the three steps one after the other. Each asks the server for one thing at most, and
what it gives follows from the answer. Everything a reconciliation does around them is quiet.
-/

namespace BootstrapApproval

open Act

namespace Review

theorem afterRead_eq_candidate {found : Option Request} {r : Request} :
    afterRead found = .candidate r ↔
      found = some r ∧ r.isDeleting = false ∧ r.clusterName ≠ "" := by
  cases found with
  | none => simp [afterRead]
  | some q => grind [afterRead]

theorem afterLookUp_eq_candidate {name : String} {dryRun registered : Bool} {q r : Request} :
    afterLookUp name dryRun q registered = .candidate r ↔
      registered = true ∧ q.resolution? = none ∧ q.isFrom q.clusterName = true ∧
        dryRun = false ∧ r = q := by
  unfold afterLookUp
  cases h : q.resolution? <;> grind

end Review

namespace Reconciler

/-- What the result of a look-up says about the cluster: an operator error counts as no. -/
def registered : Except Raised (Option Json) → Except Raised Bool
  | .ok entry => .ok entry.isSome
  | .error e =>
      match e.fault with
      | .operator _ => .ok false
      | _ => .error e

theorem readStep_asks (name : String) (s : State) :
    Asks (readStep name) s (.read name)
      (fun a => Store.readResult name a >>= fun found => .ok (.afterRead found)) :=
  (Store.read_asks name s).then_quiet (fun _ => Quiet.pure _) fun _ _ => rfl

/-- Beside what the look-up itself does, there is at most a remark on its failure. -/
theorem isRegistered_apply (rc : Reconciler) (name cluster : String) (s : State) :
    ∃ logs, rc.isRegistered name cluster s =
      (registered (Store.lookUp cluster s).1, { (Store.lookUp cluster s).2 with logs }) := by
  unfold isRegistered registered
  rw [bind_ok (attempt_apply ..)]
  cases (Store.lookUp cluster s).1 with
  | ok entry => exact ⟨_, rfl⟩
  | error e =>
      dsimp only
      cases e.fault <;> exact ⟨_, rfl⟩

theorem lookUpStep_apply (rc : Reconciler) (name : String) (r : Request) (s : State) :
    ∃ logs, rc.lookUpStep name r s =
      ((registered (Store.lookUp r.clusterName s).1).map (.afterLookUp name rc.dryRun r),
        { (Store.lookUp r.clusterName s).2 with logs }) := by
  obtain ⟨logs, looked⟩ := rc.isRegistered_apply name r.clusterName s
  refine ⟨logs, ?_⟩
  unfold lookUpStep
  rw [bind_apply, looked]
  cases registered (Store.lookUp r.clusterName s).1 <;> rfl

theorem lookUpStep_fst (rc : Reconciler) (name : String) (r : Request) (s : State) :
    (rc.lookUpStep name r s).1 =
      (registered (Store.lookUp r.clusterName s).1).map (.afterLookUp name rc.dryRun r) := by
  obtain ⟨logs, looked⟩ := rc.lookUpStep_apply name r s
  rw [looked]

theorem outside_lookUpStep (rc : Reconciler) (name : String) (r : Request) (s : State) :
    (rc.lookUpStep name r s).2.outside = (Store.lookUp r.clusterName s).2.outside := by
  obtain ⟨logs, looked⟩ := rc.lookUpStep_apply name r s
  rw [looked]
  rfl

theorem now_of_time (rc : Reconciler) {s t : State}
    (same : t.around.wallClock = s.around.wallClock) : (rc.now t).1 = (rc.now s).1 := by
  rw [now_apply, now_apply, same]

theorem now_of_around (rc : Reconciler) {s t : State} (around : t.around = s.around) :
    (rc.now t).1 = (rc.now s).1 :=
  rc.now_of_time (congrArg Surroundings.wallClock around)

/-- The time comes from the system clock, which shows universal time. -/
structure OnSystemTime (rc : Reconciler) (s : State) : Prop where
  wall : rc.clock = .wall
  universal : s.around.wallClock.offset = some .zero

/-- The system clock always gives a time, to the second. -/
theorem OnSystemTime.now {rc : Reconciler} {s : State} (onTime : rc.OnSystemTime s) :
    (rc.now s).1 = .ok s.around.wallClock.wholeSecond := by
  have shown := Timestamp.inUniversal?_of_universal onTime.universal
  rw [now_apply, time, onTime.wall]
  dsimp only
  rw [shown]

/-- A commit fails without a time; with one it asks for the approved body to be written. -/
theorem commitStep_cases (rc : Reconciler) (name : String) (r : Request) (s : State) :
    (∃ e, (rc.now s).1 = .error e ∧ (rc.commitStep name r s).1 = .error e ∧
      (rc.commitStep name r s).2.outside = s.outside) ∨
    ∃ now, (rc.now s).1 = .ok now ∧
      Asks (rc.commitStep name r) s (.replace r.name (r.approve now).body)
        (fun a => Store.submitResult r.name a >>= fun _ => .ok (.approved name r.clusterName)) := by
  have read := rc.now_apply s
  cases shown : rc.time s.around.wallClock with
  | error e =>
      rw [shown] at read
      have ends : rc.commitStep name r s = (.error e, s) := bind_error read
      exact .inl ⟨e, congrArg Prod.fst read, congrArg Prod.fst ends, by rw [ends]⟩
  | ok now =>
      rw [shown] at read
      refine .inr ⟨now, congrArg Prod.fst read,
        Asks.after_quiet (quiet_now rc) fun b u first => ?_⟩
      obtain rfl : now = b := Except.ok.inj (congrArg Prod.fst (read.symm.trans first))
      exact (Store.submit_asks (r.approve now) u).then_quiet (fun _ => Quiet.pure _)
        fun _ _ => rfl

end Reconciler

/-- How far a review has come. -/
inductive Progress where
  | called
  /-- The request has been read, and its cluster has to be looked up. -/
  | read (r : Request)
  /-- Nothing speaks against the request, and the approval has to be written. -/
  | cleared (r : Request)
  | ended (result : Except Raised Verdict)

def Progress.after (next : Request → Progress) : Except Raised Review → Progress
  | .error e => .ended (.error e)
  | .ok (.decided v) => .ended (.ok v)
  | .ok (.candidate r) => next r

namespace Reconciler

/-- The next step of a review. -/
def advance (rc : Reconciler) (name : String) (s : State) : Progress → Progress × State
  | .called => ((readStep name s).1 |> Progress.after .read, (readStep name s).2)
  | .read r =>
      ((rc.lookUpStep name r s).1 |> Progress.after .cleared, (rc.lookUpStep name r s).2)
  | .cleared r => (.ended (rc.commitStep name r s).1, (rc.commitStep name r s).2)
  | .ended result => (.ended result, s)

/-- What a step of a review can lead to: how far it comes, and what it leaves outside. -/
inductive Advances (rc : Reconciler) (name : String) (s : State) :
    Progress → Progress → Outside → Prop where
  | rests (result : Except Raised Verdict) :
      Advances rc name s (.ended result) (.ended result) s.outside
  /-- The review ends before the step has asked for anything. -/
  | ends (p : Progress) (result : Except Raised Verdict) :
      Advances rc name s p (.ended result) s.outside
  | refuses (result : Except Raised Verdict) :
      Advances rc name s .called (.ended result) (s.outside.ask (.read name))
  | reads {body : Json} {r : Request} (answer : (s.server.read name).1 = .ok body)
      (understood : Request.understood body = .ok r) (live : r.isDeleting = false)
      (labelled : r.clusterName ≠ "") :
      Advances rc name s .called (.read r) (s.outside.ask (.read name))
  | rejects (r : Request) (result : Except Raised Verdict) :
      Advances rc name s (.read r) (.ended result) (s.outside.ask (.lookUp r.clusterName))
  | clears {r : Request} {entry : Json} (answer : (s.server.lookUp r.clusterName).1 = .ok entry)
      (undecided : r.resolution? = none) (own : r.isFrom r.clusterName = true)
      (earnest : rc.dryRun = false) :
      Advances rc name s (.read r) (.cleared r) (s.outside.ask (.lookUp r.clusterName))
  | commits {r : Request} {now : Timestamp} (shown : (rc.now s).1 = .ok now) :
      Advances rc name s (.cleared r)
        (.ended (Store.submitResult r.name (s.server.replace r.name (r.approve now).body).1 >>=
          fun _ => .ok (.approved name r.clusterName)))
        (s.outside.ask (.replace r.name (r.approve now).body))

variable (rc : Reconciler) (name : String) (s : State)

theorem advances_called :
    rc.Advances name s .called (rc.advance name s .called).1
      (rc.advance name s .called).2.outside := by
  simp only [advance]
  cases readStep_asks name s with
  | unasked e failed same =>
      rw [failed, same]
      exact .ends _ _
  | asked given after =>
      rw [given, after]
      cases h : (s.server.respond (.read name)).1 with
      | error f =>
          simp only [Store.readResult]
          split <;> exact .refuses _
      | ok body =>
          cases understood : Request.understood body with
          | error f =>
              simp only [Store.readResult, Store.given, understood]
              exact .refuses _
          | ok r =>
              simp only [Store.readResult, Store.given, understood]
              change rc.Advances name s _ (Progress.after _ (.ok (.afterRead (some r)))) _
              cases decided : Review.afterRead (some r) with
              | decided v => exact .refuses _
              | candidate q =>
                  obtain ⟨same, live, labelled⟩ := Review.afterRead_eq_candidate.mp decided
                  obtain rfl := Option.some.inj same
                  exact .reads h understood live labelled

theorem advances_read (r : Request) :
    rc.Advances name s (.read r) (rc.advance name s (.read r)).1
      (rc.advance name s (.read r)).2.outside := by
  simp only [advance, lookUpStep_fst, outside_lookUpStep]
  cases Store.lookUp_asks r.clusterName s with
  | unasked e failed same =>
      rw [failed, same]
      cases fault : e.fault <;> simp only [registered, fault] <;> exact .ends _ _
  | asked given after =>
      rw [given, after]
      cases h : (s.server.respond (.lookUp r.clusterName)).1 with
      | error f =>
          cases known : Store.lookUpResult r.clusterName (.error f) with
          | error e =>
              cases fault : e.fault <;> simp only [registered, fault] <;> exact .rejects _ _
          | ok found =>
              have absent : found = none := by
                simp only [Store.lookUpResult, Store.failed] at known
                split at known <;> simp_all
              subst absent
              exact .rejects _ _
      | ok entry =>
          change rc.Advances name s _
            (Progress.after _ (.ok (.afterLookUp name rc.dryRun r true))) _
          cases decided : Review.afterLookUp name rc.dryRun r true with
          | decided v => exact .rejects _ _
          | candidate q =>
              obtain ⟨-, undecided, own, earnest, rfl⟩ :=
                Review.afterLookUp_eq_candidate.mp decided
              exact .clears h undecided own earnest

theorem advances_cleared (r : Request) :
    rc.Advances name s (.cleared r) (rc.advance name s (.cleared r)).1
      (rc.advance name s (.cleared r)).2.outside := by
  simp only [advance]
  rcases rc.commitStep_cases name r s with ⟨e, -, failed, same⟩ | ⟨now, shown, asks⟩
  · rw [failed, same]
    exact .ends _ _
  · cases asks with
    | unasked e failed same =>
        rw [failed, same]
        exact .ends _ _
    | asked given after =>
        rw [given, after]
        exact .commits shown

/-- Every step of a review leads to one of the things it can lead to. -/
theorem advances (p : Progress) :
    rc.Advances name s p (rc.advance name s p).1 (rc.advance name s p).2.outside := by
  cases p with
  | called => exact advances_called rc name s
  | read r => exact advances_read rc name s r
  | cleared r => exact advances_cleared rc name s r
  | ended result => exact .rests result

namespace Advances

variable {rc name s} {p q : Progress} {o : Outside}

theorem around (step : rc.Advances name s p q o) : o.around = s.around := by
  cases step <;> rfl

theorem of_read {r : Request} (step : rc.Advances name s p (.read r) o) :
    p = .called ∧ ∃ body, (s.server.read name).1 = .ok body ∧ Request.understood body = .ok r := by
  cases step with
  | reads answer understood _ _ => exact ⟨rfl, _, answer, understood⟩

theorem of_cleared {r : Request} (step : rc.Advances name s p (.cleared r) o) : p = .read r := by
  cases step with
  | clears => rfl

/-- Only the commit of a cleared request writes, and it writes the request with its approval. -/
theorem sends (step : rc.Advances name s p q o) :
    ∃ new, o.asked = s.outside.asked ++ new ∧ ∀ n sent, Call.replace n sent ∈ new →
      ∃ r now, p = .cleared r ∧ (rc.now s).1 = .ok now ∧ n = r.name ∧
        sent = (r.approve now).body := by
  cases step with
  | rests | ends => exact ⟨[], by simp, by simp⟩
  | refuses | reads => exact ⟨[.read name], rfl, by simp⟩
  | rejects r | @clears r => exact ⟨[.lookUp r.clusterName], rfl, by simp⟩
  | @commits r now shown =>
      refine ⟨[.replace r.name (r.approve now).body], rfl, ?_⟩
      intro n sent member
      obtain ⟨rfl, rfl⟩ := Call.replace.inj (List.mem_singleton.mp member)
      exact ⟨r, now, rfl, shown, rfl, rfl⟩

end Advances

/-- A review is three steps. -/
theorem review_eq_advance :
    ∃ p t q u, rc.advance name s .called = (p, t) ∧ rc.advance name t p = (q, u) ∧
      rc.advance name u q = (.ended (rc.review name s).1, (rc.review name s).2) := by
  refine ⟨_, _, _, _, rfl, rfl, ?_⟩
  unfold review
  simp only [advance, bind_apply]
  rcases readStep name s with ⟨e | ⟨v | r⟩, t⟩
  · rfl
  · rfl
  · simp only [Progress.after]
    cases looked : rc.lookUpStep name r t with
    | mk result u =>
        rcases result with e | ⟨v | q⟩ <;> simp [bind_apply, looked]

/-- All that a review writes is the request it has read, with an approval of its time. -/
theorem sent_by_review {body : Json} {r : Request} (answer : (s.server.read name).1 = .ok body)
    (understood : Request.understood body = .ok r) :
    ∃ new, (rc.review name s).2.outside.asked = s.outside.asked ++ new ∧
      ∀ n sent, Call.replace n sent ∈ new →
        ∃ now, (rc.now s).1 = .ok now ∧ n = r.name ∧ sent = (r.approve now).body := by
  obtain ⟨p, t, q, u, first, second, third⟩ := rc.review_eq_advance name s
  have reading := rc.advances name s .called
  have looking := rc.advances name t p
  have writing := rc.advances name u q
  rw [first] at reading
  rw [second] at looking
  rw [third] at writing
  obtain ⟨new, asked, sends⟩ := reading.sends
  obtain ⟨new', asked', sends'⟩ := looking.sends
  obtain ⟨new'', asked'', sends''⟩ := writing.sends
  refine ⟨new ++ new' ++ new'', ?_, ?_⟩
  · change (rc.review name s).2.outside.asked = _ at asked''
    rw [asked'', show u.outside.asked = _ from asked', show t.outside.asked = _ from asked]
    simp
  · intro n sent member
    simp only [List.mem_append] at member
    rcases member with (member | member) | member
    · obtain ⟨q, now, cleared, -⟩ := sends n sent member
      exact Progress.noConfusion cleared
    · obtain ⟨q, now, cleared, -⟩ := sends' n sent member
      rw [cleared] at reading
      exact Progress.noConfusion reading.of_cleared
    · obtain ⟨q, now, cleared, shown, sameName, sameBody⟩ := sends'' n sent member
      rw [cleared] at looking
      rw [looking.of_cleared] at reading
      obtain ⟨-, found, answer', understood'⟩ := reading.of_read
      obtain rfl : body = found := Except.ok.inj (answer.symm.trans answer')
      obtain rfl : r = q := Except.ok.inj (understood.symm.trans understood')
      have around : u.around = s.around := looking.around.trans reading.around
      exact ⟨now, (rc.now_of_around around).symm.trans shown, sameName, sameBody⟩

theorem outside_decide :
    (rc.decide name s).2.outside = (rc.review name s).2.outside := by
  unfold decide
  rw [Quiet.outside_bind]
  · exact Quiet.outside_bind _ (quiet_announce rc name) s
  · intro result
    cases result with
    | ok outcome => exact Quiet.pure _
    | error e => exact Quiet.bind (quiet_logFault rc name _) fun _ => Quiet.raise _

theorem outside_tracked {α : Type} (x : Act α) (s : State) :
    (tracked x s).2.outside = (x s).2.outside :=
  Quiet.outside_bind (attempt x)
    (fun _ => Quiet.bind (Quiet.measure _) fun _ => Quiet.give _) s

theorem outside_reconcile_started {t : State} {id : String}
    (started : rc.log.start (.str requestType) (.str name) none s = (.ok id, t)) :
    (rc.reconcile name s).2.outside = (rc.review name t).2.outside := by
  unfold reconcile
  rw [bind_ok started, Quiet.outside_bind, outside_tracked, outside_decide]
  exact fun _ => Quiet.bind (OperatorLog.quiet_success ..) fun _ => Quiet.pure _

/-- A reconciliation leaves outside what its review leaves there. -/
theorem outside_reconcile :
    ∃ t, t.outside = s.outside ∧
      (rc.reconcile name s).2.outside = (rc.review name t).2.outside := by
  have quiet := OperatorLog.quiet_start rc.log (.str requestType) (.str name) none
  exact ⟨_, quiet.outside s, outside_reconcile_started rc name s rfl⟩

end Reconciler

namespace Handler

open Reconciler

/-- The reconciler that handles the next event. -/
def used (s : State) : Reconciler := s.reconciler.getD (.onDemand s.settings)

theorem reconciler_apply (s : State) :
    reconciler s = (.ok (used s), { s with reconciler := some (used s) }) := by
  unfold reconciler used
  rw [bind_ok (see_apply ..)]
  cases h : s.reconciler with
  | none => rfl
  | some rc =>
      have same : { s with reconciler := some rc } = s := by rw [← h]
      exact congrArg (Prod.mk _) same.symm

/-- The fields of the note about a call to the handler are never reserved. -/
theorem handlerCall_apply (level : Level) (event type name : Json) (s : State) :
    ∃ logs, OperatorLog.handlerCall level event type name [] s = (.ok (), { s with logs }) := by
  unfold OperatorLog.handlerCall OperatorLog.checked
  split
  · exact ⟨_, rfl⟩
  · exact ⟨s.logs, rfl⟩

/-- Handling an event leaves outside what the review leaves there. -/
theorem outside_handle (name : String) (reason : Option String) (s : State) :
    ∃ t, t.outside = s.outside ∧
      (handle name reason s).2.outside = ((used s).review name t).2.outside := by
  let opened : State := { s with span := some (.ofHandler spanName "INTERNAL" id name) }
  obtain ⟨logs, noted⟩ := handlerCall_apply OperatorLog.handlerLevel (.str (reason.getD "event"))
    (.str requestType) (.str name) opened
  let ready : State := { opened with logs, reconciler := some (used s) }
  obtain ⟨t, same, reviewed⟩ := outside_reconcile (used s) name ready
  refine ⟨t, same, Eq.trans ?_ reviewed⟩
  unfold handle traced
  rw [bind_ok (change_apply ..), Quiet.outside_bind]
  · rw [attempt_apply, bind_ok noted, reconcile, Quiet.outside_bind, attempt_apply,
      bind_ok (reconciler_apply _)]
    · rfl
    · intro result
      cases result with
      | ok outcome => exact Quiet.pure _
      | error e => exact Quiet.raise _
  · exact fun _ => Quiet.bind (Quiet.change fun _ => rfl) fun _ => Quiet.give _

end Handler

/-- A reconciler with a client and a clock that stands still. -/
def Reconciler.steady : Reconciler := ⟨Reconciler.standardLogger, false, .fixed .epoch, true⟩

/-- A state in which nothing fails but what the server has in store. -/
def State.steady (server : Server) : State :=
  { State.initial .standard (.calm .epoch) server with reconciler := some .steady }

end BootstrapApproval
