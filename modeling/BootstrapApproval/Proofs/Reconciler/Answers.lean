import BootstrapApproval.Proofs.Reconciler.Conclusions

/-! # What the server has answered

A read or a write has failed when it is answered with a fault, or with a body that stands for no
request. What a review makes of a failed call is settled by the fault and by the call.
-/

namespace BootstrapApproval

namespace Server

/-- What a server is asked in turn, with its answers. -/
def answers (s : Server) : List Call → List (Call × Except Fault Json)
  | [] => []
  | c :: rest => (c, (s.respond c).1) :: answers (s.respond c).2 rest

end Server

namespace Outside

/-- The outside after the server has been asked one thing after the other. -/
def askAll (o : Outside) (calls : List Call) : Outside := calls.foldl ask o

theorem asked_askAll (o : Outside) (calls : List Call) :
    (o.askAll calls).asked = o.asked ++ calls := by
  induction calls generalizing o with
  | nil => exact (List.append_nil _).symm
  | cons c rest ih =>
      change ((o.ask c).askAll rest).asked = _
      rw [ih]
      exact List.append_assoc ..

theorem calls_of_asked {o : Outside} (calls : List Call) {calls' : List Call}
    (asked : (o.askAll calls).asked = o.asked ++ calls') : calls' = calls := by
  rw [asked_askAll] at asked
  exact (List.append_cancel_left asked).symm

end Outside

/-- Whether a call reads or writes a request. -/
def Call.onRequest : Call → Bool
  | .read _ | .replace _ _ => true
  | _ => false

/-- What is wrong with an answer that should hold a request. -/
def trouble? : Except Fault Json → Option Fault
  | .error f => some f
  | .ok body =>
      match Request.understood body with
      | .error f => some f
      | .ok _ => none

section Troubles

variable {answer : Except Fault Json} {body : Json} {f : Fault}

theorem trouble?_eq_some :
    trouble? answer = some f ↔
      answer = .error f ∨ ∃ body, answer = .ok body ∧ Request.understood body = .error f := by
  cases answer with
  | error g => simp [trouble?]
  | ok body => cases understood : Request.understood body <;> simp [trouble?, understood]

theorem trouble?_of_understood {r : Request} (understood : Request.understood body = .ok r) :
    trouble? (.ok body) = none := by
  simp [trouble?, understood]

/-- A body that stands for no request is no refusal and no missing answer. -/
theorem plain_of_misunderstood (misunderstood : Request.understood body = .error f) :
    f.isNotFound = false ∧ ∀ resource name, f.operatorError? resource name = none := by
  unfold Request.understood at misunderstood
  cases object : Body.object body with
  | error m =>
      rw [object] at misunderstood
      obtain rfl : m.fault = f := Except.error.inj misunderstood
      cases m <;> exact ⟨rfl, fun _ _ => rfl⟩
  | ok o =>
      rw [object] at misunderstood
      dsimp only at misunderstood
      cases checked : Request.ofBody o with
      | ok r =>
          rw [checked] at misunderstood
          cases misunderstood
      | bad ps =>
          rw [checked] at misunderstood
          obtain rfl := Except.error.inj misunderstood
          exact ⟨rfl, fun _ _ => rfl⟩

theorem Raised.diagnosed_of_none {resource name : String}
    (none : f.operatorError? resource name = .none) : (of f).diagnosed resource name = of f := by
  unfold diagnosed
  rw [show (of f).fault.operatorError? resource name = .none from none]

theorem given_of_misunderstood (misunderstood : Request.understood body = .error f)
    (resource name : String) :
    Store.given body = .error ((Raised.of f).diagnosed resource name) := by
  have plain := (plain_of_misunderstood misunderstood).2 resource name
  rw [Store.given, misunderstood, Raised.diagnosed_of_none plain]
  rfl

theorem readResult_of_trouble (trouble : trouble? answer = some f) (name : String) :
    Store.readResult name answer =
      if f.isNotFound then .ok none else
        .error ((Raised.of f).diagnosed Coordinates.requests.plural name) := by
  rcases trouble?_eq_some.mp trouble with rfl | ⟨body, rfl, misunderstood⟩
  · rfl
  · rw [Store.readResult, given_of_misunderstood misunderstood Coordinates.requests.plural name,
      (plain_of_misunderstood misunderstood).1]
    rfl

theorem submitResult_of_trouble (trouble : trouble? answer = some f) (name : String) :
    Store.submitResult name answer =
      .error ((Raised.of f).diagnosed Coordinates.requests.plural name) := by
  rcases trouble?_eq_some.mp trouble with rfl | ⟨body, rfl, misunderstood⟩
  · rfl
  · exact given_of_misunderstood misunderstood _ name

end Troubles

namespace Reconciler

/-- What a review makes of a failed call. -/
inductive Makes (f : Fault) : Call → Except Raised Verdict → Prop where
  | nothing {name : String} (absent : f.isNotFound = true) :
      Makes f (.read name) (.ok .notFound)
  | unread {name : String} (other : f.isNotFound = false) :
      Makes f (.read name) (.error ((Raised.of f).diagnosed Coordinates.requests.plural name))
  | unwritten (name : String) (body : Json) :
      Makes f (.replace name body)
        (.error ((Raised.of f).diagnosed Coordinates.requests.plural name))

variable {rc : Reconciler} {name : String} {s : State} {result : Except Raised Verdict}
  {o : Outside} {calls : List Call} {c : Call} {answer : Except Fault Json} {f : Fault}

/-- What a review asks beyond the read, with the answers. -/
theorem Considers.answers {body : Json} {r : Request} (considers : Considers name s body r)
    (calls : List Call) :
    s.server.answers (.read name :: .lookUp r.clusterName :: calls) =
      (.read name, .ok body) :: (.lookUp r.clusterName, (s.server.lookUp r.clusterName).1) ::
        (s.server.lookUp r.clusterName).2.answers calls := by
  have unchanged := Server.read_snd_of_ok considers.answer
  simp only [Server.answers, Server.respond, considers.answer, unchanged]

/-- The read leaves the server to the look-up as it was. -/
theorem Considers.server_looked {body : Json} {r : Request} (considers : Considers name s body r) :
    (s.outside.askAll [.read name, .lookUp r.clusterName]).server =
      (s.server.lookUp r.clusterName).2 := by
  have unchanged := Server.read_snd_of_ok considers.answer
  change ((s.server.read name).2.lookUp r.clusterName).2 = _
  rw [unchanged]

theorem Considers.server_written {body : Json} {r : Request} (considers : Considers name s body r)
    (sent : Json) :
    (s.outside.askAll [.read name, .lookUp r.clusterName, .replace r.name sent]).server =
      ((s.server.lookUp r.clusterName).2.replace r.name sent).2 :=
  congrArg (fun t : Server => (t.replace r.name sent).2) considers.server_looked

/-- What the server has been asked before a commit, and what that has changed: at most the edit of
another writer that was due with the look-up. -/
structure Spares (s : State) (calls : List Call) (o : Outside) : Prop where
  asked : o.asked = s.outside.asked ++ calls
  unwritten : calls.any Call.isReplace = false
  clusters : o.server.clusters = s.server.clusters
  requests : o.server.requests =
    (if calls.any Call.isLookUp then s.server.race else s.server).requests

theorem Considers.spares {body : Json} {r : Request} (considers : Considers name s body r) :
    Spares s [.read name, .lookUp r.clusterName]
      (s.outside.askAll [.read name, .lookUp r.clusterName]) where
  asked := s.outside.asked_askAll _
  unwritten := rfl
  clusters := by rw [considers.server_looked, Server.clusters_lookUp]
  requests := by
    rw [considers.server_looked, Server.requests_lookUp]
    rfl

/-- A review comes to a commit, or it spares the server. -/
theorem Concludes.spares_or_commits (concludes : rc.Concludes name s result o) :
    (∃ calls, Spares s calls o) ∨
      ∃ body r now, Considers name s body r ∧ rc.Clears s r ∧ (rc.now s).1 = .ok now ∧
        r.isWritable = true ∧
        o = s.outside.askAll
          [.read name, .lookUp r.clusterName, .replace r.name (r.approve now).body] ∧
        result = (Store.submitResult r.name
          ((s.server.lookUp r.clusterName).2.replace r.name (r.approve now).body).1 >>= fun _ =>
            .ok (.approved name r.clusterName)) := by
  cases concludes with
  | powerless => exact .inl ⟨[], s.outside.asked_askAll [], rfl, rfl, rfl⟩
  | unread | dismisses =>
      exact .inl ⟨[.read name], rfl, rfl, s.server.clusters_read name, s.server.requests_read name⟩
  | unknown considers | judges considers | timeless considers | unwritable considers =>
      exact .inl ⟨_, considers.spares⟩
  | @commits body r now considers clears shown writable =>
      exact .inr ⟨body, r, now, considers, clears, shown, writable, rfl, rfl⟩

/-- A review in which a read or a write has failed ends with what it makes of that. -/
theorem Concludes.makes (concludes : rc.Concludes name s result o)
    (asked : o.asked = s.outside.asked ++ calls) (met : (c, answer) ∈ s.server.answers calls)
    (onRequest : c.onRequest = true) (trouble : trouble? answer = some f) : Makes f c result := by
  -- beyond the read, only the write is left that can fail
  have beyond {body : Json} {r : Request} {rest : List Call}
      (considers : Considers name s body r)
      (here : calls = .read name :: .lookUp r.clusterName :: rest) :
      (c, answer) ∈ (s.server.lookUp r.clusterName).2.answers rest := by
    rw [here, considers.answers, List.mem_cons, List.mem_cons] at met
    rcases met with read | lookUp | later
    · obtain ⟨rfl, rfl⟩ := Prod.mk.inj read
      rw [trouble?_of_understood considers.understood] at trouble
      cases trouble
    · obtain ⟨rfl, -⟩ := Prod.mk.inj lookUp
      cases onRequest
    · exact later
  have looked {body : Json} {r : Request} (considers : Considers name s body r)
      (here : o = s.outside.askAll [.read name, .lookUp r.clusterName]) : Makes f c result := by
    rw [here] at asked
    exact nomatch beyond considers (Outside.calls_of_asked _ asked)
  cases concludes with
  | powerless =>
      obtain rfl := Outside.calls_of_asked [] asked
      cases met
  | unread ensured refused =>
      obtain rfl := Outside.calls_of_asked [.read name] asked
      obtain ⟨rfl, rfl⟩ := Prod.mk.inj (List.mem_singleton.mp met)
      have read := readResult_of_trouble trouble name
      change Store.readResult name (s.server.read name).1 = _ at read
      rw [refused] at read
      cases absent : f.isNotFound with
      | true => simp [absent] at read
      | false =>
          simp only [absent, Bool.false_eq_true, if_false, Except.error.injEq] at read
          rw [read]
          exact .unread absent
  | dismisses ensured read decided =>
      obtain rfl := Outside.calls_of_asked [.read name] asked
      obtain ⟨rfl, rfl⟩ := Prod.mk.inj (List.mem_singleton.mp met)
      have found := readResult_of_trouble trouble name
      change Store.readResult name (s.server.read name).1 = _ at found
      rw [read] at found
      cases absent : f.isNotFound with
      | true =>
          simp only [absent, if_true, Except.ok.injEq] at found
          subst found
          obtain rfl := Review.decided.inj decided
          exact .nothing absent
      | false => simp [absent] at found
  | unknown considers => exact looked considers rfl
  | judges considers => exact looked considers rfl
  | timeless considers => exact looked considers rfl
  | unwritable considers => exact looked considers rfl
  | @commits body r now considers clears shown writable =>
      have here := Outside.calls_of_asked
        [.read name, .lookUp r.clusterName, .replace r.name (r.approve now).body] asked
      have last := beyond considers here
      obtain ⟨rfl, rfl⟩ := Prod.mk.inj (List.mem_singleton.mp last)
      change trouble? (Server.replace _ r.name (r.approve now).body).1 = some f at trouble
      rw [submitResult_of_trouble trouble]
      exact .unwritten r.name _

end Reconciler

end BootstrapApproval
