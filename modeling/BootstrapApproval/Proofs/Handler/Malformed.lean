import BootstrapApproval.Proofs.Handler.Replies
import BootstrapApproval.Proofs.Reconciler.Course

/-! # Malformed bodies

The filter for events takes a body that is malformed for one that is not eligible. A reconciliation
that reads such a body asks no further and changes nothing, but it fails, and it asks for another
attempt.
-/

namespace BootstrapApproval

variable {t : Table Json} {ps : List Problem}

/-- No event with a malformed body is accepted. -/
theorem acceptsEvent_of_bad (bad : Request.ofBody (.obj t) = .bad ps) :
    acceptsEvent (.obj t) = false := by
  simp only [acceptsEvent, Request.understood_of_bad bad]

namespace Reconciler

variable {name : String} {s : State}

/-- The course of a review that reads a malformed body ends with the read. -/
theorem course_of_bad (rc : Reconciler) (bad : Request.ofBody (.obj t) = .bad ps)
    (ensured : (Client.ensure s).1 = .ok ()) (answer : (s.server.read name).1 = .ok (.obj t)) :
    rc.course name (rc.grounds name s) = .ends [.read name] (.error (.of (.malformed ps))) := by
  have power : (rc.grounds name s).power = .ok () := ensured
  have found : (rc.grounds name s).found = .error (.of (.malformed ps)) := by
    change Store.readResult name (s.server.read name).1 = _
    rw [answer]
    simp only [Store.readResult, Store.given, Request.understood_of_bad bad]
    rfl
  simp only [course, power, found]

theorem reconcile_of_bad (rc : Reconciler) (bad : Request.ofBody (.obj t) = .bad ps)
    (ensured : (Client.ensure s).1 = .ok ()) (answer : (s.server.read name).1 = .ok (.obj t)) :
    (rc.reconcile name s).1 =
        .error ⟨.operator (unexpected (.malformed ps)), [.malformed ps]⟩ ∧
      (rc.reconcile name s).2.outside = s.outside.ask (.read name) := by
  obtain ⟨result, follows, given⟩ := rc.reconcile_follows name s
  rw [rc.course_of_bad bad ensured answer] at follows
  generalize (rc.reconcile name s).2.outside = outside at follows
  cases follows
  exact ⟨given, rfl⟩

end Reconciler

namespace Handler

open Reconciler

/-- The advice to the caller of the handler when a malformed body has been read. -/
theorem handle_of_bad (bad : Request.ofBody (.obj t) = .bad ps) {name n : String}
    {reason : Option String} {s : State} {calls : List Call}
    (asked : (handle name reason s).2.outside.asked = s.outside.asked ++ calls)
    (met : (Call.read n, .ok (.obj t)) ∈ s.server.answers calls) :
    (handle name reason s).1 =
      .error ⟨.retryLater (unexpected (.malformed ps)).message 10,
        [.operator (unexpected (.malformed ps)), .malformed ps]⟩ := by
  have trouble : trouble? (.ok (.obj t)) = some (.malformed ps) :=
    trouble?_eq_some.mpr (.inr ⟨_, rfl, Request.understood_of_bad bad⟩)
  obtain ⟨result, handles⟩ := handles name reason s
  have makes := handles.reviewed.concludes.makes asked met rfl trouble
  rw [handles.given]
  cases makes with
  | nothing absent => cases absent
  | unread other => rfl

end Handler

open Reconciler Handler

/-- A malformed body is not accepted with an event. Where it is read from the server, the review
ends there and the server is left as it was, but the reconciliation raises an error that is worth
another attempt, and the caller of the handler is told to try again. -/
theorem malformed_refused_but_raised (t : Table Json) (ps : List Problem)
    (bad : Request.ofBody (.obj t) = .bad ps) :
    acceptsEvent (.obj t) = false ∧
    (∀ (rc : Reconciler) (name : String) (s : State), (Client.ensure s).1 = .ok () →
      (s.server.read name).1 = .ok (.obj t) →
      (rc.reconcile name s).1 =
          .error ⟨.operator (unexpected (.malformed ps)), [.malformed ps]⟩ ∧
        (rc.reconcile name s).2.outside.asked = s.outside.asked ++ [.read name] ∧
        (rc.reconcile name s).2.server = s.server) ∧
    ∀ (name : String) (reason : Option String) (s : State) (calls : List Call) (n : String),
      (handle name reason s).2.outside.asked = s.outside.asked ++ calls →
      (Call.read n, .ok (.obj t)) ∈ s.server.answers calls →
      (handle name reason s).1 =
        .error ⟨.retryLater (unexpected (.malformed ps)).message 10,
          [.operator (unexpected (.malformed ps)), .malformed ps]⟩ := by
  refine ⟨acceptsEvent_of_bad bad, ?_, ?_⟩
  · intro rc name s ensured answer
    obtain ⟨raised, outside⟩ := rc.reconcile_of_bad bad ensured answer
    have server : (rc.reconcile name s).2.server = (s.server.read name).2 :=
      congrArg Outside.server outside
    rw [Server.read_snd_of_ok answer] at server
    have asked : (rc.reconcile name s).2.outside.asked = s.outside.asked ++ [.read name] :=
      congrArg Outside.asked outside
    exact ⟨raised, asked, server⟩
  · intro name reason s calls n asked met
    exact handle_of_bad bad asked met

/-- The members of a request whose user is no text. -/
def numbered : Table Json :=
  [("metadata", .obj [("name", .str "a")]), ("spec", .obj [("username", .int 42)])]

theorem malformed_refused_but_raised_numbered :
    acceptsEvent (.obj numbered) = false ∧
    ∃ ps, (Reconciler.steady.reconcile "a" (.steady (.holding numbered))).1 =
        .error ⟨.operator (unexpected (.malformed ps)), [.malformed ps]⟩ ∧
      (handle "a" none (.steady (.holding numbered))).1 =
        .error ⟨.retryLater (unexpected (.malformed ps)).message 10,
          [.operator (unexpected (.malformed ps)), .malformed ps]⟩ := by
  obtain ⟨ps, bad⟩ : ∃ ps, Request.ofBody (.obj numbered) = .bad ps := ⟨_, rfl⟩
  obtain ⟨refused, reconciles, handles⟩ := malformed_refused_but_raised numbered ps bad
  have asked : (handle "a" none (.steady (.holding numbered))).2.outside.asked =
      (State.steady (.holding numbered)).outside.asked ++ [.read "a"] := by decide +kernel
  exact ⟨refused, ps, (reconciles .steady "a" _ rfl rfl).1,
    handles "a" none _ [.read "a"] "a" asked (List.mem_singleton_self _)⟩

/-- Reading a malformed body fails the reconciliation. -/
theorem malformed_raised :
    ∃ ps e, Request.ofBody (.obj numbered) = .bad ps ∧
      (Reconciler.steady.reconcile "a" (.steady (.holding numbered))).1 =
        .error ⟨.operator e, [.malformed ps]⟩ ∧ e.retryable = true := by
  obtain ⟨ps, bad⟩ : ∃ ps, Request.ofBody (.obj numbered) = .bad ps := ⟨_, rfl⟩
  exact ⟨ps, _, bad, (Reconciler.steady.reconcile_of_bad bad rfl rfl).1, rfl⟩

end BootstrapApproval
