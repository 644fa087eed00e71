import BootstrapApproval.Proofs.Handler.Replies

/-! # Calls without an answer

That a call got no answer is reported in three ways: as a failure of the transport, as a refusal
without a status, and as a refusal with the status zero. The first two are tried again. Zero counts
as a status, and no refusal with such a status passes.
-/

namespace BootstrapApproval

namespace Fault

/-- The fault reports that a call got no answer, and gives no reason that is final. -/
inductive Unanswered : Fault → Prop where
  | transport (kind : TransportKind) (text : String) : Unanswered (.transport kind text)
  | response {r : Response} (silent : r.status = none ∨ r.status = some 0)
      (passing : r.reason ∉ [some "Forbidden", some "Unauthorized", some "Invalid"]) :
      Unanswered (.response r)

/-- Whether the fault reports a missing answer as the status zero. -/
def isZero : Fault → Bool
  | .response r => r.status == some 0
  | _ => false

variable {f : Fault}

theorem Unanswered.isNotFound (unanswered : f.Unanswered) : f.isNotFound = false := by
  cases unanswered with
  | transport kind text => rfl
  | @response r silent passing => rcases silent with missing | zero <;> simp [Fault.isNotFound, *]

/-- What a refusal without an answer stands for is retryable, unless its status is zero. -/
theorem retryable_of_silent {r : Response} (silent : r.status = none ∨ r.status = some 0)
    (passing : r.reason ∉ [some "Forbidden", some "Unauthorized", some "Invalid"])
    (resource name : String) :
    (r.operatorError resource name).retryable = !(response r).isZero ∧
      (r.operatorError resource name).delay = 10 := by
  have unlisted := mt (Response.finalReason_iff r.reason).mp passing
  simp only [Bool.not_eq_true] at unlisted
  have other : r.status ≠ some 409 := by rcases silent with missing | zero <;> simp [*]
  unfold Response.operatorError
  rw [if_neg other]
  refine ⟨?_, rfl⟩
  simp only [OperatorError.kubernetes, unlisted, Bool.not_false, Bool.and_true, Response.isPassing,
    isZero]
  rcases silent with missing | zero
  · rw [missing]
    rfl
  · rw [zero]
    rfl

/-- A missing answer becomes an operator error, which is retryable unless the status is zero. -/
theorem Unanswered.diagnosed (unanswered : f.Unanswered) (resource name : String) :
    ∃ e, (Raised.of f).diagnosed resource name = ⟨.operator e, [f]⟩ ∧ e.retryable = !f.isZero ∧
      e.delay = 10 := by
  cases unanswered with
  | transport kind text => exact ⟨_, rfl, rfl, rfl⟩
  | @response r silent passing =>
      exact ⟨r.operatorError resource name, rfl, retryable_of_silent silent passing resource name⟩

end Fault

namespace Store

variable {s : State} {f : Fault}

theorem read_unanswered (unanswered : f.Unanswered) (ensured : (Client.ensure s).1 = .ok ())
    {name : String} (refused : (s.server.read name).1 = .error f) :
    ∃ e, (read name s).1 = .error ⟨.operator e, [f]⟩ ∧ e.retryable = !f.isZero := by
  obtain ⟨e, diagnosed, retryable, -⟩ :=
    unanswered.diagnosed Coordinates.requests.plural name
  refine ⟨e, ?_, retryable⟩
  obtain ⟨t, ensured, outside⟩ := Client.ensure_apply ensured
  have server : t.server = s.server := congrArg Outside.server outside
  rw [read_apply ensured, server, refused]
  simp only [readResult, unanswered.isNotFound, failed, diagnosed, Bool.false_eq_true, if_false]

theorem submit_unanswered (unanswered : f.Unanswered) (ensured : (Client.ensure s).1 = .ok ())
    {r : Request} (writable : r.isWritable = true)
    (refused : (s.server.replace r.name r.body).1 = .error f) :
    ∃ e, (submit r s).1 = .error ⟨.operator e, [f]⟩ ∧ e.retryable = !f.isZero := by
  obtain ⟨e, diagnosed, retryable, -⟩ :=
    unanswered.diagnosed Coordinates.requests.plural r.name
  refine ⟨e, ?_, retryable⟩
  obtain ⟨t, ensured, outside⟩ := Client.ensure_apply ensured
  have server : t.server = s.server := congrArg Outside.server outside
  rw [submit_apply ensured writable, server, refused]
  simp only [submitResult, failed, diagnosed]

end Store

namespace Handler

open Reconciler

/-- The advice to the caller of the handler when a read or a write got no answer. -/
theorem handle_unanswered {f : Fault} (unanswered : f.Unanswered) {name : String}
    {reason : Option String} {s : State} {calls : List Call} {c : Call}
    (asked : (handle name reason s).2.outside.asked = s.outside.asked ++ calls)
    (met : (c, .error f) ∈ s.server.answers calls) (onRequest : c.onRequest = true) :
    ∃ e, (handle name reason s).1 =
      .error ⟨if f.isZero then .giveUp e.message else .retryLater e.message 10,
        [.operator e, f]⟩ := by
  obtain ⟨result, handles⟩ := handles name reason s
  have makes := handles.reviewed.concludes.makes asked met onRequest
    (trouble?_eq_some.mpr (.inl rfl))
  have raised : ∃ resource n, result = .error ((Raised.of f).diagnosed resource n) := by
    cases makes with
    | nothing absent => cases absent.symm.trans unanswered.isNotFound
    | unread other => exact ⟨_, _, rfl⟩
    | unwritten n body => exact ⟨_, _, rfl⟩
  obtain ⟨resource, n, rfl⟩ := raised
  obtain ⟨e, diagnosed, retryable, delay⟩ := unanswered.diagnosed resource n
  refine ⟨e, ?_⟩
  rw [handles.given, diagnosed]
  change Except.error (⟨e.advice, [.operator e, f]⟩ : Raised) = _
  unfold OperatorError.advice
  rw [retryable, delay]
  cases f.isZero <;> rfl

/-- A missing answer to a read or a write is an operator error, in the store and for the caller of
the handler. It is retryable and leads to another attempt exactly when it is not reported as the
status zero. -/
theorem unanswered_retried_unless_zero (f : Fault) (unanswered : f.Unanswered) :
    (∀ name s, (Client.ensure s).1 = .ok () → (s.server.read name).1 = .error f →
      ∃ e, (Store.read name s).1 = .error ⟨.operator e, [f]⟩ ∧ e.retryable = !f.isZero) ∧
    (∀ (r : Request) s, (Client.ensure s).1 = .ok () → r.isWritable = true →
      (s.server.replace r.name r.body).1 = .error f →
      ∃ e, (Store.submit r s).1 = .error ⟨.operator e, [f]⟩ ∧ e.retryable = !f.isZero) ∧
    ∀ name reason s calls c,
      (handle name reason s).2.outside.asked = s.outside.asked ++ calls →
      (c, .error f) ∈ s.server.answers calls → c.onRequest = true →
      ∃ e, (handle name reason s).1 =
        .error ⟨if f.isZero then .giveUp e.message else .retryLater e.message 10,
          [.operator e, f]⟩ := by
  refine ⟨?_, ?_, ?_⟩
  · intro name s ensured refused
    exact Store.read_unanswered unanswered ensured refused
  · intro r s ensured writable refused
    exact Store.submit_unanswered unanswered ensured writable refused
  · intro name reason s calls c asked met onRequest
    exact handle_unanswered unanswered asked met onRequest

/-- A state in which the read fails and the write fails. -/
def silenced (f : Fault) : State :=
  State.steady { Server.holding (willing [] [] []) with readFaults := [f], replaceFaults := [f] }

/-- A read that nobody answers in time. -/
def late : Fault := .transport .readTimeout "Read timed out."

theorem unanswered_retried_unless_zero_late :
    (∃ e, (Store.read "a" (silenced late)).1 = .error ⟨.operator e, [late]⟩ ∧
      e.retryable = true) ∧
    (∃ r e, (Store.submit r (silenced late)).1 = .error ⟨.operator e, [late]⟩ ∧
      e.retryable = true) ∧
    ∃ e, (handle "a" none (silenced late)).1 =
      .error ⟨.retryLater e.message 10, [.operator e, late]⟩ := by
  obtain ⟨reads, submits, replies⟩ :=
    unanswered_retried_unless_zero late (.transport .readTimeout "Read timed out.")
  obtain ⟨r, -, writable⟩ : ∃ r, Request.ofBody (.obj (willing [] [] [])) = .ok r ∧
      r.isWritable = true := ⟨_, rfl, rfl⟩
  exact ⟨reads "a" (silenced late) rfl rfl, ⟨r, submits r (silenced late) rfl writable rfl⟩,
    replies "a" none (silenced late) [.read "a"] (.read "a") (by decide +kernel)
      (List.mem_singleton_self _) rfl⟩

/-- A read whose connection could not be made secure. -/
def insecure : Fault :=
  .response ⟨some 0, some "SSLError\n[SSL: CERTIFICATE_VERIFY_FAILED] certificate verify failed"⟩

/-- The caller is told to give up on a request, though nobody has answered about it. -/
theorem unanswered_given_up :
    insecure.Unanswered ∧
    (∃ e, (Store.read "a" (silenced insecure)).1 = .error ⟨.operator e, [insecure]⟩ ∧
      e.retryable = false) ∧
    ∃ text causes, (handle "a" none (silenced insecure)).1 = .error ⟨.giveUp text, causes⟩ := by
  have unanswered : insecure.Unanswered := .response (.inr rfl) (by decide)
  refine ⟨unanswered, Store.read_unanswered unanswered rfl rfl, ?_⟩
  have asked : (handle "a" none (silenced insecure)).2.outside.asked =
      (silenced insecure).outside.asked ++ [.read "a"] := by decide +kernel
  have met : (Call.read "a", .error insecure) ∈ (silenced insecure).server.answers [.read "a"] :=
    List.mem_singleton_self _
  obtain ⟨e, told⟩ := handle_unanswered unanswered asked met rfl
  exact ⟨_, _, told⟩

end Handler

end BootstrapApproval
