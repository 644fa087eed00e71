import BootstrapApproval.Proofs.Handler.Reports
import BootstrapApproval.Proofs.Reconciler.Answers
import BootstrapApproval.Proofs.Request.Decisions

/-! # Replies to failed calls

When a read or a write fails, the caller of the handler learns only whether to try again, and after
how many seconds. That follows from the fault and from the call; what caused it is passed on.
-/

namespace BootstrapApproval

/-- What the caller of the handler is told. -/
inductive Reply where
  | done
  | again (delay : Int)
  | never
  /-- The fault itself goes through. -/
  | passed
  deriving DecidableEq, Repr

/-- A conflict is tried again at once; a refusal that is not final, when the server had no status to
give, failed or was too busy. -/
def Response.reply (r : Response) : Reply :=
  if r.status = some 409 then .again 1
  else if r.reason ∈ [some "Forbidden", some "Unauthorized", some "Invalid"] then .never
  else
    match r.status with
    | none => .again 10
    | some n => if 500 ≤ n ∨ n = 429 then .again 10 else .never

/-- The reply to a fault in a call. -/
def Fault.reply (c : Call) : Fault → Reply
  | .response r =>
      match c with
      | .read _ => if r.status = some 404 then .done else r.reply
      | _ => r.reply
  | .transport _ _ => .again 10
  | .operator e => if e.retryable then .again e.delay else .never
  | .interrupt _ => .passed
  | _ => .again 10

namespace OperatorError

/-- What the text of an error says about what to do. -/
def actionText (e : OperatorError) : String :=
  match e.userAction with
  | some action => if action = "" then "" else "\nAction required: " ++ action
  | none => ""

theorem message_eq (e : OperatorError) : e.message = e.base ++ e.actionText := by
  unfold message actionText
  cases e.userAction with
  | none => rw [String.append_empty]
  | some action =>
      dsimp only
      split
      · rw [String.append_empty]
      · rw [String.append_assoc]

/-- The causes of what is raised in the end: the operator error, and the fault that it stands for
when that is another one. -/
inductive StandsFor (e : OperatorError) (f : Fault) : List Fault → Prop where
  | itself (same : f = .operator e) : StandsFor e f [f]
  | other (different : ∀ e', f ≠ .operator e') : StandsFor e f [.operator e, f]

end OperatorError

open OperatorError (StandsFor)

/-- What the handler gives or raises as a reply. Advice is the text of the operator error, and what
the error says about what to do stands in it once. -/
inductive Replied (f : Fault) : Reply → Except Raised Unit → Prop where
  | done : Replied f .done (.ok ())
  | again {e : OperatorError} {delay : Int} {causes : List Fault} (stands : StandsFor e f causes) :
      Replied f (.again delay) (.error ⟨.retryLater (e.base ++ e.actionText) delay, causes⟩)
  | never {e : OperatorError} {causes : List Fault} (stands : StandsFor e f causes) :
      Replied f .never (.error ⟨.giveUp (e.base ++ e.actionText), causes⟩)
  | passed : Replied f .passed (.error ⟨f, []⟩)

theorem OperatorError.advice_eq (e : OperatorError) :
    e.advice = if e.retryable then .retryLater (e.base ++ e.actionText) e.delay
      else .giveUp (e.base ++ e.actionText) := by
  rw [advice, message_eq]

/-- Advice is a reply as the error asks for it. -/
theorem Replied.of_advice {e : OperatorError} {f : Fault} {causes : List Fault}
    (stands : StandsFor e f causes) :
    Replied f (if e.retryable then .again e.delay else .never) (.error ⟨e.advice, causes⟩) := by
  rw [e.advice_eq]
  cases e.retryable with
  | true => exact .again stands
  | false => exact .never stands

theorem Response.finalReason_iff (reason : Option String) :
    reason.any OperatorError.finalReasons.contains = true ↔
      reason ∈ [some "Forbidden", some "Unauthorized", some "Invalid"] := by
  cases reason with
  | none => simp
  | some reason => simp [OperatorError.finalReasons]

/-- An operator error made from a refusal asks for the reply to it. -/
theorem Response.reply_eq (r : Response) (resource name : String) :
    r.reply = if (r.operatorError resource name).retryable
      then .again (r.operatorError resource name).delay else .never := by
  unfold reply operatorError
  by_cases conflict : r.status = some 409
  · rw [if_pos conflict, if_pos conflict]
    rfl
  · rw [if_neg conflict, if_neg conflict]
    by_cases final : r.reason ∈ [some "Forbidden", some "Unauthorized", some "Invalid"]
    · have listed := (finalReason_iff r.reason).mpr final
      rw [if_pos final]
      simp [OperatorError.kubernetes, listed]
    · have unlisted := mt (finalReason_iff r.reason).mp final
      rw [if_neg final]
      simp only [Bool.not_eq_true] at unlisted
      simp only [OperatorError.kubernetes, unlisted, Bool.not_false, Bool.and_true, isPassing,
        retryDelay]
      cases r.status with
      | none => rfl
      | some n => simp

namespace Handler

open Reconciler

/-- The caller of the handler gets a reply to a fault of which the reconciliation has made an
operator error. -/
theorem replied_of_diagnosed {f : Fault} (c : Call) (resource name : String)
    (here : f.isNotFound = false ∨ ∃ n body, c = .replace n body) :
    Replied f (f.reply c)
      (advised (reported (.error ((Raised.of f).diagnosed resource name)))) := by
  cases f with
  | response r =>
      have answered : Fault.reply c (.response r) = r.reply := by
        rcases here with present | ⟨n, body, rfl⟩
        · cases c <;> simp_all [Fault.reply, Fault.isNotFound]
        · rfl
      rw [answered, r.reply_eq resource name]
      exact .of_advice (.other fun _ same => Fault.noConfusion same)
  | transport kind text =>
      exact .of_advice (e := .kubernetes _ none true _)
        (.other fun _ same => Fault.noConfusion same)
  | operator e => exact .of_advice (.itself rfl)
  | interrupt text => exact .passed
  | _ => exact .of_advice (e := unexpected _) (.other fun _ same => Fault.noConfusion same)

/-- What leaves the handler is advice to the caller, or an interrupt. -/
theorem advice_or_interrupt {name : String} {reason : Option String} {s : State} {e : Raised}
    (raised : (handle name reason s).1 = .error e) :
    (∃ text delay, e.fault = .retryLater text delay) ∨ (∃ text, e.fault = .giveUp text) ∨
      ∃ text, e.fault = .interrupt text := by
  obtain ⟨result, handles⟩ := handles name reason s
  rw [handles.given] at raised
  cases result with
  | ok v => cases raised
  | error inner =>
      obtain rfl : advise (surfaced inner) = e := Except.error.inj raised
      rcases advise_surfaced inner with ⟨oe, -, advice⟩ | ⟨text, -, interrupt⟩
      · rw [advice, oe.advice_eq]
        cases oe.retryable with
        | true => exact .inl ⟨_, _, rfl⟩
        | false => exact .inr (.inl ⟨_, rfl⟩)
      · exact .inr (.inr ⟨text, interrupt⟩)

/-- Only advice and interrupts leave the handler. When a read or a write has failed, the caller gets
the reply to the fault, and a request that is not found is counted as such. -/
theorem handle_replies (name : String) (reason : Option String) (s : State) :
    (∀ e, (handle name reason s).1 = .error e →
      (∃ text delay, e.fault = .retryLater text delay) ∨ (∃ text, e.fault = .giveUp text) ∨
        ∃ text, e.fault = .interrupt text) ∧
    ∀ calls c answer f,
      (handle name reason s).2.outside.asked = s.outside.asked ++ calls →
      (c, answer) ∈ s.server.answers calls → c.onRequest = true → trouble? answer = some f →
        Replied f (f.reply c) (handle name reason s).1 ∧
          (f.reply c = .done → (handle name reason s).2.metrics.decisions =
            s.metrics.decisions.add ["csr_not_found"]) := by
  refine ⟨fun e => advice_or_interrupt, ?_⟩
  intro calls c answer f asked met onRequest trouble
  obtain ⟨result, handles⟩ := handles name reason s
  have makes := handles.reviewed.concludes.makes asked met onRequest trouble
  rw [handles.given, handles.metrics]
  cases makes with
  | @nothing n absent =>
      obtain ⟨r, rfl, status⟩ : ∃ r, f = .response r ∧ r.status = some 404 := by
        cases f with
        | response r => exact ⟨r, rfl, beq_iff_eq.mp absent⟩
        | _ => cases absent
      have done : Fault.reply (.read n) (.response r) = .done := if_pos status
      rw [done]
      exact ⟨.done, fun _ => rfl⟩
  | @unread n other =>
      have replied := replied_of_diagnosed (.read n) Coordinates.requests.plural n (.inl other)
      exact ⟨replied, fun done => by rw [done] at replied; cases replied⟩
  | unwritten n body =>
      have replied := replied_of_diagnosed (f := f) (.replace n body)
        Coordinates.requests.plural n (.inr ⟨n, body, rfl⟩)
      exact ⟨replied, fun done => by rw [done] at replied; cases replied⟩

/-- A server that refuses a write for good, although its status is one that passes. -/
def refusing : State :=
  { State.steady (.holding (willing [] [] [])) with
    server := { Server.holding (willing [] [] []) with
      replaceFaults := [.response ⟨some 503, some "Forbidden"⟩] } }

/-- The status alone would ask for another attempt. -/
theorem handle_replies_refusing :
    ∃ e causes, (handle "a" none refusing).1 = .error ⟨.giveUp (e.base ++ e.actionText), causes⟩ ∧
      StandsFor e (.response ⟨some 503, some "Forbidden"⟩) causes := by
  obtain ⟨⟨c, answer⟩, met, writes, trouble⟩ :
      ∃ x ∈ refusing.server.answers (handle "a" none refusing).2.outside.asked,
        x.1.writes "a" = true ∧
          trouble? x.2 = some (.response ⟨some 503, some "Forbidden"⟩) := by decide +kernel
  obtain ⟨sent, rfl⟩ := Call.writes_iff.mp writes
  have replied := ((handle_replies "a" none refusing).2 _ _ _ _ rfl met rfl trouble).1
  have never : Fault.reply (.replace "a" sent) (.response ⟨some 503, some "Forbidden"⟩) = .never :=
    rfl
  rw [never] at replied
  generalize (handle "a" none refusing).1 = result at replied
  cases replied with
  | never stands => exact ⟨_, _, rfl, stands⟩

end Handler

end BootstrapApproval
