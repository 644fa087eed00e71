import BootstrapApproval.Proofs.Handler.Reports

/-! # Errands

A request is reconciled in two ways: on the handling of an event, or by the reconciler that is
remembered, without a span and without advice. Both come down to one review.
-/

namespace BootstrapApproval

open Act Handler

inductive Errand where
  | reconcile
  | handle (reason : Option String)
  deriving DecidableEq, Repr

namespace Errand

/-- Run an errand. A reconciliation gives its outcome; the handling of an event gives nothing. -/
def run (name : String) : Errand → Act (Option Outcome)
  | .reconcile => do
      let outcome ← (← reconciler).reconcile name
      pure (some outcome)
  | .handle reason => do
      Handler.handle name reason
      pure none

/-- What an errand gives when its review has ended. -/
def given (errand : Errand) (result : Except Raised Verdict) : Except Raised (Option Outcome) :=
  match errand with
  | .reconcile => (Reconciler.reported result).map some
  | .handle _ => (advised (Reconciler.reported result)).map fun _ => none

/-- The spans that an errand leaves behind. -/
def spans (name : String) (errand : Errand) (result : Except Raised Verdict) : List Span :=
  match errand with
  | .reconcile => []
  | .handle _ => [((head name).judged result).closed (advised (Reconciler.reported result))]

/-- What an errand leads to, by how the review in it ends. -/
structure Leads (errand : Errand) (name : String) (s : State) (result : Except Raised Verdict)
    (after : Except Raised (Option Outcome) × State) : Prop where
  given : after.1 = errand.given result
  reviewed : Reviewed name s result after.2.outside
  metrics : after.2.metrics = counted (Reconciler.reported result) (s.metrics.judged result)
  spans : after.2.spans = s.spans ++ errand.spans name result
  settings : after.2.settings = s.settings
  memory : (ready s).Equips after.2

theorem reconcile_apply (name : String) (s : State) :
    run name .reconcile s =
      (((used s).reconcile name (ready s)).1.map some, ((used s).reconcile name (ready s)).2) := by
  have known : reconciler s = (.ok (used s), ready s) := reconciler_apply s
  change (reconciler >>= fun rc => rc.reconcile name >>= fun o => pure (some o)) s = _
  rw [bind_ok known, bind_apply]
  cases (used s).reconcile name (ready s) with
  | mk result t => cases result <;> rfl

theorem handle_apply (name : String) (reason : Option String) (s : State) :
    run name (.handle reason) s =
      ((Handler.handle name reason s).1.map fun _ => none, (Handler.handle name reason s).2) := by
  change (Handler.handle name reason >>= fun _ => pure none) s = _
  rw [bind_apply]
  cases Handler.handle name reason s with
  | mk result t => cases result <;> rfl

theorem leads (errand : Errand) (name : String) (s : State) :
    ∃ result, errand.Leads name s result (errand.run name s) := by
  cases errand with
  | reconcile =>
      have reports := (used s).reconcile_reports name (ready s)
      have outside := (used s).outside_reconcile_opened name (ready s)
      refine ⟨_, ?_, ⟨(used s).opened name (ready s), ?_, rfl, rfl, ?_⟩, ?_, ?_, ?_, ?_⟩
      · rw [reconcile_apply, reports.given]
        rfl
      · exact (used s).outside_opened name (ready s)
      · rw [reconcile_apply]
        exact outside.symm
      · rw [reconcile_apply]
        exact reports.metrics
      · rw [reconcile_apply, spans, List.append_nil]
        exact reports.spans
      · rw [reconcile_apply]
        exact reports.settings
      · rw [reconcile_apply]
        exact reports.memory
  | handle reason =>
      obtain ⟨result, handles⟩ := handles name reason s
      refine ⟨result, ?_, ?_, ?_, ?_, ?_, ?_⟩
      · rw [handle_apply, handles.given]
        rfl
      · rw [handle_apply]
        exact handles.reviewed
      · rw [handle_apply]
        exact handles.metrics
      · rw [handle_apply]
        exact handles.spans
      · rw [handle_apply]
        exact handles.settings
      · rw [handle_apply]
        exact handles.memory

end Errand

end BootstrapApproval
