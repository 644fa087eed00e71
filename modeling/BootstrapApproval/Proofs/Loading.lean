import BootstrapApproval.Proofs.Quiet

/-! # Loading credentials

Which attempts are made to load credentials, and how loading them ends, is decided by the
surroundings alone. A reconciler without a client loads them before anything else.
-/

namespace BootstrapApproval

open Act

namespace Surroundings

/-- The attempts to load credentials, the local one only when there are none inside a cluster. -/
def attempts (a : Surroundings) : List Call :=
  match a.inCluster with
  | some (.credentials _) => [.inCluster, .kubeconfig]
  | _ => [.inCluster]

/-- How the last of the attempts fails, if it does. -/
def lastFault (a : Surroundings) : Option Fault :=
  match a.inCluster with
  | some (.credentials _) => a.kubeconfig
  | first => first

/-- The fault that loading credentials raises when the last attempt has failed. -/
def lacking : Fault → Raised
  | .credentials text => .because (.operator (Client.missing text)) (.of (.credentials text))
  | f => .of f

theorem credentials_eq (a : Surroundings) :
    a.credentials = match a.lastFault with
      | none => .ok ()
      | some f => .error (lacking f) := by
  unfold credentials lastFault
  cases a.inCluster with
  | none => rfl
  | some f =>
      cases f with
      | credentials text =>
          cases a.kubeconfig with
          | none => rfl
          | some g => cases g <;> rfl
      | _ => rfl

end Surroundings

namespace Client

theorem load_apply (s : State) : ∃ logs, load s =
    (s.around.credentials, { s with calls := s.calls ++ s.around.attempts, logs }) := by
  unfold load loadLocal Surroundings.credentials Surroundings.attempts
  simp only [bind_apply, call, change_apply, see_apply]
  cases s.around.inCluster with
  | none => exact ⟨_, rfl⟩
  | some f =>
      cases f with
      | credentials text =>
          simp only [bind_apply, change_apply, see_apply, List.append_assoc, List.cons_append,
            List.nil_append]
          cases s.around.kubeconfig with
          | none => exact ⟨_, rfl⟩
          | some g => cases g <;> exact ⟨_, rfl⟩
      | _ => exact ⟨_, rfl⟩

section Unequipped

variable {s : State} {rc : Reconciler} (known : s.reconciler = some rc)
  (without : rc.hasClient = false)

include known without

theorem ensure_unequipped : ensure s =
    (load >>= fun _ => change fun s =>
      { s with reconciler := some { rc with hasClient := true } }) s := by
  unfold ensure
  rw [bind_ok (see_apply ..), known]
  simp [without]

theorem ensure_of_provided (found : s.around.lastFault = none) : ∃ t, ensure s = (.ok (), t) ∧
    t.calls = s.calls ++ s.around.attempts ∧
      t.reconciler = some { rc with hasClient := true } := by
  obtain ⟨logs, loaded⟩ := load_apply s
  rw [s.around.credentials_eq, found] at loaded
  exact ⟨_, (ensure_unequipped known without).trans (bind_ok loaded), rfl, rfl⟩

theorem ensure_of_lacking {f : Fault} (last : s.around.lastFault = some f) : ∃ t,
    ensure s = (.error (Surroundings.lacking f), t) ∧ t.calls = s.calls ++ s.around.attempts ∧
      t.reconciler = s.reconciler := by
  obtain ⟨logs, loaded⟩ := load_apply s
  rw [s.around.credentials_eq, last] at loaded
  exact ⟨_, (ensure_unequipped known without).trans (bind_error loaded), rfl, rfl⟩

end Unequipped

end Client

end BootstrapApproval
