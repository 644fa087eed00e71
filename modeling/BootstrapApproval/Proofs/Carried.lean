import BootstrapApproval.Proofs.Quiet

/-! # What is carried through a review

A relation between two states that can be carried on from one action to the next holds between the
beginning and the end of a review as soon as it holds of what a review is made of: making sure of a
client, asking the server, and the remark about a failed look-up.
-/

namespace BootstrapApproval

/-- A relation that holds when nothing is done, and of one thing after the other. -/
class State.Carried (R : State → State → Prop) : Prop where
  refl (s : State) : R s s
  trans {s t u : State} (first : R s t) (second : R t u) : R s u

namespace Act

variable {α β : Type} {R : State → State → Prop}

/-- An action that carries a relation from its beginning to its end, however it ends. -/
structure Carries (R : State → State → Prop) (x : Act α) : Prop where
  carries (s : State) : R s (x s).2

namespace Carries

variable [State.Carried R]

theorem of_same {x : Act α} (same : ∀ s, (x s).2 = s) : Carries R x :=
  ⟨fun s => (same s).symm ▸ State.Carried.refl s⟩

theorem pure (a : α) : Carries R (pure a : Act α) := of_same fun _ => rfl

theorem raise (e : Raised) : Carries R (Act.raise e : Act α) := of_same fun _ => rfl

theorem see (f : State → α) : Carries R (Act.see f) := of_same fun _ => rfl

theorem give (r : Except Raised α) : Carries R (Act.give r) := by
  cases r with
  | ok a => exact pure a
  | error e => exact raise e

theorem bind {x : Act α} {f : α → Act β} (first : Carries R x) (next : ∀ a, Carries R (f a)) :
    Carries R (x >>= f) := by
  refine ⟨fun s => ?_⟩
  have before := first.carries s
  rw [bind_apply]
  cases done : x s with
  | mk result t =>
      rw [done] at before
      cases result with
      | error e => exact before
      | ok a => exact State.Carried.trans before ((next a).carries t)

omit [State.Carried R] in
theorem attempt {x : Act α} (carries : Carries R x) : Carries R (Act.attempt x) :=
  ⟨carries.carries⟩

end Carries

end Act

open Act

section Loading

variable {R : State → State → Prop} [State.Carried R]

namespace Client

/-- Loading credentials remembers nothing. -/
theorem reconciler_load (s : State) : (load s).2.reconciler = s.reconciler := by
  unfold load loadLocal
  simp only [bind_apply, call, change_apply, see_apply]
  cases s.around.inCluster with
  | none => rfl
  | some f =>
      cases f with
      | credentials text =>
          dsimp only
          simp only [bind_apply, change_apply, see_apply]
          cases s.around.kubeconfig with
          | none => rfl
          | some f => cases f <;> rfl
      | _ => rfl

-- Loading credentials is never warned of, not even when there are none.
variable (called : ∀ c, Carries R (call c))
  (said : ∀ level message, level ≠ .warning → Carries R (say logger level message))

include called said

theorem carries_loadLocal : Carries R loadLocal := by
  refine Carries.bind (called _) fun _ => Carries.bind (Carries.see _) fun local_ => ?_
  split
  · exact said _ _ (by decide)
  · exact Carries.bind (said _ _ (by decide)) fun _ => Carries.raise _
  · exact Carries.raise _

theorem carries_load : Carries R load := by
  refine Carries.bind (called _) fun _ => Carries.bind (Carries.see _) fun inside => ?_
  split
  · exact said _ _ (by decide)
  · exact carries_loadLocal called said
  · exact Carries.raise _

theorem carries_ensure (equipped : ∀ (s : State) (rc : Reconciler), s.reconciler = some rc →
    R s { s with reconciler := some { rc with hasClient := true } }) : Carries R ensure := by
  refine ⟨fun s => ?_⟩
  unfold ensure
  rw [bind_ok (see_apply ..)]
  cases known : s.reconciler with
  | none => exact State.Carried.refl s
  | some rc =>
      dsimp only
      split
      · exact State.Carried.refl s
      · have loaded := (carries_load called said).carries s
        have memory := reconciler_load s
        rw [bind_apply]
        cases done : load s with
        | mk result t =>
            rw [done] at loaded memory
            cases result with
            | error e => exact loaded
            | ok u => exact State.Carried.trans loaded (equipped t rc (memory.trans known))

end Client

end Loading

namespace Reconciler

/-- The warning of trouble in looking a cluster up. -/
def troubleRecord (rc : Reconciler) (name cluster : String) (e : OperatorError) : Record :=
  ⟨rc.logger, .warning, "Failed to read ManagedCluster " ++ cluster ++ ": " ++ e.message,
    [("resource_name", .str name), ("cluster_name", .str cluster),
      ("error_type", .str e.kind.name)], none⟩

/-- A relation that is carried by all that a review is made of. -/
structure Carried (R : State → State → Prop) (rc : Reconciler) (name : String) : Prop where
  ensured : Carries R Client.ensure
  asked (c : Call) (onServer : c.onServer = true) (s : State) (server : Server) :
    R s { s with calls := s.calls ++ [c], server }
  warned (cluster : String) (e : OperatorError) (s : State) :
    R s { s with logs := s.logs.emit (rc.troubleRecord name cluster e) }

namespace Carried

variable {R : State → State → Prop} [State.Carried R] {rc : Reconciler} {name : String}
  (carried : rc.Carried R name)

include carried

omit [State.Carried R] in
theorem ask {c : Call} (onServer : c.onServer = true)
    (answer : Server → Except Fault Json × Server) : Carries R (Store.ask c answer) :=
  ⟨fun s => carried.asked c onServer s _⟩

theorem read (name : String) : Carries R (Store.read name) := by
  refine Carries.bind carried.ensured fun _ =>
    Carries.bind (carried.ask rfl _) fun answer => ?_
  cases answer with
  | ok body => exact Carries.bind (Carries.give _) fun _ => Carries.pure _
  | error f =>
      dsimp only
      split
      · exact Carries.pure _
      · exact Carries.raise _

theorem lookUp (cluster : String) : Carries R (Store.lookUp cluster) := by
  refine Carries.bind carried.ensured fun _ =>
    Carries.bind (carried.ask rfl _) fun answer => ?_
  cases answer with
  | ok entry => exact Carries.pure _
  | error f =>
      dsimp only
      split
      · exact Carries.pure _
      · exact Carries.raise _

theorem submit (r : Request) : Carries R (Store.submit r) := by
  refine Carries.bind carried.ensured fun _ => ?_
  cases r.written with
  | error f => exact Carries.raise _
  | ok body =>
      refine Carries.bind (carried.ask rfl _) fun answer => ?_
      cases answer with
      | ok body => exact Carries.give _
      | error f => exact Carries.raise _

omit carried in
theorem now : Carries R rc.now :=
  Carries.bind (Carries.see _) fun _ => Carries.give _

theorem isRegistered (cluster : String) : Carries R (rc.isRegistered name cluster) := by
  refine Carries.bind (Carries.attempt (carried.lookUp cluster)) fun result => ?_
  cases result with
  | ok entry => exact Carries.pure _
  | error e =>
      dsimp only
      split
      next trouble _ =>
        exact Carries.bind ⟨carried.warned cluster trouble⟩ fun _ => Carries.pure _
      next => exact Carries.raise _

theorem readStep : Carries R (readStep name) :=
  Carries.bind (carried.read name) fun _ => Carries.pure _

theorem lookUpStep (r : Request) : Carries R (rc.lookUpStep name r) :=
  Carries.bind (carried.isRegistered _) fun _ => Carries.pure _

theorem commitStep (r : Request) : Carries R (rc.commitStep name r) :=
  Carries.bind now fun _ => Carries.bind (carried.submit _) fun _ => Carries.pure _

theorem review : Carries R (rc.review name) := by
  refine Carries.bind carried.readStep fun read => ?_
  cases read with
  | decided v => exact Carries.pure v
  | candidate r =>
      refine Carries.bind (carried.lookUpStep r) fun lookedUp => ?_
      cases lookedUp with
      | decided v => exact Carries.pure v
      | candidate r => exact carried.commitStep r

end Carried

end Reconciler

end BootstrapApproval
