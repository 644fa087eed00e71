import BootstrapApproval.Proofs.Carried
import BootstrapApproval.Proofs.Records

/-! # What a review lets be seen

The counters, the spans and the records of a reconciliation's steps tell how it ended. A review by
itself touches none of them. It may load credentials on the way, and it may remark on something that
went wrong, in a record that tells of no step.
-/

namespace BootstrapApproval

namespace State

/-- The reconciler that is remembered is the same, but it may have been given a client. -/
def Equips (s t : State) : Prop :=
  t.reconciler = s.reconciler ∨
    ∃ rc, s.reconciler = some rc ∧ t.reconciler = some { rc with hasClient := true }

theorem Equips.trans {s t u : State} (first : s.Equips t) (second : t.Equips u) : s.Equips u := by
  rcases first with same | ⟨rc, known, equipped⟩
  · unfold Equips at second ⊢
    rw [← same]
    exact second
  · rcases second with same' | ⟨rc', known', equipped'⟩
    · exact .inr ⟨rc, known, same'.trans equipped⟩
    · obtain rfl := Option.some.inj (known'.symm.trans equipped)
      exact .inr ⟨rc, known, equipped'⟩

/-- The second state is the first one after something has been done that tells nothing of how a
reconciliation ends. -/
structure Murmurs (s t : State) : Prop where
  settings : t.settings = s.settings
  metrics : t.metrics = s.metrics
  span : t.span = s.span
  spans : t.spans = s.spans
  memory : s.Equips t
  remarks : ∃ records, s.logs.Emits records t.logs ∧ ∀ r ∈ records, r.operation? = none

namespace Murmurs

variable {s t u : State}

/-- What leaves all of this alone murmurs, whatever else it does. -/
theorem of_same (settings : t.settings = s.settings) (metrics : t.metrics = s.metrics)
    (span : t.span = s.span) (spans : t.spans = s.spans) (memory : s.Equips t)
    (logs : t.logs = s.logs) : s.Murmurs t :=
  ⟨settings, metrics, span, spans, memory, [], logs ▸ .nothing, fun _ member => nomatch member⟩

theorem refl (s : State) : s.Murmurs s := of_same rfl rfl rfl rfl (.inl rfl) rfl

theorem trans (first : s.Murmurs t) (second : t.Murmurs u) : s.Murmurs u := by
  obtain ⟨records, emitted, plain⟩ := first.remarks
  obtain ⟨records', emitted', plain'⟩ := second.remarks
  refine ⟨second.settings.trans first.settings, second.metrics.trans first.metrics,
    second.span.trans first.span, second.spans.trans first.spans, first.memory.trans second.memory,
    records ++ records', emitted.append emitted', ?_⟩
  intro r member
  rcases List.mem_append.mp member with earlier | later
  · exact plain r earlier
  · exact plain' r later

instance : State.Carried Murmurs := ⟨refl, trans⟩

/-- A record without an operation is a remark. -/
theorem remark {r : Record} (plain : r.operation? = none) (s : State) :
    s.Murmurs { s with logs := s.logs.emit r } := by
  refine ⟨rfl, rfl, rfl, rfl, .inl rfl, [r], .one .., fun q member => ?_⟩
  obtain rfl := List.mem_singleton.mp member
  exact plain

end Murmurs

end State

/-- An action that tells nothing of how a reconciliation ends. -/
structure Act.Discreet {α : Type} (x : Act α) : Prop where
  murmurs : ∀ s : State, s.Murmurs (x s).2

open Act

namespace Reconciler

variable (rc : Reconciler) (name : String)

/-- A client may be remembered on the way; credentials and a failed look-up are remarked on. -/
theorem carried_murmurs : rc.Carried State.Murmurs name where
  ensured := Client.carries_ensure
    (fun _ => ⟨fun _ => .of_same rfl rfl rfl rfl (.inl rfl) rfl⟩)
    (fun _ _ _ => ⟨State.Murmurs.remark rfl⟩)
    fun _ rc known => .of_same rfl rfl rfl rfl (.inr ⟨rc, known, rfl⟩) rfl
  asked _ _ _ _ := .of_same rfl rfl rfl rfl (.inl rfl) rfl
  warned _ _ := State.Murmurs.remark rfl

/-- A review tells nothing of how it ends; that is left to the reconciliation around it. -/
theorem discreet_review : Discreet (rc.review name) := ⟨(rc.carried_murmurs name).review.carries⟩

end Reconciler

end BootstrapApproval
