import BootstrapApproval.Proofs.Handler.Correlation
import BootstrapApproval.Proofs.Handler.Reports
import BootstrapApproval.Proofs.Loading
import BootstrapApproval.Proofs.Reconciler.Steady

/-! # Credentials over many calls

The first call makes the reconciler, without a client. As long as there is no client, every call
tries to load credentials, once and before it asks the server for anything; a call that fails to
ends there. From the first success on there is a client, and nothing is loaded again.
-/

namespace BootstrapApproval

open Act

namespace State

/-- From one state to the other nothing but the server has been asked, and the reconciler that is
remembered is the same. -/
structure Consults (s t : State) : Prop where
  memory : t.reconciler = s.reconciler
  calls : ∃ asked, t.calls = s.calls ++ asked ∧ ∀ c ∈ asked, c.onServer = true

namespace Consults

variable {s t u : State}

theorem of_same (memory : t.reconciler = s.reconciler) (calls : t.calls = s.calls) :
    s.Consults t :=
  ⟨memory, [], by rw [calls, List.append_nil], fun _ member => nomatch member⟩

theorem refl (s : State) : s.Consults s := of_same rfl rfl

theorem trans (first : s.Consults t) (second : t.Consults u) : s.Consults u := by
  obtain ⟨asked, calls, onServer⟩ := first.calls
  obtain ⟨asked', calls', onServer'⟩ := second.calls
  refine ⟨second.memory.trans first.memory, asked ++ asked', ?_, ?_⟩
  · rw [calls', calls, List.append_assoc]
  · intro c member
    rcases List.mem_append.mp member with earlier | later
    · exact onServer c earlier
    · exact onServer' c later

end Consults

/-- When there is a client, nothing but the server has been asked on the way. -/
def Relies (s t : State) : Prop := s.isEquipped = true → s.Consults t

instance : State.Carried Relies where
  refl s _ := .refl s
  trans first second equipped :=
    have before := first equipped
    before.trans (second ((State.isEquipped_congr before.memory).trans equipped))

end State

theorem Client.relies_ensure : Carries State.Relies Client.ensure := by
  refine ⟨fun s equipped => ?_⟩
  rw [Client.ensure_of_equipped equipped]
  exact .refl s

namespace Reconciler

variable (rc : Reconciler) (name : String)

theorem carried_relies : rc.Carried State.Relies name where
  ensured := Client.relies_ensure
  asked c onServer _ _ _ := ⟨rfl, [c], rfl, fun _ member => List.mem_singleton.mp member ▸ onServer⟩
  warned _ _ _ _ := .of_same rfl rfl

/-- With a client, a review asks nothing but the server. -/
theorem review_consults {s : State} (equipped : s.isEquipped = true) :
    s.Consults (rc.review name s).2 := (rc.carried_relies name).review.carries s equipped

/-- A reconciliation remembers and asks what its review does. -/
theorem reconcile_as_reviewed (s : State) :
    (rc.reconcile name s).2.reconciler = (rc.review name (rc.opened name s)).2.reconciler ∧
      (rc.reconcile name s).2.calls = (rc.review name (rc.opened name s)).2.calls := by
  cases reviewed : rc.review name (rc.opened name s) with
  | mk result t =>
      cases result with
      | ok v =>
          rw [reconcile_of_verdict reviewed]
          exact ⟨rfl, rfl⟩
      | error e =>
          rw [reconcile_of_fault reviewed]
          exact ⟨rfl, rfl⟩

end Reconciler

theorem Metrics.decisions_counted {α : Type} (result : Except Raised α) (m : Metrics) :
    (counted result m).decisions = m.decisions := by
  cases result with
  | ok a => rfl
  | error e =>
      unfold counted
      dsimp only
      split <;> rfl

namespace Handler

/-- What the caller is told when the last attempt to load credentials fails with this fault. -/
inductive Refusal : Fault → Except Raised Unit → Prop where
  | nowhere {text : String} {e : Raised} (told : e.fault = .giveUp (Client.missing text).message) :
      Refusal (.credentials text) (.error e)
  | own {oe : OperatorError} {e : Raised} (told : e.fault = oe.advice) :
      Refusal (.operator oe) (.error e)
  | interrupted {text : String} {e : Raised} (told : e.fault = .interrupt text) :
      Refusal (.interrupt text) (.error e)
  | foreign {f : Fault} {e : Raised} (ordinary : f.isOrdinary = true)
      (notOwn : ∀ oe, f ≠ .operator oe) (elsewhere : ∀ text, f ≠ .credentials text)
      (told : e.fault = .retryLater (Reconciler.unexpected f).message retryDelay) :
      Refusal f (.error e)

theorem refusal_lacking (f : Fault) :
    Refusal f (advised (Reconciler.reported (.error (Surroundings.lacking f)))) := by
  cases f with
  | credentials text => exact .nowhere rfl
  | operator oe => exact .own rfl
  | interrupt text => exact .interrupted rfl
  | _ => exact .foreign rfl (by simp) (by simp) rfl

namespace Visit

/-- Whether credentials can be loaded in the surroundings of a call. -/
def provides (v : Visit) : Bool := v.state.around.lastFault.isNone

/-- What a call tries to load, what it asks the server for and, when credentials are missing, what
it tells its caller; given whether there has been a client before. -/
inductive Course (v : Visit) : Bool → Prop where
  | equipped {asked : List Call} (calls : v.after.2.calls = v.state.calls ++ asked)
      (onServer : ∀ c ∈ asked, c.onServer = true) : Course v true
  | loads {asked : List Call} (found : v.state.around.lastFault = none)
      (calls : v.after.2.calls = v.state.calls ++ v.state.around.attempts ++ asked)
      (onServer : ∀ c ∈ asked, c.onServer = true) : Course v false
  | fails {f : Fault} (last : v.state.around.lastFault = some f)
      (calls : v.after.2.calls = v.state.calls ++ v.state.around.attempts)
      (handled : Handles v.name v.state (.error (Surroundings.lacking f)) v.after)
      (told : Refusal f v.after.1)
      (undecided : v.after.2.metrics.decisions = v.state.metrics.decisions) : Course v false

/-- A call uses a reconciler, which has a client already or not, and leaves it behind for the next
one. -/
structure Proceeds (v : Visit) (made : Reconciler) (had : Bool) : Prop where
  uses : used v.state = { made with hasClient := had }
  leaves : v.after.2.reconciler = some { made with hasClient := had || v.provides }
  course : v.Course had

/-- What a call leaves behind is what its review has left. -/
theorem after_of_review (v : Visit) :
    let review := (used v.state).review v.name (reviewing v.name v.reason v.state)
    v.after.2.reconciler = review.2.reconciler ∧ v.after.2.calls = review.2.calls := by
  have whole : v.after = _ := handle_entered v.name v.reason v.state
  rw [whole]
  exact (used v.state).reconcile_as_reviewed v.name (entered v.name v.reason v.state)

variable (v : Visit) {made : Reconciler}

theorem proceeds_equipped (uses : used v.state = { made with hasClient := true }) :
    v.Proceeds made true := by
  let t := reviewing v.name v.reason v.state
  have known : t.reconciler = some { made with hasClient := true } := congrArg some uses
  have equipped : t.isEquipped = true := by simp [State.isEquipped, known]
  have consults := (used v.state).review_consults v.name equipped
  obtain ⟨asked, calls, onServer⟩ := consults.calls
  obtain ⟨memory, called⟩ := v.after_of_review
  exact ⟨uses, memory.trans (consults.memory.trans known), .equipped (called.trans calls) onServer⟩

theorem proceeds_unequipped (uses : used v.state = { made with hasClient := false }) :
    v.Proceeds made false := by
  let s := reviewing v.name v.reason v.state
  have known : s.reconciler = some { made with hasClient := false } := congrArg some uses
  have handled := handles_review v.name v.reason v.state
  obtain ⟨memory, called⟩ := v.after_of_review
  cases last : v.state.around.lastFault with
  | none =>
      have provides : v.provides = true := by simp [provides, last]
      obtain ⟨t, ensured, loads, equipped⟩ :=
        Client.ensure_of_provided known rfl last
      have consults := (used v.state).review_consults v.name
        (Client.equipped_of_ensure ensured)
      obtain ⟨asked, calls, onServer⟩ := consults.calls
      rw [(used v.state).review_ensured v.name ensured] at memory called
      refine ⟨uses, ?_, .loads last ?_ onServer⟩
      · rw [memory, consults.memory, equipped, provides]
        rfl
      · rw [called, calls, loads]
        rfl
  | some f =>
      have lacks : v.provides = false := by simp [provides, last]
      obtain ⟨t, failed, loads, without⟩ :=
        Client.ensure_of_lacking known rfl last
      have review : (used v.state).review v.name s = (.error (Surroundings.lacking f), t) :=
        bind_error (bind_error (bind_error failed))
      rw [review] at memory called handled
      refine ⟨uses, ?_, .fails last (called.trans loads) handled ?_ ?_⟩
      · rw [memory, without, known, lacks]
        rfl
      · exact handled.given ▸ refusal_lacking f
      · exact (congrArg Metrics.decisions handled.metrics).trans (Metrics.decisions_counted _ _)

theorem proceeds {had : Bool} (uses : used v.state = { made with hasClient := had }) :
    v.Proceeds made had := by
  cases had with
  | true => exact v.proceeds_equipped uses
  | false => exact v.proceeds_unequipped uses

end Visit

/-- Calls one after the other, each with the reconciler that the one before has left behind. All
else may change in between. -/
inductive Shares : Option Reconciler → List Visit → Prop where
  | nil (memory : Option Reconciler) : Shares memory []
  | cons {memory : Option Reconciler} {v : Visit} {later : List Visit}
      (found : v.state.reconciler = memory) (rest : Shares v.after.2.reconciler later) :
      Shares memory (v :: later)

/-- Once the reconciler has been made it stays the same, but for its client. -/
theorem Shares.proceeds {made : Reconciler} {had : Bool} {before after : List Visit} {v : Visit}
    (shares : Shares (some { made with hasClient := had }) (before ++ v :: after)) :
    v.state.reconciler ≠ none ∧ v.Proceeds made (had || before.any Visit.provides) := by
  induction before generalizing had with
  | nil =>
      cases shares with
      | cons found rest =>
          have uses : used v.state = { made with hasClient := had } := by rw [used, found]; rfl
          refine ⟨by simp [found], ?_⟩
          rw [List.any_nil, Bool.or_false]
          exact v.proceeds uses
  | cons w before ih =>
      cases shares with
      | cons found rest =>
          have uses : used w.state = { made with hasClient := had } := by rw [used, found]; rfl
          rw [(w.proceeds uses).leaves] at rest
          rw [List.any_cons, ← Bool.or_assoc]
          exact ih rest

/-- Of calls that start without a reconciler, the first makes the one that all of them use. Until
credentials have been loaded, every call makes the attempts of its surroundings and fails when they
do; after that there are no more attempts. -/
theorem credentials_loaded_once {before after : List Visit} {v : Visit}
    (shares : Shares none (before ++ v :: after)) :
    (v.state.reconciler = none ↔ before = []) ∧
      v.Proceeds (.onDemand (before.head?.getD v).state.settings)
        (before.any Visit.provides) := by
  cases before with
  | nil =>
      cases shares with
      | cons found rest =>
          refine ⟨iff_of_true found rfl, v.proceeds ?_⟩
          rw [used, found]
          rfl
  | cons w before =>
      cases shares with
      | cons found rest =>
          have uses : used w.state = { Reconciler.onDemand w.state.settings with
              hasClient := false } := by
            rw [used, found]
            rfl
          rw [(w.proceeds uses).leaves] at rest
          obtain ⟨known, proceeds⟩ := Shares.proceeds rest
          exact ⟨iff_of_false known (by simp), proceeds⟩

/-- A call in given surroundings, with the reconciler that has been left behind. -/
def Visit.among (around : Surroundings) (memory : Option Reconciler) : Visit :=
  ⟨{ State.initial .standard around .empty with reconciler := memory }, "a", some "create"⟩

/-- Surroundings in which loading credentials looks like a request that is not there. -/
def misleading : Surroundings := { Surroundings.calm .epoch with inCluster := some Server.notFound }

def destitute : Surroundings :=
  { Surroundings.calm .epoch with
    inCluster := some (.credentials "no token"), kubeconfig := some (.credentials "no file") }

def misled : Visit := .among misleading none

def deprived : Visit := .among destitute misled.after.2.reconciler

def supplied : Visit := .among (.calm .epoch) deprived.after.2.reconciler

def spared : Visit := .among misleading supplied.after.2.reconciler

/-- The first two calls find no credentials, the third one does, and the fourth needs none. -/
theorem credentials_loaded_once_spared :
    Shares none ([misled, deprived, supplied] ++ spared :: []) ∧
      spared.Proceeds (.onDemand .standard) true := by
  have shares : Shares none ([misled, deprived, supplied] ++ spared :: []) :=
    .cons rfl (.cons rfl (.cons rfl (.cons rfl (.nil _))))
  exact ⟨shares, (credentials_loaded_once shares).2⟩

end Handler

end BootstrapApproval
