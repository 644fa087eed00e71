import BootstrapApproval.Handler

/-! # What an action shows to the outside

The outside of a state is what others can see of it or change in it: the server, the calls that the
server has been asked, and the surroundings. Most actions leave it alone. They log, count, trace and
load credentials.
-/

namespace BootstrapApproval

/-- Whether a call is about requests or clusters. -/
def Call.onServer : Call → Bool
  | .read _ | .lookUp _ | .replace _ _ => true
  | _ => false

def Call.writes (name : String) : Call → Bool
  | .replace n _ => n == name
  | _ => false

theorem Call.writes_iff {name : String} {c : Call} :
    c.writes name = true ↔ ∃ sent, c = .replace name sent := by
  cases c <;> simp [writes]

def Call.isLookUp : Call → Bool
  | .lookUp _ => true
  | _ => false

/-- Whether a call asks for a write. -/
def Call.isReplace : Call → Bool
  | .replace _ _ => true
  | _ => false

theorem Call.any_isReplace {calls : List Call} :
    calls.any isReplace = true ↔ ∃ n sent, Call.replace n sent ∈ calls := by
  rw [List.any_eq_true]
  constructor
  · rintro ⟨c, member, replaces⟩
    cases c with
    | replace n sent => exact ⟨n, sent, member⟩
    | _ => cases replaces
  · rintro ⟨n, sent, member⟩
    exact ⟨_, member, rfl⟩

/-- The answer of the server to a call, and the server after it. -/
def Server.respond (s : Server) : Call → Except Fault Json × Server
  | .read name => s.read name
  | .lookUp name => s.lookUp name
  | .replace name body => s.replace name body
  | _ => (.ok .null, s)

/-- The outside of a state. -/
structure Outside where
  server : Server
  asked : List Call
  around : Surroundings

def Outside.ask (o : Outside) (c : Call) : Outside :=
  { o with server := (o.server.respond c).2, asked := o.asked ++ [c] }

/-- What others can see of a state or change in it. -/
def State.outside (s : State) : Outside := ⟨s.server, s.calls.filter Call.onServer, s.around⟩

namespace Act

variable {α β : Type}

/-- An action that leaves the outside alone, whether it gives a value or raises a fault. -/
structure Quiet (x : Act α) : Prop where
  outside : ∀ s, (x s).2.outside = s.outside

namespace Quiet

theorem pure (a : α) : Quiet (pure a : Act α) := ⟨fun _ => rfl⟩

theorem raise (e : Raised) : Quiet (Act.raise e : Act α) := ⟨fun _ => rfl⟩

theorem see (f : State → α) : Quiet (Act.see f) := ⟨fun _ => rfl⟩

theorem give (r : Except Raised α) : Quiet (Act.give r) := by
  cases r <;> exact ⟨fun _ => rfl⟩

theorem change {f : State → State} (same : ∀ s, (f s).outside = s.outside) :
    Quiet (Act.change f) := ⟨same⟩

/-- What follows quietly leaves the outside as it was found. -/
theorem outside_bind (x : Act α) {f : α → Act β} (next : ∀ a, Quiet (f a)) (s : State) :
    ((x >>= f) s).2.outside = (x s).2.outside := by
  rw [bind_apply]
  cases h : x s with
  | mk result t =>
      cases result with
      | ok a => exact (next a).outside t
      | error e => rfl

theorem bind {x : Act α} {f : α → Act β} (first : Quiet x) (next : ∀ a, Quiet (f a)) :
    Quiet (x >>= f) :=
  ⟨fun s => (outside_bind x next s).trans (first.outside s)⟩

theorem call {c : Call} (elsewhere : c.onServer = false) : Quiet (Act.call c) := by
  refine ⟨fun s => ?_⟩
  simp [State.outside, Act.call, List.filter_append, elsewhere]

theorem log (logger : String) (level : Level) (message : String) (fields : Table Json) :
    Quiet (Act.log logger level message fields) := ⟨fun _ => rfl⟩

theorem say (logger : String) (level : Level) (message : String) :
    Quiet (Act.say logger level message) := Quiet.log ..

theorem newCorrelation : Quiet Act.newCorrelation := ⟨fun _ => rfl⟩

theorem measure (f : Metrics → Metrics) : Quiet (Act.measure f) := ⟨fun _ => rfl⟩

theorem noteOutcome (outcome : Json) : Quiet (Act.noteOutcome outcome) := ⟨fun _ => rfl⟩

end Quiet

end Act

open Act

theorem Client.quiet_load : Quiet Client.load := by
  refine Quiet.bind (Quiet.call rfl) fun _ => Quiet.bind (Quiet.see _) fun inCluster => ?_
  split
  · exact Quiet.say ..
  · refine Quiet.bind (Quiet.call rfl) fun _ => Quiet.bind (Quiet.see _) fun kubeconfig => ?_
    split
    · exact Quiet.say ..
    · exact Quiet.bind (Quiet.say ..) fun _ => Quiet.raise _
    · exact Quiet.raise _
  · exact Quiet.raise _

/-- How loading credentials ends in some surroundings. -/
def Surroundings.credentials (a : Surroundings) : Except Raised Unit :=
  match a.inCluster with
  | none => .ok ()
  | some (.credentials _) =>
      match a.kubeconfig with
      | none => .ok ()
      | some (.credentials text) =>
          .error (.because (.operator (Client.missing text)) (.of (.credentials text)))
      | some f => .error (.of f)
  | some f => .error (.of f)

theorem Client.load_fst (s : State) : (load s).1 = s.around.credentials := by
  unfold load loadLocal Surroundings.credentials
  simp only [bind_apply, call, change_apply, see_apply]
  cases s.around.inCluster with
  | none => rfl
  | some f =>
      cases f with
      | credentials text =>
          simp only [bind_apply, change_apply, see_apply]
          cases s.around.kubeconfig with
          | none => rfl
          | some f => cases f <;> rfl
      | _ => rfl

theorem Client.quiet_ensure : Quiet Client.ensure := by
  refine Quiet.bind (Quiet.see _) fun reconciler => ?_
  split
  · exact Quiet.pure _
  · split
    · exact Quiet.pure _
    · exact Quiet.bind Client.quiet_load fun _ => Quiet.change fun _ => rfl

theorem Client.ensure_apply {s : State} (ensured : (Client.ensure s).1 = .ok ()) :
    ∃ t, Client.ensure s = (.ok (), t) ∧ t.outside = s.outside :=
  ⟨_, Prod.ext ensured rfl, Client.quiet_ensure.outside s⟩

namespace OperatorLog

theorem quiet_start (l : OperatorLog) (type name : Json) (correlation : Option String) :
    Quiet (l.start type name correlation) := by
  cases correlation with
  | none =>
      exact Quiet.bind Quiet.newCorrelation fun _ => Quiet.bind (Quiet.log ..) fun _ => .pure _
  | some id => exact ⟨fun _ => rfl⟩

theorem quiet_success (l : OperatorLog) (type name outcome duration : Json) :
    Quiet (l.success type name outcome duration) := Quiet.log ..

theorem quiet_decision (l : OperatorLog) (name outcome : Json) (text : String) (level : Level)
    (cluster username : Json) : Quiet (l.decision name outcome text level cluster username) :=
  Quiet.log ..

theorem quiet_failure (l : OperatorLog) (type name : Json) (f : Fault) (duration : Json)
    (attached : String) : Quiet (l.failure type name f duration attached) :=
  Quiet.change fun _ => rfl

end OperatorLog

namespace Reconciler

theorem quiet_now (rc : Reconciler) : Quiet rc.now :=
  Quiet.bind (Quiet.see _) fun _ => Quiet.give _

theorem quiet_announce (rc : Reconciler) (name : String) (v : Verdict) :
    Quiet (rc.announce name v) :=
  Quiet.bind (OperatorLog.quiet_decision ..) fun _ => Quiet.bind (Quiet.measure _) fun _ =>
    Quiet.bind (Quiet.noteOutcome _) fun _ => Quiet.pure _

theorem quiet_logFault (rc : Reconciler) (name : String) (f : Fault) :
    Quiet (rc.logFault name f) := by
  unfold logFault
  split
  · exact OperatorLog.quiet_failure ..
  · exact Quiet.pure _

end Reconciler

end BootstrapApproval
