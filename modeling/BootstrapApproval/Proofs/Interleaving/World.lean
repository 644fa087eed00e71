import BootstrapApproval.Proofs.Reconciler.Steps

/-! # Reviews side by side

Any number of reviews share one server with any number of others who change it. A review goes on one
step at a time, and anything may happen between two of its steps. A step runs in a state of its own,
with any credentials, clock and logs; only the server is shared.
-/

namespace BootstrapApproval

open Act

/-- A review that has been started. -/
structure Flight where
  reconciler : Reconciler
  name : String
  progress : Progress

/-- A call of a review that reached the server. -/
structure Exchange where
  flight : Nat
  reconciler : Reconciler
  call : Call
  before : Server
  after : Server
  /-- How far the review came with the answer. -/
  left : Progress

def Exchange.answer (x : Exchange) : Except Fault Json := (x.before.respond x.call).1

/-- An accepted write under a name. -/
def Exchange.Accepts (x : Exchange) (name : String) : Prop :=
  ∃ sent stored, x.call = .replace name sent ∧ x.answer = .ok stored

theorem Exchange.accepts_iff {x : Exchange} {name : String} :
    x.Accepts name ↔ x.call.writes name = true ∧ x.answer.toBool = true := by
  unfold Accepts
  constructor
  · rintro ⟨sent, stored, call, answer⟩
    exact ⟨Call.writes_iff.mpr ⟨sent, call⟩, by rw [answer]; rfl⟩
  · rintro ⟨call, answer⟩
    obtain ⟨sent, call⟩ := Call.writes_iff.mp call
    cases h : x.answer with
    | ok stored => exact ⟨sent, stored, call, rfl⟩
    | error f => simp [h, Except.toBool] at answer

instance (x : Exchange) (name : String) : Decidable (x.Accepts name) :=
  decidable_of_iff _ Exchange.accepts_iff.symm

def Exchange.refusal? (x : Exchange) : Option Fault :=
  match x.answer with
  | .ok _ => none
  | .error f => some f

theorem Exchange.refusal?_eq_some {x : Exchange} {f : Fault} :
    x.refusal? = some f ↔ x.answer = .error f := by
  unfold refusal?
  cases x.answer <;> simp

/-- The server, the reviews, and what has happened so far. -/
structure World where
  server : Server
  flights : List Flight
  /-- Every server there has been, the present one first. -/
  seen : List Server
  trace : List Exchange

/-- What can happen next. -/
inductive Move where
  /-- Others leave the server in another state, with any failures to come. -/
  | edit (server : Server)
  | start (reconciler : Reconciler) (name : String)
  /-- A review takes its next step, in a state of its own. -/
  | advance (flight : Nat) (here : State)

namespace World

/-- A server on which no review has been started. -/
def opened (server : Server) : World := ⟨server, [], [server], []⟩

/-- The state in which a review takes a step: its own, with the shared server. -/
def shared (w : World) (here : State) : State := { here with server := w.server }

/-- The world after a review has taken its next step. -/
def advanced (w : World) (i : Nat) (here : State) (f : Flight) : World :=
  let (progress, s) := f.reconciler.advance f.name (w.shared here) f.progress
  let calls := s.outside.asked.drop here.outside.asked.length
  { server := s.server
    flights := w.flights.set i { f with progress }
    seen := s.server :: w.seen
    trace := w.trace ++
      calls.map fun c => ⟨i, f.reconciler, c, w.server, s.server, progress⟩ }

def move (w : World) : Move → World
  | .edit server => { w with server, seen := server :: w.seen }
  | .start rc name => { w with flights := w.flights ++ [⟨rc, name, .called⟩] }
  | .advance i here =>
      match w.flights[i]? with
      | some f => w.advanced i here f
      | none => w

def run (w : World) (moves : List Move) : World := moves.foldl move w

variable {w : World} {i : Nat} {here : State} {f : Flight}

theorem move_advance (found : w.flights[i]? = some f) :
    w.move (.advance i here) = w.advanced i here f := by
  simp [move, found]

/-- The world after a review has come somewhere without asking for anything. -/
def rested (w : World) (i : Nat) (f : Flight) (p : Progress) : World :=
  { w with flights := w.flights.set i { f with progress := p }, seen := w.server :: w.seen }

/-- The world after a review has asked for one thing and has come somewhere with the answer. -/
def asked (w : World) (i : Nat) (f : Flight) (c : Call) (p : Progress) : World :=
  { server := (w.server.respond c).2
    flights := w.flights.set i { f with progress := p }
    seen := (w.server.respond c).2 :: w.seen
    trace := w.trace ++ [⟨i, f.reconciler, c, w.server, (w.server.respond c).2, p⟩] }

theorem advanced_unasked {p : Progress} {s : State}
    (step : f.reconciler.advance f.name (w.shared here) f.progress = (p, s))
    (same : s.outside = (w.shared here).outside) : w.advanced i here f = w.rested i f p := by
  have server : s.server = w.server := congrArg Outside.server same
  have asked : s.outside.asked = here.outside.asked := by rw [same]; rfl
  simp [advanced, rested, step, server, asked]

theorem advanced_asked {p : Progress} {s : State} {c : Call}
    (step : f.reconciler.advance f.name (w.shared here) f.progress = (p, s))
    (after : s.outside = (w.shared here).outside.ask c) :
    w.advanced i here f = w.asked i f c p := by
  have server : s.server = (w.server.respond c).2 := congrArg Outside.server after
  have asked : s.outside.asked = here.outside.asked ++ [c] := congrArg Outside.asked after
  simp [advanced, World.asked, step, server, asked]

/-- All that a step of a review can make of the world, by how far the review has come. -/
inductive Takes (w : World) (i : Nat) (here : State) (rc : Reconciler) (name : String) :
    Progress → World → Prop where
  /-- The review ends, or has ended before, and nothing is asked for. -/
  | ends (p : Progress) (result : Except Raised Verdict) :
      Takes w i here rc name p (w.rested i ⟨rc, name, p⟩ (.ended result))
  | refuses (result : Except Raised Verdict) :
      Takes w i here rc name .called (w.asked i ⟨rc, name, .called⟩ (.read name) (.ended result))
  | reads {body : Json} {r : Request} (answer : (w.server.read name).1 = .ok body)
      (understood : Request.understood body = .ok r) (live : r.isDeleting = false)
      (labelled : r.clusterName ≠ "") :
      Takes w i here rc name .called (w.asked i ⟨rc, name, .called⟩ (.read name) (.read r))
  | rejects (r : Request) (result : Except Raised Verdict) :
      Takes w i here rc name (.read r)
        (w.asked i ⟨rc, name, .read r⟩ (.lookUp r.clusterName) (.ended result))
  | clears {r : Request} {entry : Json} (answer : (w.server.lookUp r.clusterName).1 = .ok entry)
      (undecided : r.resolution? = none) (own : r.isFrom r.clusterName = true)
      (earnest : rc.dryRun = false) :
      Takes w i here rc name (.read r)
        (w.asked i ⟨rc, name, .read r⟩ (.lookUp r.clusterName) (.cleared r))
  | commits {r : Request} {now : Timestamp} (shown : (rc.now (w.shared here)).1 = .ok now) :
      Takes w i here rc name (.cleared r)
        (w.asked i ⟨rc, name, .cleared r⟩ (.replace r.name (r.approve now).body)
          (.ended (Store.submitResult r.name (w.server.replace r.name (r.approve now).body).1 >>=
            fun _ => .ok (.approved name r.clusterName))))

theorem takes_advance {rc : Reconciler} {name : String} {p : Progress} (here : State)
    (found : w.flights[i]? = some ⟨rc, name, p⟩) :
    w.Takes i here rc name p (w.move (.advance i here)) := by
  rw [move_advance found]
  have step := rc.advances name (w.shared here) p
  generalize taken : rc.advance name (w.shared here) p = result at step
  obtain ⟨q, t⟩ := result
  generalize left : t.outside = o at step
  cases step with
  | rests result | ends _ result =>
      rw [advanced_unasked taken left]
      exact .ends _ result
  | refuses result =>
      rw [advanced_asked taken left]
      exact .refuses result
  | reads answer understood live labelled =>
      rw [advanced_asked taken left]
      exact .reads answer understood live labelled
  | rejects r result =>
      rw [advanced_asked taken left]
      exact .rejects r result
  | clears answer undecided own earnest =>
      rw [advanced_asked taken left]
      exact .clears answer undecided own earnest
  | commits shown =>
      rw [advanced_asked taken left]
      exact .commits shown

/-- A step of a review adds at most one exchange, with the server before it and after it. -/
theorem trace_advance (w : World) (i : Nat) (here : State) :
    w.move (.advance i here) = w ∨
      (w.move (.advance i here)).seen = (w.move (.advance i here)).server :: w.seen ∧
        ((w.move (.advance i here)).trace = w.trace ∨
          ∃ x, (w.move (.advance i here)).trace = w.trace ++ [x] ∧ x.before = w.server ∧
            x.after = (w.move (.advance i here)).server) := by
  cases found : w.flights[i]? with
  | none => exact .inl (by simp [move, found])
  | some f =>
      obtain ⟨rc, name, p⟩ := f
      have taken := takes_advance here found
      generalize w.move (.advance i here) = w' at taken ⊢
      refine .inr ?_
      cases taken with
      | ends => exact ⟨rfl, .inl rfl⟩
      | _ => exact ⟨rfl, .inr ⟨_, rfl, rfl, rfl⟩⟩

/-- A step of a review in a state of its own, when that state has the shared server. -/
theorem move_here {p : Progress} {s : State} (found : w.flights[i]? = some f)
    (server : here.server = w.server)
    (step : f.reconciler.advance f.name here f.progress = (p, s)) :
    (w.move (.advance i here)).server = s.server ∧
      (w.move (.advance i here)).flights[i]? = some { f with progress := p } ∧
      ∃ exchanges, (w.move (.advance i here)).trace = w.trace ++ exchanges ∧
        s.outside.asked = here.outside.asked ++ exchanges.map (·.call) := by
  have same : w.shared here = here := by rw [shared, ← server]
  have inside : i < w.flights.length := (List.getElem?_eq_some_iff.mp found).1
  obtain ⟨new, asked, -⟩ := (f.reconciler.advances f.name here f.progress).sends
  rw [step] at asked
  rw [move_advance found, advanced, same, step]
  refine ⟨rfl, by simp [inside], _, rfl, ?_⟩
  change s.outside.asked = _ at asked
  simp [asked, Function.comp_def]

/-- The moves of a review that nothing interrupts, with the states it takes its steps in. -/
def uninterrupted (w : World) (rc : Reconciler) (name : String) (a b c : State) : List Move :=
  [.start rc name, .advance w.flights.length a, .advance w.flights.length b,
   .advance w.flights.length c]

/-- A review that nothing interrupts leaves the server as it does alone, and asks the same. -/
theorem uninterrupted_review (w : World) (rc : Reconciler) (name : String) {s : State}
    (server : s.server = w.server) :
    ∃ a b c, (w.run (w.uninterrupted rc name a b c)).server = (rc.review name s).2.server ∧
      ∃ exchanges, (w.run (w.uninterrupted rc name a b c)).trace = w.trace ++ exchanges ∧
        (rc.review name s).2.outside.asked = s.outside.asked ++ exchanges.map (·.call) := by
  obtain ⟨p, t, q, u, first, second, third⟩ := rc.review_eq_advance name s
  let i := w.flights.length
  let started := w.move (.start rc name)
  have found : started.flights[i]? = some ⟨rc, name, .called⟩ := by simp [started, move, i]
  obtain ⟨server₁, found₁, xs, trace₁, asked₁⟩ := move_here found server first
  obtain ⟨server₂, found₂, ys, trace₂, asked₂⟩ := move_here found₁ server₁.symm second
  obtain ⟨server₃, -, zs, trace₃, asked₃⟩ := move_here found₂ server₂.symm third
  refine ⟨s, t, u, server₃, xs ++ ys ++ zs, ?_, ?_⟩
  · change (((started.move (.advance i s)).move (.advance i t)).move (.advance i u)).trace =
      started.trace ++ _
    rw [trace₃, trace₂, trace₁]
    simp
  · rw [asked₃, asked₂, asked₁]
    simp

theorem uninterrupted_reconcile (w : World) (rc : Reconciler) (name : String) {s : State}
    (server : s.server = w.server) :
    ∃ a b c, (w.run (w.uninterrupted rc name a b c)).server = (rc.reconcile name s).2.server ∧
      ∃ exchanges, (w.run (w.uninterrupted rc name a b c)).trace = w.trace ++ exchanges ∧
        (rc.reconcile name s).2.outside.asked = s.outside.asked ++ exchanges.map (·.call) := by
  obtain ⟨t, same, outside⟩ := rc.outside_reconcile name s
  obtain ⟨a, b, c, left, exchanges, trace, asked⟩ :=
    w.uninterrupted_review rc name ((congrArg Outside.server same).trans server)
  refine ⟨a, b, c, left.trans (congrArg Outside.server outside).symm, exchanges, trace, ?_⟩
  rw [outside, asked, same]

theorem uninterrupted_handle (w : World) (name : String) (reason : Option String) {s : State}
    (server : s.server = w.server) :
    ∃ a b c, (w.run (w.uninterrupted (Handler.used s) name a b c)).server =
        (Handler.handle name reason s).2.server ∧
      ∃ exchanges,
        (w.run (w.uninterrupted (Handler.used s) name a b c)).trace = w.trace ++ exchanges ∧
        (Handler.handle name reason s).2.outside.asked =
          s.outside.asked ++ exchanges.map (·.call) := by
  obtain ⟨t, same, outside⟩ := Handler.outside_handle name reason s
  obtain ⟨a, b, c, left, exchanges, trace, asked⟩ :=
    w.uninterrupted_review (Handler.used s) name ((congrArg Outside.server same).trans server)
  refine ⟨a, b, c, left.trans (congrArg Outside.server outside).symm, exchanges, trace, ?_⟩
  rw [outside, asked, same]

end World

end BootstrapApproval
