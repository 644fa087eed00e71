import BootstrapApproval.Proofs.Quiet

/-! # Asking the server once

Reading, looking up and submitting ask the server for one thing each, and their results follow from
the answer. Without credentials, or with nothing that can be written, they fail before they ask.
-/

namespace BootstrapApproval

open Act

/-- An action that asks the server one thing and makes its result from the answer, or that fails
before it has asked. -/
inductive Asks {α : Type} (x : Act α) (s : State) (c : Call)
    (heard : Except Fault Json → Except Raised α) : Prop where
  | unasked (e : Raised) (failed : (x s).1 = .error e) (same : (x s).2.outside = s.outside)
  | asked (given : (x s).1 = heard (s.server.respond c).1)
      (after : (x s).2.outside = s.outside.ask c)

/-- The state after the server has been asked for something. -/
def State.asked (s : State) (c : Call) : State :=
  { s with server := (s.server.respond c).2, calls := s.calls ++ [c] }

theorem State.outside_asked (s : State) {c : Call} (onServer : c.onServer = true) :
    (s.asked c).outside = s.outside.ask c := by
  simp [State.asked, State.outside, Outside.ask, List.filter_append, onServer]

namespace Asks

variable {α β : Type} {s : State} {c : Call}

theorem after_quiet {x : Act β} {f : β → Act α} {heard : Except Fault Json → Except Raised α}
    (quiet : Quiet x) (next : ∀ b t, x s = (.ok b, t) → Asks (f b) t c heard) :
    Asks (x >>= f) s c heard := by
  have same := quiet.outside s
  cases first : x s with
  | mk result t =>
      rw [first] at same
      cases result with
      | error e =>
          exact .unasked e (by rw [bind_error first]) (by rw [bind_error first]; exact same)
      | ok b =>
          have server : t.server = s.server := congrArg Outside.server same
          cases next b t first with
          | unasked e failed kept =>
              exact .unasked e (by rw [bind_ok first, failed])
                (by rw [bind_ok first, kept]; exact same)
          | asked given after =>
              exact .asked (by rw [bind_ok first, given, server])
                (by rw [bind_ok first, after]; exact congrArg (Outside.ask · c) same)

theorem then_quiet {x : Act β} {f : β → Act α} {heard : Except Fault Json → Except Raised β}
    {g : β → Except Raised α} (asks : Asks x s c heard) (quiet : ∀ b, Quiet (f b))
    (given : ∀ b t, (f b t).1 = g b) : Asks (x >>= f) s c (fun a => heard a >>= g) := by
  cases asks with
  | unasked e failed same =>
      have whole : x s = (.error e, (x s).2) := Prod.ext failed rfl
      exact .unasked e (by rw [bind_error whole]) (by rw [bind_error whole]; exact same)
  | asked result after =>
      cases h : heard (s.server.respond c).1 with
      | error e =>
          have whole : x s = (.error e, (x s).2) := Prod.ext (result.trans h) rfl
          exact .asked (by rw [bind_error whole, h]; rfl) (by rw [bind_error whole]; exact after)
      | ok b =>
          have whole : x s = (.ok b, (x s).2) := Prod.ext (result.trans h) rfl
          refine .asked ?_ ?_
          · rw [bind_ok whole, given, h]
            rfl
          · rw [bind_ok whole, (quiet b).outside]
            exact after

/-- What needs credentials fails as loading them does, and with them it asks. -/
theorem of_ensured {x : Act α} {heard : Except Fault Json → Except Raised α}
    (onServer : c.onServer = true)
    (fails : ∀ e t, Client.ensure s = (.error e, t) → x s = (.error e, t))
    (asks : ∀ t, Client.ensure s = (.ok (), t) →
      x s = (heard (t.server.respond c).1, t.asked c)) : Asks x s c heard := by
  have same := Client.quiet_ensure.outside s
  cases ensured : Client.ensure s with
  | mk result t =>
      rw [ensured] at same
      cases result with
      | error e =>
          have whole := fails e t ensured
          exact .unasked e (congrArg Prod.fst whole) (by rw [whole]; exact same)
      | ok u =>
          have whole := asks t ensured
          have server : t.server = s.server := congrArg Outside.server same
          refine .asked ?_ ?_
          · rw [whole, server]
          · rw [whole, t.outside_asked onServer]
            exact congrArg (Outside.ask · c) same

end Asks

namespace Store

def failed {α : Type} (f : Fault) (resource name : String) : Except Raised α :=
  .error ((Raised.of f).diagnosed resource name)

def given (body : Json) : Except Raised Request := (Request.understood body).mapError Raised.of

/-- What the answer to a read amounts to. -/
def readResult (name : String) : Except Fault Json → Except Raised (Option Request)
  | .error f => if f.isNotFound then .ok none else failed f Coordinates.requests.plural name
  | .ok body => (given body).map some

def lookUpResult (name : String) : Except Fault Json → Except Raised (Option Json)
  | .error f => if f.isNotFound then .ok none else failed f Coordinates.clusters.plural name
  | .ok entry => .ok (some entry)

def submitResult (name : String) : Except Fault Json → Except Raised Request
  | .error f => failed f Coordinates.requests.plural name
  | .ok body => given body

variable {s t : State}

theorem ask_apply (c : Call) (t : State) :
    ask c (·.respond c) t = (.ok (t.server.respond c).1, t.asked c) := rfl

theorem understand_apply (body : Json) (t : State) : understand body t = (given body, t) := by
  unfold understand given
  cases (Request.understood body).mapError Raised.of <;> rfl

/-- With credentials, a read is one question. -/
theorem read_apply (ensured : Client.ensure s = (.ok (), t)) (name : String) :
    read name s = (readResult name (t.server.read name).1, t.asked (.read name)) := by
  have answered : ask (.read name) (·.read name) t = _ := ask_apply (.read name) t
  unfold read
  rw [bind_ok ensured, bind_ok answered]
  simp only [Server.respond]
  cases (t.server.read name).1 with
  | ok body =>
      dsimp only [readResult]
      rw [bind_apply, understand_apply]
      cases given body <;> rfl
  | error f =>
      dsimp only [readResult]
      split <;> rfl

theorem lookUp_apply (ensured : Client.ensure s = (.ok (), t)) (name : String) :
    lookUp name s = (lookUpResult name (t.server.lookUp name).1, t.asked (.lookUp name)) := by
  have answered : ask (.lookUp name) (·.lookUp name) t = _ := ask_apply (.lookUp name) t
  unfold lookUp
  rw [bind_ok ensured, bind_ok answered]
  simp only [Server.respond]
  cases (t.server.lookUp name).1 with
  | ok entry => rfl
  | error f =>
      dsimp only [lookUpResult]
      split <;> rfl

theorem submit_apply (ensured : Client.ensure s = (.ok (), t)) {r : Request}
    (writable : r.isWritable = true) :
    submit r s =
      (submitResult r.name (t.server.replace r.name r.body).1,
        t.asked (.replace r.name r.body)) := by
  have answered : ask (.replace r.name r.body) (·.replace r.name r.body) t = _ :=
    ask_apply (.replace r.name r.body) t
  have written : r.written = .ok r.body := if_pos writable
  unfold submit
  rw [bind_ok ensured, written]
  dsimp only
  rw [bind_ok answered]
  simp only [Server.respond]
  cases (t.server.replace r.name r.body).1 with
  | ok answer => exact understand_apply answer _
  | error f => rfl

/-- With credentials, a request that cannot be written is not asked for. -/
theorem submit_unwritable (ensured : Client.ensure s = (.ok (), t)) {r : Request}
    (high : r.isWritable = false) : submit r s = (.error (.of tooHigh), t) := by
  have written : r.written = .error tooHigh := by simp [Request.written, high]
  unfold submit
  rw [bind_ok ensured, written]
  rfl

theorem read_asks (name : String) (s : State) :
    Asks (read name) s (.read name) (readResult name) :=
  Asks.of_ensured rfl (fun _ _ failed => bind_error failed) fun _ ensured => read_apply ensured name

theorem lookUp_asks (name : String) (s : State) :
    Asks (lookUp name) s (.lookUp name) (lookUpResult name) :=
  Asks.of_ensured rfl (fun _ _ failed => bind_error failed) fun _ ensured =>
    lookUp_apply ensured name

theorem submit_asks (r : Request) (s : State) :
    Asks (submit r) s (.replace r.name r.body) (submitResult r.name) := by
  cases writable : r.isWritable with
  | true =>
      exact Asks.of_ensured rfl (fun _ _ failed => bind_error failed) fun _ ensured =>
        submit_apply ensured writable
  | false =>
      have same := Client.quiet_ensure.outside s
      cases ensured : Client.ensure s with
      | mk result t =>
          rw [ensured] at same
          cases result with
          | error e =>
              have whole : submit r s = (.error e, t) := bind_error ensured
              exact .unasked e (congrArg Prod.fst whole) (by rw [whole]; exact same)
          | ok u =>
              have whole := submit_unwritable ensured writable
              exact .unasked _ (congrArg Prod.fst whole) (by rw [whole]; exact same)

end Store

end BootstrapApproval
