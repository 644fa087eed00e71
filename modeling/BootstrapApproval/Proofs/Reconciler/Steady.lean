import BootstrapApproval.Proofs.Reconciler.Conclusions

/-! # What a review depends on

Once credentials are there, a review depends on the server and on the surroundings alone: from two
states that agree on them, it concludes the same and leaves the same server behind. Neither the
records and counters of the two states nor what else is remembered in them plays a part.
-/

namespace BootstrapApproval

/-- Two states with credentials, with the same server in the same surroundings. -/
structure State.Alike (s t : State) : Prop where
  server : t.server = s.server
  around : t.around = s.around
  equipped : s.isEquipped = true
  equipped' : t.isEquipped = true

namespace Act

variable {α β : Type}

/-- An action that does the same in states that are alike. -/
structure Steady (x : Act α) : Prop where
  agrees : ∀ {s t : State}, s.Alike t → (x t).1 = (x s).1 ∧ (x s).2.Alike (x t).2

namespace Steady

theorem pure (a : α) : Steady (pure a : Act α) := ⟨fun alike => ⟨rfl, alike⟩⟩

theorem raise (e : Raised) : Steady (Act.raise e : Act α) := ⟨fun alike => ⟨rfl, alike⟩⟩

theorem give (r : Except Raised α) : Steady (Act.give r) := by
  cases r with
  | ok a => exact pure a
  | error e => exact raise e

theorem bind {x : Act α} {f : α → Act β} (first : Steady x) (next : ∀ a, Steady (f a)) :
    Steady (x >>= f) := by
  refine ⟨fun {s t} alike => ?_⟩
  obtain ⟨same, after⟩ := first.agrees alike
  rw [bind_apply, bind_apply]
  cases left : x s with
  | mk result s' =>
      cases right : x t with
      | mk result' t' =>
          rw [left, right] at same after
          obtain rfl : result' = result := same
          cases result' with
          | error e => exact ⟨rfl, after⟩
          | ok a => exact (next a).agrees after

theorem attempt {x : Act α} (steady : Steady x) : Steady (Act.attempt x) := by
  refine ⟨fun alike => ?_⟩
  obtain ⟨same, after⟩ := steady.agrees alike
  exact ⟨congrArg Except.ok same, after⟩

theorem log (logger : String) (level : Level) (message : String) (fields : Table Json) :
    Steady (Act.log logger level message fields) :=
  ⟨fun ⟨server, around, equipped, equipped'⟩ => ⟨rfl, server, around, equipped, equipped'⟩⟩

end Steady

end Act

open Act

theorem Client.steady_ensure : Steady Client.ensure := by
  refine ⟨fun alike => ?_⟩
  rw [Client.ensure_of_equipped alike.equipped, Client.ensure_of_equipped alike.equipped']
  exact ⟨rfl, alike⟩

namespace Store

theorem steady_ask (c : Call) (answer : Server → Except Fault Json × Server) :
    Steady (ask c answer) := by
  refine ⟨fun {s t} alike => ?_⟩
  have same : answer t.server = answer s.server := congrArg answer alike.server
  have given : (ask c answer t).1 = (ask c answer s).1 :=
    congrArg (fun a : Except Fault Json × Server => Except.ok a.1) same
  exact ⟨given, congrArg Prod.snd same, alike.around, alike.equipped, alike.equipped'⟩

theorem steady_understand (body : Json) : Steady (understand body) := Steady.give _

theorem steady_read (name : String) : Steady (read name) := by
  refine Steady.bind Client.steady_ensure fun _ => Steady.bind (steady_ask ..) fun answer => ?_
  cases answer with
  | ok body => exact Steady.bind (steady_understand body) fun _ => Steady.pure _
  | error f =>
      dsimp only
      split
      · exact Steady.pure _
      · exact Steady.raise _

theorem steady_lookUp (name : String) : Steady (lookUp name) := by
  refine Steady.bind Client.steady_ensure fun _ => Steady.bind (steady_ask ..) fun answer => ?_
  cases answer with
  | ok entry => exact Steady.pure _
  | error f =>
      dsimp only
      split
      · exact Steady.pure _
      · exact Steady.raise _

theorem steady_submit (r : Request) : Steady (submit r) := by
  refine Steady.bind Client.steady_ensure fun _ => ?_
  cases r.written with
  | error f => exact Steady.raise _
  | ok body =>
      refine Steady.bind (steady_ask ..) fun answer => ?_
      cases answer with
      | ok body => exact steady_understand body
      | error f => exact Steady.raise _

end Store

namespace Reconciler

variable (rc : Reconciler) (name : String)

theorem steady_now : Steady rc.now := by
  refine ⟨fun alike => ?_⟩
  rw [rc.now_snd, rc.now_snd]
  exact ⟨rc.now_of_around alike.around, alike⟩

theorem steady_isRegistered (cluster : String) : Steady (rc.isRegistered name cluster) := by
  refine Steady.bind (Steady.attempt (Store.steady_lookUp cluster)) fun result => ?_
  cases result with
  | ok entry => exact Steady.pure _
  | error e =>
      dsimp only
      split
      · exact Steady.bind (Steady.log ..) fun _ => Steady.pure _
      · exact Steady.raise _

theorem steady_review : Steady (rc.review name) := by
  refine Steady.bind (Steady.bind (Store.steady_read name) fun _ => Steady.pure _) fun read => ?_
  cases read with
  | decided v => exact Steady.pure v
  | candidate r =>
      refine Steady.bind (Steady.bind (rc.steady_isRegistered name _) fun _ => Steady.pure _)
        fun lookedUp => ?_
      cases lookedUp with
      | decided v => exact Steady.pure v
      | candidate r =>
          exact Steady.bind rc.steady_now fun _ =>
            Steady.bind (Store.steady_submit _) fun _ => Steady.pure _

variable {s t : State}

/-- A review starts with the credentials, and goes on in the same way when they are there before. -/
theorem review_ensured (ensured : Client.ensure s = (.ok (), t)) :
    rc.review name s = rc.review name t := by
  have again := Client.ensure_of_equipped (Client.equipped_of_ensure ensured)
  have read : Store.read name s = Store.read name t := by
    unfold Store.read
    rw [bind_ok ensured, bind_ok again]
  have first : readStep name s = readStep name t := by
    rw [readStep, bind_apply, read, ← bind_apply]
  rw [review, bind_apply, first, ← bind_apply]

/-- A review concludes the same from two states with the same server in the same surroundings, when
credentials are there or can be loaded in both of them, or in none. -/
theorem review_agrees (server : t.server = s.server) (around : t.around = s.around)
    (ensured : (Client.ensure t).1 = (Client.ensure s).1) :
    (rc.review name t).1 = (rc.review name s).1 ∧
      (rc.review name t).2.server = (rc.review name s).2.server := by
  have before := Client.quiet_ensure.outside s
  have before' := Client.quiet_ensure.outside t
  cases left : Client.ensure s with
  | mk result s' =>
      cases right : Client.ensure t with
      | mk result' t' =>
          rw [left] at ensured before
          rw [right] at ensured before'
          have servers : t'.server = s'.server := (congrArg Outside.server before').trans
            (server.trans (congrArg Outside.server before).symm)
          obtain rfl : result' = result := ensured
          cases result' with
          | error e =>
              have failed {u u' : State} (without : Client.ensure u = (.error e, u')) :
                  rc.review name u = (.error e, u') :=
                bind_error (bind_error (bind_error without))
              rw [failed left, failed right]
              exact ⟨rfl, servers⟩
          | ok u =>
              have alike : s'.Alike t' := ⟨servers, (congrArg Outside.around before').trans
                (around.trans (congrArg Outside.around before).symm),
                Client.equipped_of_ensure left, Client.equipped_of_ensure right⟩
              obtain ⟨same, after⟩ := (rc.steady_review name).agrees alike
              rw [rc.review_ensured name left, rc.review_ensured name right]
              exact ⟨same, after.server⟩

end Reconciler

end BootstrapApproval
