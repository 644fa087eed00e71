import BootstrapApproval.Proofs.Interleaving.Origins
import BootstrapApproval.Proofs.Request.Decisions

/-! # Decisions are final

Reviews come one after the other, and the others keep every decision. Then a request that has been
decided stays decided, and no review that starts later writes it. Versions play no part in this, so
it holds for requests without any, too.
-/

namespace BootstrapApproval

open Server

namespace Server

/-- Whatever is stored anew keeps the decision of what was stored, or is the first under its
name. -/
def Keeps (seen : List Server) (s s' : Server) : Prop :=
  ∀ name body, s'.requests.find? name = some body →
    s.requests.find? name = some body ∨ (nameOf body = name ∧ ∃ t, body = .obj t) ∧
      ((∃ before, s.requests.find? name = some before ∧
          (before.isDecided = true → body.isDecided = true)) ∨
        ∀ old ∈ seen, old.requests.find? name = none)

/-- Nothing but decided bodies is stored under a name. -/
def Decided (s : Server) (name : String) : Prop :=
  ∀ body, s.requests.find? name = some body → body.isDecided = true

def Knows (s : Server) (name : String) : Prop := ∃ body, s.requests.find? name = some body

variable {seen : List Server} {s s' s'' : Server} {name : String}

namespace Keeps

theorem of_requests_eq (same : s'.requests = s.requests) : Keeps seen s s' :=
  fun _ _ found => .inl (same ▸ found)

theorem congr (keeps : Keeps seen s s') (same : s''.requests = s'.requests) : Keeps seen s s'' :=
  fun name body found => keeps name body (same ▸ found)

theorem named (keeps : Keeps seen s s') (named : s.Named) : s'.Named := by
  intro name body found
  rcases keeps name body found with same | ⟨own, -⟩
  · exact named name body same
  · exact own

theorem decided (keeps : Keeps seen s s') (known : ∃ old ∈ seen, old.Knows name)
    (decided : s.Decided name) : s'.Decided name := by
  intro body found
  rcases keeps name body found with same | ⟨-, ⟨before, stored, kept⟩ | first⟩
  · exact decided body same
  · exact kept (decided before stored)
  · obtain ⟨old, member, stored, was⟩ := known
    simp [first old member] at was

end Keeps

/-- An approval keeps every decision, because it is one. -/
theorem keeps_replace (seen : List Server) (s : Server) (r : Request) (now : Timestamp) :
    Keeps seen s (s.replace r.name (r.approve now).body).2 := by
  cases answered : (s.replace r.name (r.approve now).body).1 with
  | error f => exact .of_requests_eq (requests_replace_of_error answered)
  | ok answer =>
      obtain ⟨before, found, -, rfl, after⟩ := replace_eq_ok answered
      intro name body stored
      rw [after] at stored
      by_cases same : name = r.name
      · subst same
        obtain rfl := Option.some.inj ((Table.find?_insert_self ..).symm.trans stored)
        exact .inr ⟨⟨nameOf_withVersion .., _, rfl⟩,
          .inl ⟨before, found, fun _ => r.isDecided_approve now _⟩⟩
      · exact .inl ((Table.find?_insert_of_ne _ _ same).symm.trans stored)

end Server

def Progress.isEnded : Progress → Bool
  | .ended _ => true
  | _ => false

/-- A review that will not write under a name. -/
def Flight.Spares (f : Flight) (name : String) : Prop :=
  match f.progress with
  | .read r => r.name = name → r.resolution? ≠ none
  | .cleared r => r.name ≠ name
  | _ => True

theorem Flight.Spares.of_ended {f : Flight} (ended : f.progress.isEnded = true) (name : String) :
    f.Spares name := by
  unfold Spares
  cases progress : f.progress with
  | called | ended => trivial
  | read | cleared => simp [progress, Progress.isEnded] at ended

namespace World

/-- What respects decisions: others keep them, also just before a look-up is answered. -/
def Respects (w : World) : Move → Prop
  | .edit server => Keeps w.seen w.server server
  | .start _ _ => True
  | .advance i _ =>
      ∀ f r, w.flights[i]? = some f → f.progress = .read r → Keeps w.seen w.server w.server.race

/-- What happens in turn: a review starts only when all others have ended. -/
def InTurn (w : World) : Move → Prop
  | .start _ _ => ∀ f ∈ w.flights, f.progress.isEnded = true
  | _ => True

def Orderly (w : World) : List Move → Prop
  | [] => True
  | m :: moves => w.Respects m ∧ w.InTurn m ∧ (w.move m).Orderly moves

variable {w : World} {name : String} {k : Nat}

theorem orderly_append {early late : List Move} :
    w.Orderly (early ++ late) ↔ w.Orderly early ∧ (w.run early).Orderly late := by
  induction early generalizing w with
  | nil => exact ⟨fun orderly => ⟨trivial, orderly⟩, And.right⟩
  | cons m early ih =>
      change _ ∧ _ ∧ (w.move m).Orderly (early ++ late) ↔
        (_ ∧ _ ∧ (w.move m).Orderly early) ∧ ((w.move m).run early).Orderly late
      rw [ih, and_assoc, and_assoc]

theorem seen_move (w : World) (m : Move) :
    w.seen ⊆ (w.move m).seen ∧ (w.server ∈ w.seen → (w.move m).server ∈ (w.move m).seen) := by
  cases m with
  | edit server => exact ⟨List.subset_cons_self .., fun _ => List.mem_cons_self⟩
  | start rc name => exact ⟨List.Subset.refl _, id⟩
  | advance i here =>
      rcases w.trace_advance i here with same | ⟨seen, -⟩
      · rw [same]
        exact ⟨List.Subset.refl _, id⟩
      · rw [seen]
        exact ⟨List.subset_cons_self .., fun _ => List.mem_cons_self⟩

/-- Whatever happens next keeps every decision. -/
theorem keeps_move {m : Move} (respects : w.Respects m) :
    Keeps w.seen w.server (w.move m).server := by
  cases m with
  | edit server => exact respects
  | start rc name => exact .of_requests_eq rfl
  | advance i here =>
      cases found : w.flights[i]? with
      | none => exact .of_requests_eq (by simp [move, found])
      | some f =>
          have raced := respects f
          obtain ⟨rc, name, p⟩ := f
          have taken := takes_advance here found
          generalize w.move (.advance i here) = w' at taken ⊢
          cases taken with
          | ends => exact .of_requests_eq rfl
          | refuses | reads => exact .of_requests_eq (requests_read w.server name)
          | rejects | clears => exact (raced _ found rfl).congr (requests_lookUp ..)
          | commits => exact keeps_replace _ _ _ _

/-- Nothing more will be written under a name: all that is stored there is decided, and no review
from one on will write it. -/
structure Final (w : World) (name : String) (k : Nat) : Prop where
  known : ∃ old ∈ w.seen, old.Knows name
  decided : w.server.Decided name
  reviews : ∀ (i : Nat) (f : Flight), w.flights[i]? = some f → k ≤ i → f.Spares name

/-- What a review does next when it spares a name: it still spares it, and has written nothing
there. -/
theorem spares_advance {i : Nat} (here : State) {f : Flight} (found : w.flights[i]? = some f)
    (named : w.server.Named) (decided : w.server.Decided name) (spares : f.Spares name) :
    ∃ p later, (w.move (.advance i here)).flights = w.flights.set i { f with progress := p } ∧
      (w.move (.advance i here)).trace = w.trace ++ later ∧
      Flight.Spares { f with progress := p } name ∧ ∀ x ∈ later, x.call.writes name = false := by
  obtain ⟨rc, own, p⟩ := f
  have taken := takes_advance here found
  generalize w.move (.advance i here) = w' at taken ⊢
  cases taken with
  | ends =>
      exact ⟨_, [], rfl, (List.append_nil _).symm, trivial, by simp⟩
  | refuses | rejects =>
      exact ⟨_, _, rfl, rfl, trivial, by simp [Call.writes]⟩
  | @reads body r answer understood live labelled =>
      refine ⟨_, _, rfl, rfl, ?_, by simp [Call.writes]⟩
      have stored := read_eq_ok answer
      obtain ⟨rightly, t, rfl⟩ := named own body stored
      have same : r.name = own := (Request.name_of_understood understood).trans rightly
      intro mine undecided
      obtain rfl : own = name := same.symm.trans mine
      have open_ := (Request.isDecided_eq_false_iff understood).mpr undecided
      exact Bool.noConfusion (open_.symm.trans (decided _ stored))
  | @clears r entry answer undecided earnest =>
      exact ⟨_, _, rfl, rfl, fun same => spares same undecided, by simp [Call.writes]⟩
  | @commits r now shown =>
      refine ⟨_, _, rfl, rfl, trivial, ?_⟩
      change r.name ≠ name at spares
      simp [Call.writes, spares]

/-- A step of a review changes this review only, which stays ended once it is, and all that it adds
to the trace is its own. -/
theorem own_advance {i : Nat} (here : State) {f : Flight} (found : w.flights[i]? = some f) :
    ∃ p later, (w.move (.advance i here)).flights = w.flights.set i { f with progress := p } ∧
      (w.move (.advance i here)).trace = w.trace ++ later ∧ (∀ x ∈ later, x.flight = i) ∧
      (f.progress.isEnded = true → p.isEnded = true) := by
  rw [move_advance found]
  refine ⟨_, _, rfl, rfl, fun x member => ?_, fun ended => ?_⟩
  · obtain ⟨c, -, rfl⟩ := List.mem_map.mp member
    rfl
  · cases progress : f.progress with
    | ended result => rfl
    | called | read | cleared => simp [progress, Progress.isEnded] at ended

/-- An accepted write ends its review, and it leaves a decision. -/
theorem accepted_advance {i : Nat} {here : State} {f : Flight} {x : Exchange}
    (found : w.flights[i]? = some f)
    (trace : (w.move (.advance i here)).trace = w.trace ++ [x]) (accepted : x.Accepts name) :
    f.progress.isEnded = false ∧
      (∃ result, (w.move (.advance i here)).flights =
        w.flights.set i { f with progress := .ended result }) ∧
      ∃ stored, (w.move (.advance i here)).server.requests.find? name = some stored ∧
        stored.isDecided = true := by
  obtain ⟨sent, answer, call, answered⟩ := accepted
  obtain ⟨rc, own, p⟩ := f
  have taken := takes_advance here found
  generalize w.move (.advance i here) = w' at taken trace ⊢
  cases taken with
  | ends => simp [rested] at trace
  | refuses | reads | rejects | clears =>
      obtain rfl := List.singleton_inj.mp (List.append_cancel_left trace)
      exact Call.noConfusion call
  | @commits r now shown =>
      obtain rfl := List.singleton_inj.mp (List.append_cancel_left trace)
      obtain ⟨rfl, rfl⟩ := Call.replace.inj call
      obtain ⟨before, -, -, made, after⟩ := replace_eq_ok answered
      have written :
          (w.server.replace r.name (r.approve now).body).2 = w.server.storeAs r.name answer := after
      refine ⟨rfl, ⟨_, rfl⟩, answer, ?_, ?_⟩
      · simp only [asked, respond, written]
        exact Table.find?_insert_self ..
      · rw [made]
        exact r.isDecided_approve now _

namespace Final

/-- Nothing is written under a name that is final, and it stays final. -/
theorem move (final : w.Final name k) (named : w.server.Named) {m : Move}
    (respects : w.Respects m) :
    (w.move m).Final name k ∧ ∃ later, (w.move m).trace = w.trace ++ later ∧
      ∀ x ∈ later, k ≤ x.flight → x.call.writes name = false := by
  have known : ∃ old ∈ (w.move m).seen, old.Knows name := by
    obtain ⟨old, member, knows⟩ := final.known
    exact ⟨old, (w.seen_move m).1 member, knows⟩
  have decided := (keeps_move respects).decided final.known final.decided
  cases m with
  | edit server =>
      exact ⟨⟨known, decided, final.reviews⟩, [], (List.append_nil _).symm, by simp⟩
  | start rc own =>
      refine ⟨⟨known, decided, ?_⟩, [], (List.append_nil _).symm, by simp⟩
      exact forall_flight_append final.reviews fun _ => trivial
  | advance i here =>
      cases found : w.flights[i]? with
      | none =>
          have same : w.move (.advance i here) = w := by simp [World.move, found]
          rw [same]
          exact ⟨final, [], (List.append_nil _).symm, by simp⟩
      | some f =>
          by_cases late : k ≤ i
          · obtain ⟨p, later, flights, trace, spares, unwritten⟩ :=
              spares_advance here found named final.decided (final.reviews i f found late)
            refine ⟨⟨known, decided, ?_⟩, later, trace, fun x member _ => unwritten x member⟩
            rw [flights]
            exact forall_flight_set (fun _ => spares) fun j g _ => final.reviews j g
          · obtain ⟨p, later, flights, trace, own, -⟩ := own_advance here found
            refine ⟨⟨known, decided, ?_⟩, later, trace, ?_⟩
            · rw [flights]
              exact forall_flight_set (fun after => absurd after late) fun j g _ =>
                final.reviews j g
            · intro x member later
              exact absurd (own x member ▸ later) late

theorem run (final : w.Final name k) (named : w.server.Named) {moves : List Move}
    (orderly : w.Orderly moves) :
    (w.run moves).Final name k ∧ ∃ later, (w.run moves).trace = w.trace ++ later ∧
      ∀ x ∈ later, k ≤ x.flight → x.call.writes name = false := by
  induction moves generalizing w with
  | nil => exact ⟨final, [], (List.append_nil _).symm, by simp⟩
  | cons m moves ih =>
      obtain ⟨respects, -, rest⟩ := orderly
      obtain ⟨next, new, trace, unwritten⟩ := final.move named respects
      obtain ⟨last, later, trace', unwritten'⟩ :=
        ih next ((keeps_move respects).named named) rest
      refine ⟨last, new ++ later, ?_, ?_⟩
      · change ((w.move m).run moves).trace = _
        rw [trace', trace, List.append_assoc]
      · intro x member
        rcases List.mem_append.mp member with first | second
        · exact unwritten x first
        · exact unwritten' x second

end Final

/-- What holds in a run of one review after the other: at most one of them is under way, and what
has been approved is final. -/
structure Serial (w : World) : Prop where
  named : w.server.Named
  present : w.server ∈ w.seen
  past : ∀ x ∈ w.trace, x.before.Named
  alone : ∀ (i : Nat) (f : Flight), w.flights[i]? = some f → f.progress.isEnded = false →
    ∀ (j : Nat) (g : Flight), w.flights[j]? = some g → j ≠ i → g.progress.isEnded = true
  approved : ∀ x ∈ w.trace, ∀ name, x.Accepts name → w.Final name 0
  once : w.trace.Pairwise fun x y => ∀ name, ¬ (x.Accepts name ∧ y.Accepts name)

namespace Serial

theorem opened {s : Server} (named : s.Named) : (World.opened s).Serial where
  named := named
  present := List.mem_singleton_self s
  past := by simp [World.opened]
  alone := by simp [World.opened]
  approved := by simp [World.opened]
  once := .nil

theorem edit (serial : w.Serial) {server : Server} (respects : w.Respects (.edit server)) :
    (w.move (.edit server)).Serial where
  named := (keeps_move respects).named serial.named
  present := List.mem_cons_self
  past := serial.past
  alone := serial.alone
  approved x member name accepted :=
    ((serial.approved x member name accepted).move serial.named respects).1
  once := serial.once

theorem start (serial : w.Serial) {rc : Reconciler} {own : String}
    (inTurn : w.InTurn (.start rc own)) : (w.move (.start rc own)).Serial where
  named := serial.named
  present := serial.present
  past := serial.past
  alone := by
    have ended (j : Nat) (g : Flight) (found : w.flights[j]? = some g) :
        g.progress.isEnded = true := inTurn g (List.mem_of_getElem? found)
    refine forall_flight_append ?_ ?_
    · intro j g found open_
      rw [ended j g found] at open_
      exact Bool.noConfusion open_
    · intro _
      refine forall_flight_append (fun j g found _ => ended j g found) ?_
      exact fun other => absurd rfl other
  approved x member name accepted :=
    ((serial.approved x member name accepted).move (m := .start rc own) serial.named trivial).1
  once := serial.once

theorem advance (serial : w.Serial) {i : Nat} {here : State}
    (respects : w.Respects (.advance i here)) : (w.move (.advance i here)).Serial := by
  cases found : w.flights[i]? with
  | none => simpa [World.move, found] using serial
  | some f =>
      have later (x : Exchange) (member : x ∈ w.trace) (name : String)
          (accepted : x.Accepts name) :=
        (serial.approved x member name accepted).move serial.named respects
      obtain ⟨p, -, flights, -, -, stays⟩ := own_advance here found
      have alone : ∀ (j : Nat) (g : Flight), (w.move (.advance i here)).flights[j]? = some g →
          g.progress.isEnded = false →
            ∀ (k : Nat) (h : Flight), (w.move (.advance i here)).flights[k]? = some h → k ≠ j →
              h.progress.isEnded = true := by
        rw [flights]
        refine forall_flight_set ?_ ?_
        · intro open_
          refine forall_flight_set (fun other => absurd rfl other) fun k h _ => ?_
          refine serial.alone i f found ?_ k h
          change p.isEnded = false at open_
          cases ended : f.progress.isEnded with
          | true => exact Bool.noConfusion (open_.symm.trans (stays ended))
          | false => rfl
        · intro j g other inside open_
          refine forall_flight_set (fun _ => ?_) fun k h _ => serial.alone j g inside open_ k h
          exact stays (serial.alone j g inside open_ i f found (Ne.symm other))
      have named := (keeps_move respects).named serial.named
      have present := (w.seen_move (.advance i here)).2 serial.present
      have approved (x : Exchange) (member : x ∈ w.trace) (name : String)
          (accepted : x.Accepts name) := (later x member name accepted).1
      rcases w.trace_advance i here with same | ⟨-, same | ⟨x, trace, before, -⟩⟩
      · rwa [same]
      · exact ⟨named, present, same ▸ serial.past, alone, same ▸ approved, same ▸ serial.once⟩
      · refine ⟨named, present, ?_, alone, ?_, ?_⟩
        · rw [trace]
          intro y member
          rcases List.mem_append.mp member with member | last
          · exact serial.past y member
          · rw [List.mem_singleton.mp last, before]
            exact serial.named
        · rw [trace]
          intro y member name accepted
          rcases List.mem_append.mp member with member | last
          · exact approved y member name accepted
          · rw [List.mem_singleton.mp last] at accepted
            obtain ⟨open_, ⟨result, ended⟩, stored, held, decided⟩ :=
              accepted_advance found trace accepted
            refine ⟨⟨_, present, stored, held⟩, ?_, ?_⟩
            · intro body again
              rwa [← Option.some.inj (held.symm.trans again)]
            · -- the review that has written has ended, and no other one was under way
              rw [ended]
              refine forall_flight_set (fun _ => trivial) fun j g other inside _ => ?_
              exact .of_ended (serial.alone i f found open_ j g inside other) name
        · rw [trace, List.pairwise_append]
          refine ⟨serial.once, List.pairwise_singleton .., ?_⟩
          rintro y member z last name ⟨accepted, again⟩
          obtain rfl := List.mem_singleton.mp last
          obtain ⟨-, rest, trace', unwritten⟩ := later y member name accepted
          obtain rfl := List.append_cancel_left (trace'.symm.trans trace)
          obtain ⟨sent, answer, call, -⟩ := again
          have written := unwritten z (List.mem_singleton_self z) (Nat.zero_le _)
          simp [call, Call.writes] at written

theorem run (serial : w.Serial) {moves : List Move} (orderly : w.Orderly moves) :
    (w.run moves).Serial := by
  induction moves generalizing w with
  | nil => exact serial
  | cons m moves ih =>
      obtain ⟨respects, inTurn, rest⟩ := orderly
      refine ih ?_ rest
      cases m with
      | edit server => exact serial.edit respects
      | start rc own => exact serial.start inTurn
      | advance i here => exact serial.advance respects

end Serial

theorem run_append (w : World) (early late : List Move) :
    w.run (early ++ late) = (w.run early).run late :=
  List.foldl_append

/-- What has been decided when a run has come so far is final for the reviews that start later. -/
theorem Final.of_decided {body : Json} (present : w.server ∈ w.seen)
    (stored : w.server.requests.find? name = some body) (decided : body.isDecided = true) :
    w.Final name w.flights.length where
  known := ⟨w.server, present, body, stored⟩
  decided again found := by rwa [← Option.some.inj (stored.symm.trans found)]
  reviews i f found late := absurd (List.getElem?_eq_some_iff.mp found).1 (Nat.not_lt.mpr late)

end World

/-- A review stores what it has read with one condition more, the approval. -/
structure Exchange.Approves (earlier : List Exchange) (x : Exchange) (name : String)
    (body stored : Json) : Prop where
  reads : ∃ y ∈ earlier, y.flight = x.flight ∧ y.call = .read name ∧ y.answer = .ok body
  stores : x.after.requests.find? name = some stored
  types : stored.conditionTypes = body.conditionTypes ++ [.str "Approved"]

theorem Exchange.Origin.approves {earlier : List Exchange} {x : Exchange} {own name : String}
    {sent body : Json} {r : Request} (origin : x.Origin earlier own name sent body r)
    (named : ∀ y ∈ earlier, y.before.Named) (call : x.call = .replace name sent) {answer : Json}
    (accepted : x.answer = .ok answer) : ∃ stored, x.Approves earlier name body stored := by
  obtain ⟨y, member, same, reads, answered⟩ := origin.watch.read
  obtain ⟨now, rfl⟩ := origin.made
  have kept : (y.before.read own).1 = .ok body := by rwa [Exchange.answer, reads] at answered
  obtain ⟨rightly, t, rfl⟩ := named y member own body (read_eq_ok kept)
  obtain rfl : name = own :=
    origin.own.trans ((Request.name_of_understood origin.watch.understood).trans rightly)
  have written : (x.before.replace name (r.approve now).body).1 = .ok answer := by
    rwa [Exchange.answer, call] at accepted
  obtain ⟨before, -, -, made, after⟩ := replace_eq_ok written
  refine ⟨answer, ⟨y, member, same, reads, answered⟩, ?_, ?_⟩
  · rw [origin.after, after]
    exact Table.find?_insert_self ..
  · rw [made, Request.conditionTypes_approve,
      Request.conditionTypes_of_understood origin.watch.understood]

/-- Every request is stored as an object, under its own name. Then, among reviews that come one
after the other, and others that keep every decision, a decision is final: from then on no event
about the request is accepted, and no review that starts writes it. So at most one approval is ever
accepted for a request, and right after it the request has the conditions that the review has read,
and the approval. -/
theorem decisions_are_final {s : Server} (named : s.Named) {early late : List Move}
    (orderly : (World.opened s).Orderly (early ++ late)) :
    let w := (World.opened s).run early
    let w' := (World.opened s).run (early ++ late)
    (∀ name body, w.server.requests.find? name = some body → body.isDecided = true →
      acceptsEvent body = false ∧
      (∀ later, w'.server.requests.find? name = some later → acceptsEvent later = false) ∧
      ∃ rest, w'.trace = w.trace ++ rest ∧
        ∀ x ∈ rest, w.flights.length ≤ x.flight → ∀ sent, x.call ≠ .replace name sent) ∧
    (∀ name, w'.trace.Pairwise fun x y => ¬ (x.Accepts name ∧ y.Accepts name)) ∧
    ∀ front x back name, w'.trace = front ++ x :: back → x.Accepts name →
      ∃ body stored, x.Approves front name body stored := by
  intro w w'
  have whole : w' = w.run late := World.run_append ..
  have first := (World.Serial.opened named).run (World.orderly_append.mp orderly).1
  have second := (World.Serial.opened named).run orderly
  have refuses (u : World) (serial : u.Serial) (name : String) (body : Json)
      (stored : u.server.requests.find? name = some body) (decided : body.isDecided = true) :
      acceptsEvent body = false := by
    obtain ⟨-, t, rfl⟩ := serial.named name body stored
    exact Request.acceptsEvent_of_decided decided
  refine ⟨fun name body stored decided => ?_,
    fun name => second.once.imp fun never => never name, ?_⟩
  · have final := World.Final.of_decided first.present stored decided
    obtain ⟨last, rest, trace, unwritten⟩ :=
      final.run first.named (World.orderly_append.mp orderly).2
    refine ⟨refuses w first name body stored decided, ?_, rest, whole ▸ trace, ?_⟩
    · intro later found
      exact refuses w' second name later found (last.decided later (whole ▸ found))
    · intro x member starts sent call
      have written := unwritten x member starts
      simp [call, Call.writes] at written
  · rintro front x back name happened ⟨sent, answer, call, accepted⟩
    obtain ⟨own, body, r, origin⟩ :=
      ((World.Traced.opened s).run (early ++ late)).writes front x back happened name sent call
    have past : ∀ y ∈ front, y.before.Named := by
      intro y member
      refine second.past y ?_
      rw [show ((World.opened s).run (early ++ late)).trace = _ from happened]
      exact List.mem_append_left _ member
    obtain ⟨stored, approves⟩ := origin.approves past call accepted
    exact ⟨body, stored, approves⟩

theorem World.respects_calm {w : World} {i : Nat} {here : State}
    (calm : w.server.rival.isNone = true) : w.Respects (.advance i here) := by
  intro f r _ _
  rw [Option.isNone_iff_eq_none] at calm
  exact .of_requests_eq (by rw [race, calm])

theorem World.inTurn_of_ended {w : World} {rc : Reconciler} {name : String}
    (ended : (w.flights.all fun f => f.progress.isEnded) = true) : w.InTurn (.start rc name) :=
  fun f member => List.all_eq_true.mp ended f member

/-- A review from its start to its end. -/
def fullReview (i : Nat) : List Move :=
  let here := State.steady .empty
  [.start .steady "a", .advance i here, .advance i here, .advance i here]

/-- A request without a version that waits for its approval. -/
def unversioned : Server := .holding (willing [] [] [])

/-- The approved request, denied by somebody else. -/
def reconsidered : Server :=
  .holding (willing [] [.obj [("type", .str "Approved")], .obj [("type", .str "Denied")]] [])

def secondThoughts : List Move := .edit reconsidered :: fullReview 1

theorem orderly_fullReview {w : World} (i : Nat)
    (ended : (w.flights.all fun f => f.progress.isEnded) = true)
    (calm : ∀ j ≤ 2, (w.run ((fullReview i).take (j + 1))).server.rival.isNone = true) :
    w.Orderly (fullReview i) :=
  ⟨trivial, World.inTurn_of_ended ended, World.respects_calm (calm 0 (by decide)), trivial,
    World.respects_calm (calm 1 (by decide)), trivial, World.respects_calm (calm 2 (by decide)),
    trivial, trivial⟩

theorem keeps_reconsidered (seen : List Server) :
    Keeps seen ((World.opened unversioned).run (fullReview 0)).server reconsidered := by
  intro name body found
  obtain ⟨before, stored⟩ : ∃ before,
      ((World.opened unversioned).run (fullReview 0)).server.requests.find? "a" = some before :=
    Option.isSome_iff_exists.mp (by decide +kernel)
  obtain ⟨rfl, rfl⟩ : name = "a" ∧ body = _ := by
    simpa [reconsidered, holding] using Table.mem_of_find? found
  exact .inr ⟨⟨rfl, _, rfl⟩, .inl ⟨before, stored, fun _ => by decide +kernel⟩⟩

theorem orderly_secondThoughts :
    (World.opened unversioned).Orderly (fullReview 0 ++ secondThoughts) :=
  World.orderly_append.mpr
    ⟨orderly_fullReview 0 (by decide +kernel) (by decide +kernel), keeps_reconsidered _, trivial,
      orderly_fullReview 1 (by decide +kernel) (by decide +kernel)⟩

/-- The first review approves the request, the second one leaves it alone. -/
theorem decisions_are_final_reconsidered :
    (∃ x ∈ ((World.opened unversioned).run (fullReview 0 ++ secondThoughts)).trace,
      x.Accepts "a") ∧
    ∃ body, ((World.opened unversioned).run (fullReview 0)).server.requests.find? "a" = some body ∧
      body.isDecided = true ∧ acceptsEvent body = false ∧
      ∃ rest, ((World.opened unversioned).run (fullReview 0 ++ secondThoughts)).trace =
          ((World.opened unversioned).run (fullReview 0)).trace ++ rest ∧
        ∀ x ∈ rest, 1 ≤ x.flight → ∀ sent, x.call ≠ .replace "a" sent := by
  have named : unversioned.Named := Server.named_holding rfl
  obtain ⟨final, -, -⟩ := decisions_are_final named orderly_secondThoughts
  obtain ⟨body, stored, decided⟩ : ∃ body,
      ((World.opened unversioned).run (fullReview 0)).server.requests.find? "a" = some body ∧
        body.isDecided = true := by
    have held : (((World.opened unversioned).run (fullReview 0)).server.requests.find? "a").any
        Json.isDecided = true := by decide +kernel
    simpa only [Option.any_eq_true] using held
  obtain ⟨refused, -, rest, trace, unwritten⟩ := final "a" body stored decided
  exact ⟨by decide +kernel, body, stored, decided, refused, rest, trace, unwritten⟩

end BootstrapApproval
