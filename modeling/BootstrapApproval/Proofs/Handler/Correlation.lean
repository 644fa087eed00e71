import BootstrapApproval.Proofs.Handler.Transcript
import BootstrapApproval.Proofs.Text.Hexadecimal

/-! # Correlation ids of calls

Every call takes a correlation id of its own into use, which no other call has. All its records
carry it but the first: the record about the call itself is handed over before, so it carries the id
of the call before, or of whatever was in use when there was none.
-/

namespace BootstrapApproval

namespace Correlation

theorem id_injective : Function.Injective id := by
  intro m n same
  exact Digits.padded_injective 8 (String.ofList_injective same)

theorem id_ne_empty (n : Nat) : id n ≠ "" := by
  intro empty
  have nothing : Digits.padded 16 8 n = [] := by
    have chars := congrArg String.toList empty
    simpa [id] using chars
  simp [Digits.padded, Digits.write_ne_nil] at nothing

theorem issued_le_ensure (c : Correlation) : c.issued ≤ c.ensure.2.issued := by
  unfold ensure
  split
  · exact Nat.le_succ _
  · exact Nat.le_refl _

end Correlation

namespace Logs

/-- Whether the logger of a record takes it. -/
def taken (l : Logs) (r : Record) : Bool := l.takes r.logger r.level

theorem emit_of_dropped {l : Logs} {r : Record} (dropped : l.taken r = false) : l.emit r = l := by
  have dropped : l.takes r.logger r.level = false := dropped
  simp [emit, dropped]

section OneHandler

variable {l : Logs} {h : Handler} {r : Record} (alone : l.handlers = [h])
  (correlates : h.correlates = true)

include alone correlates

theorem emit_of_taken (taken : l.taken r = true) :
    l.emit r = { l with
      correlation := l.correlation.ensure.2
      output := h.put l.output (r.correlate l.correlation.ensure.1) } := by
  have taken : l.takes r.logger r.level = true := taken
  simp only [emit, taken, if_true, alone, handleAll, handle_of_correlates correlates]

/-- A record that is taken makes sure of an id; one that is not changes nothing. -/
theorem emit_of_correlates (r : Record) : ∃ c : Correlation,
    l.correlation.issued ≤ c.issued ∧ l.emit r = { l with
      correlation := c
      output := (([r].filter l.taken).map (·.correlate l.correlation.ensure.1)).foldl h.put
        l.output } := by
  cases taken : l.taken r with
  | true =>
      rw [List.filter_cons_of_pos taken]
      exact ⟨_, l.correlation.issued_le_ensure, emit_of_taken alone correlates taken⟩
  | false =>
      rw [List.filter_cons_of_neg (by simp [taken])]
      exact ⟨_, Nat.le_refl _, emit_of_dropped taken⟩

/-- Under an id in use, exactly the records that are taken reach the handler, and with this id. -/
theorem emitAll_of_current (current : l.correlation.current ≠ "") (records : List Record) :
    l.emitAll records = { l with
      output := ((records.filter l.taken).map (·.correlate l.correlation.current)).foldl h.put
        l.output } := by
  have ensured := Correlation.ensure_of_current current
  induction records generalizing l with
  | nil => rfl
  | cons r rest ih =>
      cases taken : l.taken r with
      | true =>
          have first := emit_of_taken alone correlates taken
          rw [ensured] at first
          rw [List.filter_cons_of_pos taken, emitAll, List.foldl_cons, first]
          exact ih alone current ensured
      | false =>
          rw [List.filter_cons_of_neg (by simp [taken]), emitAll, List.foldl_cons,
            emit_of_dropped taken]
          exact ih alone current ensured

end OneHandler

end Logs

namespace Handler

/-- What reaches the handler from one call: the record about the call, if it is taken, the records
after it that are taken, and the correlation ids of the one and of the others. -/
structure Batch where
  first : List Record
  firstId : String
  rest : List Record
  id : String

/-- The records of a batch as the handler gets them. -/
def Batch.stamped (b : Batch) : List Record :=
  b.first.map (·.correlate b.firstId) ++ b.rest.map (·.correlate b.id)

/-- A call, with the state that it finds. -/
structure Visit where
  state : State
  name : String
  reason : Option String

def Visit.after (v : Visit) : Except Raised Unit × State := handle v.name v.reason v.state

/-- The batch holds the records of a call that are taken. -/
structure Batch.Holds (taken : Record → Bool) (v : Visit) (b : Batch) : Prop where
  first : b.first = [entryRecord v.name v.reason].filter taken
  rest : ∃ records, Tells v.name v.reason v.state records ∧ b.rest = records.filter taken

variable {h : Handler}

/-- A call uses an id that has never been issued for all its records but the first. -/
theorem exists_batch (correlates : h.correlates = true) (v : Visit)
    (alone : v.state.logs.handlers = [h]) :
    ∃ (b : Batch) (n : Nat), b.Holds v.state.logs.taken v ∧
      b.firstId = v.state.logs.correlation.ensure.1 ∧ b.id = Correlation.id n ∧
      v.state.logs.correlation.issued < n ∧
      v.after.2.logs = { v.state.logs with
        correlation := ⟨Correlation.id n, n⟩
        output := b.stamped.foldl h.put v.state.logs.output } := by
  obtain ⟨records, tells⟩ := tells v.name v.reason v.state
  obtain ⟨c, issued, first⟩ :=
    Logs.emit_of_correlates alone correlates (entryRecord v.name v.reason)
  have renewed : (v.state.logs.emit (entryRecord v.name v.reason)).renewed.handlers = [h] := by
    rw [Logs.handlers_renewed, Logs.handlers_emit, alone]
  have later := Logs.emitAll_of_current renewed correlates (Correlation.id_ne_empty _) records
  have logged := tells.logged.trans later
  rw [first] at logged
  let b : Batch :=
    { first := [entryRecord v.name v.reason].filter v.state.logs.taken
      firstId := v.state.logs.correlation.ensure.1
      rest := records.filter v.state.logs.taken
      id := Correlation.id (c.issued + 1) }
  refine ⟨b, c.issued + 1, ⟨rfl, records, tells, rfl⟩, rfl, rfl, Nat.lt_succ_of_le issued, ?_⟩
  rw [Batch.stamped, List.foldl_append]
  exact logged

/-- Calls one after the other. Between two of them anything may happen but to the logging. -/
inductive Serves (l : Logs) : List Visit → Logs → Prop where
  | nothing : Serves l [] l
  | call {visits : List Visit} (v : Visit) (before : Serves l visits v.state.logs) :
      Serves l (visits ++ [v]) v.after.2.logs

/-- What the batches of some calls are like, from the logging before to the logging after them. -/
structure Batches (h : Handler) (l : Logs) (visits : List Visit) (batches : List Batch)
    (m : Logs) : Prop where
  handlers : m.handlers = l.handlers
  taken : m.taken = l.taken
  output : m.output = (batches.flatMap Batch.stamped).foldl h.put l.output
  holds : List.Forall₂ (Batch.Holds l.taken) visits batches
  issued : ∀ b ∈ batches, ∃ n, b.id = Correlation.id n ∧ n ≤ m.correlation.issued
  distinct : (batches.map Batch.id).Nodup
  /-- The record about each call has the id of the call before. -/
  chained : batches.map Batch.firstId ++ [m.correlation.ensure.1] =
    l.correlation.ensure.1 :: batches.map Batch.id

/-- The batches of a sequence of calls, by induction on the sequence. -/
theorem Serves.exists_batches (correlates : h.correlates = true) {l m : Logs}
    {visits : List Visit} (alone : l.handlers = [h]) (serves : Serves l visits m) :
    ∃ batches, Batches h l visits batches m := by
  induction serves with
  | nothing =>
      exact ⟨[], rfl, rfl, rfl, .nil, fun _ member => (nomatch member), .nil, rfl⟩
  | @call visits v before ih =>
      obtain ⟨batches, earlier⟩ := ih
      obtain ⟨b, n, holds, firstId, id, fresh, logs⟩ :=
        exists_batch correlates v (earlier.handlers.trans alone)
      have unused : ∀ a ∈ batches, a.id ≠ b.id := by
        intro a member same
        obtain ⟨k, issued, below⟩ := earlier.issued a member
        rw [issued, id] at same
        have := Correlation.id_injective same
        omega
      have current : v.after.2.logs.correlation.ensure.1 = b.id := by
        rw [logs, id, Correlation.ensure_of_current (Correlation.id_ne_empty n)]
      refine ⟨batches ++ [b], ?_, ?_, ?_, ?_, ?_, ?_, ?_⟩
      · rw [logs]
        exact earlier.handlers
      · rw [logs]
        exact earlier.taken
      · rw [logs, List.flatMap_append, List.foldl_append, ← earlier.output,
          List.flatMap_singleton]
      · rw [earlier.taken] at holds
        exact List.rel_append earlier.holds (.cons holds .nil)
      · intro a member
        rw [logs]
        rcases List.mem_append.mp member with old | new
        · obtain ⟨k, issued, below⟩ := earlier.issued a old
          exact ⟨k, issued, Nat.le_of_lt (Nat.lt_of_le_of_lt below fresh)⟩
        · obtain rfl := List.mem_singleton.mp new
          exact ⟨n, id, Nat.le_refl n⟩
      · rw [List.map_append, List.map_singleton, List.nodup_append]
        refine ⟨earlier.distinct, by simp, fun i member j last => ?_⟩
        obtain ⟨a, inside, rfl⟩ := List.mem_map.mp member
        obtain rfl := List.mem_singleton.mp last
        exact unused a inside
      · rw [current, List.map_append, List.map_append, List.map_singleton, firstId,
          earlier.chained]
        rfl

/-- Over every sequence of calls, whatever they end with, each call has a correlation id that no
other call has, and all its records carry it but the first. The record about a call carries the id
of the call before; the first one of all carries the id that is in use before, or a new one. -/
theorem correlated_but_first (h : Handler) (correlates : h.correlates = true) (l m : Logs)
    (visits : List Visit) (alone : l.handlers = [h]) (serves : Serves l visits m) :
    ∃ batches : List Batch,
      List.Forall₂ (Batch.Holds l.taken) visits batches ∧
      m.output = (batches.flatMap Batch.stamped).foldl h.put l.output ∧
      (∀ b ∈ batches, b.id ≠ "") ∧ (batches.map Batch.id).Nodup ∧
      batches.map Batch.firstId ++ [m.correlation.ensure.1] =
        l.correlation.ensure.1 :: batches.map Batch.id := by
  obtain ⟨batches, all⟩ := serves.exists_batches correlates alone
  refine ⟨batches, all.holds, all.output, fun b member => ?_, all.distinct, all.chained⟩
  obtain ⟨n, issued, -⟩ := all.issued b member
  exact issued ▸ Correlation.id_ne_empty n

/-- A handler that keeps every record and puts the correlation id on it. -/
def tracer : Handler := ⟨.kept, true, false⟩

/-- A state in which nothing fails, with every record kept under its correlation id. -/
def traced (server : Server) : State :=
  { State.steady server with logs := { Logs.initial with handlers := [tracer] } }

def firstVisit : Visit := ⟨traced .empty, "a", some "create"⟩

/-- A call on what the first one leaves behind. -/
def secondVisit : Visit := ⟨firstVisit.after.2, "b", none⟩

theorem correlated_but_first_twice :
    ∃ batches : List Batch, batches.length = 2 ∧ (∀ b ∈ batches, b.id ≠ "") ∧
      (batches.map Batch.id).Nodup := by
  have once := Serves.call firstVisit .nothing
  have serves := Serves.call secondVisit once
  obtain ⟨batches, holds, -, named, distinct, -⟩ :=
    correlated_but_first tracer rfl _ _ _ rfl serves
  exact ⟨batches, holds.length_eq.symm, named, distinct⟩

/-- The record about a call has another id than the other records of the call, and the one about
the next call has the id of this one. -/
theorem entryRecord_uncorrelated :
    (handle "a" (some "create") (traced .empty)).2.logs.output.kept.map Record.correlation =
        [.str "00000001", .str "00000002", .str "00000002", .str "00000002"] ∧
      (handle "b" none (handle "a" (some "create") (traced .empty)).2).2.logs.output.kept.map
          Record.correlation =
        [.str "00000001", .str "00000002", .str "00000002", .str "00000002",
          .str "00000002", .str "00000003", .str "00000003", .str "00000003"] :=
  ⟨rfl, rfl⟩

end Handler

end BootstrapApproval
