import BootstrapApproval.Logging.OperatorLog

/-! # Records that are handed to logging

What an action logs is the list of records that it hands over, whatever the levels and the handlers
make of them. Handing records over changes the correlation id and the output, and nothing else.
-/

namespace BootstrapApproval

namespace Record

/-- The step of a reconciliation that a record tells of, if it tells of one. -/
def operation? (r : Record) : Option Json := r.fields.find? "operation"

/-- Whether a record tells of a step at all. -/
def tells (r : Record) : Bool := r.operation?.isSome

def tellsOf (operation : String) (r : Record) : Bool := r.operation? == some (.str operation)

theorem tells_of_tellsOf {operation : String} {r : Record} (tellsOf : r.tellsOf operation = true) :
    r.tells = true := by
  have operation := beq_iff_eq.mp tellsOf
  rw [tells, operation]
  rfl

end Record

namespace Logs

/-- The logging after some records have been handed to it in turn. In between, another correlation
id may come into use. -/
inductive Emits (l : Logs) : List Record → Logs → Prop where
  | nothing : Emits l [] l
  | record {m : Logs} {records : List Record} (before : Emits l records m) (r : Record) :
      Emits l (records ++ [r]) (m.emit r)
  | correlated {m : Logs} {records : List Record} (before : Emits l records m)
      (c : Correlation) : Emits l records { m with correlation := c }

theorem handlers_emit (l : Logs) (r : Record) : (l.emit r).handlers = l.handlers := by
  unfold emit
  split <;> rfl

theorem takes_emit (l : Logs) (r : Record) : (l.emit r).takes = l.takes := by
  unfold emit
  split <;> rfl

/-- A logging that only keeps what it takes keeps a record exactly when it takes it. -/
theorem kept_emit {l : Logs} (keeps : l.handlers = [keeper]) (r : Record) :
    (l.emit r).output.kept = l.output.kept ++ [r].filter fun r => l.takes r.logger r.level := by
  unfold emit
  cases taken : l.takes r.logger r.level with
  | true => simp [keeps, handleAll, handle, keeper, Output.add, taken]
  | false => simp [taken]

namespace Emits

variable {l m n : Logs} {first second : List Record}

theorem one (l : Logs) (r : Record) : Emits l [r] (l.emit r) := nothing.record r

theorem append (before : Emits l first m) (after : Emits m second n) :
    Emits l (first ++ second) n := by
  induction after with
  | nothing =>
      rw [List.append_nil]
      exact before
  | record _ r ih =>
      rw [← List.append_assoc]
      exact ih.record r
  | correlated _ c ih => exact ih.correlated c

theorem same_handlers (emits : Emits l first m) : m.handlers = l.handlers := by
  induction emits with
  | nothing => rfl
  | record _ r ih => exact (handlers_emit _ r).trans ih
  | correlated _ c ih => exact ih

theorem same_takes (emits : Emits l first m) : m.takes = l.takes := by
  induction emits with
  | nothing => rfl
  | record _ r ih => exact (takes_emit _ r).trans ih
  | correlated _ c ih => exact ih

/-- A logging that only keeps what it takes keeps the records that it takes, in their order. -/
theorem kept (emits : Emits l first m) (keeps : l.handlers = [keeper]) :
    m.output.kept = l.output.kept ++ first.filter fun r => l.takes r.logger r.level := by
  induction emits with
  | nothing => simp
  | @record m records before r ih =>
      have takes := before.same_takes
      have kept := kept_emit (before.same_handlers.trans keeps) r
      rw [kept, ih, takes, List.filter_append, List.append_assoc]
  | correlated _ c ih => exact ih

end Emits

end Logs

end BootstrapApproval
