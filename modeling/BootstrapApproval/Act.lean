import BootstrapApproval.State

/-! # Actions

An action looks at the state and changes it; it gives a value or raises a fault. What it did before
it raised a fault stays done. Faults are data: an attempt gives them to whoever made it.
-/

namespace BootstrapApproval

/-- An action: it gives a value or raises a fault, and leaves a state behind in either case. -/
def Act (α : Type) : Type := State → Except Raised α × State

namespace Act

variable {α β : Type}

protected def pure (a : α) : Act α := fun s => (.ok a, s)

protected def bind (x : Act α) (f : α → Act β) : Act β := fun s =>
  match x s with
  | (.ok a, s) => f a s
  | (.error e, s) => (.error e, s)

instance : Monad Act where
  pure := Act.pure
  bind := Act.bind

def raise (e : Raised) : Act α := fun s => (.error e, s)

def attempt (x : Act α) : Act (Except Raised α) := fun s =>
  let (r, s) := x s
  (.ok r, s)

def give : Except Raised α → Act α
  | .ok a => Act.pure a
  | .error e => raise e

def see (f : State → α) : Act α := fun s => (.ok (f s), s)

def change (f : State → State) : Act Unit := fun s => (.ok (), f s)

def step (f : State → α × State) : Act α := fun s =>
  let (a, s) := f s
  (.ok a, s)

@[simp] theorem pure_apply (a : α) (s : State) : (pure a : Act α) s = (.ok a, s) := rfl

theorem bind_apply (x : Act α) (f : α → Act β) (s : State) :
    (x >>= f) s = match x s with | (.ok a, s) => f a s | (.error e, s) => (.error e, s) := rfl

@[simp] theorem see_apply (f : State → α) (s : State) : see f s = (.ok (f s), s) := rfl

@[simp] theorem change_apply (f : State → State) (s : State) : change f s = (.ok (), f s) := rfl

@[simp] theorem attempt_apply (x : Act α) (s : State) : attempt x s = (.ok (x s).1, (x s).2) :=
  rfl

theorem bind_ok {x : Act α} {f : α → Act β} {s t : State} {a : α} (h : x s = (.ok a, t)) :
    (x >>= f) s = f a t := by
  rw [bind_apply, h]

theorem bind_error {x : Act α} {f : α → Act β} {s t : State} {e : Raised}
    (h : x s = (.error e, t)) : (x >>= f) s = (.error e, t) := by
  rw [bind_apply, h]

/-- Do an action and give what it gave or the ordinary fault it raised; an interrupt goes on. -/
def ordinary (x : Act α) : Act (Except Fault α) := fun s =>
  match x s with
  | (.ok a, s) => (.ok (.ok a), s)
  | (.error e, s) => if e.fault.isOrdinary then (.ok (.error e.fault), s) else (.error e, s)

def call (c : Call) : Act Unit := change fun s => { s with calls := s.calls ++ [c] }

def log (logger : String) (level : Level) (message : String) (fields : Table Json) : Act Unit :=
  change fun s => { s with logs := s.logs.emit ⟨logger, level, message, fields, none⟩ }

def say (logger : String) (level : Level) (message : String) : Act Unit :=
  log logger level message []

def newCorrelation : Act String := step fun s =>
  let (id, c) := s.logs.correlation.issue
  (id, { s with logs := { s.logs with correlation := c.use id } })

end Act

end BootstrapApproval
