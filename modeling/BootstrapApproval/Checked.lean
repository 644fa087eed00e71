import BootstrapApproval.Text.Digits

/-! # Checked values

A check of an outside value gives the value or all problems found in it. Checks of the parts of a
value are made side by side: a problem in one part does not hide a problem in another.
-/

namespace BootstrapApproval

inductive Step where
  | key (name : String)
  | index (n : Nat)
  deriving DecidableEq, Repr

def Step.text : Step → String
  | .key name => name
  | .index n => Digits.decimal n

inductive Problem.Kind where
  | missing
  | notText
  | notObject
  | notTexts
  | notList
  | notTimestamp
  | badTimestamp
  | badMoment
  | notSwitch
  | notWhole
  | tooLong
  | notNumber
  | aboveOne
  | belowZero
  deriving DecidableEq, Repr

def Problem.Kind.code : Problem.Kind → String
  | .missing => "missing"
  | .notText => "string_type"
  | .notObject => "model_type"
  | .notTexts => "dict_type"
  | .notList => "list_type"
  | .notTimestamp => "datetime_type"
  | .badTimestamp => "datetime_from_date_parsing"
  | .badMoment => "datetime_parsing"
  | .notSwitch => "bool_parsing"
  | .notWhole => "int_parsing"
  | .tooLong => "int_parsing_size"
  | .notNumber => "float_parsing"
  | .aboveOne => "less_than_equal"
  | .belowZero => "greater_than_equal"

structure Problem where
  path : List Step
  kind : Problem.Kind
  deriving DecidableEq, Repr

namespace Problem

/-- The order in which problems are reported: by their places, step by step as texts. -/
def le (a b : Problem) : Bool :=
  !decide (b.path.map Step.text < a.path.map Step.text)

def inOrder (ps : List Problem) : List Problem := ps.mergeSort le

end Problem

inductive Checked (α : Type u) where
  | ok (value : α)
  | bad (problems : List Problem)
  deriving DecidableEq, Repr

namespace Checked

variable {α : Type u} {β : Type v} {γ : Type w}

def value? : Checked α → Option α
  | ok a => some a
  | bad _ => none

def problems : Checked α → List Problem
  | ok _ => []
  | bad ps => ps

def map (f : α → β) : Checked α → Checked β
  | ok a => ok (f a)
  | bad ps => bad ps

def map₂ (f : α → β → γ) : Checked α → Checked β → Checked γ
  | ok a, ok b => ok (f a b)
  | a, b => bad (a.problems ++ b.problems)

/-- One further check beside those already made for the arguments of a function. -/
def and (f : Checked (α → β)) (a : Checked α) : Checked β := map₂ (fun g x => g x) f a

instance : Applicative Checked where
  pure := ok
  seq f a := and f (a ())
  map := map

def fail (kind : Problem.Kind) : Checked α := bad [⟨[], kind⟩]

def under (step : Step) : Checked α → Checked α
  | ok a => ok a
  | bad ps => bad (ps.map fun p => { p with path := step :: p.path })

def all (check : α → Checked β) : List α → Checked (List β)
  | [] => ok []
  | a :: rest => map₂ List.cons (check a) (all check rest)

/-- Check the items of a list, each under its index, from `n` on. -/
def indexed (check : α → Checked β) : Nat → List α → Checked (List β)
  | _, [] => ok []
  | n, a :: rest => map₂ List.cons ((check a).under (.index n)) (indexed check (n + 1) rest)

@[simp] theorem map₂_eq_ok {f : α → β → γ} {a : Checked α} {b : Checked β} {c : γ} :
    map₂ f a b = ok c ↔ ∃ x y, a = ok x ∧ b = ok y ∧ f x y = c := by
  cases a <;> cases b <;> simp [map₂]

@[simp] theorem map_eq_ok {f : α → β} {a : Checked α} {b : β} :
    map f a = ok b ↔ ∃ x, a = ok x ∧ f x = b := by
  cases a <;> simp [map]

@[simp] theorem map_eq_map {α β : Type u} (f : α → β) (a : Checked α) : f <$> a = map f a := rfl

@[simp] theorem seq_eq_and {α β : Type u} (f : Checked (α → β)) (a : Checked α) :
    f <*> a = and f a := rfl

@[simp] theorem under_eq_ok {step : Step} {a : Checked α} {x : α} :
    under step a = ok x ↔ a = ok x := by
  cases a <;> simp [under]

@[simp] theorem and_eq_ok {f : Checked (α → β)} {a : Checked α} {b : β} :
    and f a = ok b ↔ ∃ g x, f = ok g ∧ a = ok x ∧ g x = b := by
  simp [and]

end Checked

end BootstrapApproval
