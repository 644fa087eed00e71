/-! # Tallies

A tally counts events by their labels and remembers in which order labels first occurred.
-/

namespace BootstrapApproval

abbrev Tally := List (List String × Nat)

namespace Tally

def add : Tally → List String → Tally
  | [], labels => [(labels, 1)]
  | (l, n) :: rest, labels =>
      if l = labels then (l, n + 1) :: rest else (l, n) :: add rest labels

def count : Tally → List String → Nat
  | [], _ => 0
  | (l, n) :: rest, labels => if l = labels then n else count rest labels

def total (t : Tally) : Nat := t.foldr (fun e n => e.2 + n) 0

@[simp] theorem total_add (t : Tally) (labels : List String) :
    total (add t labels) = total t + 1 := by
  induction t with
  | nil => simp [add, total]
  | cons e rest ih =>
      obtain ⟨l, n⟩ := e
      by_cases h : l = labels
      · simp only [add, if_pos h, total, List.foldr_cons]
        omega
      · simp only [add, if_neg h, total, List.foldr_cons] at ih ⊢
        omega

@[simp] theorem count_add_self (t : Tally) (labels : List String) :
    count (add t labels) labels = count t labels + 1 := by
  induction t with
  | nil => simp [add, count]
  | cons e rest ih =>
      obtain ⟨l, n⟩ := e
      by_cases h : l = labels
      · simp [add, count, h]
      · simp only [add, if_neg h, count, ih]

theorem count_add_of_ne (t : Tally) {labels other : List String} (h : other ≠ labels) :
    count (add t labels) other = count t other := by
  induction t with
  | nil => simp [add, count, Ne.symm h]
  | cons e rest ih =>
      obtain ⟨l, n⟩ := e
      by_cases hl : l = labels
      · subst hl
        simp [add, count, Ne.symm h]
      · simp only [add, if_neg hl, count, ih]

end Tally

end BootstrapApproval
