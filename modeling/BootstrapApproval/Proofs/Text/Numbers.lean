import BootstrapApproval.Text.Digits
import Mathlib.Algebra.Group.Nat.Defs

/-! # Numbers in text are read back

A number written in decimal, with or without zeros in front, consists of digits only and stands for
itself.
-/

namespace BootstrapApproval.Digits

theorem value_digitChar {n : Nat} (small : n < 10) : value? (digitChar n) = some n := by
  have all : ∀ n : Fin 10, value? (digitChar n) = some n.val := by decide
  exact all ⟨n, small⟩

theorem isDigit_digitChar {n : Nat} (small : n < 10) : isDigit (digitChar n) = true := by
  simp [isDigit, value_digitChar small]

theorem readFrom_append (acc : Nat) (front back : List Char) :
    readFrom acc (front ++ back) = readFrom (readFrom acc front) back := by
  induction front generalizing acc with
  | nil => rfl
  | cons c rest ih => exact ih _

theorem readFrom_zeros (k : Nat) : readFrom 0 (List.replicate k '0') = 0 := by
  have zero : value? '0' = some 0 := by decide
  induction k with
  | zero => rfl
  | succ k ih => simpa [List.replicate_succ, readFrom, zero] using ih

/-- Enough fuel writes every digit. -/
theorem read_reversed {fuel n : Nat} (enough : n < fuel) :
    read (reversed 10 fuel n).reverse = n := by
  induction fuel generalizing n with
  | zero => omega
  | succ fuel ih =>
      unfold reversed
      split
      · rename_i small
        simp [read, readFrom, value_digitChar small]
      · have last : n % 10 < 10 := Nat.mod_lt _ (by omega)
        have front : read (reversed 10 fuel (n / 10)).reverse = n / 10 := ih (by omega)
        rw [read] at front
        rw [List.reverse_cons, read, readFrom_append, front]
        simp only [readFrom, value_digitChar last, Option.getD_some]
        omega

theorem isDigit_of_mem_reversed {fuel n : Nat} {c : Char} (member : c ∈ reversed 10 fuel n) :
    isDigit c = true := by
  induction fuel generalizing n with
  | zero => simp [reversed] at member
  | succ fuel ih =>
      unfold reversed at member
      split at member
      · rename_i small
        rw [List.mem_singleton.mp member]
        exact isDigit_digitChar small
      · rcases List.mem_cons.mp member with rfl | rest
        · exact isDigit_digitChar (Nat.mod_lt _ (by omega))
        · exact ih rest

theorem length_reversed {base fuel n width : Nat} (pos : 0 < width) (fits : n < base ^ width) :
    (reversed base fuel n).length ≤ width := by
  induction fuel generalizing n width with
  | zero => simp [reversed]
  | succ fuel ih =>
      unfold reversed
      split
      · exact pos
      · rename_i large
        obtain ⟨width, rfl⟩ : ∃ k, width = k + 1 := ⟨width - 1, by omega⟩
        have more : 0 < width := by
          rcases Nat.eq_zero_or_pos width with rfl | more
          · rw [Nat.pow_one] at fits
            exact absurd fits large
          · exact more
        have less : n / base < base ^ width := by
          rw [Nat.pow_succ, Nat.mul_comm] at fits
          exact Nat.div_lt_of_lt_mul fits
        simpa using ih more less

theorem reversed_ne_nil (base fuel n : Nat) : reversed base (fuel + 1) n ≠ [] := by
  unfold reversed
  split <;> simp

/-- The digits of a number other than zero do not begin with a zero. -/
theorem getLast_reversed {fuel n : Nat} (pos : 0 < n) (enough : n < fuel) :
    (reversed 10 fuel n).getLast? ≠ some '0' := by
  have nonzero : ∀ d : Fin 10, 0 < d.val → digitChar d ≠ '0' := by decide
  induction fuel generalizing n with
  | zero => omega
  | succ fuel ih =>
      unfold reversed
      split
      · rename_i small
        simpa using nonzero ⟨n, small⟩ pos
      · have rest := ih (n := n / 10) (by omega) (by omega)
        obtain ⟨fuel, rfl⟩ : ∃ k, fuel = k + 1 := ⟨fuel - 1, by omega⟩
        rw [List.getLast?_cons_of_ne_nil (reversed_ne_nil 10 fuel _)]
        exact rest

theorem head_write {n : Nat} (pos : 0 < n) : (write 10 n).head? ≠ some '0' := by
  rw [write, List.head?_reverse]
  exact getLast_reversed pos (Nat.lt_succ_self n)

theorem write_ne_nil (base n : Nat) : write base n ≠ [] := by
  simpa [write] using reversed_ne_nil base n n

theorem isDigit_of_mem_write {n : Nat} {c : Char} (member : c ∈ write 10 n) : isDigit c = true :=
  isDigit_of_mem_reversed (List.mem_reverse.mp member)

theorem read_append_zeros (cs : List Char) (k : Nat) :
    read (cs ++ List.replicate k '0') = read cs * 10 ^ k := by
  have zero : value? '0' = some 0 := by decide
  induction k with
  | zero => simp
  | succ k ih =>
      rw [List.replicate_succ', ← List.append_assoc, read, readFrom_append, ← read, ih]
      simp only [readFrom, zero, Option.getD_some, Nat.add_zero, Nat.pow_succ]
      rw [Nat.mul_comm 10, Nat.mul_assoc]

theorem read_write (n : Nat) : read (write 10 n) = n := read_reversed (Nat.lt_succ_self n)

theorem isDigit_of_mem_padded {width n : Nat} {c : Char} (member : c ∈ padded 10 width n) :
    isDigit c = true := by
  have zero : isDigit '0' = true := by decide
  simp only [padded, write, List.mem_append, List.mem_replicate, List.mem_reverse] at member
  rcases member with ⟨-, rfl⟩ | member
  · exact zero
  · exact isDigit_of_mem_reversed member

theorem length_padded {base width n : Nat} (pos : 0 < width) (fits : n < base ^ width) :
    (padded base width n).length = width := by
  have short : (write base n).length ≤ width := by
    rw [write, List.length_reverse]
    exact length_reversed pos fits
  simp only [padded, List.length_append, List.length_replicate]
  omega

theorem read_zeros_append (k : Nat) (cs : List Char) :
    read (List.replicate k '0' ++ cs) = read cs := by
  rw [read, readFrom_append, readFrom_zeros, read]

theorem read_padded (width n : Nat) : read (padded 10 width n) = n := by
  rw [padded, read_zeros_append, read_write]

theorem read?_of_digits {cs : List Char} (some_ : cs ≠ []) (digits : ∀ c ∈ cs, isDigit c = true) :
    read? cs = some (read cs) := by
  have all : cs.all isDigit = true := List.all_eq_true.mpr digits
  simp [read?, some_, all]

/-- A written number is read back, and nothing but a number is written. -/
theorem read?_write (n : Nat) : read? (write 10 n) = some n := by
  rw [read?_of_digits (write_ne_nil 10 n) fun _ => isDigit_of_mem_write, read_write]

theorem read?_padded {width n : Nat} (pos : 0 < width) (fits : n < 10 ^ width) :
    read? (padded 10 width n) = some n := by
  have length := length_padded pos fits
  have some_ : padded 10 width n ≠ [] := by
    intro none_
    rw [none_, List.length_nil] at length
    omega
  rw [read?_of_digits some_ fun c => isDigit_of_mem_padded, read_padded]

theorem padded_two {n : Nat} (fits : n < 100) :
    ∃ a b, padded 10 2 n = [a, b] ∧ read? [a, b] = some n := by
  have length : (padded 10 2 n).length = 2 := length_padded (by omega) fits
  match shape : padded 10 2 n, length with
  | [a, b], _ => exact ⟨a, b, rfl, shape ▸ read?_padded (by omega) fits⟩

theorem padded_four {n : Nat} (fits : n < 10000) :
    ∃ a b c d, padded 10 4 n = [a, b, c, d] ∧ read? [a, b, c, d] = some n := by
  have length : (padded 10 4 n).length = 4 := length_padded (by omega) fits
  match shape : padded 10 4 n, length with
  | [a, b, c, d], _ => exact ⟨a, b, c, d, rfl, shape ▸ read?_padded (by omega) fits⟩

/-- A run of digits ends where something else begins. -/
theorem span_append {digits rest : List Char} (all : ∀ c ∈ digits, isDigit c = true)
    (stop : ∀ c ∈ rest.head?, isDigit c = false) : span (digits ++ rest) = (digits, rest) := by
  induction digits with
  | nil =>
      cases rest with
      | nil => rfl
      | cons c rest => simp [span, stop c (by simp)]
  | cons d ds ih =>
      have tail := ih fun c member => all c (List.mem_cons_of_mem _ member)
      have head := all d List.mem_cons_self
      simp only [span, Prod.mk.injEq] at tail
      simp [span, head, tail]

end BootstrapApproval.Digits
