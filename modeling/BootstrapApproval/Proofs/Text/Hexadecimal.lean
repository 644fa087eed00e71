import BootstrapApproval.Json.Parser
import BootstrapApproval.Proofs.Text.Numbers

/-! # Hexadecimal numbers in text are read back

A number written in base sixteen stands for itself, so different numbers are written differently.
Four of its digits are what a unit of an escape in a text is.
-/

namespace BootstrapApproval.Digits

theorem hexValue_digitChar {n : Nat} (small : n < 16) :
    Json.hexValue? (digitChar n) = some n := by
  have all : ∀ n : Fin 16, Json.hexValue? (digitChar n) = some n.val := by decide
  exact all ⟨n, small⟩

/-- The number that a run of hexadecimal digits stands for. -/
def readHex (cs : List Char) : Nat :=
  cs.foldl (fun acc c => acc * 16 + (Json.hexValue? c).getD 0) 0

theorem readHex_concat (front : List Char) (c : Char) :
    readHex (front ++ [c]) = readHex front * 16 + (Json.hexValue? c).getD 0 := by
  simp [readHex]

theorem readHex_reversed {fuel n : Nat} (enough : n < fuel) :
    readHex (reversed 16 fuel n).reverse = n := by
  induction fuel generalizing n with
  | zero => omega
  | succ fuel ih =>
      unfold reversed
      split
      · rename_i small
        simp [readHex, hexValue_digitChar small]
      · have last : n % 16 < 16 := Nat.mod_lt _ (by omega)
        have front : readHex (reversed 16 fuel (n / 16)).reverse = n / 16 := ih (by omega)
        rw [List.reverse_cons, readHex_concat, front, hexValue_digitChar last, Option.getD_some]
        omega

theorem readHex_zeros (k : Nat) (back : List Char) :
    readHex (List.replicate k '0' ++ back) = readHex back := by
  have zero : Json.hexValue? '0' = some 0 := by decide
  induction k with
  | zero => rfl
  | succ k ih => simpa [List.replicate_succ, readHex, zero] using ih

theorem readHex_padded (width n : Nat) : readHex (padded 16 width n) = n := by
  rw [padded, readHex_zeros, write, readHex_reversed (Nat.lt_succ_self n)]

/-- Different numbers are written differently. -/
theorem padded_injective (width : Nat) : Function.Injective (padded 16 width) :=
  Function.LeftInverse.injective (readHex_padded width)

theorem isSome_hexValue_of_mem_reversed {fuel n : Nat} {c : Char}
    (member : c ∈ reversed 16 fuel n) : (Json.hexValue? c).isSome = true := by
  induction fuel generalizing n with
  | zero => simp [reversed] at member
  | succ fuel ih =>
      unfold reversed at member
      split at member
      · rename_i small
        rw [List.mem_singleton.mp member, hexValue_digitChar small]
        rfl
      · rcases List.mem_cons.mp member with rfl | rest
        · rw [hexValue_digitChar (Nat.mod_lt _ (by omega))]
          rfl
        · exact ih rest

theorem isSome_hexValue_of_mem_padded {width n : Nat} {c : Char}
    (member : c ∈ padded 16 width n) : (Json.hexValue? c).isSome = true := by
  simp only [padded, write, List.mem_append, List.mem_replicate, List.mem_reverse] at member
  rcases member with ⟨-, rfl⟩ | member
  · decide
  · exact isSome_hexValue_of_mem_reversed member

/-- A unit of an escape is read back from its four digits. -/
theorem unit?_padded {n : Nat} (fits : n < 65536) (rest : List Char) :
    Json.unit? (padded 16 4 n ++ rest) = some (n, rest) := by
  have length : (padded 16 4 n).length = 4 := length_padded (by omega) fits
  have value := readHex_padded 4 n
  have digits : ∀ c ∈ padded 16 4 n, ∃ v, Json.hexValue? c = some v := fun c member =>
    Option.isSome_iff_exists.mp (isSome_hexValue_of_mem_padded member)
  match shape : padded 16 4 n, length with
  | [a, b, c, d], _ =>
      rw [shape] at value digits
      obtain ⟨va, ha⟩ := digits a (by simp)
      obtain ⟨vb, hb⟩ := digits b (by simp)
      obtain ⟨vc, hc⟩ := digits c (by simp)
      obtain ⟨vd, hd⟩ := digits d (by simp)
      simp only [readHex, List.foldl_cons, List.foldl_nil, ha, hb, hc, hd, Option.getD_some,
        Nat.zero_mul, Nat.zero_add] at value
      simp [Json.unit?, ha, hb, hc, hd, value]

end BootstrapApproval.Digits
