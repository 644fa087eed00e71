import BootstrapApproval.Json.Printer
import BootstrapApproval.Json.Parser
import BootstrapApproval.Proofs.Text.Numbers

/-! # Written numbers are read back

A whole number is read back as it is. A number with a fraction is shown with a point or an exponent
and is read with the digits that are shown, so it is read back when the number that is kept for
these digits is the number itself.
-/

namespace BootstrapApproval.Json

/-- What may follow a value: nothing, or a character that separates or closes values. -/
def Ends (rest : List Char) : Prop := ∀ c ∈ rest.head?, c = ',' ∨ c = ']' ∨ c = '\x7d'

namespace Ends

variable {rest : List Char} (ends : Ends rest)

include ends

theorem noDigit : ∀ c ∈ rest.head?, Digits.isDigit c = false := by
  intro c first
  rcases ends c first with rfl | rfl | rfl <;> decide

theorem fraction : fraction? rest = some ([], rest) := by
  cases rest with
  | nil => rfl
  | cons c more => rcases ends c rfl with rfl | rfl | rfl <;> rfl

theorem exponent : exponent? rest = some (none, rest) := by
  cases rest with
  | nil => rfl
  | cons c more => rcases ends c rfl with rfl | rfl | rfl <;> rfl

end Ends

/-- Digits that may stand in front of the point: some, with no zero in front of others. -/
structure IsWhole (whole : List Char) : Prop where
  some_ : whole ≠ []
  digits : ∀ c ∈ whole, Digits.isDigit c = true
  lead : ¬(whole.head? = some '0' ∧ 1 < whole.length)

namespace IsWhole

theorem digit {d : Char} (isDigit : Digits.isDigit d = true) : IsWhole [d] :=
  ⟨by simp, by simpa using isDigit, by simp⟩

/-- The first digits of a number other than zero, with any zeros after them. -/
theorem of_pos {n k : Nat} (pos : 0 < n) (some_ : 0 < k) (zeros : Nat) :
    IsWhole ((Digits.write 10 n).take k ++ List.replicate zeros '0') := by
  have written := Digits.write_ne_nil 10 n
  have taken : (Digits.write 10 n).take k ≠ [] := by simp [written]; omega
  refine ⟨by simp [taken], ?_, ?_⟩
  · intro c member
    rcases List.mem_append.mp member with inside | zero
    · exact Digits.isDigit_of_mem_write (List.mem_of_mem_take inside)
    · rw [(List.mem_replicate.mp zero).2]
      decide
  · rintro ⟨first, -⟩
    rw [List.head?_append, List.head?_take, if_neg (by omega)] at first
    cases shape : (Digits.write 10 n).head? with
    | none => exact written (List.head?_eq_none_iff.mp shape)
    | some d =>
        rw [shape] at first
        exact Digits.head_write pos (shape.trans first)

theorem write (n : Nat) : IsWhole (Digits.write 10 n) := by
  rcases Nat.eq_zero_or_pos n with rfl | pos
  · exact digit (d := '0') (by decide)
  · have all := of_pos (k := (Digits.write 10 n).length) pos (by
      exact List.length_pos_iff.mpr (Digits.write_ne_nil 10 n)) 0
    simpa using all

end IsWhole

theorem number_whole (negative : Bool) (n : Nat) {rest : List Char} (ends : Ends rest) :
    number? negative (Digits.write 10 n ++ rest) =
      some (.int (if negative then -(n : Int) else n), rest) := by
  have whole := IsWhole.write n
  have digits := Digits.span_append whole.digits ends.noDigit
  have value := Digits.read_write n
  cases shape : Digits.write 10 n with
  | nil => exact absurd shape whole.some_
  | cons d more =>
      have lead := whole.lead
      rw [shape] at digits lead value
      rw [number?, digits]
      dsimp only
      rw [if_neg lead, ends.fraction]
      dsimp only
      rw [ends.exponent]
      dsimp only
      rw [value]

/-- A number with a point or an exponent is the number that is kept for its digits. -/
theorem number_fraction {negative : Bool} {whole tail tail' part rest : List Char}
    {scale : Option Int} {x : Decimal} (isWhole : IsWhole whole)
    (stop : ∀ c ∈ tail.head?, Digits.isDigit c = false)
    (fraction : fraction? tail = some (part, tail'))
    (exponent : exponent? tail' = some (scale, rest))
    (fractional : part ≠ [] ∨ scale ≠ none)
    (kept : Decimal.kept negative (Digits.read (whole ++ part)) (scale.getD 0 - part.length) =
      some x) :
    number? negative (whole ++ tail) = some (.decimal x, rest) := by
  have digits := Digits.span_append isWhole.digits stop
  cases whole with
  | nil => exact absurd rfl isWhole.some_
  | cons d more =>
      rw [number?, digits]
      dsimp only
      rw [if_neg isWhole.lead, fraction]
      dsimp only
      rw [exponent]
      dsimp only
      split
      · simp at fractional
      · rw [kept]

end BootstrapApproval.Json

namespace BootstrapApproval.Decimal

/-- The digits and the exponent that are shown for a number. A number without a fraction that is not
too long is shown with all its zeros, and with one more after the point. -/
def shown (x : Decimal) : Nat × Int :=
  if 0 ≤ x.exponent ∧ (Digits.write 10 x.digits).length + x.exponent ≤ 16 then
    (x.digits * 10 ^ (x.exponent.toNat + 1), -1)
  else (x.digits, x.exponent)

/-- Whether a number is the one that is kept for the digits that are shown for it. -/
def isKept (x : Decimal) : Bool := decide (kept x.negative x.shown.1 x.shown.2 = some x)

/-- Zero is kept without an exponent. -/
theorem exponent_of_isKept {x : Decimal} (isKept : x.isKept = true) (zero : x.digits = 0) :
    x.exponent = 0 := by
  have kept := of_decide_eq_true isKept
  have none_ : x.shown.1 = 0 := by
    unfold shown
    split <;> simp [zero]
  rw [none_] at kept
  have same : (⟨x.negative, 0, 0⟩ : Decimal) = x := Option.some.inj kept
  rw [← same]

end BootstrapApproval.Decimal

namespace BootstrapApproval.Json

theorem exponent_exponentText (e : Int) {rest : List Char} (ends : Ends rest) :
    exponent? (Decimal.exponentText e ++ rest) = some (some e, rest) := by
  have all : ∀ c ∈ Digits.padded 10 2 e.natAbs, Digits.isDigit c = true :=
    fun _ => Digits.isDigit_of_mem_padded
  have digits := Digits.span_append all ends.noDigit
  have value := Digits.read_padded 2 e.natAbs
  cases shape : Digits.padded 10 2 e.natAbs with
  | nil => simp [Digits.padded, Digits.write_ne_nil] at shape
  | cons d more =>
      rw [shape, List.cons_append] at digits
      rw [shape] at value
      unfold Decimal.exponentText
      rw [shape]
      by_cases negative : e < 0
      · have back : -(e.natAbs : Int) = e := by omega
        have read : exponent? ('e' :: '-' :: (d :: (more ++ rest))) =
            some (some (-(Digits.read (d :: more) : Int)), rest) := by
          simp [exponent?, Digits.sign, digits]
        rw [value, back] at read
        rw [if_pos negative]
        exact read
      · have back : (e.natAbs : Int) = e := by omega
        have read : exponent? ('e' :: '+' :: (d :: (more ++ rest))) =
            some (some (Digits.read (d :: more) : Int), rest) := by
          simp [exponent?, Digits.sign, digits]
        rw [value, back] at read
        rw [if_neg negative]
        exact read

theorem fraction_point {part tail : List Char} (some_ : part ≠ [])
    (digits : ∀ c ∈ part, Digits.isDigit c = true)
    (stop : ∀ c ∈ tail.head?, Digits.isDigit c = false) :
    fraction? ('.' :: part ++ tail) = some (part, tail) := by
  have span := Digits.span_append digits stop
  cases part with
  | nil => exact absurd rfl some_
  | cons d more =>
      rw [List.cons_append, fraction?, span]

section Layouts

variable {negative : Bool} {whole part rest : List Char} {e : Int} {x : Decimal}

/-- Digits with an exponent after them. -/
theorem number_exponent (isWhole : IsWhole whole) (ends : Ends rest)
    (kept : Decimal.kept negative (Digits.read whole) e = some x) :
    number? negative (whole ++ (Decimal.exponentText e ++ rest)) = some (.decimal x, rest) := by
  have stop : ∀ c ∈ (Decimal.exponentText e ++ rest).head?, Digits.isDigit c = false := by
    simp [Decimal.exponentText]
    decide
  exact number_fraction isWhole stop rfl (exponent_exponentText e ends) (by simp)
    (by simpa using kept)

/-- Digits with a point among them and an exponent after them. -/
theorem number_point_exponent (isWhole : IsWhole whole) (some_ : part ≠ [])
    (digits : ∀ c ∈ part, Digits.isDigit c = true) (ends : Ends rest)
    (kept : Decimal.kept negative (Digits.read (whole ++ part)) (e - part.length) = some x) :
    number? negative (whole ++ ('.' :: part ++ (Decimal.exponentText e ++ rest))) =
      some (.decimal x, rest) := by
  have point : Digits.isDigit '.' = false := by decide
  have stop : ∀ c ∈ (Decimal.exponentText e ++ rest).head?, Digits.isDigit c = false := by
    simp [Decimal.exponentText]
    decide
  exact number_fraction isWhole (by simpa using point) (fraction_point some_ digits stop)
    (exponent_exponentText e ends) (.inl some_) kept

/-- Digits with a point among them. -/
theorem number_point (isWhole : IsWhole whole) (some_ : part ≠ [])
    (digits : ∀ c ∈ part, Digits.isDigit c = true) (ends : Ends rest)
    (kept : Decimal.kept negative (Digits.read (whole ++ part)) (-part.length) = some x) :
    number? negative (whole ++ ('.' :: part ++ rest)) = some (.decimal x, rest) := by
  have point : Digits.isDigit '.' = false := by decide
  exact number_fraction isWhole (by simpa using point) (fraction_point some_ digits ends.noDigit)
    ends.exponent (.inl some_) (by simpa using kept)

variable {n : Nat}

theorem length_write_pos (n : Nat) : 0 < (Digits.write 10 n).length :=
  List.length_pos_iff.mpr (Digits.write_ne_nil 10 n)

/-- All digits after the point, with zeros in between. -/
theorem number_below (ends : Ends rest) (below : (Digits.write 10 n).length + e ≤ 0)
    (kept : Decimal.kept negative n e = some x) :
    number? negative ('0' :: '.' ::
        List.replicate (-((Digits.write 10 n).length + e)).toNat '0' ++ Digits.write 10 n ++ rest) =
      some (.decimal x, rest) := by
  let part := List.replicate (-((Digits.write 10 n).length + e)).toNat '0' ++ Digits.write 10 n
  have some_ : part ≠ [] := by simp [part, Digits.write_ne_nil]
  have digits : ∀ c ∈ part, Digits.isDigit c = true := by
    intro c member
    rcases List.mem_append.mp member with zero | inside
    · rw [(List.mem_replicate.mp zero).2]
      decide
    · exact Digits.isDigit_of_mem_write inside
  have value : Digits.read (['0'] ++ part) = n := by
    rw [← List.append_assoc]
    exact (Digits.read_zeros_append (_ + 1) _).trans (Digits.read_write n)
  have power : -(part.length : Int) = e := by
    simp only [part, List.length_append, List.length_replicate]
    omega
  have read := number_point (.digit (d := '0') (by decide)) some_ digits ends
    (by rw [value, power]; exact kept)
  simpa [part] using read

/-- All digits in front of the point, with zeros after them. -/
theorem number_above (ends : Ends rest) (zero : n = 0 → e = 0)
    (kept : Decimal.kept negative (n * 10 ^ (e.toNat + 1)) (-1) = some x) :
    number? negative (Digits.write 10 n ++ List.replicate e.toNat '0' ++ ['.', '0'] ++ rest) =
      some (.decimal x, rest) := by
  have isWhole : IsWhole (Digits.write 10 n ++ List.replicate e.toNat '0') := by
    rcases Nat.eq_zero_or_pos n with none_ | pos
    · simpa [zero none_] using IsWhole.write n
    · have taken := IsWhole.of_pos pos (length_write_pos n) e.toNat
      rw [List.take_length] at taken
      exact taken
  have value : Digits.read (Digits.write 10 n ++ List.replicate e.toNat '0' ++ ['0']) =
      n * 10 ^ (e.toNat + 1) := by
    rw [List.append_assoc, ← List.replicate_succ', Digits.read_append_zeros, Digits.read_write]
  have read := number_point isWhole (List.cons_ne_nil '0' [])
    (List.forall_mem_singleton.mpr (by decide)) ends
    (by rw [value]; exact kept)
  simpa using read

/-- The point among the digits. -/
theorem number_among (ends : Ends rest) {point : Nat} (some_ : 0 < point)
    (below : point < (Digits.write 10 n).length) (place : (Digits.write 10 n).length + e = point)
    (kept : Decimal.kept negative n e = some x) :
    number? negative ((Digits.write 10 n).take point ++ '.' :: (Digits.write 10 n).drop point ++
        rest) = some (.decimal x, rest) := by
  have pos : 0 < n := by
    rcases Nat.eq_zero_or_pos n with rfl | pos
    · have one : (Digits.write 10 0).length = 1 := rfl
      omega
    · exact pos
  have isWhole : IsWhole ((Digits.write 10 n).take point) := by
    simpa using IsWhole.of_pos pos some_ 0
  have more : (Digits.write 10 n).drop point ≠ [] := by simp; omega
  have digits : ∀ c ∈ (Digits.write 10 n).drop point, Digits.isDigit c = true :=
    fun c member => Digits.isDigit_of_mem_write (List.mem_of_mem_drop member)
  have value : Digits.read ((Digits.write 10 n).take point ++ (Digits.write 10 n).drop point) =
      n := by
    rw [List.take_append_drop, Digits.read_write]
  have power : -(((Digits.write 10 n).drop point).length : Int) = e := by
    rw [List.length_drop]
    omega
  have read := number_point isWhole more digits ends (by rw [value, power]; exact kept)
  simpa using read

end Layouts

/-- The text of a number with a fraction is read back. -/
theorem number_magnitude {x : Decimal} {rest : List Char} (isKept : x.isKept = true)
    (ends : Ends rest) :
    number? x.negative (Decimal.magnitude x.digits x.exponent ++ rest) =
      some (.decimal x, rest) := by
  have kept := of_decide_eq_true isKept
  have some_ := length_write_pos x.digits
  unfold Decimal.magnitude
  unfold Decimal.shown at kept
  dsimp only
  split
  · rename_i long
    simp only [Bool.or_eq_true, decide_eq_true_eq] at long
    rw [if_neg (by omega)] at kept
    have value := Digits.read_write x.digits
    have digits : ∀ c ∈ Digits.write 10 x.digits, Digits.isDigit c = true :=
      fun _ => Digits.isDigit_of_mem_write
    generalize Digits.write 10 x.digits = ds at *
    match ds with
    | [] => cases some_
    | [d] =>
        have same : ([d].length : Int) + x.exponent - 1 = x.exponent := by
          rw [List.length_singleton]
          omega
        have read := number_exponent (.digit (digits d (by simp))) ends (value ▸ kept)
        simp only [same]
        simpa using read
    | d :: f :: more =>
        have same : ((d :: f :: more).length : Int) + x.exponent - 1 - (f :: more).length =
            x.exponent := by
          simp only [List.length_cons]
          omega
        have read := number_point_exponent
          (e := ((d :: f :: more).length : Int) + x.exponent - 1) (.digit (digits d (by simp)))
          (List.cons_ne_nil f more) (fun c member => digits c (List.mem_cons_of_mem _ member))
          ends (by rw [List.singleton_append, value, same]; exact kept)
        simpa using read
  · rename_i short
    simp only [Bool.or_eq_true, decide_eq_true_eq, not_or] at short
    split
    · rename_i below
      rw [if_neg (by omega)] at kept
      exact number_below ends below kept
    · rename_i above
      split
      · rename_i whole
        rw [if_pos ⟨whole, by omega⟩] at kept
        exact number_above ends (Decimal.exponent_of_isKept isKept) kept
      · rename_i fractional
        rw [if_neg (by omega)] at kept
        exact number_among ends (by omega) (by omega) (by omega) kept

end BootstrapApproval.Json
