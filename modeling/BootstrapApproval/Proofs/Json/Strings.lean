import BootstrapApproval.Json.Printer
import BootstrapApproval.Proofs.Text.Hexadecimal

/-! # Written strings are read back

Every character of a string is written as itself or as an escape, and is read back from it, also
when it takes a pair of escapes. What is written lies in the printable ASCII range.
-/

namespace BootstrapApproval.Json

/-- A character of the printable ASCII range. -/
def IsPrintable (c : Char) : Prop := ' ' ≤ c ∧ c ≤ '~'

instance (c : Char) : Decidable (IsPrintable c) := inferInstanceAs (Decidable (_ ∧ _))

theorem printable_of_all {cs : List Char} (all : cs.all (IsPrintable ·) = true) {c : Char}
    (member : c ∈ cs) : IsPrintable c :=
  of_decide_eq_true (List.all_eq_true.mp all c member)

theorem digitChar_printable {n : Nat} (small : n < 16) : IsPrintable (Digits.digitChar n) := by
  have all : ∀ n : Fin 16, IsPrintable (Digits.digitChar n) := by decide
  exact all ⟨n, small⟩

/-- The digits of a number are printable in every base up to sixteen. -/
theorem printable_reversed {base fuel n : Nat} (pos : 0 < base) (small : base ≤ 16) {c : Char}
    (member : c ∈ Digits.reversed base fuel n) : IsPrintable c := by
  induction fuel generalizing n with
  | zero => simp [Digits.reversed] at member
  | succ fuel ih =>
      unfold Digits.reversed at member
      split at member
      · rename_i less
        rw [List.mem_singleton.mp member]
        exact digitChar_printable (by omega)
      · rcases List.mem_cons.mp member with rfl | rest
        · exact digitChar_printable (Nat.lt_of_lt_of_le (Nat.mod_lt _ pos) small)
        · exact ih rest

theorem printable_digits {base n : Nat} (pos : 0 < base) (small : base ≤ 16) {c : Char}
    (member : c ∈ Digits.write base n) : IsPrintable c :=
  printable_reversed pos small (List.mem_reverse.mp member)

theorem printable_padded {base width n : Nat} (pos : 0 < base) (small : base ≤ 16) {c : Char}
    (member : c ∈ Digits.padded base width n) : IsPrintable c := by
  rcases List.mem_append.mp member with zeros | digits
  · rw [(List.mem_replicate.mp zeros).2]
    decide
  · exact printable_digits pos small digits

theorem printable_unitEscape {n : Nat} {c : Char} (member : c ∈ unitEscape n) : IsPrintable c := by
  simp only [unitEscape, List.mem_cons] at member
  rcases member with rfl | rfl | digits
  · decide
  · decide
  · exact printable_padded (by omega) (by omega) digits

/-- The characters with an escape of one letter, each with the letter. -/
def letterEscapes : List (Char × Char) :=
  [('"', '"'), ('\\', '\\'), ('\n', 'n'), ('\r', 'r'), ('\t', 't'), ('\x08', 'b'), ('\x0c', 'f')]

/-- How a character is written: with a letter, as itself, or by its code. -/
inductive Writes (c : Char) : List Char → Prop where
  | letter {e : Char} (known : (c, e) ∈ letterEscapes) : Writes c ['\\', e]
  | plain (printable : IsPrintable c) (noQuote : c ≠ '"') (noBackslash : c ≠ '\\') : Writes c [c]
  | code : Writes c (codeEscape c)

theorem writes_escapeChar (c : Char) : Writes c (escapeChar c) := by
  unfold escapeChar
  split
  · exact .letter (by simp [letterEscapes, *])
  split
  · exact .letter (by simp [letterEscapes, *])
  split
  · exact .letter (by simp [letterEscapes, *])
  split
  · exact .letter (by simp [letterEscapes, *])
  split
  · exact .letter (by simp [letterEscapes, *])
  split
  · exact .letter (by simp [letterEscapes, *])
  split
  · exact .letter (by simp [letterEscapes, *])
  split
  · rename_i noQuote noBackslash _ _ _ _ _ printable
    exact .plain printable noQuote noBackslash
  · exact .code

theorem printable_codeEscape {c d : Char} (member : d ∈ codeEscape c) : IsPrintable d := by
  unfold codeEscape at member
  dsimp only at member
  split at member
  · exact printable_unitEscape member
  · rcases List.mem_append.mp member with high | low
    · exact printable_unitEscape high
    · exact printable_unitEscape low

theorem Writes.printable {c d : Char} {cs : List Char} (writes : Writes c cs) (member : d ∈ cs) :
    IsPrintable d := by
  have letters : (letterEscapes.map Prod.snd).all (IsPrintable ·) = true := by decide
  cases writes with
  | letter known =>
      rcases List.mem_cons.mp member with rfl | last
      · decide
      · rw [List.mem_singleton.mp last]
        exact printable_of_all letters (List.mem_map_of_mem known)
  | plain printable => exact List.mem_singleton.mp member ▸ printable
  | code => exact printable_codeEscape member

theorem printable_quote {s : String} {c : Char} (member : c ∈ quote s) : IsPrintable c := by
  simp only [quote, List.cons_append, List.mem_cons, List.mem_append, List.mem_flatMap,
    List.not_mem_nil, or_false] at member
  rcases member with rfl | ⟨d, -, escaped⟩ | rfl
  · decide
  · exact (writes_escapeChar d).printable escaped
  · decide

theorem stringChar_unitEscape (n : Nat) (rest : List Char) :
    stringChar? (unitEscape n ++ rest) = escapedCode? (Digits.padded 16 4 n ++ rest) := rfl

/-- An escape that is no half of a pair is read as the character with this code. -/
theorem stringChar_basic {n : Nat} (basic : n < 0x10000) (whole : n < 0xD800 ∨ 0xDFFF < n)
    (rest : List Char) : stringChar? (unitEscape n ++ rest) = some (Char.ofNat n, rest) := by
  have high : ¬(0xD800 ≤ n ∧ n < 0xDC00) := by omega
  have low : ¬(0xDC00 ≤ n ∧ n < 0xE000) := by omega
  simp only [stringChar_unitEscape, escapedCode?, Digits.unit?_padded basic]
  rw [if_neg high, if_neg low]

/-- Two escapes that are the halves of a pair are read as one character. -/
theorem stringChar_halves {high low : Nat} (isHigh : 0xD800 ≤ high ∧ high < 0xDC00)
    (isLow : 0xDC00 ≤ low ∧ low < 0xE000) (rest : List Char) :
    stringChar? (unitEscape high ++ (unitEscape low ++ rest)) =
      some (Char.ofNat (0x10000 + (high - 0xD800) * 0x400 + (low - 0xDC00)), rest) := by
  have first := Digits.unit?_padded (n := high) (by omega)
  have second := Digits.unit?_padded (n := low) (by omega)
  rw [stringChar_unitEscape, unitEscape, List.cons_append, List.cons_append]
  simp only [escapedCode?, first, second]
  rw [if_pos isHigh, if_pos isLow]

/-- The halves that a code outside the basic plane is cut into are halves, and they give the code
again. -/
theorem stringChar_pair {n high low : Nat} (outside : ¬n < 0x10000) (code : n < 0x110000)
    (first : high = 0xD800 + (n - 0x10000) / 0x400)
    (second : low = 0xDC00 + (n - 0x10000) % 0x400) (rest : List Char) :
    stringChar? (unitEscape high ++ unitEscape low ++ rest) = some (Char.ofNat n, rest) := by
  have isHigh : 0xD800 ≤ high ∧ high < 0xDC00 := by omega
  have isLow : 0xDC00 ≤ low ∧ low < 0xE000 := by omega
  have joined : 0x10000 + (high - 0xD800) * 0x400 + (low - 0xDC00) = n := by omega
  rw [List.append_assoc, stringChar_halves isHigh isLow, joined]

/-- The escape of a character is read back as that character. No character has half of a pair as its
code, so no single unit is taken for one. -/
theorem stringChar_codeEscape (c : Char) (rest : List Char) :
    stringChar? (codeEscape c ++ rest) = some (c, rest) := by
  have valid : c.toNat < 0xD800 ∨ 0xDFFF < c.toNat ∧ c.toNat < 0x110000 := c.valid
  have same : some (c, rest) = some (Char.ofNat c.toNat, rest) := by rw [Char.ofNat_toNat]
  rw [same]
  by_cases basic : c.toNat < 0x10000
  · have escaped : codeEscape c = unitEscape c.toNat := if_pos basic
    rw [escaped, stringChar_basic basic (by omega)]
  · have escaped : codeEscape c = unitEscape (0xD800 + (c.toNat - 0x10000) / 0x400) ++
        unitEscape (0xDC00 + (c.toNat - 0x10000) % 0x400) := if_neg basic
    rw [escaped, stringChar_pair basic (by omega) rfl rfl]

/-- A printable character that is no quote and no backslash stands for itself. -/
theorem stringChar_plain {c : Char} (rest : List Char) (printable : IsPrintable c)
    (noBackslash : c ≠ '\\') : stringChar? (c :: rest) = some (c, rest) := by
  have high : ¬c.toNat < 0x20 := Nat.not_lt.mpr printable.1
  unfold stringChar?
  split <;> simp_all

/-- A written character is read back. -/
theorem Writes.read {c : Char} {cs : List Char} (writes : Writes c cs) (rest : List Char) :
    stringChar? (cs ++ rest) = some (c, rest) := by
  cases writes with
  | @letter e known =>
      simp only [letterEscapes, List.mem_cons, Prod.mk.injEq, List.not_mem_nil, or_false] at known
      rcases known with ⟨rfl, rfl⟩ | ⟨rfl, rfl⟩ | ⟨rfl, rfl⟩ | ⟨rfl, rfl⟩ | ⟨rfl, rfl⟩ |
        ⟨rfl, rfl⟩ | ⟨rfl, rfl⟩ <;> rfl
  | plain printable noQuote noBackslash => exact stringChar_plain rest printable noBackslash
  | code => exact stringChar_codeEscape c rest

/-- What is written for a character is not empty and does not begin like the end of a string. -/
theorem Writes.shape {c : Char} {cs : List Char} (writes : Writes c cs) :
    ∃ d more, cs = d :: more ∧ d ≠ '"' := by
  cases writes with
  | letter known => exact ⟨_, _, rfl, by decide⟩
  | plain printable noQuote => exact ⟨c, [], rfl, noQuote⟩
  | code =>
      unfold codeEscape
      dsimp only
      split
      · exact ⟨_, _, rfl, by decide⟩
      · exact ⟨_, _, rfl, by decide⟩

/-- A character of a string is read, and the rest of the string after it. -/
theorem stringBody_char {cs rest : List Char} {c : Char} (inside : cs.head? ≠ some '"')
    (read : stringChar? cs = some (c, rest)) (fuel : Nat) :
    stringBody? (fuel + 1) cs = (stringBody? fuel rest).map fun (s, r) => (c :: s, r) := by
  rw [stringBody?.eq_def]
  split
  · contradiction
  · simp at inside
  · rename_i same _
    obtain rfl := Nat.succ.inj same
    simp only [read]
    cases stringBody? fuel rest <;> rfl

/-- The rest of a string is read back up to its closing quote. -/
theorem stringBody_escaped (cs : List Char) (rest : List Char) {fuel : Nat}
    (enough : cs.length < fuel) :
    stringBody? fuel (cs.flatMap escapeChar ++ '"' :: rest) = some (cs, rest) := by
  induction cs generalizing fuel with
  | nil =>
      obtain ⟨fuel, rfl⟩ := Nat.exists_eq_add_of_lt enough
      rfl
  | cons c cs ih =>
      obtain ⟨fuel, rfl⟩ : ∃ k, fuel = k + 1 := ⟨fuel - 1, by simp at enough; omega⟩
      have writes := writes_escapeChar c
      have inside : (escapeChar c ++ (cs.flatMap escapeChar ++ '"' :: rest)).head? ≠ some '"' := by
        obtain ⟨d, more, shape, noQuote⟩ := writes.shape
        simpa [shape] using noQuote
      have later : stringBody? fuel _ = _ := ih (by simpa using enough)
      rw [List.flatMap_cons, List.append_assoc, stringBody_char inside (writes.read _), later]
      rfl

theorem length_le_escaped (cs : List Char) : cs.length ≤ (cs.flatMap escapeChar).length := by
  induction cs with
  | nil => simp
  | cons c cs ih =>
      obtain ⟨d, more, shape, -⟩ := (writes_escapeChar c).shape
      rw [List.flatMap_cons, shape, List.length_append, List.length_cons, List.length_cons]
      omega

/-- A quoted string is read back from what follows its opening quote. -/
theorem quote_read (s : String) (rest : List Char) :
    ∃ body, quote s ++ rest = '"' :: body ∧
      stringBody? (body.length + 1) body = some (s.toList, rest) := by
  refine ⟨s.toList.flatMap escapeChar ++ '"' :: rest, by simp [quote], ?_⟩
  refine stringBody_escaped _ rest ?_
  have longer := length_le_escaped s.toList
  rw [List.length_append]
  omega

end BootstrapApproval.Json
