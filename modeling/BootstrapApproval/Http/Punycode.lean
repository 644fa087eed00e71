/-! # Punycode

The spelling of a text in ASCII letters, digits and hyphens. The ASCII characters come first, as
they stand. The others follow in ascending order, each as the number of places and characters that
are passed over since the one before, in a base that adapts to the numbers met so far.
-/

namespace BootstrapApproval.Punycode

/-- The sign of a digit in base 36: the letters and then the ten digits. -/
def digit (n : Nat) : Char :=
  if n < 26 then Char.ofNat ('a'.toNat + n) else Char.ofNat ('0'.toNat + (n - 26))

/-- A digit below this threshold ends a number. -/
def threshold (place bias : Nat) : Nat := max 1 (min 26 (place - bias))

theorem threshold_pos (place bias : Nat) : 1 ≤ threshold place bias := by
  unfold threshold
  omega

/-- The digits of a number from the given place on, the least first. -/
def number (bias place n : Nat) : List Char :=
  let t := threshold place bias
  if n < t then [digit n]
  else digit (t + (n - t) % (36 - t)) :: number bias (place + 36) ((n - t) / (36 - t))
termination_by n
decreasing_by
  have pos := threshold_pos place bias
  have shrink := Nat.div_le_self (n - threshold place bias) (36 - threshold place bias)
  omega

/-- The bias that suits numbers of the given size; `base` is what the places passed so far add. -/
def settled (base delta : Nat) : Nat :=
  if 455 < delta then settled (base + 36) (delta / 35) else base + 36 * delta / (delta + 38)
termination_by delta
decreasing_by exact Nat.div_lt_self (by omega) (by omega)

/-- The bias after a number, from the number and how many characters are placed by now. -/
def adapted (delta placed : Nat) (first : Bool) : Nat :=
  let delta := if first then delta / 700 else delta / 2
  settled 0 (delta + delta / placed)

structure Progress where
  /-- Places passed over since the last character was placed. -/
  delta : Nat
  bias : Nat
  placed : Nat
  spelling : List Char

/-- Pass over one character of the text, or place it when it is the one that is due. -/
def visit (basic due : Nat) (p : Progress) (c : Nat) : Progress :=
  if c < due then { p with delta := p.delta + 1 }
  else if c = due then
    { delta := 0
      bias := adapted p.delta (p.placed + 1) (p.placed == basic)
      placed := p.placed + 1
      spelling := p.spelling ++ number p.bias 36 p.delta }
  else p

/-- Place the characters outside ASCII, which are given in ascending order; `next` is the least code
that may still come. -/
def placeAll (text : List Nat) (basic : Nat) : List Nat → Nat → Progress → Progress
  | [], _, p => p
  | due :: rest, next, p =>
      let p := { p with delta := p.delta + (due - next) * (p.placed + 1) }
      let p := text.foldl (visit basic due) p
      placeAll text basic rest (due + 1) { p with delta := p.delta + 1 }

def encode (cs : List Char) : List Char :=
  let text := cs.map Char.toNat
  let plain := cs.filter fun c => c.toNat < 0x80
  let due := ((text.filter (0x80 ≤ ·)).mergeSort).eraseReps
  let p := placeAll text plain.length due 0x80 ⟨0, 72, plain.length, []⟩
  (if plain.isEmpty then [] else plain ++ ['-']) ++ p.spelling

def value? (c : Char) : Option Nat :=
  if 'a' ≤ c ∧ c ≤ 'z' then some (c.toNat - 'a'.toNat)
  else if 'A' ≤ c ∧ c ≤ 'Z' then some (c.toNat - 'A'.toNat)
  else if '0' ≤ c ∧ c ≤ '9' then some (c.toNat - '0'.toNat + 26)
  else none

/-- The number at the start of a spelling, and the shorter rest. A digit counts `weight`, and `sum`
is what the digits before it count. -/
def number? (bias place weight sum : Nat) :
    (cs : List Char) → Option { r : Nat × List Char // r.2.length < cs.length }
  | [] => none
  | c :: rest =>
      match value? c with
      | none => none
      | some d =>
          let t := threshold place bias
          let sum := sum + d * weight
          if d < t then some ⟨(sum, rest), by simp⟩
          else
            (number? bias (place + 36) (weight * (36 - t)) sum rest).map fun r =>
              ⟨r.val, Nat.lt_succ_of_lt r.property⟩

/-- Put the characters that a spelling tells of into a text, `place` and `code` being those of the
next character at the least. -/
def insertAll (bias place code : Nat) (text cs : List Char) : Option (List Char) :=
  if cs.isEmpty then some text
  else
    match number? bias 36 1 0 cs with
    | none => none
    | some ⟨(delta, rest), shorter⟩ =>
        let count := text.length + 1
        let code := code + (place + delta) / count
        let place := (place + delta) % count
        if code.isValidChar then
          insertAll (adapted delta count (text.all fun c => c.toNat < 0x80)) (place + 1) code
            (text.insertIdx place (Char.ofNat code)) rest
        else none
termination_by cs.length
decreasing_by exact shorter

/-- The text of a spelling, if it is one. The last hyphen ends the ASCII characters. -/
def decode? (cs : List Char) : Option (List Char) :=
  match cs.reverse.span (· != '-') with
  | (back, _ :: front) => insertAll 72 0 0x80 front.reverse back.reverse
  | (back, []) => insertAll 72 0 0x80 [] back.reverse

example : encode ['b', '\u00FC', 'c', 'h', 'e', 'r'] = "bcher-kva".toList := by decide +kernel

example : decode? "bcher-kva".toList = some ['b', '\u00FC', 'c', 'h', 'e', 'r'] := by
  decide +kernel

end BootstrapApproval.Punycode
