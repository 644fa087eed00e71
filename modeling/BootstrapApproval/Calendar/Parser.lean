import BootstrapApproval.Calendar.Timestamp
import BootstrapApproval.Decimal.Nearest
import BootstrapApproval.Json.Basic

/-! # Reading timestamps

A timestamp is read from a number, the seconds since the start of 1970 or, when it is far from
zero, milliseconds; from a text that spells such a number; or from a text with a date and
optionally a time of day and a zone.
-/

namespace BootstrapApproval.Timestamp

inductive Refusal where
  | notATime
  | unreadable
  | outOfRange
  deriving DecidableEq, Repr

/-- Numbers farther from zero than this count milliseconds. -/
def millisecondsFrom : Nat := 20000000000

def wholeMicros (n : Int) : Int :=
  if n.natAbs ≤ millisecondsFrom then n * 1000000 else n * 1000

/-- The part of a number above the whole number below it, in so many parts of a unit, rounded to the
nearest part, a half upwards. The part and its product are kept to 53 binary digits. -/
def fractionParts (perUnit num den : Nat) : Option Nat := do
  let (n, d) := (← Binary.nearest num den).fraction
  let (n, d) := (← Binary.nearest (n * perUnit) d).fraction
  some ((2 * n + d) / (2 * d))

/-- Microseconds of a number of seconds or milliseconds with a fraction. The whole part is rounded
down, so that the fraction always counts forward from it. -/
def pointMicros? (negative : Bool) (digits : Nat) (exponent : Int) : Option Int := do
  let (num, den) := (← Binary.ofDecimal digits exponent).fraction
  let perUnit := if num ≤ millisecondsFrom * den then 1000000 else 1000
  let signed : Int := if negative then -(num : Int) else num
  let floor := signed.fdiv den
  let parts ← fractionParts perUnit (signed - floor * den).toNat den
  some (floor * perUnit + parts)

/-- Spelled numbers with a point keep their whole part below this. -/
def maxWholePart : Nat := Nat.pow 2 63

/-- Microseconds of a spelled number: digits with an optional point among or beside them. Only a
number with a point may have an exponent. -/
def spelledMicros? (cs : List Char) : Option (Option Int) :=
  let (negative, rest) := Digits.sign cs
  let (whole, rest) := Digits.span rest
  match rest with
  | [] =>
      if whole.isEmpty then none
      else
        let n : Int := Digits.read whole
        some (some (wholeMicros (if negative then -n else n)))
  | '.' :: rest =>
      let (part, rest) := Digits.span rest
      if (whole.isEmpty && part.isEmpty) || maxWholePart ≤ Digits.read whole then none
      else
        (Digits.exponent? rest).map fun exponent =>
          pointMicros? negative (Digits.read (whole ++ part)) (exponent - part.length)
  | _ => none

/-- The parts of a dated text. The year may still be 0. -/
structure Parts where
  year : Nat
  month : Nat
  day : Nat
  clock : Clock
  offset : Option Offset
  exist : Calendar.Exists year month day

def date? : List Char → Option ((Nat × Nat × Nat) × List Char)
  | a :: b :: c :: d :: '-' :: e :: f :: '-' :: g :: h :: rest => do
      let year ← Digits.read? [a, b, c, d]
      let month ← Digits.read? [e, f]
      let day ← Digits.read? [g, h]
      some ((year, month, day), rest)
  | _ => none

def isSeparator (c : Char) : Bool := c == 'T' || c == 't' || c == ' ' || c == '_'

/-- Six digits of a fraction: missing ones are zeros, further ones are cut. -/
def sixDigits (ds : List Char) : List Char := (ds ++ List.replicate 6 '0').take 6

def fraction? : List Char → Option (Nat × List Char)
  | c :: rest =>
      if c = '.' ∨ c = ',' then
        match Digits.span rest with
        | ([], _) => none
        | (ds, rest) => some (Digits.read (sixDigits ds), rest)
      else some (0, c :: rest)
  | [] => some (0, [])

/-- The seconds after hour and minute, with their fraction; both may be missing. -/
def seconds? : List Char → Option ((Nat × Nat) × List Char)
  | ':' :: a :: b :: rest => do
      let second ← Digits.read? [a, b]
      let (micro, rest) ← fraction? rest
      some ((second, micro), rest)
  | ':' :: _ => none
  | rest => some ((0, 0), rest)

def clock? : List Char → Option (Clock × List Char)
  | a :: b :: ':' :: c :: d :: rest => do
      let hour ← Digits.read? [a, b]
      let minute ← Digits.read? [c, d]
      let ((second, micro), rest) ← seconds? rest
      let clock ← Clock.of? hour minute second micro
      some (clock, rest)
  | _ => none

def offset? (behind : Bool) : List Char → Option Offset
  | [a, b, ':', c, d] => do Offset.of? behind (← Digits.read? [a, b]) (← Digits.read? [c, d])
  | [a, b, c, d] => do Offset.of? behind (← Digits.read? [a, b]) (← Digits.read? [c, d])
  | _ => none

def zone? : List Char → Option (Option Offset)
  | [] => some none
  | c :: rest =>
      if c = 'Z' ∨ c = 'z' then if rest.isEmpty then some (some .zero) else none
      else if c = '+' then (offset? false rest).map some
      else if c = '-' ∨ c = '\u2212' then (offset? true rest).map some
      else none

/-- Time of day and zone after a date; a date alone is midnight without a zone. -/
def time? : List Char → Option (Clock × Option Offset)
  | [] => some (.midnight, none)
  | c :: rest =>
      if isSeparator c then do
        let (clock, rest) ← clock? rest
        let offset ← zone? rest
        some (clock, offset)
      else none

def parts? (cs : List Char) : Option Parts := do
  let ((year, month, day), rest) ← date? cs
  let (clock, offset) ← time? rest
  if h : Calendar.Exists year month day then some ⟨year, month, day, clock, offset, h⟩ else none

def ofDated? (cs : List Char) : Option (Except Refusal Timestamp) :=
  (parts? cs).map fun p =>
    match Date.of? p.year p.month p.day with
    | some date => .ok ⟨date, p.clock, p.offset⟩
    | none => .error .outOfRange

def inYearZero (micros : Int) : Bool :=
  let n := micros.fdiv dayMicros
  Calendar.dayNumber 0 1 1 ≤ n && n < Calendar.dayNumber 1 1 1

def ofChars (cs : List Char) : Except Refusal Timestamp :=
  match ofDated? cs with
  | some answer => answer
  | none =>
      match spelledMicros? cs with
      | some (some n) =>
          match ofUnixMicros? n with
          | some t => .ok t
          | none => .error (if inYearZero n then .outOfRange else .unreadable)
      | _ => .error .unreadable

def ofMicros (n : Option Int) : Except Refusal Timestamp :=
  match n.bind ofUnixMicros? with
  | some t => .ok t
  | none => .error .outOfRange

def ofJson : Json → Except Refusal Timestamp
  | .int n => ofMicros (some (wholeMicros n))
  | .decimal x => ofMicros (pointMicros? x.negative x.digits x.exponent)
  | .str s => ofChars s.toList
  | _ => .error .notATime

def ofText? (s : String) : Option Timestamp := (ofChars s.toList).toOption

end BootstrapApproval.Timestamp
