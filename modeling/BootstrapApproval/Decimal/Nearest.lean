import BootstrapApproval.Decimal.Basic

/-! # The nearest binary fraction and its shortest decimal

Numbers with a fraction are kept to 53 binary digits. `Binary.nearest` rounds a fraction to the
nearest such number, a tie to the even one, and `Binary.shortest` finds the decimal with the fewest
digits that rounds back to it, the nearest one when there are several. All arithmetic is exact.
-/

namespace BootstrapApproval

/-- The positive number `significand · 2 ^ exponent`, or zero. -/
structure Binary where
  significand : Nat
  exponent : Int
  deriving DecidableEq, Repr

namespace Binary

def minExponent : Int := -1074

def maxExponent : Int := 971

/-- Divide and round to the nearest whole number, a tie to the even one. -/
def roundDiv (num den : Nat) : Nat :=
  let q := num / den
  let r := num % den
  if 2 * r < den then q else if den < 2 * r then q + 1 else if q % 2 = 0 then q else q + 1

/-- The fraction `num / den` in units of `2 ^ exponent`. -/
def inUnits (num den : Nat) (exponent : Int) : Nat × Nat :=
  if exponent < 0 then (num * Nat.pow 2 (-exponent).toNat, den)
  else (num, den * Nat.pow 2 exponent.toNat)

/-- The nearest number to `num / den`; nothing when it is too large. -/
def nearest (num den : Nat) : Option Binary :=
  if num = 0 then some ⟨0, minExponent⟩
  else
    let guess : Int := (Nat.log2 num : Int) - Nat.log2 den - 53
    let floorAt (q : Int) : Nat :=
      let (n, d) := inUnits num den q
      n / d
    let q := if Nat.pow 2 53 ≤ floorAt guess then guess + 1 else guess
    let q := max q minExponent
    let (n, d) := inUnits num den q
    let m := roundDiv n d
    let (m, q) := if m = Nat.pow 2 53 then (Nat.pow 2 52, q + 1) else (m, q)
    if maxExponent < q then none else some ⟨m, q⟩

/-- The fraction `digits · 10 ^ exponent`. -/
def ofDigits (digits : Nat) (exponent : Int) : Nat × Nat :=
  if exponent < 0 then (digits, Nat.pow 10 (-exponent).toNat)
  else (digits * Nat.pow 10 exponent.toNat, 1)

/-- The nearest number to `digits · 10 ^ exponent`. Exponents far outside the range are decided
without computing the power. -/
def ofDecimal (digits : Nat) (exponent : Int) : Option Binary :=
  if digits = 0 then some ⟨0, minExponent⟩
  else
    let length : Int := (Digits.write 10 digits).length
    if 310 < length + exponent then none
    else if length + exponent < -345 then some ⟨0, minExponent⟩
    else
      let (num, den) := ofDigits digits exponent
      nearest num den

def fraction (x : Binary) : Nat × Nat :=
  if x.exponent < 0 then (x.significand, Nat.pow 2 (-x.exponent).toNat)
  else (x.significand * Nat.pow 2 x.exponent.toNat, 1)

/-- The exponent of ten of the first digit of `num / den`, counted from `start` downwards. -/
def leadingExponent (num den : Nat) : Nat → Int → Int
  | 0, e => e
  | fuel + 1, e =>
      let (n, d) := ofDigits 1 e
      if n * den ≤ num * d then e else leadingExponent num den fuel (e - 1)

/-- The two neighbours of `num / den` among the multiples of `10 ^ grid`, the nearer first; a tie
goes to the even one. -/
def neighbours (num den : Nat) (grid : Int) : List Nat :=
  let (n, d) := if grid < 0 then (num * Nat.pow 10 (-grid).toNat, den)
    else (num, den * Nat.pow 10 grid.toNat)
  let low := n / d
  let r := n % d
  if r = 0 then [low]
  else if 2 * r < d || (2 * r = d && low % 2 = 0) then [low, low + 1]
  else [low + 1, low]

/-- Search the grids of 1, 2, … digits for a decimal that reads back. -/
def shortestFrom (x : Binary) (num den : Nat) (lead : Int) : Nat → Int → Nat × Int
  | 0, grid => ((neighbours num den grid).headD 0, grid)
  | fuel + 1, grid =>
      match (neighbours num den grid).find? (fun d => ofDecimal d grid = some x) with
      | some d => (d, grid)
      | none => shortestFrom x num den lead fuel (grid - 1)

def shortest (x : Binary) : Nat × Int :=
  if x.significand = 0 then (0, 0)
  else
    let (num, den) := x.fraction
    let lead := leadingExponent num den 700 310
    shortestFrom x num den lead 17 lead

end Binary

/-- A decimal as the numbers with 53 binary digits keep it, in least form; nothing when it is too
large for them. -/
def Decimal.kept (negative : Bool) (digits : Nat) (exponent : Int) : Option Decimal :=
  (Binary.ofDecimal digits exponent).map fun x =>
    let (d, e) := x.shortest
    Decimal.least negative d e

end BootstrapApproval
