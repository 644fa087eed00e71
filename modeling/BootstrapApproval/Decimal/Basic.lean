import BootstrapApproval.Text.Digits

/-! # Decimal numbers

A decimal number is a sign, a whole number of digits and a power of ten. In its least form the
digits do not end in a zero. The text form is positional from `0.0001` up to below `10^16` and uses
an exponent of at least two digits outside that range; it always shows a point or an exponent, so
it cannot be mistaken for a whole number.
-/

namespace BootstrapApproval

/-- The number `± digits · 10 ^ exponent`. Zero keeps its sign. -/
structure Decimal where
  negative : Bool
  digits : Nat
  exponent : Int
  deriving DecidableEq, Repr, Inhabited

namespace Decimal

/-- Move zeros at the end of the digits into the exponent; `fuel` bounds their number. -/
def shift : Nat → Nat → Int → Nat × Int
  | 0, d, e => (d, e)
  | fuel + 1, d, e => if d % 10 = 0 then shift fuel (d / 10) (e + 1) else (d, e)

def least (negative : Bool) (digits : Nat) (exponent : Int) : Decimal :=
  if digits = 0 then ⟨negative, 0, 0⟩
  else
    let (d, e) := shift (Nat.log2 digits + 1) digits exponent
    ⟨negative, d, e⟩

def fraction (x : Decimal) : Int × Nat :=
  let signed : Int := if x.negative then -(x.digits : Int) else x.digits
  if x.exponent < 0 then (signed, Nat.pow 10 (-x.exponent).toNat)
  else (signed * Nat.pow 10 x.exponent.toNat, 1)

/-- Whether the value lies below zero. Zero does not, whatever its sign. -/
def belowZero (x : Decimal) : Bool := x.negative && x.digits != 0

def aboveOne (x : Decimal) : Bool :=
  let (n, d) := x.fraction
  decide ((d : Int) < n)

/-- The exponent part of a text, with a sign and at least two digits. -/
def exponentText (e : Int) : List Char :=
  'e' :: (if e < 0 then '-' else '+') :: Digits.padded 10 2 e.natAbs

def magnitude (digits : Nat) (exponent : Int) : List Char :=
  let ds := Digits.write 10 digits
  let point : Int := ds.length + exponent
  if point ≤ -4 || 16 < point then
    match ds with
    | [] => []
    | [d] => d :: exponentText (point - 1)
    | d :: rest => d :: '.' :: rest ++ exponentText (point - 1)
  else if point ≤ 0 then
    '0' :: '.' :: List.replicate (-point).toNat '0' ++ ds
  else if exponent ≥ 0 then
    ds ++ List.replicate exponent.toNat '0' ++ ['.', '0']
  else
    ds.take point.toNat ++ '.' :: ds.drop point.toNat

def text (x : Decimal) : String :=
  String.ofList ((if x.negative then ['-'] else []) ++ magnitude x.digits x.exponent)

def one : Decimal := ⟨false, 1, 0⟩

def zero : Decimal := ⟨false, 0, 0⟩

end Decimal

end BootstrapApproval
