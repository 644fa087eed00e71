import BootstrapApproval.Text.Search

/-! # Digits

Numbers in text: the value of a run of decimal digits, signs and exponents, and numbers written with
a fixed least width. Only the ten ASCII digits count.
-/

namespace BootstrapApproval.Digits

def value? (c : Char) : Option Nat :=
  if '0' ≤ c ∧ c ≤ '9' then some (c.toNat - '0'.toNat) else none

def isDigit (c : Char) : Bool := (value? c).isSome

/-- Continue reading digits after the number `acc`. -/
def readFrom (acc : Nat) : List Char → Nat
  | [] => acc
  | c :: rest => readFrom (10 * acc + (value? c).getD 0) rest

/-- The number a run of digits stands for; the empty run stands for zero. -/
def read (cs : List Char) : Nat := readFrom 0 cs

/-- The number when there is at least one character and every character is a digit. -/
def read? (cs : List Char) : Option Nat :=
  if cs.isEmpty || !cs.all isDigit then none else some (read cs)

/-- The greatest number of digits in a number that may be grouped. -/
def maxGrouped : Nat := 4300

/-- The number a run of digits stands for, with single underscores allowed between them. -/
def grouped? (cs : List Char) : Option Nat :=
  let digits := cs.filter (· != '_')
  if cs.head? == some '_' || cs.getLast? == some '_' || Search.occursIn ['_', '_'] cs
      || maxGrouped < digits.length then none
  else read? digits

def sign : List Char → Bool × List Char
  | '-' :: rest => (true, rest)
  | '+' :: rest => (false, rest)
  | cs => (false, cs)

/-- The exponent at the end of a number; no exponent is the exponent zero. -/
def exponent? : List Char → Option Int
  | [] => some 0
  | c :: rest =>
      if c = 'e' ∨ c = 'E' then
        let (negative, rest) := sign rest
        (read? rest).map fun n => if negative then -(n : Int) else n
      else none

def span (cs : List Char) : List Char × List Char := (cs.takeWhile isDigit, cs.dropWhile isDigit)

def digitChar (n : Nat) : Char :=
  if n < 10 then Char.ofNat ('0'.toNat + n) else Char.ofNat ('a'.toNat + (n - 10))

/-- The digits of `n` in a base from the last to the first, at most `fuel` of them. -/
def reversed (base : Nat) : Nat → Nat → List Char
  | 0, _ => []
  | fuel + 1, n =>
      if n < base then [digitChar n] else digitChar (n % base) :: reversed base fuel (n / base)

def write (base n : Nat) : List Char := (reversed base (n + 1) n).reverse

def padded (base width n : Nat) : List Char :=
  let cs := write base n
  List.replicate (width - cs.length) '0' ++ cs

def decimal (n : Nat) : String := String.ofList (write 10 n)

/-- A whole number in decimal, with a minus sign when it is negative. -/
def integer (n : Int) : String := if n < 0 then "-" ++ decimal n.natAbs else decimal n.natAbs

end BootstrapApproval.Digits
