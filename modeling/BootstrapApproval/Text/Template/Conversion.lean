import BootstrapApproval.Decimal.Nearest
import BootstrapApproval.Text.Template.Misfit

/-! # Conversions

What a directive makes of a value: a text, which is cut and padded, or a number, which is padded
between its sign and its digits when zeros are asked for. Numbers with a fraction are shown from
their exact binary value.
-/

namespace BootstrapApproval.Template

structure Directive where
  left : Bool
  plus : Bool
  blank : Bool
  /-- Show the base of a number and the point after it. -/
  alternate : Bool
  zero : Bool
  width : Nat
  precision : Option Nat

def Directive.plain : Directive := ⟨false, false, false, false, false, 0, none⟩

inductive Piece where
  | text (cs : List Char)
  | number (negative : Bool) (base digits : List Char)

def pad (d : Directive) (cs : List Char) : List Char :=
  let blanks := List.replicate (d.width - cs.length) ' '
  if d.left then cs ++ blanks else blanks ++ cs

def Piece.padded (d : Directive) : Piece → List Char
  | text cs => pad d cs
  | number negative base digits =>
      let sign :=
        if negative then ['-'] else if d.plus then ['+'] else if d.blank then [' '] else []
      let front := sign ++ base
      if d.zero && !d.left then
        front ++ List.replicate (d.width - front.length - digits.length) '0' ++ digits
      else pad d (front ++ digits)

def cut (d : Directive) (cs : List Char) : Piece :=
  .text (match d.precision with | some n => cs.take n | none => cs)

def asciiOnly (c : Char) : List Char := if c.toNat < 0x80 then [c] else Display.codeEscape c

inductive Size where
  | finite (num den : Nat)
  | infinite

def realOf : Json → Except Misfit (Bool × Size)
  | .bool b => .ok (false, .finite (if b then 1 else 0) 1)
  | .int n =>
      match Binary.nearest n.natAbs 1 with
      | some b => .ok (n < 0, .finite b.fraction.1 b.fraction.2)
      | none => .error .numberTooLarge
  | .decimal x =>
      match Binary.ofDecimal x.digits x.exponent with
      | some b => .ok (x.negative, .finite b.fraction.1 b.fraction.2)
      | none => .ok (x.negative, .infinite)
  | v => .error (.notANumber v)

def wholeOf (letter : Char) (v : Json) : Except Misfit Int :=
  match v with
  | .bool b => .ok (if b then 1 else 0)
  | .int n => .ok n
  | .decimal _ =>
      match realOf v with
      | .ok (negative, .finite num den) =>
          let n : Int := num / den
          .ok (if negative then -n else n)
      | .ok (_, .infinite) => .error .infinite
      | .error e => .error e
  | v => .error (.notReal letter v)

def inBase (d : Directive) (base : Nat) (mark : List Char) (n : Int) : Except Misfit Piece :=
  if Place.precision.limit - 3 < d.precision.getD 0 then .error .tooManyDigits
  else
    .ok (.number (n < 0) (if d.alternate then mark else [])
      (Digits.padded base (d.precision.getD 0) n.natAbs))

/-- More digits than any number with 53 binary digits has: the digits after these are zeros. -/
def enoughDigits : Nat := 1100

def fixedDigits (precision num den : Nat) (point : Bool) : List Char :=
  let p := min precision enoughDigits
  let ds := Digits.padded 10 (p + 1) (Binary.roundDiv (num * Nat.pow 10 p) den)
  let whole := ds.length - p
  let part := ds.drop whole ++ List.replicate (precision - p) '0'
  ds.take whole ++ (if part.isEmpty && !point then [] else '.' :: part)

/-- The number in scientific form with so many digits after the first: the digits as one whole
number, and the exponent. -/
def scientific (precision num den : Nat) : Nat × Int :=
  if num = 0 then (0, 0)
  else
    let e := Binary.leadingExponent num den 700 310
    let shift := (precision : Int) - e
    let m := if shift < 0 then Binary.roundDiv num (den * Nat.pow 10 (-shift).toNat)
      else Binary.roundDiv (num * Nat.pow 10 shift.toNat) den
    if m = Nat.pow 10 (precision + 1) then (Nat.pow 10 precision, e + 1) else (m, e)

/-- So many digits of a number from the first one on that counts, and the exponent of that one. -/
def digitsOf (count num den : Nat) : List Char × Int :=
  let c := min count enoughDigits
  let (m, e) := scientific (c - 1) num den
  (Digits.padded 10 c m ++ List.replicate (count - c) '0', e)

def scientificText (ds : List Char) (e : Int) (point : Bool) : List Char :=
  let rest := ds.drop 1
  ds.take 1 ++ (if rest.isEmpty && !point then [] else '.' :: rest) ++ Decimal.exponentText e

def trimZeros (ds : List Char) : List Char := (ds.reverse.dropWhile (· == '0')).reverse

/-- A number in the shorter of both forms, with at most so many digits that count. -/
def generalText (count num den : Nat) (alternate : Bool) : List Char :=
  let trim := fun ds => if alternate then ds else trimZeros ds
  let (ds, e) := digitsOf (if alternate then count else min count enoughDigits) num den
  if e < -4 || (count : Int) ≤ e then
    scientificText (ds.take 1 ++ trim (ds.drop 1)) e alternate
  else if e < 0 then '0' :: '.' :: trim (List.replicate (-e - 1).toNat '0' ++ ds)
  else
    let rest := trim (ds.drop (e.toNat + 1))
    ds.take (e.toNat + 1) ++ (if rest.isEmpty && !alternate then [] else '.' :: rest)

def realText (d : Directive) (letter : Char) (num den : Nat) : List Char :=
  let precision := d.precision.getD 6
  match letter with
  | 'f' => fixedDigits precision num den d.alternate
  | 'e' =>
      let (ds, e) := digitsOf (precision + 1) num den
      scientificText ds e d.alternate
  | _ => generalText (max 1 precision) num den d.alternate

/-- A number by a letter that shows fractions; a capital letter gives capitals. -/
def real (d : Directive) (letter : Char) (v : Json) : Except Misfit Piece := do
  let (negative, size) ← realOf v
  let digits := match size with
    | .finite num den => realText d letter.toLower num den
    | .infinite => ['i', 'n', 'f']
  pure (.number negative [] (if letter.isUpper then digits.map Char.toUpper else digits))

def characterOf (n : Int) : Except Misfit Piece :=
  if n < 0 ∨ 0x110000 ≤ n then .error .noSuchCharacter
  else .ok (.text [Char.ofNat n.toNat])

/-- What a directive makes of a value. The position is that of the letter. -/
def convert (d : Directive) (letter : Char) (position : Nat) (v : Json) : Except Misfit Piece :=
  let based (base : Nat) (mark : List Char) : Except Misfit Piece :=
    match v with
    | .int n => inBase d base mark n
    | .bool b => inBase d base mark (if b then 1 else 0)
    | _ => .error (.notWhole letter v)
  match letter with
  | 's' => .ok (cut d v.shown.toList)
  | 'r' => .ok (cut d v.spelled.toList)
  | 'a' => .ok (cut d (v.spelled.toList.flatMap asciiOnly))
  | 'd' | 'i' | 'u' => do inBase d 10 [] (← wholeOf letter v)
  | 'x' => based 16 ['0', 'x']
  | 'X' => do
      match ← based 16 ['0', 'x'] with
      | .number negative base digits =>
          pure (.number negative (base.map Char.toUpper) (digits.map Char.toUpper))
      | piece => pure piece
  | 'o' => based 8 ['0', 'o']
  | 'f' | 'F' | 'e' | 'E' | 'g' | 'G' => real d letter v
  | 'c' =>
      match v with
      | .int n => characterOf n
      | .bool b => characterOf (if b then 1 else 0)
      | .str s => if s.length = 1 then .ok (.text s.toList) else .error .notACharacter
      | _ => .error .notACharacter
  | _ => .error (.unknownLetter letter position)

end BootstrapApproval.Template
