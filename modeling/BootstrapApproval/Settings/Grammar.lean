import BootstrapApproval.Checked
import BootstrapApproval.Decimal.Nearest
import BootstrapApproval.Text.Letters
import BootstrapApproval.Text.Search

/-! # The spelling of settings

Switches are words or single digits in any letter case. Whole numbers have a plain form, which is
limited in length; any other spelling is first brought to it: blanks around the number, a plus,
leading zeros, single underscores and a point with zeros at the end are removed. Fractions have the
usual decimal form, may hold single underscores and must lie between zero and one.
-/

namespace BootstrapApproval.Grammar

def offWords : List String := ["0", "off", "f", "false", "n", "no"]

def onWords : List String := ["1", "on", "t", "true", "y", "yes"]

def switch (s : String) : Checked Bool :=
  let word := Letters.asciiLower s
  if offWords.contains word then .ok false
  else if onWords.contains word then .ok true
  else .fail .notSwitch

/-- The text without its underscores. They may only stand between other characters, one at a time,
and there must be one. -/
def ungrouped? (cs : List Char) : Option (List Char) :=
  if !cs.contains '_' || cs.head? == some '_' || cs.getLast? == some '_' ||
      Search.occursIn ['_', '_'] cs then none
  else some (cs.filter (· != '_'))

/-- The greatest length of a whole number in plain form, its sign included. -/
def maxLength : Nat := 4300

inductive Plain where
  | number (n : Int)
  | tooLong
  | misspelled
  deriving DecidableEq, Repr

/-- A whole number in plain form: digits without needless zeros, with a minus in front when it is
negative. A number that begins with too many digits is too long, whatever follows them. -/
def plain (cs : List Char) : Plain :=
  let (negative, unsigned) := match cs with
    | '-' :: rest => (true, rest)
    | cs => (false, cs)
  let (digits, rest) := Digits.span unsigned
  if digits.isEmpty || (digits.head? == some '0' && 1 < digits.length) then .misspelled
  else if maxLength < digits.length + (if negative then 1 else 0) then .tooLong
  else if !rest.isEmpty then .misspelled
  else
    let n : Int := Digits.read digits
    .number (if negative then -n else n)

/-- The text after leading zeros, of which `last` is the one just passed. Underscores among zeros
are passed like zeros. Of nothing but zeros the last one is left; a zero before a point stays. -/
def afterZeros (last : Char) : List Char → Option (List Char)
  | [] => some [last]
  | c :: rest =>
      if c = '0' ∨ c = '_' then afterZeros c rest
      else if Digits.isDigit c ∨ c = '-' then some (c :: rest)
      else if c = '.' then some (last :: c :: rest)
      else none

/-- The text without leading zeros; it must begin with a digit or a minus. -/
def withoutZeros? : List Char → Option (List Char)
  | '0' :: rest => afterZeros '0' rest
  | c :: rest => if Digits.isDigit c ∨ c = '-' then some (c :: rest) else none
  | [] => none

def withoutPoint (cs : List Char) : List Char :=
  let zeros := Search.after (· == '.') cs
  if !zeros.isEmpty && zeros.all (· == '0') then Search.before (· == '.') cs else cs

/-- The plain form of digits after a sign: leading zeros, a point with zeros and underscores are
removed, in this order. -/
def plainDigits? (cs : List Char) : Option (List Char) :=
  (withoutZeros? cs).map fun cs =>
    let cs := withoutPoint cs
    (ungrouped? cs).getD cs

/-- The plain form of a spelled whole number, without the blanks around it and without a plus. -/
def plainForm? (cs : List Char) : Option (List Char) :=
  match Search.strip Letters.isBlank cs with
  | '-' :: rest => (plainDigits? rest).map ('-' :: ·)
  | '+' :: '-' :: _ => none
  | '+' :: rest => plainDigits? rest
  | cs => plainDigits? cs

/-- A whole number: as it stands when it is in plain form, else by its plain form. -/
def whole (s : String) : Checked Int :=
  match plain s.toList with
  | .number n => .ok n
  | .tooLong => .fail .tooLong
  | .misspelled =>
      match (plainForm? s.toList).map plain with
      | some (.number n) => .ok n
      | _ => .fail .notWhole

inductive Spelled where
  | notANumber
  | infinite (negative : Bool)
  | finite (negative : Bool) (digits : Nat) (exponent : Int)
  deriving DecidableEq, Repr

def magnitude? (negative : Bool) (cs : List Char) : Option Spelled :=
  let word := Letters.asciiLower (String.ofList cs)
  if word = "nan" then some .notANumber
  else if word = "inf" ∨ word = "infinity" then some (.infinite negative)
  else
    let (before, rest) := Digits.span cs
    let (after, rest) := match rest with
      | '.' :: r => Digits.span r
      | r => ([], r)
    if before.isEmpty && after.isEmpty then none
    else
      (Digits.exponent? rest).map fun e =>
        .finite negative (Digits.read (before ++ after)) (e - after.length)

def signed? (cs : List Char) : Option Spelled :=
  let (negative, rest) := Digits.sign cs
  magnitude? negative rest

/-- A number. Blanks around it do not count; or it may hold underscores, but then no blanks. -/
def spelled? (s : String) : Option Spelled :=
  (signed? (Search.strip Letters.isBlank s.toList)).or ((ungrouped? s.toList).bind signed?)

def fraction (s : String) : Checked Decimal :=
  match spelled? s with
  | none => .fail .notNumber
  | some .notANumber => .fail .aboveOne
  | some (.infinite negative) => .fail (if negative then .belowZero else .aboveOne)
  | some (.finite negative digits exponent) =>
      match Decimal.kept negative digits exponent with
      | none => .fail (if negative then .belowZero else .aboveOne)
      | some x =>
          if x.belowZero then .fail .belowZero else if x.aboveOne then .fail .aboveOne else .ok x

end BootstrapApproval.Grammar
