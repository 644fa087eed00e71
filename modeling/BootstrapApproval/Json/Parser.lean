import BootstrapApproval.Decimal.Nearest
import BootstrapApproval.Json.Basic

/-! # Reading JSON

The reader takes characters from the front of a list and returns what is left. Of two members with
the same key the later one wins. A number without fraction and exponent is read exactly; any other
number is read as the nearest number that is kept. A pair of escapes for one character outside the
basic plane is read as that character; half a pair alone stands for no character and is read as the
replacement character.
-/

namespace BootstrapApproval.Json

def skip (cs : List Char) : List Char :=
  cs.dropWhile fun c => c == ' ' || c == '\n' || c == '\r' || c == '\t'

def hexValue? (c : Char) : Option Nat :=
  if '0' ≤ c ∧ c ≤ '9' then some (c.toNat - '0'.toNat)
  else if 'a' ≤ c ∧ c ≤ 'f' then some (c.toNat - 'a'.toNat + 10)
  else if 'A' ≤ c ∧ c ≤ 'F' then some (c.toNat - 'A'.toNat + 10)
  else none

def unit? : List Char → Option (Nat × List Char)
  | a :: b :: c :: d :: rest =>
      match hexValue? a, hexValue? b, hexValue? c, hexValue? d with
      | some a, some b, some c, some d => some (((a * 16 + b) * 16 + c) * 16 + d, rest)
      | _, _, _, _ => none
  | _ => none

/-- The character of a `\u` escape: one unit, or two when the first is the first half of a pair. -/
def escapedCode? (cs : List Char) : Option (Char × List Char) :=
  match unit? cs with
  | none => none
  | some (high, rest) =>
      if 0xD800 ≤ high ∧ high < 0xDC00 then
        match rest with
        | '\\' :: 'u' :: rest' =>
            match unit? rest' with
            | some (low, rest'') =>
                if 0xDC00 ≤ low ∧ low < 0xE000 then
                  some (Char.ofNat (0x10000 + (high - 0xD800) * 0x400 + (low - 0xDC00)), rest'')
                else some ('\uFFFD', rest)
            | none => some ('\uFFFD', rest)
        | _ => some ('\uFFFD', rest)
      else if 0xDC00 ≤ high ∧ high < 0xE000 then some ('\uFFFD', rest)
      else some (Char.ofNat high, rest)

def stringChar? : List Char → Option (Char × List Char)
  | '\\' :: '"' :: rest => some ('"', rest)
  | '\\' :: '\\' :: rest => some ('\\', rest)
  | '\\' :: '/' :: rest => some ('/', rest)
  | '\\' :: 'b' :: rest => some ('\x08', rest)
  | '\\' :: 'f' :: rest => some ('\x0c', rest)
  | '\\' :: 'n' :: rest => some ('\n', rest)
  | '\\' :: 'r' :: rest => some ('\r', rest)
  | '\\' :: 't' :: rest => some ('\t', rest)
  | '\\' :: 'u' :: rest => escapedCode? rest
  | '\\' :: _ => none
  | c :: rest => if c.toNat < 0x20 then none else some (c, rest)
  | [] => none

/-- The rest of a string after its opening quote; `fuel` bounds its characters. -/
def stringBody? : Nat → List Char → Option (List Char × List Char)
  | 0, _ => none
  | _ + 1, '"' :: rest => some ([], rest)
  | fuel + 1, cs =>
      match stringChar? cs with
      | none => none
      | some (c, rest) =>
          match stringBody? fuel rest with
          | none => none
          | some (s, rest) => some (c :: s, rest)

/-- The fraction of a number: its digits when a point and at least one digit follow. -/
def fraction? : List Char → Option (List Char × List Char)
  | '.' :: rest =>
      match Digits.span rest with
      | ([], _) => none
      | (ds, rest) => some (ds, rest)
  | cs => some ([], cs)

def exponent? : List Char → Option (Option Int × List Char)
  | c :: rest =>
      if c = 'e' ∨ c = 'E' then
        let (negative, rest) := Digits.sign rest
        match Digits.span rest with
        | ([], _) => none
        | (ds, rest) =>
            let n : Int := Digits.read ds
            some (some (if negative then -n else n), rest)
      else some (none, c :: rest)
  | [] => some (none, [])

def number? (negative : Bool) (cs : List Char) : Option (Json × List Char) :=
  match Digits.span cs with
  | ([], _) => none
  | (whole, rest) =>
      if whole.head? = some '0' ∧ 1 < whole.length then none
      else
        match fraction? rest with
        | none => none
        | some (part, rest) =>
            match exponent? rest with
            | none => none
            | some (scale, rest) =>
                match part, scale with
                | [], none =>
                    let n : Int := Digits.read whole
                    some (.int (if negative then -n else n), rest)
                | part, scale =>
                    let digits := Digits.read (whole ++ part)
                    let power := scale.getD 0 - part.length
                    match Decimal.kept negative digits power with
                    | some x => some (.decimal x, rest)
                    | none => some (.decimal (Decimal.least negative digits power), rest)

mutual
/-- One value, after any blanks; `fuel` bounds the values and separators read. -/
def value? : Nat → List Char → Option (Json × List Char)
  | 0, _ => none
  | fuel + 1, cs =>
      match skip cs with
      | 'n' :: 'u' :: 'l' :: 'l' :: rest => some (.null, rest)
      | 't' :: 'r' :: 'u' :: 'e' :: rest => some (.bool true, rest)
      | 'f' :: 'a' :: 'l' :: 's' :: 'e' :: rest => some (.bool false, rest)
      | '"' :: rest =>
          (stringBody? (rest.length + 1) rest).map fun (s, r) => (.str (String.ofList s), r)
      | '[' :: rest =>
          match skip rest with
          | ']' :: rest => some (.arr [], rest)
          | rest => (items? fuel rest).map fun (xs, r) => (.arr xs, r)
      | '\x7b' :: rest =>
          match skip rest with
          | '\x7d' :: rest => some (.obj [], rest)
          | rest => (members? fuel rest).map fun (ms, r) => (.obj (Table.ofEntries ms), r)
      | '-' :: rest => number? true rest
      | rest => number? false rest

def items? : Nat → List Char → Option (List Json × List Char)
  | 0, _ => none
  | fuel + 1, cs =>
      match value? fuel cs with
      | none => none
      | some (x, rest) =>
          match skip rest with
          | ']' :: rest => some ([x], rest)
          | ',' :: rest => (items? fuel rest).map fun (xs, r) => (x :: xs, r)
          | _ => none

def members? : Nat → List Char → Option (List (String × Json) × List Char)
  | 0, _ => none
  | fuel + 1, cs =>
      match skip cs with
      | '"' :: rest =>
          match stringBody? (rest.length + 1) rest with
          | none => none
          | some (k, rest) =>
              match skip rest with
              | ':' :: rest =>
                  match value? fuel rest with
                  | none => none
                  | some (x, rest) =>
                      match skip rest with
                      | '\x7d' :: rest => some ([(String.ofList k, x)], rest)
                      | ',' :: rest =>
                          (members? fuel rest).map fun (ms, r) => ((String.ofList k, x) :: ms, r)
                      | _ => none
              | _ => none
      | _ => none
end

/-- The value a whole text stands for. Each value or separator takes at least one character, so the
length of the text bounds the reading. -/
def parse? (text : String) : Option Json :=
  let cs := text.toList
  match value? (2 * cs.length + 2) cs with
  | some (j, rest) => if (skip rest).isEmpty then some j else none
  | none => none

end BootstrapApproval.Json
