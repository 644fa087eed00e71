import BootstrapApproval.Fault

/-! # Misfits

Why a template and its values do not fit together.
-/

namespace BootstrapApproval.Template

inductive Place where
  | width
  | precision
  deriving DecidableEq, Repr

def Place.limit : Place → Nat
  | width => Nat.pow 2 63 - 1
  | precision => Nat.pow 2 31 - 1

def Place.name : Place → String
  | width => "width"
  | precision => "precision"

def Place.range : Place → String
  | width => "ssize_t"
  | precision => "int"

inductive Misfit where
  | tooFew
  | tooMany
  /-- A whole number is asked for, and the value is no number. -/
  | notReal (letter : Char) (value : Json)
  /-- A whole number is asked for, and the value is none. -/
  | notWhole (letter : Char) (value : Json)
  | notANumber (value : Json)
  | notACharacter
  | noSuchCharacter
  | numberTooLarge
  | infinite
  | unknownLetter (letter : Char) (position : Nat)
  | unfinished
  | unfinishedKey
  | notAMapping
  | keyInList
  | missingKey (key : String)
  | starNotWhole
  | tooBig (place : Place)
  | starTooLarge (place : Place)
  | tooManyDigits
  | tooLong
  deriving Repr

/-- A letter inside a message: itself when it is printable ASCII. -/
def letterText (c : Char) : String :=
  if 31 ≤ c.toNat ∧ c.toNat ≤ 126 then c.toString else "?"

def Misfit.fault : Misfit → Fault
  | tooFew => .unexpected .type "not enough arguments for format string"
  | tooMany => .unexpected .type "not all arguments converted during string formatting"
  | notReal letter v =>
      .unexpected .type
        ("%" ++ letter.toString ++ " format: a real number is required, not " ++ v.kindName)
  | notWhole letter v =>
      .unexpected .type
        ("%" ++ letter.toString ++ " format: an integer is required, not " ++ v.kindName)
  | notANumber v => .unexpected .type ("must be real number, not " ++ v.kindName)
  | notACharacter => .unexpected .type "%c requires int or char"
  | noSuchCharacter => .unexpected .overflow "%c arg not in range(0x110000)"
  | numberTooLarge => .unexpected .overflow "int too large to convert to float"
  | infinite => .unexpected .overflow "cannot convert float infinity to integer"
  | unknownLetter letter position =>
      .unexpected .value
        ("unsupported format character '" ++ letterText letter ++ "' (0x" ++
          String.ofList (Digits.write 16 letter.toNat) ++ ") at index " ++ Digits.decimal position)
  | unfinished => .unexpected .value "incomplete format"
  | unfinishedKey => .unexpected .value "incomplete format key"
  | notAMapping => .unexpected .type "format requires a mapping"
  | keyInList => .unexpected .type "list indices must be integers or slices, not str"
  | missingKey key => .key key
  | starNotWhole => .unexpected .type "* wants int"
  | tooBig place => .unexpected .value (place.name ++ " too big")
  | starTooLarge place =>
      .unexpected .overflow ("Python int too large to convert to C " ++ place.range)
  | tooManyDigits => .unexpected .overflow "precision too large"
  | tooLong => .unexpected .memory ""

end BootstrapApproval.Template
