import BootstrapApproval.Http.Address
import BootstrapApproval.Http.Punycode
import BootstrapApproval.Text.Direction
import BootstrapApproval.Text.Display
import BootstrapApproval.Text.Folded
import BootstrapApproval.Text.Numerals

/-! # Host names

A host is a numeric address or a name, which is made of labels with dots between them. A label
outside ASCII is sent in an encoded form. There are two rules for what can be encoded: the older
takes nearly every character, the newer takes only letters, digits and marks but more orders of
them. A name that satisfies either rule is accepted.
-/

namespace BootstrapApproval.HostName

inductive LabelFlaw where
  /-- Nothing is left of it, or more than the 63 characters a label may have. -/
  | length
  | encodedTwice
  | forbidden (c : Char)
  | bothDirections
  /-- It is written from right to left but does not begin and end so. -/
  | ends
  deriving DecidableEq, Repr

def LabelFlaw.text : LabelFlaw → String
  | length => "label empty or too long"
  | encodedTwice => "Label starts with ACE prefix"
  | forbidden c => "Invalid character " ++ String.ofList (Display.quoted (String.singleton c))
  | bothDirections => "Violation of BIDI requirement 2"
  | ends => "Violation of BIDI requirement 3"

inductive Flaw where
  | vanishing (c : Char) (position : Nat)
  | label (flaw : LabelFlaw)
  deriving DecidableEq, Repr

def isPlain (cs : List Char) : Bool := cs.all fun c => c.toNat < 0x80

def isDot (c : Char) : Bool :=
  c == '.' || c == '\u3002' || c == '\uFF0E' || c == '\uFF61'

/-- The labels of a name. A dot may end the name. -/
def labels (host : List Char) : List (List Char) :=
  let parts := Search.split isDot host
  if parts.getLast? = some [] then parts.dropLast else parts

def maxLabel : Nat := 63

/-- What an encoded label begins with. -/
def mark : List Char := ['x', 'n', '-', '-']

/-- The length of a label as it is sent. -/
def sentLength (label : List Char) : Nat :=
  if isPlain label then label.length else mark.length + (Punycode.encode label).length

/-- Whether a label that is sent has a fitting length. No label is sent shorter than it is, so a
long one need not be encoded to tell. -/
def fits (label : List Char) : Bool :=
  !label.isEmpty && label.length ≤ maxLabel && sentLength label ≤ maxLabel

/-! ## The older rule -/

/-- Characters that no label may have: controls, separators of lines, characters for private use and
places without a character. -/
def forbidden : List (Nat × Nat) :=
  [(0x80, 0x9F), (0x6DD, 0x6DD), (0x70F, 0x70F), (0x1680, 0x1680), (0x200E, 0x200F),
   (0x2028, 0x202E), (0x2FF0, 0x2FFB), (0xE000, 0xF8FF), (0xFDD0, 0xFDEF), (0xFFF9, 0xFFFF),
   (0x1FFFE, 0x1FFFF), (0x2FFFE, 0x2FFFF), (0x3FFFE, 0x3FFFF), (0x4FFFE, 0x4FFFF),
   (0x5FFFE, 0x5FFFF), (0x6FFFE, 0x6FFFF), (0x7FFFE, 0x7FFFF), (0x8FFFE, 0x8FFFF),
   (0x9FFFE, 0x9FFFF), (0xAFFFE, 0xAFFFF), (0xBFFFE, 0xBFFFF), (0xCFFFE, 0xCFFFF),
   (0xDFFFE, 0xDFFFF), (0xE0001, 0xE0001), (0xE0020, 0xE007F), (0xEFFFE, 0x10FFFF)]

/-- The flaw in the directions of a folded label, if there is one. -/
def directionFlaw? (label : List Char) : Option LabelFlaw :=
  let ds := label.map Direction.of
  if !ds.contains .rightToLeft then none
  else if ds.contains .leftToRight then some .bothDirections
  else if ds.head? = some .rightToLeft ∧ ds.getLast? = some .rightToLeft then none
  else some .ends

def foldedFlaw? (label : List Char) : Option LabelFlaw :=
  match label.find? fun c => Ranges.holds c.toNat forbidden with
  | some c => some (.forbidden c)
  | none =>
      (directionFlaw? label).or
        (if !isPlain label && mark.isPrefixOf label then some .encodedTwice
         else if fits label then none
         else some .length)

/-- The flaw of a label, if there is one. A label in ASCII stays as it is. -/
def labelFlaw? (label : List Char) : Option LabelFlaw :=
  if isPlain label then if fits label then none else some .length
  else foldedFlaw? (label.flatMap folded)

/-! ## The newer rule -/

/-- The folded form of a character by the newer rule, which keeps a sharp `ß` and a final `ς`. -/
def lightlyFolded (c : Char) : List Char := if c = 'ß' ∨ c = 'ς' then [c] else folded c

/-- Signs among the letters that are written from right to left. -/
def punctuation : List (Nat × Nat) :=
  [(0x5BE, 0x5BE), (0x5C0, 0x5C0), (0x5C3, 0x5C3), (0x61B, 0x61B), (0x61F, 0x61F), (0x640, 0x640),
   (0x66B, 0x66D), (0x6D4, 0x6D4), (0x700, 0x70D), (0x1ABE, 0x1ABE), (0x20D0, 0x20F0)]

/-- Whether a label may hold a character: letters, digits, marks and the hyphen. -/
def isLabelChar (c : Char) : Bool :=
  c == '-' ||
    (lightlyFolded c == [c] && !isHidden c && Direction.of c != .neutral
      && !Ranges.holds c.toNat punctuation)

/-- Whether a label can be read in one direction. One with letters that are written from right to
left begins with such a letter, holds only one kind of digits, and ends, marks aside, with a letter
or a digit. -/
def readsOneWay (label : List Char) : Bool :=
  let ds := label.map Direction.of
  if ds.contains .rightToLeft || ds.contains .arabicNumber then
    ds.head? == some .rightToLeft && !ds.contains .leftToRight
      && !(ds.contains .number && ds.contains .arabicNumber)
      && (ds.reverse.dropWhile (· == .mark)).head? != some .neutral
  else true

def isRegularText (label : List Char) : Bool :=
  label.head? != some '-' && label.getLast? != some '-' && (label.drop 2).take 2 != ['-', '-']
    && (label.head?.map Direction.of) != some .mark
    && label.all isLabelChar && readsOneWay label

/-- Whether a label satisfies the newer rule. Of an encoded label the text behind it has to. -/
def isRegularLabel (label : List Char) : Bool :=
  fits label &&
    if isPlain label && mark.isPrefixOf label then
      let spelling := label.drop mark.length
      !spelling.isEmpty && spelling.getLast? != some '-'
        && (Punycode.decode? spelling).any isRegularText
    else isRegularText label

/-- The greatest length of a name as it is sent, without a dot at its end. -/
def maxName : Nat := 253

def isRegular (host : List Char) : Bool :=
  let ls := labels (host.flatMap lightlyFolded)
  !ls.isEmpty && ls.all isRegularLabel && ls.foldr (fun l n => sentLength l + 1 + n) 0 ≤ maxName + 1

/-! ## Both rules -/

/-- Whether a host is a numeric address, which a percent sign and a zone may follow. Only a text
with a colon, or with a digit at its end, is taken for one. -/
def isAddress (host : List Char) : Bool :=
  (host.contains ':' || host.getLast?.any fun c => (Numerals.value? c).isSome)
    && Address.isNumeric (Search.before (· == '%') host)

def nameFlaw? (host : List Char) : Option Flaw :=
  match host.zipIdx.find? fun (c, _) => vanishes c with
  | some (c, position) => some (.vanishing c position)
  | none =>
      if isRegular host then none
      else ((labels host).findSome? labelFlaw?).map .label

def flaw? (host : List Char) : Option Flaw :=
  if isPlain host || isAddress host then none else nameFlaw? host

end BootstrapApproval.HostName
