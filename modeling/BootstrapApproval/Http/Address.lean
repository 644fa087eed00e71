import BootstrapApproval.Json.Parser
import BootstrapApproval.Text.Search

/-! # Numeric addresses

An address of the older kind is four numbers below 256 with points between them. One of the newer
kind is eight groups of up to four hexadecimal digits with colons between them. A pair of colons
stands for one or more groups of zeros, and an address of the older kind may stand at the end for
two groups.
-/

namespace BootstrapApproval.Address

def isOctet (cs : List Char) : Bool :=
  (cs.length ≤ 1 || cs.head? != some '0') && cs.length ≤ 3 && (Digits.read? cs).any (· < 256)

def isDotted (cs : List Char) : Bool :=
  let parts := Search.split (· == '.') cs
  parts.length == 4 && parts.all isOctet

def isGroup (cs : List Char) : Bool :=
  !cs.isEmpty && cs.length ≤ 4 && cs.all fun c => (Json.hexValue? c).isSome

/-- The number of groups that parts between colons stand for. The last part may be an address of the
older kind when it ends the text. -/
def groups? (ends : Bool) : List (List Char) → Option Nat
  | [] => some 0
  | [cs] => if isGroup cs then some 1 else if ends && isDotted cs then some 2 else none
  | cs :: rest => if isGroup cs then (groups? ends rest).map (· + 1) else none

def groupsOf? (ends : Bool) (cs : List Char) : Option Nat :=
  if cs.isEmpty then some 0 else groups? ends (Search.split (· == ':') cs)

def sides? : List Char → Option (List Char × List Char)
  | ':' :: ':' :: rest => some ([], rest)
  | c :: rest => (sides? rest).map fun (front, back) => (c :: front, back)
  | [] => none

def isColoned (cs : List Char) : Bool :=
  match sides? cs with
  | none => groupsOf? true cs == some 8
  | some (front, back) =>
      match groupsOf? false front, groupsOf? true back with
      | some m, some n => m + n < 8
      | _, _ => false

def isNumeric (cs : List Char) : Bool := isDotted cs || isColoned cs

end BootstrapApproval.Address
