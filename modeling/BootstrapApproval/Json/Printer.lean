import BootstrapApproval.Json.Basic

/-! # Writing JSON

A value is written on one line in ASCII alone: every character outside the printable ASCII range is
written as an escape, and one outside the basic plane as a pair of escapes. The two layouts differ
only in the blank after commas and colons.
-/

namespace BootstrapApproval.Json

structure Layout where
  comma : List Char
  colon : List Char

def Layout.dense : Layout := ⟨[','], [':']⟩

def Layout.spaced : Layout := ⟨[',', ' '], [':', ' ']⟩

def unitEscape (n : Nat) : List Char := '\\' :: 'u' :: Digits.padded 16 4 n

/-- The escape of a character by its code: one unit, or two outside the basic plane. -/
def codeEscape (c : Char) : List Char :=
  let n := c.toNat
  if n < 0x10000 then unitEscape n
  else unitEscape (0xD800 + (n - 0x10000) / 0x400) ++ unitEscape (0xDC00 + (n - 0x10000) % 0x400)

def escapeChar (c : Char) : List Char :=
  if c = '"' then ['\\', '"']
  else if c = '\\' then ['\\', '\\']
  else if c = '\n' then ['\\', 'n']
  else if c = '\r' then ['\\', 'r']
  else if c = '\t' then ['\\', 't']
  else if c = '\x08' then ['\\', 'b']
  else if c = '\x0c' then ['\\', 'f']
  else if ' ' ≤ c ∧ c ≤ '~' then [c]
  else codeEscape c

def quote (s : String) : List Char := '"' :: s.toList.flatMap escapeChar ++ ['"']

def writeInt (n : Int) : List Char :=
  if n < 0 then '-' :: Digits.write 10 n.natAbs else Digits.write 10 n.natAbs

mutual
def write (l : Layout) : Json → List Char
  | .null => ['n', 'u', 'l', 'l']
  | .bool true => ['t', 'r', 'u', 'e']
  | .bool false => ['f', 'a', 'l', 's', 'e']
  | .int n => writeInt n
  | .decimal x => x.text.toList
  | .str s => quote s
  | .arr [] => ['[', ']']
  | .arr (x :: xs) => '[' :: write l x ++ writeItems l xs ++ [']']
  | .obj [] => ['\x7b', '\x7d']
  | .obj ((k, x) :: ms) =>
      '\x7b' :: quote k ++ l.colon ++ write l x ++ writeMembers l ms ++ ['\x7d']

def writeItems (l : Layout) : List Json → List Char
  | [] => []
  | x :: xs => l.comma ++ write l x ++ writeItems l xs

def writeMembers (l : Layout) : List (String × Json) → List Char
  | [] => []
  | (k, x) :: ms => l.comma ++ quote k ++ l.colon ++ write l x ++ writeMembers l ms
end

def render (j : Json) : String := String.ofList (write .dense j)

def renderSpaced (j : Json) : String := String.ofList (write .spaced j)

end BootstrapApproval.Json
