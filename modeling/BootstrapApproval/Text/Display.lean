import BootstrapApproval.Json.Basic
import BootstrapApproval.Text.Hidden

/-! # Values shown in messages

A value inside a message is shown bare when it is a text, and in an unambiguous spelling when it
stands inside a list or an object: texts in quotes, `None`, `True` and `False` for the constants.
-/

namespace BootstrapApproval.Display

/-- The escape of a character by its code: two, four or eight hexadecimal digits. -/
def codeEscape (c : Char) : List Char :=
  let n := c.toNat
  if n < 0x100 then '\\' :: 'x' :: Digits.padded 16 2 n
  else if n < 0x10000 then '\\' :: 'u' :: Digits.padded 16 4 n
  else '\\' :: 'U' :: Digits.padded 16 8 n

def quotedChar (mark : Char) (c : Char) : List Char :=
  if c = mark ∨ c = '\\' then ['\\', c]
  else if c = '\n' then ['\\', 'n']
  else if c = '\r' then ['\\', 'r']
  else if c = '\t' then ['\\', 't']
  else if isHidden c then codeEscape c
  else [c]

/-- A text in single quotes, or in double quotes when it holds a single quote and no double one. -/
def quoted (s : String) : List Char :=
  let cs := s.toList
  let mark := if cs.contains '\'' && !cs.contains '"' then '"' else '\''
  mark :: cs.flatMap (quotedChar mark) ++ [mark]

mutual
def inner : Json → List Char
  | .null => ['N', 'o', 'n', 'e']
  | .bool true => ['T', 'r', 'u', 'e']
  | .bool false => ['F', 'a', 'l', 's', 'e']
  | .int n => (Digits.integer n).toList
  | .decimal x => x.text.toList
  | .str s => quoted s
  | .arr [] => ['[', ']']
  | .arr (x :: xs) => '[' :: inner x ++ innerItems xs ++ [']']
  | .obj [] => ['\x7b', '\x7d']
  | .obj ((k, x) :: ms) =>
      '\x7b' :: quoted k ++ [':', ' '] ++ inner x ++ innerMembers ms ++ ['\x7d']

def innerItems : List Json → List Char
  | [] => []
  | x :: xs => ',' :: ' ' :: inner x ++ innerItems xs

def innerMembers : List (String × Json) → List Char
  | [] => []
  | (k, x) :: ms => ',' :: ' ' :: quoted k ++ [':', ' '] ++ inner x ++ innerMembers ms
end

end BootstrapApproval.Display

namespace BootstrapApproval

def Json.spelled (j : Json) : String := String.ofList (Display.inner j)

def Json.shown : Json → String
  | .str s => s
  | j => j.spelled

def Json.kindName : Json → String
  | .null => "NoneType"
  | .bool _ => "bool"
  | .int _ => "int"
  | .decimal _ => "float"
  | .str _ => "str"
  | .arr _ => "list"
  | .obj _ => "dict"

/-- A text as it stands in a message, `None` when there is none. -/
def shownText : Option String → String
  | some s => s
  | none => "None"

end BootstrapApproval
