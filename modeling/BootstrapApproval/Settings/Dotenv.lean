import BootstrapApproval.Table
import BootstrapApproval.Text.Letters
import BootstrapApproval.Text.Search

/-! # Settings files

A settings file holds bindings `KEY=VALUE`, one a line. Comments start with `#`, a binding may start
with `export`, and a key may stand in single quotes. A value in quotes may run over several lines. A
key without a value hides the values the key had before. A line that is none of this is passed over.
-/

namespace BootstrapApproval.Dotenv

def isInline (c : Char) : Bool := Letters.isGap c && c != '\n'

def unified : List Char → List Char
  | [] => []
  | '\r' :: '\n' :: rest => '\n' :: unified rest
  | c :: rest => (if c = '\r' then '\n' else c) :: unified rest

def unmarked : List Char → List Char
  | '\uFEFF' :: rest => rest
  | cs => cs

/-- A text without `export` in front. -/
def withoutExport : List Char → List Char
  | 'e' :: 'x' :: 'p' :: 'o' :: 'r' :: 't' :: c :: rest =>
      if isInline c then rest.dropWhile isInline
      else 'e' :: 'x' :: 'p' :: 'o' :: 'r' :: 't' :: c :: rest
  | cs => cs

/-- The key of a binding, which a comment has not, and what follows. Where reading has to stop, the
place is given instead. -/
def key : List Char → Except (List Char) (Option (List Char) × List Char)
  | '#' :: rest => .ok (none, '#' :: rest)
  | '\'' :: rest =>
      match rest.span (· != '\'') with
      | (name, '\'' :: rest) => if name.isEmpty then .error ('\'' :: '\'' :: rest)
          else .ok (some name, rest)
      | _ => .error ('\'' :: rest)
  | cs =>
      let (name, rest) := cs.span fun c => !(Letters.isGap c || c == '=' || c == '#')
      if name.isEmpty then .error cs else .ok (some name, rest)

/-- The text up to the closing quote, and what follows it. A quote after a backslash does not close,
unless no other quote follows: then the last of those does. `last` is the best end so far, `front`
is what has been passed, the nearest first. -/
def closed (mark : Char) (last : Option (List Char × List Char)) (front : List Char) :
    List Char → Option (List Char × List Char)
  | [] => last
  | '\\' :: c :: rest =>
      if c = mark then closed mark (some (('\\' :: front).reverse, rest)) (c :: '\\' :: front) rest
      else closed mark last ('\\' :: front) (c :: rest)
  | c :: rest => if c = mark then some (front.reverse, rest) else closed mark last (c :: front) rest

/-- The character that a backslash and `c` stand for between the given quotes. -/
def unescaped? (mark c : Char) : Option Char :=
  if c = '\\' ∨ c = '\'' then some c
  else if mark = '\'' then none
  else
    match c with
    | '"' => some '"'
    | 'a' => some '\x07'
    | 'b' => some '\x08'
    | 'f' => some '\x0c'
    | 'n' => some '\n'
    | 'r' => some '\r'
    | 't' => some '\t'
    | 'v' => some '\x0b'
    | _ => none

def unescape (mark : Char) : List Char → List Char
  | [] => []
  | '\\' :: c :: rest =>
      match unescaped? mark c with
      | some d => d :: unescape mark rest
      | none => '\\' :: unescape mark (c :: rest)
  | c :: rest => c :: unescape mark rest

/-- A value without quotes: up to a comment that a blank precedes. -/
def bare : List Char → List Char
  | [] => []
  | c :: rest =>
      if Letters.isGap c && (rest.dropWhile Letters.isGap).head? == some '#' then []
      else c :: bare rest

/-- The value after the equals sign, and what follows, or the quote that is never closed. -/
def value (cs : List Char) : Except (List Char) (List Char × List Char) :=
  match cs.dropWhile isInline with
  | c :: rest =>
      if c = '"' ∨ c = '\'' then
        match closed c none [] rest with
        | some (inner, rest) => .ok (unescape c inner, rest)
        | none => .error (c :: rest)
      else
        let (line, rest) := cs.span (· != '\n')
        .ok (Search.strip Letters.isGap (bare line), rest)
  | [] => .ok ([], [])

/-- What follows the line, when nothing but a comment is left of it. -/
def lineEnd (cs : List Char) : Except (List Char) (List Char) :=
  let cs := match cs.dropWhile isInline with
    | '#' :: rest => rest.dropWhile (· != '\n')
    | _ => cs
  match cs.dropWhile isInline with
  | [] => .ok []
  | '\n' :: rest => .ok rest
  | _ => .error cs

abbrev Binding := List Char × Option (List Char)

/-- The binding at the start of a text, and what follows, or the place where reading has to stop. -/
def binding (cs : List Char) : Except (List Char) (Option Binding × List Char) := do
  let (name, cs) ← key (withoutExport cs)
  let (v, cs) ← match cs.dropWhile isInline with
    | '=' :: rest => do
        let (v, rest) ← value rest
        pure (some v, rest)
    | cs => pure (none, cs)
  let rest ← lineEnd cs
  pure (name.map fun n => (n, v), rest)

def nextLine (cs : List Char) : List Char := (cs.dropWhile (· != '\n')).drop 1

/-- All bindings of a text. Where reading has to stop, the rest of the line is passed over. -/
def bindings (cs : List Char) : List Binding :=
  match cs.dropWhile Letters.isGap with
  | [] => []
  | start =>
      let (found, rest) := match binding start with
        | .ok (found, rest) => (found.toList, rest)
        | .error place => ([], nextLine place)
      if rest.length < cs.length then found ++ bindings rest else found
termination_by cs.length

def ofText (text : String) : List (String × Option String) :=
  (bindings (unified (unmarked text.toList))).map fun (name, v) =>
    (String.ofList name, v.map String.ofList)

end BootstrapApproval.Dotenv
