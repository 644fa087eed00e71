import BootstrapApproval.Text.Template.Conversion

/-! # Message templates

A message may hold directives that take the place of values: a percent sign, a key in parentheses,
flags, a least width, a precision and a letter. Values are taken in their order. A single value may
be looked into by keys; what a key finds is then the only value for its directive. A message
without values is taken as it is.
-/

namespace BootstrapApproval.Template

inductive Arguments where
  | row (values : List Json)
  | single (value : Json)

namespace Arguments

/-- The arguments a message is given: one object with members is looked into by keys. -/
def ofList : List Json → Arguments
  | [.obj (m :: ms)] => single (.obj (m :: ms))
  | values => row values

def isEmpty : Arguments → Bool
  | row values => values.isEmpty
  | single value => !value.isSet

def values : Arguments → List Json
  | row values => values
  | single value => [value]

def keyed : Arguments → Option Json
  | single (.obj ms) => some (.obj ms)
  | single (.arr items) => some (.arr items)
  | _ => none

end Arguments

def flags (d : Directive) : List Char → Directive × List Char
  | '-' :: rest => flags { d with left := true } rest
  | '+' :: rest => flags { d with plus := true } rest
  | ' ' :: rest => flags { d with blank := true } rest
  | '#' :: rest => flags { d with alternate := true } rest
  | '0' :: rest => flags { d with zero := true } rest
  | cs => (d, cs)

def next : List Json → Except Misfit (Json × List Json)
  | [] => .error .tooFew
  | v :: rest => .ok (v, rest)

def starred (place : Place) (n : Int) : Except Misfit Int :=
  if n < -(place.limit : Int) - 1 ∨ (place.limit : Int) < n then .error (.starTooLarge place)
  else .ok n

/-- A number given in the template, or by a value where a star stands. -/
def count (place : Place) (cs : List Char) (values : List Json) :
    Except Misfit (Option Int × List Char × List Json) :=
  match cs with
  | '*' :: rest => do
      let (v, values) ← next values
      match v with
      | .int n => pure (some (← starred place n), rest, values)
      | .bool b => pure (some (if b then 1 else 0), rest, values)
      | _ => .error .starNotWhole
  | cs =>
      match Digits.span cs with
      | ([], _) => .ok (none, cs, values)
      | (ds, rest) =>
          if place.limit < Digits.read ds then .error (.tooBig place)
          else .ok (some (Digits.read ds), rest, values)

/-- The directive after a percent sign, the letter that ends it, and what follows. -/
def directive (cs : List Char) (values : List Json) :
    Except Misfit (Directive × Char × List Char × List Json) := do
  let (d, cs) := flags .plain cs
  let (width, cs, values) ← count .width cs values
  let w := width.getD 0
  let d := { d with left := d.left || w < 0, width := w.natAbs }
  let (d, cs, values) ← match cs with
    | '.' :: rest => do
        let (p, rest, values) ← count .precision rest values
        pure ({ d with precision := some (p.getD 0).toNat }, rest, values)
    | cs => pure (d, cs, values)
  let cs := match cs with
    | c :: rest => if c = 'l' ∨ c = 'h' ∨ c = 'L' then rest else c :: rest
    | [] => []
  match cs with
  | [] => .error .unfinished
  | letter :: rest => .ok (d, letter, rest, values)

/-- The text up to the closing parenthesis, inside `depth` further ones, and what follows. -/
def key? : Nat → List Char → Option (List Char × List Char)
  | _, [] => none
  | depth, c :: rest =>
      if c = ')' then
        if depth = 0 then some ([], rest) else (key? (depth - 1) rest).map fun (k, r) => (c :: k, r)
      else (key? (if c = '(' then depth + 1 else depth) rest).map fun (k, r) => (c :: k, r)

def lookUp (keyed : Json) (key : String) : Except Misfit Json :=
  match keyed with
  | .arr _ => .error .keyInList
  | j =>
      match j.get? key with
      | some v => .ok v
      | none => .error (.missingKey key)

/-- Take the key in parentheses, if there is one: what it finds is from then on the only value. -/
def selected (keyed : Option Json) (cs : List Char) (values : List Json) :
    Except Misfit (List Char × List Json) :=
  match cs with
  | '(' :: inner =>
      match keyed, key? 0 inner with
      | none, _ => .error .notAMapping
      | some _, none => .error .unfinishedKey
      | some j, some (k, rest) => do
          let v ← lookUp j (String.ofList k)
          pure (rest, [v])
  | cs => .ok (cs, values)

/-- No text is longer than this. -/
def capacity : Nat := Nat.pow 2 32

/-- A value that has been converted, with the directive that says how to pad it. -/
abbrev Part := Directive × Piece

def Part.literal (c : Char) : Part := (.plain, .text [c])

/-- Convert a value for the directive after a percent sign in a template of so many characters.
Gives what takes the place of the directive, what follows it, and the values that are left. -/
def filled (size : Nat) (keyed : Option Json) (cs : List Char) (values : List Json) :
    Except Misfit (Part × List Char × List Json) := do
  let (cs, values) ← selected keyed cs values
  let (d, letter, rest, values) ← directive cs values
  let (v, values) ← next values
  let piece ← convert d letter (size - rest.length - 1) v
  if capacity < d.width then .error .tooLong else pure ((d, piece), rest, values)

/-- The parts of a filled template, and the values that are left. A percent sign after another one
stands for itself. `fuel` bounds the directives and characters. -/
def parts (size : Nat) (keyed : Option Json) :
    Nat → List Char → List Json → Except Misfit (List Part × List Json)
  | 0, _, values => .ok ([], values)
  | _ + 1, [], values => .ok ([], values)
  | fuel + 1, '%' :: '%' :: rest, values => do
      let (more, values) ← parts size keyed fuel rest values
      pure (.literal '%' :: more, values)
  | fuel + 1, '%' :: rest, values => do
      let (part, rest, values) ← filled size keyed rest values
      let (more, values) ← parts size keyed fuel rest values
      pure (part :: more, values)
  | fuel + 1, c :: rest, values => do
      let (more, values) ← parts size keyed fuel rest values
      pure (.literal c :: more, values)

def fill (message : String) (arguments : Arguments) : Except Misfit String :=
  if arguments.isEmpty then .ok message
  else
    let cs := message.toList
    match parts cs.length arguments.keyed (cs.length + 1) cs arguments.values with
    | .error e => .error e
    | .ok (ps, left) =>
        if left.isEmpty || arguments.keyed.isSome then
          .ok (String.ofList (ps.flatMap fun (d, piece) => piece.padded d))
        else .error .tooMany

end BootstrapApproval.Template
