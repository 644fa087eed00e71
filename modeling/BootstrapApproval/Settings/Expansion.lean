import BootstrapApproval.Settings.Dotenv

/-! # References in settings files

A value may refer to another setting by `${NAME}`, or by `${NAME:-otherwise}` with a text for the
case that there is none. A reference sees the settings above it in the file before those of the
environment. Names are compared letter by letter.
-/

namespace BootstrapApproval.Dotenv

/-- A reference without its opening: the name, the text that stands in for it, and what follows. -/
def reference? (cs : List Char) : Option (List Char × List Char × List Char) :=
  match cs.span fun c => c != '\x7d' && c != ':' with
  | (name, ':' :: '-' :: rest) =>
      match rest.span (· != '\x7d') with
      | (otherwise, _ :: rest) => some (name, otherwise, rest)
      | _ => none
  | (_, ':' :: _) => none
  | (name, _ :: rest) => some (name, [], rest)
  | _ => none

def expand (lookup : String → Option String) (cs : List Char) : List Char :=
  match cs with
  | [] => []
  | c :: rest =>
      let found := match c, rest with
        | '$', '\x7b' :: inner => reference? inner
        | _, _ => none
      match found with
      | some (name, otherwise, after) =>
          let text := match lookup (String.ofList name) with
            | some s => s.toList
            | none => otherwise
          if after.length < (c :: rest).length then text ++ expand lookup after else text
      | none => c :: expand lookup rest
termination_by cs.length
decreasing_by
  · assumption
  · exact Nat.lt_succ_self _

/-- The setting that a reference sees; a key without a value stands for the empty text. -/
def visible (environment : List (String × String)) (above : Table (Option String))
    (name : String) : Option String :=
  match Table.find? above name with
  | some v => some (v.getD "")
  | none => Table.find? environment name

/-- The settings of a file, with all references resolved from the first line on. -/
def entries (environment : List (String × String)) (text : String) : Table (Option String) :=
  (ofText text).foldl
    (fun above (name, v) =>
      Table.insert above name (v.map fun s =>
        String.ofList (expand (visible environment above) s.toList)))
    []

end BootstrapApproval.Dotenv
