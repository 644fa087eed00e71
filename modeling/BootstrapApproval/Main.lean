import BootstrapApproval.Handler
import BootstrapApproval.Json.Parser
import BootstrapApproval.Lifecycle

/-! # Running the operator

The operator takes its settings from the environment and from the file `.env`, and its events from
standard input, one JSON object a line: a member `cluster` registers a cluster, and members `reason`
and `body` store a request and send the event about it. What is logged goes to standard output.
Nothing is decided here.
-/

namespace BootstrapApproval.Operator

def environment : IO (List (String × String)) :=
  Settings.names.filterMapM fun n => do
    pure ((← IO.getEnv n).map fun v => (n, v))

/-- The text of the settings file; a file that cannot be read has none. -/
def settingsFile : IO String := do
  try IO.FS.readFile ".env" catch _ => pure ""

def event (j : Json) : Act Unit := do
  match (j.getD "cluster").str? with
  | some name => Act.change fun s => { s with server := s.server.register name }
  | none => do
      let body := j.getD "body"
      Act.change fun s => { s with server := s.server.store body }
      let _ ← Handler.dispatch (((j.getD "reason").str?).getD "") body
      pure ()

def perform (x : Act Unit) (s : State) : IO State := do
  let (_, s) := x s
  IO.print s.logs.output.text
  pure { s with logs := { s.logs with output := .empty } }

partial def events (input : IO.FS.Stream) (s : State) : IO State := do
  let line ← input.getLine
  if line.isEmpty then pure s
  else
    match Json.parse? line with
    | some j => events input (← perform (event j) s)
    | none => events input s

def run (settings : Settings) : IO UInt32 := do
  let s := State.initial settings (.calm .epoch) .empty
  let s ← perform (Lifecycle.setUpLogging (Lifecycle.loggingSetup settings)) s
  let s ← perform (do let _ ← Lifecycle.start; pure ()) s
  let s ← events (← IO.getStdin) s
  let _ ← perform Lifecycle.stop s
  pure 0

end BootstrapApproval.Operator

open BootstrapApproval in
/-- Resolve the settings and run the operator, or report everything that is wrong with them. -/
def main : IO UInt32 := do
  let sources : Sources := .ofText (← Operator.environment) (← Operator.settingsFile)
  match Settings.resolve sources with
  | .ok settings => Operator.run settings
  | .bad problems => do
      for p in Problem.inOrder problems do
        IO.eprintln (String.intercalate "." (p.path.map Step.text) ++ ": " ++ p.kind.code)
      pure 1
