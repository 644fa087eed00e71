import BootstrapApproval.Metrics.Tally
import BootstrapApproval.Outcome
import BootstrapApproval.Text.Digits

/-! # Metrics

Counters of reconciliations, of their failures, of decisions and of approvals, and their text
form: for each counter a line of help, a line with its type, and one line per combination of labels.
-/

namespace BootstrapApproval

inductive Ending where
  | success
  | error
  | unknown
  deriving DecidableEq, Repr

def Ending.label : Ending → String
  | .success => "success"
  | .error => "error"
  | .unknown => "unknown"

structure Metrics where
  endings : Tally
  durations : Nat
  /-- Failures by their name and by whether they may be tried again. -/
  errors : Tally
  decisions : Tally
  approvals : Tally
  deriving DecidableEq, Repr

structure CounterFamily where
  name : String
  help : String
  labels : List String
  tally : Tally

structure Sample where
  name : String
  labels : List (String × String)
  value : Nat

namespace Metrics

def zero : Metrics := ⟨[], 0, [], [], []⟩

def countEnding (m : Metrics) (e : Ending) : Metrics :=
  { m with endings := m.endings.add [e.label], durations := m.durations + 1 }

def retryLabel (b : Bool) : String := if b then "true" else "false"

def countError (m : Metrics) (name : String) (retryable : Bool) : Metrics :=
  { m with errors := m.errors.add [name, retryLabel retryable] }

/-- Count a decision; an approval counts for its cluster too, when that is known. -/
def countDecision (m : Metrics) (outcome : String) (cluster : Option String) : Metrics :=
  let m := { m with decisions := m.decisions.add [outcome] }
  match cluster with
  | some c =>
      if outcome = Outcome.approved.code ∧ c ≠ "" then
        { m with approvals := m.approvals.add [c] }
      else m
  | none => m

def families (m : Metrics) : List CounterFamily :=
  [⟨"csr_approver_reconciliation_total", "Total number of CSR reconciliation attempts",
      ["result"], m.endings⟩,
   ⟨"csr_approver_reconciliation_errors_total", "Total number of CSR reconciliation errors",
      ["error_type", "retryable"], m.errors⟩,
   ⟨"csr_approver_decisions_total", "Approval decisions reached, by outcome",
      ["outcome"], m.decisions⟩,
   ⟨"csr_approver_approvals_total", "CSRs approved, by cluster", ["cluster_name"], m.approvals⟩]

end Metrics

namespace CounterFamily

def samples (f : CounterFamily) : List Sample :=
  f.tally.map fun e => ⟨f.name, f.labels.zip e.1, e.2⟩

end CounterFamily

namespace Sample

/-- What labels are ordered by: each name, followed by its value. -/
def labelKeys (s : Sample) : List String := s.labels.map fun l => l.1 ++ "\x00" ++ l.2

def le (a b : Sample) : Bool :=
  if a.name = b.name then !decide (b.labelKeys < a.labelKeys) else decide (a.name ≤ b.name)

def escape (s : String) : String :=
  String.ofList (s.toList.flatMap fun c =>
    if c = '\\' then ['\\', '\\'] else if c = '\n' then ['\\', 'n']
    else if c = '"' then ['\\', '"'] else [c])

def labelText (l : String × String) : String := l.1 ++ "=\"" ++ escape l.2 ++ "\""

def line (s : Sample) : String :=
  s.name ++ "\x7b" ++ String.intercalate "," (s.labels.map labelText) ++ "\x7d " ++
    Digits.decimal s.value ++ ".0"

end Sample

namespace Metrics

def samples (m : Metrics) : List Sample :=
  (m.families.flatMap CounterFamily.samples).mergeSort Sample.le

def familyLines (f : CounterFamily) : List String :=
  ("# HELP " ++ f.name ++ " " ++ f.help) :: ("# TYPE " ++ f.name ++ " counter") ::
    f.samples.map Sample.line

def lines (m : Metrics) : List String := m.families.flatMap familyLines

end Metrics

end BootstrapApproval
