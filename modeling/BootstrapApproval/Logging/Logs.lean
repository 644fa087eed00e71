import BootstrapApproval.Logging.Record

/-! # Loggers and handlers

Loggers form a tree by the dots in their names. A record is dropped when its level lies below the
level of its logger; otherwise every handler at the root gets it. A handler may give the record a
correlation id and may refuse records about probes, in this order.
-/

namespace BootstrapApproval

structure Correlation where
  current : String
  issued : Nat
  deriving DecidableEq, Repr

namespace Correlation

def none : Correlation := ⟨"", 0⟩

/-- The `n`-th id: `n` in eight hexadecimal digits. -/
def id (n : Nat) : String := String.ofList (Digits.padded 16 8 n)

def issue (c : Correlation) : String × Correlation :=
  (id (c.issued + 1), { c with issued := c.issued + 1 })

def use (c : Correlation) (id : String) : Correlation := { c with current := id }

/-- The id in use; a new one is made and used when there is none. -/
def ensure (c : Correlation) : String × Correlation :=
  if c.current = "" then
    let (id, c) := c.issue
    (id, c.use id)
  else (c.current, c)

theorem ensure_of_current {c : Correlation} (h : c.current ≠ "") : c.ensure = (c.current, c) := by
  simp [ensure, h]

end Correlation

inductive Presentation where
  | kept
  | structured
  | plain (correlated : Bool)
  deriving DecidableEq, Repr

structure Handler where
  presentation : Presentation
  correlates : Bool
  /-- Refuse records about probes. -/
  hidesProbes : Bool
  deriving DecidableEq, Repr

structure Output where
  kept : List Record
  lines : List String

namespace Output

def empty : Output := ⟨[], []⟩

def add (o : Output) (p : Presentation) (r : Record) : Output :=
  match p with
  | .kept => { o with kept := o.kept ++ [r] }
  | .structured => { o with lines := o.lines ++ [r.line] }
  | .plain correlated => { o with lines := o.lines ++ [r.plainLine correlated] }

def text (o : Output) : String := String.join (o.lines.map (· ++ "\n"))

end Output

structure Logs where
  rootLevel : Level
  handlers : List Handler
  levels : Table Level
  correlation : Correlation
  output : Output

namespace Logs

def root : String := "root"

def initialLevel : Level := .debug

def keeper : Handler := ⟨.kept, false, false⟩

/-- Logging before anything is set up: every record from debugging on is kept. -/
def initial : Logs := ⟨initialLevel, [keeper], [], .none, .empty⟩

/-- The beginnings of a name that end before a dot, the longest first. The name is given from its
last character on. A dot in front of the dot just passed is `hidden`, and so is one at the start. -/
def beginnings (hidden : Bool) : List Char → List String
  | [] => []
  | c :: rest =>
      if c = '.' && !hidden && !rest.isEmpty then
        String.ofList rest.reverse :: beginnings true rest
      else beginnings false rest

/-- The names of a logger and of all loggers above it but the root, the nearest first. -/
def lineage (logger : String) : List String := logger :: beginnings false logger.toList.reverse

/-- The level of a logger: that of the nearest logger that has one. -/
def levelOf (l : Logs) (logger : String) : Level :=
  if logger = root then l.rootLevel
  else
    ((lineage logger).findSome? fun n =>
      (l.levels.find? n).bind fun v => if v = Level.notSet then none else some v).getD l.rootLevel

/-- Whether a logger takes records of this level. No logger takes records without a level. -/
def takes (l : Logs) (logger : String) (level : Level) : Bool :=
  decide (Level.notSet < level) && decide (l.levelOf logger ≤ level)

/-- What one handler does with a record: the record as later handlers see it, and the logging
after it. -/
def handle (h : Handler) (r : Record) (c : Correlation) (o : Output) :
    Record × Correlation × Output :=
  let (r, c) := if h.correlates then
      let (id, c) := c.ensure
      (r.correlate id, c)
    else (r, c)
  if h.hidesProbes && r.namesProbe then (r, c, o) else (r, c, o.add h.presentation r)

def handleAll : List Handler → Record → Correlation → Output → Correlation × Output
  | [], _, c, o => (c, o)
  | h :: rest, r, c, o =>
      let (r, c, o) := handle h r c o
      handleAll rest r c o

def emit (l : Logs) (r : Record) : Logs :=
  if l.takes r.logger r.level then
    let (c, o) := handleAll l.handlers r l.correlation l.output
    { l with correlation := c, output := o }
  else l

structure Setup where
  levelName : String
  structured : Bool
  correlated : Bool
  showProbes : Bool
  deriving DecidableEq, Repr

def Setup.standard : Setup := ⟨"INFO", true, true, false⟩

def Setup.handler (s : Setup) : Handler :=
  ⟨if s.structured then .structured else .plain s.correlated, s.correlated, !s.showProbes⟩

/-- Loggers of other components, which are too talkative below a warning. -/
def quieted : List String :=
  ["kopf", "kubernetes", "urllib3", "aiohttp.access", "aiohttp.server", "aiohttp.web"]

/-- Set logging up. A name that stands for no level is refused after the handlers have been
exchanged. -/
def setUp (l : Logs) (s : Setup) : Except Level.Misnamed Unit × Logs :=
  let l := { l with handlers := [s.handler] }
  match Level.ofName s.levelName with
  | .ok n =>
      (.ok (), { l with rootLevel := n,
                        levels := l.levels.insertAll (quieted.map fun q => (q, Level.warning)) })
  | .error m => (.error m, l)

end Logs

end BootstrapApproval
