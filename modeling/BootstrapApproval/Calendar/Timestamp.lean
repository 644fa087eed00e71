import BootstrapApproval.Calendar.Date

/-! # Timestamps

A timestamp is a date with a time of day to the microsecond and, unless it is local, an offset from
universal time in minutes. All bounds are part of the types.
-/

namespace BootstrapApproval

structure Clock where
  hour : Nat
  minute : Nat
  second : Nat
  micro : Nat
  hour_lt : hour < 24
  minute_lt : minute < 60
  second_lt : second < 60
  micro_lt : micro < 1000000
  deriving DecidableEq, Repr

namespace Clock

def of? (hour minute second micro : Nat) : Option Clock :=
  if h : (hour < 24 ∧ minute < 60) ∧ second < 60 ∧ micro < 1000000 then
    some ⟨hour, minute, second, micro, h.1.1, h.1.2, h.2.1, h.2.2⟩
  else none

/-- The time of day that many microseconds after midnight, whole days left out. -/
def ofMicros (n : Nat) : Clock :=
  ⟨n / 3600000000 % 24, n / 60000000 % 60, n / 1000000 % 60, n % 1000000,
    Nat.mod_lt _ (by decide), Nat.mod_lt _ (by decide), Nat.mod_lt _ (by decide),
    Nat.mod_lt _ (by decide)⟩

def micros (c : Clock) : Nat := ((c.hour * 60 + c.minute) * 60 + c.second) * 1000000 + c.micro

def midnight : Clock := ofMicros 0

@[simp] theorem of?_self (c : Clock) : of? c.hour c.minute c.second c.micro = some c := by
  simp [of?, c.hour_lt, c.minute_lt, c.second_lt, c.micro_lt]

end Clock

/-- An offset from universal time, in minutes: less than a day in either direction. -/
structure Offset where
  minutes : Int
  bound : minutes.natAbs < 1440
  deriving DecidableEq, Repr

namespace Offset

def zero : Offset := ⟨0, by decide⟩

/-- The offset of so many hours and minutes, ahead of universal time or behind it. -/
def of? (behind : Bool) (hours minutes : Nat) : Option Offset :=
  if h : hours < 24 ∧ minutes < 60 then
    let n : Int := hours * 60 + minutes
    some ⟨if behind then -n else n, by split <;> omega⟩
  else none

end Offset

/-- A date with a time of day; without an offset it is local time. -/
structure Timestamp where
  date : Date
  clock : Clock
  offset : Option Offset
  deriving DecidableEq, Repr

namespace Timestamp

def epoch : Timestamp :=
  ⟨⟨1970, 1, 1, by decide, by decide, by decide⟩, .midnight, some .zero⟩

def dayMicros : Int := 86400000000

def ofUnixMicros? (n : Int) : Option Timestamp :=
  (Date.ofDays? (n.fdiv dayMicros)).map fun date =>
    ⟨date, Clock.ofMicros (n.fmod dayMicros).toNat, some .zero⟩

/-- Microseconds since the start of 1970 in universal time. Local time counts as universal. -/
def unixMicros (t : Timestamp) : Int :=
  t.date.days * dayMicros + t.clock.micros -
    (match t.offset with | some o => o.minutes | none => 0) * 60000000

/-- The same moment in universal time, when it lies in the calendar there. -/
def inUniversal? (t : Timestamp) : Option Timestamp :=
  if t.offset = some .zero then some t else ofUnixMicros? t.unixMicros

/-- The timestamp without its fraction of a second. -/
def wholeSecond (t : Timestamp) : Timestamp :=
  { t with clock := { t.clock with micro := 0, micro_lt := by decide } }

theorem inUniversal?_of_universal {t : Timestamp} (universal : t.offset = some .zero) :
    t.inUniversal? = some t := if_pos universal

end Timestamp

end BootstrapApproval
