/-! # Dates

Dates of the Gregorian calendar in the years 1 to 9999. Every date is a valid one: the bounds are
part of the type.
-/

namespace BootstrapApproval

namespace Calendar

def isLeap (year : Nat) : Bool := year % 4 == 0 && (year % 100 != 0 || year % 400 == 0)

/-- The number of days of a month; no month but 1 to 12 has any. -/
def daysIn (year : Nat) : Nat → Nat
  | 1 | 3 | 5 | 7 | 8 | 10 | 12 => 31
  | 4 | 6 | 9 | 11 => 30
  | 2 => if isLeap year then 29 else 28
  | _ => 0

/-- Whether a month and a day exist in a year, be it year 0 or any other. -/
def Exists (year month day : Nat) : Prop := 1 ≤ day ∧ day ≤ daysIn year month

instance (year month day : Nat) : Decidable (Exists year month day) :=
  inferInstanceAs (Decidable (_ ∧ _))

/-- The number of days from the first of March of year 0 to the first of January of year 1970. -/
def epoch : Int := 719468

/-- The number of days from 1970-01-01 to a day. Years are counted from March, so that a day put in
by a leap year is the last of its year. -/
def dayNumber (year month day : Nat) : Int :=
  let y : Int := if month ≤ 2 then (year : Int) - 1 else year
  let era := y.fdiv 400
  let yearOfEra := y - era * 400
  let m : Int := if month ≤ 2 then (month : Int) + 9 else (month : Int) - 3
  let dayOfYear := (153 * m + 2).fdiv 5 + (day : Int) - 1
  let dayOfEra := yearOfEra * 365 + yearOfEra.fdiv 4 - yearOfEra.fdiv 100 + dayOfYear
  era * 146097 + dayOfEra - epoch

/-- The year, month and day that lie a number of days after 1970-01-01. -/
def ofDayNumber (days : Int) : Int × Nat × Nat :=
  let z := days + epoch
  let era := z.fdiv 146097
  let dayOfEra := z - era * 146097
  let yearOfEra :=
    (dayOfEra - dayOfEra.fdiv 1460 + dayOfEra.fdiv 36524 - dayOfEra.fdiv 146096).fdiv 365
  let dayOfYear := dayOfEra - (365 * yearOfEra + yearOfEra.fdiv 4 - yearOfEra.fdiv 100)
  let m := (5 * dayOfYear + 2).fdiv 153
  let day := dayOfYear - (153 * m + 2).fdiv 5 + 1
  let month := if m < 10 then m + 3 else m - 9
  let year := yearOfEra + era * 400 + (if month ≤ 2 then 1 else 0)
  (year, month.toNat, day.toNat)

end Calendar

structure Date where
  year : Nat
  month : Nat
  day : Nat
  year_pos : 1 ≤ year
  year_le : year ≤ 9999
  inMonth : Calendar.Exists year month day
  deriving DecidableEq, Repr

namespace Date

def of? (year month day : Nat) : Option Date :=
  if h : (1 ≤ year ∧ year ≤ 9999) ∧ Calendar.Exists year month day then
    some ⟨year, month, day, h.1.1, h.1.2, h.2⟩
  else none

def ofDays? (days : Int) : Option Date :=
  let (year, month, day) := Calendar.ofDayNumber days
  if year < 1 then none else of? year.toNat month day

def days (d : Date) : Int := Calendar.dayNumber d.year d.month d.day

@[simp] theorem of?_self (d : Date) : of? d.year d.month d.day = some d := by
  have h : (1 ≤ d.year ∧ d.year ≤ 9999) ∧ Calendar.Exists d.year d.month d.day :=
    ⟨⟨d.year_pos, d.year_le⟩, d.inMonth⟩
  simp [of?, h]

theorem month_bounds (d : Date) : 1 ≤ d.month ∧ d.month ≤ 12 := by
  have h := d.inMonth
  unfold Calendar.Exists Calendar.daysIn at h
  split at h <;> grind

theorem day_le (d : Date) : d.day ≤ 31 := by
  have h := d.inMonth
  unfold Calendar.Exists Calendar.daysIn at h
  split at h <;> grind

end Date

end BootstrapApproval
