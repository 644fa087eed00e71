import BootstrapApproval.Calendar.Timestamp
import BootstrapApproval.Text.Digits

/-! # Writing timestamps

The written form is `YYYY-MM-DDTHH:MM:SS`, a fraction of six digits when there is one, and the zone:
`Z` for universal time, a sign with hours and minutes for another offset, nothing for local time.
-/

namespace BootstrapApproval.Timestamp

def dateText (d : Date) : List Char :=
  Digits.padded 10 4 d.year ++ '-' :: Digits.padded 10 2 d.month ++ '-' :: Digits.padded 10 2 d.day

def clockText (c : Clock) : List Char :=
  Digits.padded 10 2 c.hour ++ ':' :: Digits.padded 10 2 c.minute ++
    ':' :: Digits.padded 10 2 c.second ++
    (if c.micro = 0 then [] else '.' :: Digits.padded 10 6 c.micro)

def zoneText : Option Offset → List Char
  | none => []
  | some o =>
      if o.minutes = 0 then ['Z']
      else
        let n := o.minutes.natAbs
        (if o.minutes < 0 then '-' else '+') :: Digits.padded 10 2 (n / 60) ++
          ':' :: Digits.padded 10 2 (n % 60)

def chars (t : Timestamp) : List Char :=
  dateText t.date ++ 'T' :: clockText t.clock ++ zoneText t.offset

def text (t : Timestamp) : String := String.ofList t.chars

end BootstrapApproval.Timestamp
