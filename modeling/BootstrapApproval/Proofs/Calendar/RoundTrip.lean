import BootstrapApproval.Calendar.Parser
import BootstrapApproval.Calendar.Printer
import BootstrapApproval.Proofs.Text.Numbers

/-! # Written timestamps are read back

The written form of every timestamp is one of the accepted forms, and stands for that timestamp: the
same date, the same time of day to the microsecond, and the same offset or none.
-/

namespace BootstrapApproval.Timestamp

/-- What may follow a time of day: nothing, or a zone. -/
def Ends (rest : List Char) : Prop := ∀ c ∈ rest.head?, c = 'Z' ∨ c = '+' ∨ c = '-'

theorem zoneText_ends (o : Option Offset) : Ends (zoneText o) := by
  intro c first
  cases o with
  | none => simp [zoneText] at first
  | some o =>
      simp only [zoneText] at first
      split at first
      · simp at first
        simp [← first]
      · split at first <;> simp at first <;> simp [← first]

theorem date?_dateText (d : Date) (rest : List Char) :
    date? (dateText d ++ rest) = some ((d.year, d.month, d.day), rest) := by
  have month := d.month_bounds
  have day := d.day_le
  obtain ⟨y₁, y₂, y₃, y₄, year, readYear⟩ := Digits.padded_four (show d.year < 10000 by
    have := d.year_le; omega)
  obtain ⟨m₁, m₂, months, readMonth⟩ := Digits.padded_two (show d.month < 100 by omega)
  obtain ⟨d₁, d₂, days, readDay⟩ := Digits.padded_two (show d.day < 100 by omega)
  simp [dateText, year, months, days, date?, readYear, readMonth, readDay]

theorem fraction?_written (c : Clock) {rest : List Char} (ends : Ends rest) :
    fraction? ((if c.micro = 0 then [] else '.' :: Digits.padded 10 6 c.micro) ++ rest) =
      some (c.micro, rest) := by
  by_cases whole : c.micro = 0
  · rw [if_pos whole, whole, List.nil_append]
    cases rest with
    | nil => rfl
    | cons z zone =>
        have first : z = 'Z' ∨ z = '+' ∨ z = '-' := ends z rfl
        have other : ¬(z = '.' ∨ z = ',') := by
          rcases first with rfl | rfl | rfl <;> decide
        simp [fraction?, other]
  · have length : (Digits.padded 10 6 c.micro).length = 6 :=
      Digits.length_padded (by omega) c.micro_lt
    have cut : sixDigits (Digits.padded 10 6 c.micro) = Digits.padded 10 6 c.micro := by
      simp [sixDigits, length]
    have stop : ∀ z ∈ rest.head?, Digits.isDigit z = false := by
      intro z first
      rcases ends z first with rfl | rfl | rfl <;> decide
    have digits : Digits.span (Digits.padded 10 6 c.micro ++ rest) =
        (Digits.padded 10 6 c.micro, rest) :=
      Digits.span_append (fun _ => Digits.isDigit_of_mem_padded) stop
    rw [if_neg whole]
    cases shape : Digits.padded 10 6 c.micro with
    | nil => simp [shape] at length
    | cons a more =>
        rw [shape] at digits cut
        have value := Digits.read_padded 6 c.micro
        rw [shape] at value
        simp only [List.cons_append, fraction?, true_or, if_true]
        rw [← List.cons_append, digits]
        simp [cut, value]

theorem clock?_clockText (c : Clock) {rest : List Char} (ends : Ends rest) :
    clock? (clockText c ++ rest) = some (c, rest) := by
  obtain ⟨h₁, h₂, hours, readHour⟩ := Digits.padded_two (show c.hour < 100 by
    have := c.hour_lt; omega)
  obtain ⟨m₁, m₂, minutes, readMinute⟩ := Digits.padded_two (show c.minute < 100 by
    have := c.minute_lt; omega)
  obtain ⟨s₁, s₂, seconds, readSecond⟩ := Digits.padded_two (show c.second < 100 by
    have := c.second_lt; omega)
  have fraction := fraction?_written c ends
  simp only [clockText, hours, minutes, seconds, List.cons_append, List.nil_append, clock?,
    seconds?, readHour, readMinute, readSecond, fraction, Option.bind_eq_bind, Option.bind_some,
    Clock.of?_self]

theorem offset_eq {a b : Offset} (same : a.minutes = b.minutes) : a = b := by
  cases a
  cases b
  simpa using same

/-- The hours and minutes of an offset, with its sign, make it up again. -/
theorem of?_natAbs (o : Offset) :
    Offset.of? (decide (o.minutes < 0)) (o.minutes.natAbs / 60) (o.minutes.natAbs % 60) =
      some o := by
  have bound := o.bound
  have fits : o.minutes.natAbs / 60 < 24 ∧ o.minutes.natAbs % 60 < 60 := by omega
  rw [Offset.of?, dif_pos fits]
  apply congrArg some
  apply offset_eq
  dsimp only
  split
  · rename_i behind
    have behind := of_decide_eq_true behind
    omega
  · rename_i ahead
    have ahead := of_decide_eq_false (eq_false_of_ne_true ahead)
    omega

theorem zone?_zoneText (o : Option Offset) : zone? (zoneText o) = some o := by
  cases o with
  | none => rfl
  | some o =>
      have bound := o.bound
      obtain ⟨h₁, h₂, hours, readHours⟩ :=
        Digits.padded_two (show o.minutes.natAbs / 60 < 100 by omega)
      obtain ⟨m₁, m₂, minutes, readMinutes⟩ :=
        Digits.padded_two (show o.minutes.natAbs % 60 < 100 by omega)
      have whole := of?_natAbs o
      simp only [zoneText]
      -- the sign is read apart from the digits, so each sign is a case of its own
      by_cases zero : o.minutes = 0
      · have same : Offset.zero = o := offset_eq zero.symm
        simp [zero, zone?, same]
      · rw [if_neg zero]
        by_cases behind : o.minutes < 0
        · rw [decide_eq_true behind] at whole
          simp [behind, hours, minutes, zone?, offset?, readHours, readMinutes, whole]
        · rw [decide_eq_false behind] at whole
          simp [behind, hours, minutes, zone?, offset?, readHours, readMinutes, whole]

theorem ofDated?_chars (t : Timestamp) : ofDated? t.chars = some (.ok t) := by
  have shape : t.chars = dateText t.date ++ ('T' :: (clockText t.clock ++ zoneText t.offset)) := by
    simp [chars]
  have separator : isSeparator 'T' = true := by decide
  have time : time? ('T' :: (clockText t.clock ++ zoneText t.offset)) =
      some (t.clock, t.offset) := by
    simp [time?, separator, clock?_clockText t.clock (zoneText_ends t.offset), zone?_zoneText]
  simp [ofDated?, parts?, shape, date?_dateText, time, t.date.inMonth]

/-- A timestamp is read back from its written form. -/
theorem ofJson_text (t : Timestamp) : ofJson (.str t.text) = .ok t := by
  simp [ofJson, ofChars, text, ofDated?_chars]

end BootstrapApproval.Timestamp
