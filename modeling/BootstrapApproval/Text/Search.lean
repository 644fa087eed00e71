/-! # Searching text

Substring search on lists of characters, and cutting text at a separator.
-/

namespace BootstrapApproval.Search

/-- Whether `needle` occurs in `text` as a block of consecutive characters. -/
def occursIn (needle : List Char) : List Char → Bool
  | [] => needle.isEmpty
  | c :: rest => needle.isPrefixOf (c :: rest) || occursIn needle rest

/-- What stands before the first character that satisfies `p`. -/
def before (p : Char → Bool) (cs : List Char) : List Char := cs.takeWhile (fun c => !p c)

/-- What stands after the first character that satisfies `p`; nothing when there is none. -/
def after (p : Char → Bool) (cs : List Char) : List Char :=
  (cs.dropWhile (fun c => !p c)).drop 1

/-- Remove the characters that satisfy `p` from both ends. -/
def strip (p : Char → Bool) (cs : List Char) : List Char :=
  (((cs.dropWhile p).reverse).dropWhile p).reverse

/-- The parts of a text between the characters that satisfy `p`. There is always one. -/
def split (p : Char → Bool) : List Char → List (List Char)
  | [] => [[]]
  | c :: rest =>
      if p c then [] :: split p rest
      else
        match split p rest with
        | part :: more => (c :: part) :: more
        | [] => [[c]]

theorem occursIn_iff {needle text : List Char} :
    occursIn needle text = true ↔ ∃ front back, text = front ++ needle ++ back := by
  induction text with
  | nil => cases needle <;> simp [occursIn]
  | cons c rest ih =>
      simp only [occursIn, Bool.or_eq_true, List.isPrefixOf_iff_prefix, ih]
      constructor
      · rintro (⟨back, h⟩ | ⟨front, back, h⟩)
        · exact ⟨[], back, by simpa using h.symm⟩
        · exact ⟨c :: front, back, by simp [h]⟩
      · rintro ⟨front, back, h⟩
        cases front with
        | nil => exact .inl ⟨back, by simpa using h.symm⟩
        | cons d front =>
            simp only [List.cons_append, List.cons.injEq] at h
            exact .inr ⟨front, back, h.2⟩

theorem split_ne_nil (p : Char → Bool) (cs : List Char) : split p cs ≠ [] := by
  cases cs with
  | nil => simp [split]
  | cons c rest =>
      rw [split]
      split
      · simp
      · split <;> simp

end BootstrapApproval.Search
