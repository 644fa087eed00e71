import BootstrapApproval.Proofs.Json.Numbers
import BootstrapApproval.Proofs.Json.Strings
import BootstrapApproval.Proofs.Table

/-! # Written values are read back

A value is read back from what is written for it when none of its objects has two members under one
key and each of its numbers is the one that is kept for the digits that are shown. What is written
lies in the printable ASCII range, on one line.
-/

namespace BootstrapApproval.Json

/-- Commas and colons with nothing but blanks after them. -/
structure Layout.IsPlain (l : Layout) : Prop where
  comma : ∃ k, l.comma = ',' :: List.replicate k ' '
  colon : ∃ k, l.colon = ':' :: List.replicate k ' '

theorem Layout.isPlain_dense : Layout.dense.IsPlain := ⟨⟨0, rfl⟩, ⟨0, rfl⟩⟩

theorem Layout.isPlain_spaced : Layout.spaced.IsPlain := ⟨⟨1, rfl⟩, ⟨1, rfl⟩⟩

mutual
/-- Whether a value can be told from what is written for it. -/
def isLegible : Json → Bool
  | .decimal x => x.isKept
  | .arr items => legibleItems items
  | .obj ms => decide (ms.map Prod.fst).Nodup && legibleMembers ms
  | _ => true

def legibleItems : List Json → Bool
  | [] => true
  | x :: xs => isLegible x && legibleItems xs

def legibleMembers : List (String × Json) → Bool
  | [] => true
  | (_, x) :: ms => isLegible x && legibleMembers ms
end

theorem legibleMembers_iff {ms : List (String × Json)} :
    legibleMembers ms = true ↔ ∀ m ∈ ms, m.2.isLegible = true := by
  induction ms with
  | nil => simp [legibleMembers]
  | cons m ms ih => simp [legibleMembers, ih]

mutual
/-- How many values and separators are read one inside or after the other. -/
def steps : Json → Nat
  | .arr items => stepsItems items + 1
  | .obj ms => stepsMembers ms + 1
  | _ => 1

def stepsItems : List Json → Nat
  | [] => 0
  | x :: xs => steps x + stepsItems xs + 1

def stepsMembers : List (String × Json) → Nat
  | [] => 0
  | (_, x) :: ms => steps x + stepsMembers ms + 1
end

section Skipping

variable {cs : List Char} {c : Char}

theorem skip_blanks (k : Nat) (cs : List Char) : skip (List.replicate k ' ' ++ cs) = skip cs := by
  induction k with
  | zero => rfl
  | succ k ih => exact ih

theorem value_blanks (fuel k : Nat) (cs : List Char) :
    value? fuel (List.replicate k ' ' ++ cs) = value? fuel cs := by
  cases fuel with
  | zero => rfl
  | succ fuel => simp only [value?, skip_blanks]

theorem items_blanks (fuel k : Nat) (cs : List Char) :
    items? fuel (List.replicate k ' ' ++ cs) = items? fuel cs := by
  cases fuel with
  | zero => rfl
  | succ fuel => simp only [items?, value_blanks]

theorem members_blanks (fuel k : Nat) (cs : List Char) :
    members? fuel (List.replicate k ' ' ++ cs) = members? fuel cs := by
  cases fuel with
  | zero => rfl
  | succ fuel => simp only [members?, skip_blanks]

/-- What a written value may begin with: no blank, and nothing that closes a value. -/
def Starts (c : Char) : Prop :=
  c ≠ ' ' ∧ c ≠ '\n' ∧ c ≠ '\r' ∧ c ≠ '\t' ∧ c ≠ ']' ∧ c ≠ '\x7d'

instance (c : Char) : Decidable (Starts c) := inferInstanceAs (Decidable (_ ∧ _))

theorem skip_of_starts (starts : Starts c) : skip (c :: cs) = c :: cs := by
  obtain ⟨noBlank, noLine, noReturn, noTab, -⟩ := starts
  simp [skip, noBlank, noLine, noReturn, noTab]

theorem isDigit_cases {d : Char} (isDigit : Digits.isDigit d = true) :
    d ∈ ['0', '1', '2', '3', '4', '5', '6', '7', '8', '9'] := by
  have all : ∀ n : Fin 10, Char.ofNat (48 + n) ∈
      ['0', '1', '2', '3', '4', '5', '6', '7', '8', '9'] := by decide
  have bounds : '0' ≤ d ∧ d ≤ '9' := by
    unfold Digits.isDigit Digits.value? at isDigit
    split at isDigit
    · assumption
    · cases isDigit
  have low : 48 ≤ d.toNat := bounds.1
  have high : d.toNat ≤ 57 := bounds.2
  have known := all ⟨d.toNat - 48, by omega⟩
  rwa [Nat.add_sub_cancel' low, Char.ofNat_toNat] at known

theorem starts_of_isDigit {d : Char} (isDigit : Digits.isDigit d = true) : Starts d := by
  have all : ['0', '1', '2', '3', '4', '5', '6', '7', '8', '9'].all (Starts ·) = true := by
    decide
  exact of_decide_eq_true (List.all_eq_true.mp all d (isDigit_cases isDigit))

end Skipping

section Numbers

variable {cs rest : List Char} {j : Json}

/-- A number begins with a digit. -/
theorem number_head {negative : Bool} (read : number? negative cs = some (j, rest)) :
    ∃ d more, cs = d :: more ∧ Digits.isDigit d = true := by
  cases cs with
  | nil => cases read
  | cons d more =>
      cases isDigit : Digits.isDigit d with
      | true => exact ⟨d, more, rfl, isDigit⟩
      | false =>
          have empty : Digits.span (d :: more) = ([], d :: more) := by simp [Digits.span, isDigit]
          rw [number?, empty] at read
          cases read

theorem value_of_number (read : number? false cs = some (j, rest)) (fuel : Nat) :
    value? (fuel + 1) cs = some (j, rest) := by
  obtain ⟨d, more, rfl, isDigit⟩ := number_head read
  have known := isDigit_cases isDigit
  simp only [List.mem_cons, List.not_mem_nil, or_false] at known
  rw [← read]
  rcases known with rfl | rfl | rfl | rfl | rfl | rfl | rfl | rfl | rfl | rfl <;> rfl

theorem value_of_negative (read : number? true cs = some (j, rest)) (fuel : Nat) :
    value? (fuel + 1) ('-' :: cs) = some (j, rest) := read

end Numbers

section Written

variable (l : Layout)

/-- What is written for a value is not empty, and what follows an opening bracket or a separator is
not taken for blanks or for a closing bracket. -/
theorem write_starts (j : Json) (legible : j.isLegible = true) :
    ∃ c more, write l j = c :: more ∧ Starts c := by
  have ends : Ends [] := fun _ member => nomatch member
  cases j with
  | null => exact ⟨_, _, rfl, by decide⟩
  | bool b => cases b <;> exact ⟨_, _, rfl, by decide⟩
  | int n =>
      obtain ⟨d, more, shape, isDigit⟩ := number_head (number_whole false n.natAbs ends)
      rw [List.append_nil] at shape
      unfold write writeInt
      split
      · exact ⟨_, _, rfl, by decide⟩
      · exact ⟨d, more, shape, starts_of_isDigit isDigit⟩
  | decimal x =>
      obtain ⟨d, more, shape, isDigit⟩ := number_head (number_magnitude legible ends)
      rw [List.append_nil] at shape
      unfold write Decimal.text
      rw [String.toList_ofList]
      cases x.negative with
      | true => exact ⟨_, _, rfl, by decide⟩
      | false => exact ⟨d, more, shape, starts_of_isDigit isDigit⟩
  | str s => exact ⟨_, _, rfl, by decide⟩
  | arr items => cases items <;> exact ⟨_, _, rfl, by decide⟩
  | obj ms => cases ms <;> exact ⟨_, _, rfl, by decide⟩

theorem value_int (n : Int) {rest : List Char} (ends : Ends rest) (fuel : Nat) :
    value? (fuel + 1) (writeInt n ++ rest) = some (.int n, rest) := by
  unfold writeInt
  split
  · rename_i negative
    have read := value_of_negative (number_whole true n.natAbs ends) fuel
    have same : -(n.natAbs : Int) = n := by omega
    rw [if_pos rfl, same] at read
    exact read
  · rename_i positive
    have read := value_of_number (number_whole false n.natAbs ends) fuel
    have same : (n.natAbs : Int) = n := by omega
    rw [if_neg Bool.false_ne_true, same] at read
    exact read

theorem value_decimal {x : Decimal} (isKept : x.isKept = true) {rest : List Char}
    (ends : Ends rest) (fuel : Nat) :
    value? (fuel + 1) (x.text.toList ++ rest) = some (.decimal x, rest) := by
  have read := number_magnitude isKept ends
  unfold Decimal.text
  rw [String.toList_ofList]
  cases negative : x.negative with
  | true =>
      rw [negative] at read
      exact value_of_negative read fuel
  | false =>
      rw [negative] at read
      exact value_of_number read fuel

theorem value_str (s : String) (rest : List Char) (fuel : Nat) :
    value? (fuel + 1) (quote s ++ rest) = some (.str s, rest) := by
  obtain ⟨body, shape, read⟩ := quote_read s rest
  have opened : skip ('"' :: body) = '"' :: body := rfl
  rw [shape]
  simp only [value?, opened, read]
  simp

theorem value_items {c : Char} {more : List Char} (starts : Starts c) (fuel : Nat) :
    value? (fuel + 1) ('[' :: c :: more) =
      (items? fuel (c :: more)).map fun p => (.arr p.1, p.2) := by
  have opened : skip ('[' :: c :: more) = '[' :: c :: more := rfl
  simp only [value?, opened, skip_of_starts starts]
  split
  · rename_i same
    exact absurd (List.cons.inj same).1 starts.2.2.2.2.1
  · rfl

theorem value_members {c : Char} {more : List Char} (starts : Starts c) (fuel : Nat) :
    value? (fuel + 1) ('\x7b' :: c :: more) =
      (members? fuel (c :: more)).map fun p => (.obj (Table.ofEntries p.1), p.2) := by
  have opened : skip ('\x7b' :: c :: more) = '\x7b' :: c :: more := rfl
  simp only [value?, opened, skip_of_starts starts]
  split
  · rename_i same
    exact absurd (List.cons.inj same).1 starts.2.2.2.2.2
  · rfl

end Written

theorem steps_pos (j : Json) : 0 < steps j := by
  cases j <;> simp [steps]

/-- Whatever takes no more steps than the reader has left is read back. -/
structure Reads (l : Layout) (fuel : Nat) : Prop where
  value : ∀ (j : Json) (rest : List Char), j.isLegible = true → steps j ≤ fuel → Ends rest →
    value? fuel (write l j ++ rest) = some (j, rest)
  items : ∀ (x : Json) (xs : List Json) (rest : List Char), legibleItems (x :: xs) = true →
    stepsItems (x :: xs) ≤ fuel →
    items? fuel (write l x ++ (writeItems l xs ++ ']' :: rest)) = some (x :: xs, rest)
  members : ∀ (k : String) (x : Json) (ms : List (String × Json)) (rest : List Char),
    legibleMembers ((k, x) :: ms) = true → stepsMembers ((k, x) :: ms) ≤ fuel →
    members? fuel (quote k ++ (l.colon ++ (write l x ++ (writeMembers l ms ++ '\x7d' :: rest)))) =
      some ((k, x) :: ms, rest)

namespace Reads

variable {l : Layout} {fuel : Nat}

theorem zero : Reads l 0 := by
  refine ⟨fun j _ _ enough => ?_, fun x xs _ _ enough => ?_, fun k x ms _ _ enough => ?_⟩
  · exact absurd enough (Nat.not_le.mpr (steps_pos j))
  · simp [stepsItems] at enough
  · simp [stepsMembers] at enough

/-- A value is read with one step less for what is inside it. -/
theorem value_succ (reads : Reads l fuel) (j : Json) (rest : List Char)
    (legible : j.isLegible = true) (enough : steps j ≤ fuel + 1) (ends : Ends rest) :
    value? (fuel + 1) (write l j ++ rest) = some (j, rest) := by
  cases j with
  | null => rfl
  | bool b => cases b <;> rfl
  | int n => exact value_int n ends fuel
  | decimal x => exact value_decimal legible ends fuel
  | str s => exact value_str s rest fuel
  | arr items =>
      cases items with
      | nil => rfl
      | cons x xs =>
          have enough : stepsItems (x :: xs) ≤ fuel := Nat.le_of_succ_le_succ enough
          have read := reads.items x xs rest legible enough
          simp only [isLegible, legibleItems, Bool.and_eq_true] at legible
          obtain ⟨c, more, shape, starts⟩ := write_starts l x legible.1
          have written : write l (.arr (x :: xs)) ++ rest =
              '[' :: (write l x ++ (writeItems l xs ++ ']' :: rest)) := by
            simp [write]
          rw [written]
          rw [shape, List.cons_append] at read ⊢
          rw [value_items starts, read]
          rfl
  | obj ms =>
      cases ms with
      | nil => rfl
      | cons m ms =>
          obtain ⟨k, x⟩ := m
          have enough : stepsMembers ((k, x) :: ms) ≤ fuel := Nat.le_of_succ_le_succ enough
          simp only [isLegible, Bool.and_eq_true, decide_eq_true_eq] at legible
          have read := reads.members k x ms rest legible.2 enough
          have written : write l (.obj ((k, x) :: ms)) ++ rest = '\x7b' :: (quote k ++
              (l.colon ++ (write l x ++ (writeMembers l ms ++ '\x7d' :: rest)))) := by
            simp [write]
          have quoted : quote k = '"' :: (k.toList.flatMap escapeChar ++ ['"']) := rfl
          rw [written]
          rw [quoted, List.cons_append] at read ⊢
          rw [value_members (by decide), read]
          change some (Json.obj (Table.ofEntries ((k, x) :: ms)), rest) = _
          rw [Table.ofEntries_of_nodup legible.1]

section Separated

variable (plain : l.IsPlain)

include plain

theorem ends_items (xs : List Json) (rest : List Char) :
    Ends (writeItems l xs ++ ']' :: rest) := by
  obtain ⟨k, comma⟩ := plain.comma
  intro c first
  cases xs with
  | nil => exact .inr (.inl (Option.some.inj first).symm)
  | cons x xs =>
      rw [writeItems, comma] at first
      exact .inl (Option.some.inj first).symm

theorem ends_members (ms : List (String × Json)) (rest : List Char) :
    Ends (writeMembers l ms ++ '\x7d' :: rest) := by
  obtain ⟨k, comma⟩ := plain.comma
  intro c first
  cases ms with
  | nil => exact .inr (.inr (Option.some.inj first).symm)
  | cons m ms =>
      rw [writeMembers, comma] at first
      exact .inl (Option.some.inj first).symm

/-- The items of a list are read one after the other. -/
theorem items_succ (reads : Reads l fuel) (x : Json) (xs : List Json) (rest : List Char)
    (legible : legibleItems (x :: xs) = true) (enough : stepsItems (x :: xs) ≤ fuel + 1) :
    items? (fuel + 1) (write l x ++ (writeItems l xs ++ ']' :: rest)) = some (x :: xs, rest) := by
  simp only [legibleItems, Bool.and_eq_true] at legible
  simp only [stepsItems] at enough
  have first := reads.value x _ legible.1 (by omega) (ends_items plain xs rest)
  rw [items?, first]
  cases xs with
  | nil => rfl
  | cons y ys =>
      obtain ⟨k, comma⟩ := plain.comma
      have later := reads.items y ys rest legible.2 (by omega)
      have separated : writeItems l (y :: ys) ++ ']' :: rest = ',' :: (List.replicate k ' ' ++
          (write l y ++ (writeItems l ys ++ ']' :: rest))) := by
        simp [writeItems, comma]
      rw [separated]
      change (items? fuel _).map _ = _
      rw [items_blanks, later]
      rfl

/-- The members of an object are read one after the other. -/
theorem members_succ (reads : Reads l fuel) (k : String) (x : Json) (ms : List (String × Json))
    (rest : List Char) (legible : legibleMembers ((k, x) :: ms) = true)
    (enough : stepsMembers ((k, x) :: ms) ≤ fuel + 1) :
    members? (fuel + 1)
        (quote k ++ (l.colon ++ (write l x ++ (writeMembers l ms ++ '\x7d' :: rest)))) =
      some ((k, x) :: ms, rest) := by
  simp only [legibleMembers, Bool.and_eq_true] at legible
  simp only [stepsMembers] at enough
  obtain ⟨blanks, colon⟩ := plain.colon
  have first := reads.value x _ legible.1 (by omega) (ends_members plain ms rest)
  obtain ⟨body, shape, key⟩ :=
    quote_read k (l.colon ++ (write l x ++ (writeMembers l ms ++ '\x7d' :: rest)))
  have split : skip (':' :: List.replicate blanks ' ' ++
      (write l x ++ (writeMembers l ms ++ '\x7d' :: rest))) =
        ':' :: (List.replicate blanks ' ' ++
          (write l x ++ (writeMembers l ms ++ '\x7d' :: rest))) := rfl
  have opened : skip ('"' :: body) = '"' :: body := rfl
  rw [shape, members?]
  simp only [opened, key, colon, split, value_blanks, first]
  cases ms with
  | nil => simp [writeMembers, skip]
  | cons m ms =>
      obtain ⟨n, y⟩ := m
      obtain ⟨k', comma⟩ := plain.comma
      have later := reads.members n y ms rest legible.2 (by omega)
      have separated : writeMembers l ((n, y) :: ms) ++ '\x7d' :: rest =
          ',' :: (List.replicate k' ' ' ++ (quote n ++ (l.colon ++ (write l y ++
            (writeMembers l ms ++ '\x7d' :: rest))))) := by
        simp [writeMembers, comma]
      rw [separated]
      change (members? fuel _).map _ = _
      rw [members_blanks, later]
      simp

end Separated

end Reads

theorem reads {l : Layout} (plain : l.IsPlain) (fuel : Nat) : Reads l fuel := by
  induction fuel with
  | zero => exact .zero
  | succ fuel ih => exact ⟨ih.value_succ, ih.items_succ plain, ih.members_succ plain⟩

variable {l : Layout}

theorem length_pos_of_legible {j : Json} (legible : j.isLegible = true) :
    0 < (write l j).length := by
  obtain ⟨c, more, shape, -⟩ := write_starts l j legible
  simp [shape]

mutual
/-- The text of a value is long enough for the steps in which it is read. -/
theorem steps_le_length (plain : l.IsPlain) :
    ∀ j : Json, j.isLegible = true → steps j ≤ 2 * (write l j).length
  | .null, legible | .bool _, legible | .int _, legible
  | .decimal _, legible | .str _, legible => by
      have pos := length_pos_of_legible (l := l) legible
      simp only [steps]
      omega
  | .arr [], _ => by simp [steps, stepsItems, write]
  | .arr (x :: xs), legible => by
      simp only [isLegible, legibleItems, Bool.and_eq_true] at legible
      have first := steps_le_length plain x legible.1
      have later := stepsItems_le_length plain xs legible.2
      simp [steps, stepsItems, write]
      omega
  | .obj [], _ => by simp [steps, stepsMembers, write]
  | .obj ((k, x) :: ms), legible => by
      simp only [isLegible, legibleMembers, Bool.and_eq_true] at legible
      have first := steps_le_length plain x legible.2.1
      have later := stepsMembers_le_length plain ms legible.2.2
      simp [steps, stepsMembers, write]
      omega

theorem stepsItems_le_length (plain : l.IsPlain) : ∀ xs : List Json, legibleItems xs = true →
    stepsItems xs ≤ 2 * (writeItems l xs).length
  | [], _ => by simp [stepsItems]
  | x :: xs, legible => by
      simp only [legibleItems, Bool.and_eq_true] at legible
      have first := steps_le_length plain x legible.1
      have later := stepsItems_le_length plain xs legible.2
      obtain ⟨k, comma⟩ := plain.comma
      simp [stepsItems, writeItems, comma]
      omega

theorem stepsMembers_le_length (plain : l.IsPlain) :
    ∀ ms : List (String × Json), legibleMembers ms = true →
      stepsMembers ms ≤ 2 * (writeMembers l ms).length
  | [], _ => by simp [stepsMembers]
  | (k, x) :: ms, legible => by
      simp only [legibleMembers, Bool.and_eq_true] at legible
      have first := steps_le_length plain x legible.1
      have later := stepsMembers_le_length plain ms legible.2
      obtain ⟨k, comma⟩ := plain.comma
      simp [stepsMembers, writeMembers, comma]
      omega
end

/-- A value is read back from the whole text that is written for it. -/
theorem parse_write (plain : l.IsPlain) {j : Json} (legible : j.isLegible = true) :
    parse? (String.ofList (write l j)) = some j := by
  have enough := steps_le_length plain j legible
  have read := (reads plain (2 * (write l j).length + 2)).value j [] legible (by omega)
    fun _ member => nomatch member
  rw [List.append_nil] at read
  simp only [parse?, String.toList_ofList, read]
  rfl

theorem parse_render {j : Json} (legible : j.isLegible = true) : parse? j.render = some j :=
  parse_write Layout.isPlain_dense legible

theorem parse_renderSpaced {j : Json} (legible : j.isLegible = true) :
    parse? j.renderSpaced = some j :=
  parse_write Layout.isPlain_spaced legible

section Printable

theorem printable_integer {n : Int} {c : Char} (member : c ∈ writeInt n) : IsPrintable c := by
  unfold writeInt at member
  split at member
  · rcases List.mem_cons.mp member with rfl | digits
    · decide
    · exact printable_digits (by omega) (by omega) digits
  · exact printable_digits (by omega) (by omega) member

theorem printable_exponentText {e : Int} {c : Char} (member : c ∈ Decimal.exponentText e) :
    IsPrintable c := by
  simp only [Decimal.exponentText, List.mem_cons] at member
  rcases member with rfl | sign | digits
  · decide
  · split at sign <;> exact sign ▸ by decide
  · exact printable_padded (by omega) (by omega) digits

theorem printable_zeros {k : Nat} {c : Char} (member : c ∈ List.replicate k '0') :
    IsPrintable c := (List.mem_replicate.mp member).2 ▸ by decide

theorem printable_magnitude {n : Nat} {e : Int} {c : Char} (member : c ∈ Decimal.magnitude n e) :
    IsPrintable c := by
  have digits : ∀ c ∈ Digits.write 10 n, IsPrintable c :=
    fun _ => printable_digits (by omega) (by omega)
  have point : IsPrintable '.' := by decide
  have zero : IsPrintable '0' := by decide
  unfold Decimal.magnitude at member
  dsimp only at member
  split at member
  · generalize Digits.write 10 n = ds at digits member
    match ds with
    | [] => cases member
    | [d] =>
        rcases List.mem_cons.mp member with rfl | power
        · exact digits _ List.mem_cons_self
        · exact printable_exponentText power
    | d :: f :: more =>
        rcases List.mem_append.mp member with front | power
        · rcases List.mem_cons.mp front with rfl | later
          · exact digits _ List.mem_cons_self
          · rcases List.mem_cons.mp later with rfl | rest
            · exact point
            · exact digits _ (List.mem_cons_of_mem _ rest)
        · exact printable_exponentText power
  split at member
  · simp only [List.cons_append, List.mem_cons, List.mem_append] at member
    rcases member with rfl | rfl | zeros | rest
    · exact zero
    · exact point
    · exact printable_zeros zeros
    · exact digits _ rest
  split at member
  · simp only [List.mem_append, List.mem_cons, List.not_mem_nil, or_false] at member
    rcases member with (front | zeros) | rfl | rfl
    · exact digits _ front
    · exact printable_zeros zeros
    · exact point
    · exact zero
  · rcases List.mem_append.mp member with front | behind
    · exact digits _ (List.mem_of_mem_take front)
    · rcases List.mem_cons.mp behind with rfl | rest
      · exact point
      · exact digits _ (List.mem_of_mem_drop rest)

theorem printable_decimal {x : Decimal} {c : Char} (member : c ∈ x.text.toList) :
    IsPrintable c := by
  unfold Decimal.text at member
  rw [String.toList_ofList] at member
  rcases List.mem_append.mp member with sign | digits
  · split at sign
    · exact List.mem_singleton.mp sign ▸ by decide
    · cases sign
  · exact printable_magnitude digits

theorem printable_blanks {sign c : Char} {k : Nat} (printable : IsPrintable sign)
    (member : c ∈ sign :: List.replicate k ' ') : IsPrintable c := by
  rcases List.mem_cons.mp member with rfl | blank
  · exact printable
  · exact (List.mem_replicate.mp blank).2 ▸ by decide

theorem Layout.IsPlain.printable_comma (plain : l.IsPlain) {c : Char} (member : c ∈ l.comma) :
    IsPrintable c := by
  obtain ⟨k, comma⟩ := plain.comma
  exact printable_blanks (by decide) (comma ▸ member)

theorem Layout.IsPlain.printable_colon (plain : l.IsPlain) {c : Char} (member : c ∈ l.colon) :
    IsPrintable c := by
  obtain ⟨k, colon⟩ := plain.colon
  exact printable_blanks (by decide) (colon ▸ member)

mutual
/-- Nothing but printable ASCII is written, whatever the value holds. -/
theorem printable_write (plain : l.IsPlain) {c : Char} :
    ∀ j : Json, c ∈ write l j → IsPrintable c
  | .null, member => printable_of_all rfl member
  | .bool true, member => printable_of_all rfl member
  | .bool false, member => printable_of_all rfl member
  | .int _, member => printable_integer member
  | .decimal _, member => printable_decimal member
  | .str _, member => printable_quote member
  | .arr [], member => printable_of_all rfl member
  | .arr (x :: xs), member => by
      simp only [write, List.cons_append, List.mem_cons, List.mem_append, List.not_mem_nil,
        or_false] at member
      rcases member with rfl | (first | later) | rfl
      · decide
      · exact printable_write plain x first
      · exact printable_writeItems plain xs later
      · decide
  | .obj [], member => printable_of_all rfl member
  | .obj ((k, x) :: ms), member => by
      simp only [write, List.cons_append, List.mem_cons, List.mem_append, List.not_mem_nil,
        or_false] at member
      rcases member with rfl | (((key | colon) | value) | later) | rfl
      · decide
      · exact printable_quote key
      · exact plain.printable_colon colon
      · exact printable_write plain x value
      · exact printable_writeMembers plain ms later
      · decide

theorem printable_writeItems (plain : l.IsPlain) {c : Char} :
    ∀ xs : List Json, c ∈ writeItems l xs → IsPrintable c
  | [], member => nomatch member
  | x :: xs, member => by
      simp only [writeItems, List.mem_append] at member
      rcases member with (comma | first) | later
      · exact plain.printable_comma comma
      · exact printable_write plain x first
      · exact printable_writeItems plain xs later

theorem printable_writeMembers (plain : l.IsPlain) {c : Char} :
    ∀ ms : List (String × Json), c ∈ writeMembers l ms → IsPrintable c
  | [], member => nomatch member
  | (k, x) :: ms, member => by
      simp only [writeMembers, List.mem_append] at member
      rcases member with (((comma | key) | colon) | value) | later
      · exact plain.printable_comma comma
      · exact printable_quote key
      · exact plain.printable_colon colon
      · exact printable_write plain x value
      · exact printable_writeMembers plain ms later
end

end Printable

end BootstrapApproval.Json
