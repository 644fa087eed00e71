import BootstrapApproval.Settings.Dotenv
import Mathlib.Data.List.TakeDrop
import Mathlib.Data.List.TakeWhile
import Mathlib.Tactic.IntervalCases

/-! # Plain lines of settings files

A plain line is a key, an equals sign and a value, without quotes, comments or blanks to be removed.
A file of such lines says what its lines say, key by key.
-/

namespace BootstrapApproval

namespace Search

variable {p : Char → Bool} {front rest cs : List Char}

theorem dropWhile_of_head (stops : ∀ c ∈ cs.head?, p c = false) : cs.dropWhile p = cs := by
  cases cs with
  | nil => rfl
  | cons c cs => exact List.dropWhile_cons_of_neg (by simp [stops c rfl])

theorem span_append (passed : ∀ c ∈ front, p c = true) (stops : ∀ c ∈ rest.head?, p c = false) :
    (front ++ rest).span p = (front, rest) := by
  have takes : rest.takeWhile p = [] := by
    cases rest with
    | nil => rfl
    | cons c rest => exact List.takeWhile_cons_of_neg (by simp [stops c rfl])
  rw [List.span_eq_takeWhile_dropWhile, List.takeWhile_append_of_pos passed,
    List.dropWhile_append_of_pos passed, takes, dropWhile_of_head stops, List.append_nil]

theorem strip_of_ends (first : ∀ c ∈ cs.head?, p c = false)
    (last : ∀ c ∈ cs.getLast?, p c = false) : strip p cs = cs := by
  have backwards : ∀ c ∈ cs.reverse.head?, p c = false := by
    rw [List.head?_reverse]
    exact last
  rw [strip, dropWhile_of_head first, dropWhile_of_head backwards, List.reverse_reverse]

end Search

namespace Dotenv

structure IsPlainKey (key : List Char) : Prop where
  nonempty : key ≠ []
  inner : ∀ c ∈ key, Letters.isGap c = false ∧ c ≠ '=' ∧ c ≠ '#'
  unquoted : key.head? ≠ some '\''
  unmarked : key.head? ≠ some '\uFEFF'

structure IsPlainValue (value : List Char) : Prop where
  oneLine : '\n' ∉ value ∧ '\r' ∉ value
  unquoted : value.head? ≠ some '"' ∧ value.head? ≠ some '\''
  first : ∀ c ∈ value.head?, Letters.isGap c = false
  last : ∀ c ∈ value.getLast?, Letters.isGap c = false
  uncommented : ∀ front c rest, value = front ++ c :: '#' :: rest → Letters.isGap c = false

/-- A character that needs no care, wherever it stands in a line. -/
def isWordy (c : Char) : Bool :=
  !(Letters.isGap c || c == '=' || c == '#' || c == '"' || c == '\'' || c == '\uFEFF')

theorem isWordy_iff {c : Char} : isWordy c = true ↔ Letters.isGap c = false ∧ c ≠ '=' ∧ c ≠ '#' ∧
    c ≠ '"' ∧ c ≠ '\'' ∧ c ≠ '\uFEFF' := by
  simp [isWordy, and_assoc]

theorem IsPlainKey.of_wordy {key : List Char} (nonempty : key ≠ [])
    (wordy : key.all isWordy = true) : IsPlainKey key := by
  have each (c : Char) (member : c ∈ key) := isWordy_iff.mp (List.all_eq_true.mp wordy c member)
  refine ⟨nonempty, fun c member => ?_, fun head => ?_, fun head => ?_⟩
  · obtain ⟨noGap, noEquals, noHash, -⟩ := each c member
    exact ⟨noGap, noEquals, noHash⟩
  · obtain ⟨-, -, -, -, noQuote, -⟩ := each _ (List.mem_of_mem_head? head)
    exact noQuote rfl
  · obtain ⟨-, -, -, -, -, noMark⟩ := each _ (List.mem_of_mem_head? head)
    exact noMark rfl

theorem IsPlainValue.of_wordy {value : List Char} (wordy : value.all isWordy = true) :
    IsPlainValue value := by
  have each (c : Char) (member : c ∈ value) := isWordy_iff.mp (List.all_eq_true.mp wordy c member)
  have noGap (c : Char) (gap : Letters.isGap c = true) : c ∉ value := fun member => by
    rw [(each c member).1] at gap
    cases gap
  refine ⟨⟨noGap _ rfl, noGap _ rfl⟩, ⟨fun head => ?_, fun head => ?_⟩, fun c head => ?_,
    fun c last => ?_, fun front c rest whole => ?_⟩
  · obtain ⟨-, -, -, noQuote, -⟩ := each _ (List.mem_of_mem_head? head)
    exact noQuote rfl
  · obtain ⟨-, -, -, -, noQuote, -⟩ := each _ (List.mem_of_mem_head? head)
    exact noQuote rfl
  · exact (each c (List.mem_of_mem_head? head)).1
  · exact (each c (List.mem_of_mem_getLast? last)).1
  · exact (each c (by simp [whole])).1

/-- What stands between a value and the next line, and the next line. -/
inductive Ends : List Char → List Char → Prop where
  | last : Ends [] []
  | next (rest : List Char) : Ends ('\n' :: rest) rest

section Line

variable {key value tail rest : List Char}

theorem IsPlainKey.head (plain : IsPlainKey key) (more : List Char) :
    ∀ c ∈ (key ++ more).head?, c ∈ key := by
  cases key with
  | nil => exact absurd rfl plain.nonempty
  | cons c key =>
      rintro d ⟨⟩
      exact List.mem_cons_self

/-- A plain key is not taken for the word `export`, which a blank follows. -/
theorem withoutExport_of_plain (plain : IsPlainKey key) :
    withoutExport (key ++ '=' :: rest) = key ++ '=' :: rest := by
  generalize whole : key ++ '=' :: rest = cs
  unfold withoutExport
  split
  next c after =>
    have equals : ('e' :: 'x' :: 'p' :: 'o' :: 'r' :: 't' :: c :: after)[key.length]? =
        some '=' := by
      rw [← whole]
      simp
    have sixth : (key ++ '=' :: rest)[6]? = some c := by
      rw [whole]
      rfl
    have passed : isInline c = false := by
      rcases lt_trichotomy key.length 6 with short | same | long
      · -- none of the letters of the word is an equals sign
        generalize key.length = n at equals short
        interval_cases n <;> simp at equals
      · rw [same] at equals
        obtain rfl : c = '=' := by simpa using equals
        decide
      · rw [List.getElem?_append_left long] at sixth
        simp [isInline, (plain.inner c (List.mem_of_getElem? sixth)).1]
    rw [if_neg (by simp [passed])]
  next => rfl

theorem key_of_plain (plain : IsPlainKey key) :
    Dotenv.key (key ++ '=' :: rest) = .ok (some key, '=' :: rest) := by
  have spans : (key ++ '=' :: rest).span (fun c => !(Letters.isGap c || c == '=' || c == '#')) =
      (key, '=' :: rest) := by
    refine Search.span_append (fun c member => ?_) (by rintro c ⟨⟩; decide)
    obtain ⟨noGap, noEquals, noHash⟩ := plain.inner c member
    simp [noGap, noEquals, noHash]
  have present : key.isEmpty = false := by simp [plain.nonempty]
  have head := plain.head ('=' :: rest)
  generalize whole : key ++ '=' :: rest = cs at spans head
  unfold Dotenv.key
  split
  next => exact absurd rfl (plain.inner '#' (head _ rfl)).2.2
  next after =>
    have first : (key ++ '=' :: rest).head? = some '\'' := by rw [whole]; rfl
    rw [List.head?_append, List.head?_eq_some_head plain.nonempty, Option.some_or] at first
    exact absurd (List.head?_eq_some_head plain.nonempty |>.trans first) plain.unquoted
  next => simp only [spans, present, Bool.false_eq_true, if_false]

theorem bare_of_uncommented
    (uncommented : ∀ front c rest, value = front ++ c :: '#' :: rest → Letters.isGap c = false) :
    bare value = value := by
  induction value with
  | nil => rfl
  | cons c value ih =>
      have later := ih fun front d rest same => uncommented (c :: front) d rest (by rw [same]; rfl)
      have kept : ¬ (Letters.isGap c &&
          (value.dropWhile Letters.isGap).head? == some '#') = true := by
        intro cut
        obtain ⟨gap, hash⟩ := (Bool.and_eq_true _ _).mp cut
        obtain ⟨rest, found⟩ := List.head?_eq_some_iff.mp (by simpa using hash)
        -- the last of the blanks in front of the hash mark stands right before it
        let blanks := c :: value.takeWhile Letters.isGap
        have nonempty : blanks ≠ [] := List.cons_ne_nil _ _
        have whole : c :: value =
            blanks.dropLast ++ blanks.getLast nonempty :: '#' :: rest := by
          rw [List.append_cons, List.dropLast_concat_getLast, ← found, List.cons_append,
            List.takeWhile_append_dropWhile]
        have blank : Letters.isGap (blanks.getLast nonempty) = true := by
          rcases List.mem_cons.mp (List.getLast_mem nonempty) with same | later
          · rw [same]
            exact gap
          · exact List.mem_takeWhile_imp later
        rw [uncommented _ _ _ whole] at blank
        cases blank
      rw [bare, if_neg kept, later]

theorem value_of_plain (plain : IsPlainValue value) (ends : Ends tail rest) :
    Dotenv.value (value ++ tail) = .ok (value, tail) := by
  have spans : (value ++ tail).span (· != '\n') = (value, tail) := by
    refine Search.span_append (fun c member => ?_) ?_
    · simpa using ne_of_mem_of_not_mem member plain.oneLine.1
    · cases ends with
      | last => rintro c ⟨⟩
      | next => rintro c ⟨⟩; rfl
  have first : ∀ c ∈ (value ++ tail).head?, isInline c = false ∧ c ≠ '"' ∧ c ≠ '\'' := by
    intro c head
    cases value with
    | nil =>
        cases ends with
        | last => cases head
        | next => cases head; decide
    | cons d value =>
        obtain rfl := Option.some.inj head
        obtain ⟨noDouble, noSingle⟩ := plain.unquoted
        exact ⟨by simp [isInline, plain.first d rfl], by simpa using noDouble,
          by simpa using noSingle⟩
  have start := Search.dropWhile_of_head fun c head => (first c head).1
  unfold Dotenv.value
  rw [start, spans]
  dsimp only
  rw [bare_of_uncommented plain.uncommented, Search.strip_of_ends plain.first plain.last]
  generalize whole : value ++ tail = cs at first
  cases cs with
  | nil =>
      obtain ⟨rfl, rfl⟩ := List.append_eq_nil_iff.mp whole
      rfl
  | cons c cs => exact if_neg (by simp [first c rfl])

theorem lineEnd_of_ends (ends : Ends tail rest) : lineEnd tail = .ok rest := by
  cases ends with
  | last => rfl
  | next => rfl

theorem binding_of_plain (plainKey : IsPlainKey key) (plainValue : IsPlainValue value)
    (ends : Ends tail rest) :
    binding (key ++ '=' :: (value ++ tail)) = .ok (some (key, some value), rest) := by
  have equals : ('=' :: (value ++ tail)).dropWhile isInline = '=' :: (value ++ tail) :=
    Search.dropWhile_of_head (by rintro c ⟨⟩; decide)
  unfold binding
  rw [withoutExport_of_plain plainKey, key_of_plain plainKey]
  simp only [bind, Except.bind, equals, value_of_plain plainValue ends, lineEnd_of_ends ends, pure,
    Except.pure, Option.map_some]

end Line

/-- A text of plain lines, and what the lines say. -/
inductive Plain : List Char → List (List Char × List Char) → Prop where
  | empty : Plain [] []
  | line {key value tail rest : List Char} {lines : List (List Char × List Char)}
      (plainKey : IsPlainKey key) (plainValue : IsPlainValue value) (ends : Ends tail rest)
      (more : Plain rest lines) : Plain (key ++ '=' :: (value ++ tail)) ((key, value) :: lines)

variable {cs : List Char} {lines : List (List Char × List Char)}

theorem bindings_of_plain (plain : Plain cs lines) :
    bindings cs = lines.map fun l => (l.1, some l.2) := by
  induction plain with
  | empty => simp [bindings]
  | @line key value tail rest lines plainKey plainValue ends more ih =>
      have start : (key ++ '=' :: (value ++ tail)).dropWhile Letters.isGap =
          key ++ '=' :: (value ++ tail) :=
        Search.dropWhile_of_head fun c head => (plainKey.inner c (plainKey.head _ c head)).1
      have shorter : rest.length < (key ++ '=' :: (value ++ tail)).length := by
        cases ends with
        | last => simp
        | next => simp; omega
      rw [bindings, start]
      split
      next none => simp at none
      next =>
        rw [binding_of_plain plainKey plainValue ends]
        simp only [if_pos shorter, ih, Option.toList_some, List.map_cons, List.singleton_append]

theorem unified_of_not_mem (absent : '\r' ∉ cs) : unified cs = cs := by
  induction cs with
  | nil => rfl
  | cons c cs ih =>
      have other : c ≠ '\r' := fun same => absent (same ▸ List.mem_cons_self)
      have later := ih fun member => absent (List.mem_cons_of_mem c member)
      rw [unified, if_neg other, later]
      rintro rest rfl
      exact absurd rfl other

theorem Plain.not_mem (plain : Plain cs lines) : '\r' ∉ cs := by
  induction plain with
  | empty => exact List.not_mem_nil
  | @line key value tail rest lines plainKey plainValue ends more ih =>
      have noKey : '\r' ∉ key := fun member => absurd (plainKey.inner _ member).1 (by decide)
      have noTail : '\r' ∉ tail := by
        cases ends with
        | last => exact ih
        | next => simpa using ih
      simp [noKey, plainValue.oneLine.2, noTail]

theorem Plain.unmarked (plain : Plain cs lines) : Dotenv.unmarked cs = cs := by
  cases plain with
  | empty => rfl
  | @line key value tail rest lines plainKey plainValue ends more =>
      cases key with
      | nil => exact absurd rfl plainKey.nonempty
      | cons c key =>
          rw [List.cons_append, Dotenv.unmarked]
          intro after same
          obtain rfl := (List.cons.inj same).1
          exact plainKey.unmarked rfl

/-- A file of plain lines binds the key of each line to its value, and nothing else. -/
theorem ofText_of_plain {text : String} (plain : Plain text.toList lines) :
    ofText text = lines.map fun l => (String.ofList l.1, some (String.ofList l.2)) := by
  rw [ofText, plain.unmarked, unified_of_not_mem plain.not_mem, bindings_of_plain plain,
    List.map_map]
  rfl

end Dotenv

end BootstrapApproval
