import BootstrapApproval.Logging.Record
import BootstrapApproval.Proofs.Json.RoundTrip

/-! # What a structured line shows

The structured form of a record is one line of printable ASCII, whatever texts the record holds.
Read back, the line is one object that holds what the record holds, and no text of the record adds
to it or takes the place of another.
-/

namespace BootstrapApproval.Record

/-- The keys that stand in every line. -/
def fixedKeys : List String := ["timestamp", "level", "logger", "message", "correlation_id"]

/-- The keys of the line of a record: one for a failure, and one for each field that is set. -/
def lineKeys (r : Record) : List String :=
  fixedKeys ++ (if r.failure.isSome then ["exception"] else []) ++
    structuredFields.filter fun k => (r.fields.find? k).isSome

/-- The members of an object show a record: each part of the record stands under its key, and there
are no other keys. The level and the logger are those of the record unless it has a field under the
name of one of them, which then takes its place. -/
structure Shows (r : Record) (members : Table Json) : Prop where
  distinct : (Table.keys members).Nodup
  keys : Table.keys members = r.lineKeys
  level : members.find? "level" =
    some ((r.fields.find? "levelname").getD (.str (Level.name r.level)))
  logger : members.find? "logger" = some ((r.fields.find? "name").getD (.str r.logger))
  message : members.find? "message" = some (.str r.message)
  correlation : members.find? "correlation_id" =
    some ((r.fields.find? "correlation_id").getD (.str ""))
  failure : members.find? "exception" = r.failure.map .str
  field : ∀ k ∈ structuredFields, members.find? k = r.fields.find? k

variable (r : Record)

/-- The members under the keys that stand in every line. -/
def fixed : Table Json :=
  [("timestamp", .str timeMark), ("level", r.shownLevel), ("logger", r.shownLogger),
   ("message", .str r.message), ("correlation_id", r.correlation)]

/-- The member for a failure. -/
def failed : Table Json :=
  match r.failure with
  | some t => [("exception", .str t)]
  | none => []

theorem toJson_eq : r.toJson = .obj (r.fixed ++ r.failed ++ r.structured) := rfl

theorem keys_failed :
    Table.keys r.failed = if r.failure.isSome then ["exception"] else [] := by
  unfold failed
  cases r.failure <;> rfl

theorem keys_members : Table.keys (r.fixed ++ r.failed ++ r.structured) = r.lineKeys := by
  have failed := r.keys_failed
  have structured : Table.keys r.structured = _ := Table.keys_selected r.fields structuredFields
  simp only [Table.keys] at failed structured
  simp only [Table.keys, List.map_append, failed, structured]
  rfl

/-- No key stands in a line twice: the keys of a line are some of those it can have, in order. -/
theorem nodup_lineKeys : r.lineKeys.Nodup := by
  have all : (fixedKeys ++ ["exception"] ++ structuredFields).Nodup := by decide
  refine all.sublist (((List.Sublist.refl _).append ?_).append List.filter_sublist)
  split
  · exact .refl _
  · exact List.nil_sublist _

/-- The fixed members and the one for a failure leave the structured fields alone. -/
theorem find?_structured {k : String} (known : k ∈ structuredFields) :
    Table.find? (r.fixed ++ r.failed ++ r.structured) k = r.fields.find? k := by
  have apart : ∀ k ∈ structuredFields, k ∉ fixedKeys ∧ k ≠ "exception" := by decide
  obtain ⟨notFixed, noFailure⟩ := apart k known
  have fixed : Table.find? r.fixed k = none := Table.find?_of_absent notFixed
  have failed : Table.find? r.failed k = none := by
    refine Table.find?_of_absent ?_
    rw [keys_failed]
    split
    · simpa using noFailure
    · exact List.not_mem_nil
  have structured : Table.find? r.structured k = _ :=
    Table.find?_selected r.fields structuredFields k
  rw [Table.find?_append, Table.find?_append, fixed, failed, structured, if_pos known]
  rfl

theorem find?_exception :
    Table.find? (r.fixed ++ r.failed ++ r.structured) "exception" = r.failure.map .str := by
  have fixed : Table.find? r.fixed "exception" = none :=
    Table.find?_of_absent (show "exception" ∉ fixedKeys by decide)
  have structured : Table.find? r.structured "exception" = _ :=
    Table.find?_selected r.fields structuredFields "exception"
  rw [Table.find?_append, Table.find?_append, fixed, structured, if_neg (by decide), Option.or_none,
    Option.none_or]
  unfold failed
  cases r.failure <;> rfl

theorem shows_members : r.Shows (r.fixed ++ r.failed ++ r.structured) where
  distinct := r.keys_members ▸ r.nodup_lineKeys
  keys := r.keys_members
  level := rfl
  logger := rfl
  message := rfl
  correlation := rfl
  failure := r.find?_exception
  field _ := r.find?_structured

variable {r}

/-- The line of a record can be told from others when each of its fields can. -/
theorem isLegible_toJson (legible : ∀ f ∈ r.fields, f.2.isLegible = true) :
    r.toJson.isLegible = true := by
  have held (k : String) (v : Json) (text : v.isLegible = true) :
      ((r.fields.find? k).getD v).isLegible = true := by
    cases found : r.fields.find? k with
    | none => exact text
    | some w => exact legible _ (Table.mem_of_find? found)
  have fixed : ∀ m ∈ r.fixed, m.2.isLegible = true := by
    simp only [Record.fixed, List.forall_mem_cons, List.not_mem_nil, false_implies, implies_true,
      and_true]
    exact ⟨rfl, held _ _ rfl, held _ _ rfl, rfl, held _ _ rfl⟩
  have failed : ∀ m ∈ r.failed, m.2.isLegible = true := by
    unfold Record.failed
    cases r.failure <;> simp [Json.isLegible]
  have structured : ∀ m ∈ r.structured, m.2.isLegible = true := by
    intro m member
    obtain ⟨k, -, selected⟩ := List.mem_filterMap.mp member
    obtain ⟨v, found, rfl⟩ := Option.map_eq_some_iff.mp selected
    exact legible _ (Table.mem_of_find? found)
  rw [toJson_eq]
  simp only [Json.isLegible, Bool.and_eq_true, decide_eq_true_eq]
  refine ⟨r.shows_members.distinct, Json.legibleMembers_iff.mpr fun m member => ?_⟩
  rcases List.mem_append.mp member with front | inside
  · rcases List.mem_append.mp front with inside | inside
    · exact fixed m inside
    · exact failed m inside
  · exact structured m inside

theorem parse_line (legible : ∀ f ∈ r.fields, f.2.isLegible = true) :
    Json.parse? r.line = some r.toJson :=
  Json.parse_renderSpaced (isLegible_toJson legible)

/-- Whatever texts a record holds, its line is printable ASCII and is read back as one object that
shows the record. -/
theorem line_faithful (r : Record) (legible : ∀ f ∈ r.fields, f.2.isLegible = true) :
    (∀ c ∈ r.line.toList, ' ' ≤ c ∧ c ≤ '~') ∧
      ∃ members, Json.parse? r.line = some (.obj members) ∧ r.Shows members := by
  refine ⟨fun c member => ?_, _, parse_line legible, r.shows_members⟩
  rw [line, Json.renderSpaced, String.toList_ofList] at member
  exact Json.printable_write Json.Layout.isPlain_spaced _ member

/-- A record with quotes, line ends and characters beyond ASCII in its texts. One of them is made to
look like further members. -/
def forged : Record where
  logger := "csr-approver\x00"
  level := 35
  message := "Approved\", \"level\": \"DEBUG\"\x7d\n\x7b\"message\": \"caf\u00e9 \\ 🔑"
  fields := [("username", .str "alpha\r\n\u2028\x7f"), ("secret", .str "s"), ("duration", .int 3)]
  failure := some "ValueError:\tno \"name\""

theorem line_faithful_forged :
    (∀ f ∈ forged.fields, f.2.isLegible = true) ∧
      (∀ c ∈ forged.line.toList, ' ' ≤ c ∧ c ≤ '~') ∧
      ∃ members, Json.parse? forged.line = some (.obj members) ∧ forged.Shows members :=
  have legible : ∀ f ∈ forged.fields, f.2.isLegible = true := by decide
  ⟨legible, line_faithful forged legible⟩

end BootstrapApproval.Record
