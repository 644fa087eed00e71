import BootstrapApproval.Proofs.Request.RoundTrip

/-! # Requests that are written and read over and over

A request may be written and read again any number of times. A timestamp that is set is read back
from its place whatever else the request holds, so it keeps its value through every cycle. What the
first cycle can change, it changes: from then on the request stays as it is.
-/

namespace BootstrapApproval

open FieldName

namespace FieldName

variable {names : List FieldName} {fs : List (FieldName × Json)} {extra : Table Json}
  {f : FieldName}

/-- A timestamp that is set is read back from its place, whatever is kept aside. -/
theorem checkD_written_timestamp (distinct : (fs.map (·.1.key)).Nodup)
    (aside : ∀ e ∈ fs, extra.values e.1.key = []) {set : Option Timestamp} {time : Timestamp}
    (member : (f, Timestamp.json? set) ∈ fs) (isSet : set = some time) :
    f.checkD (written fs extra) none Request.checkTimestamp? = .ok (some time) := by
  subst isSet
  have read := read_written distinct aside member (by simp [Timestamp.json?])
  have checked := Request.checkTimestamp?_json? (some time)
  simp [checkD, read, checked, Checked.under]

theorem eq_of_reread_timestamp {t : Table Json} {time : Timestamp} {x : Option Timestamp}
    (kept : f.checkD t none Request.checkTimestamp? = .ok (some time))
    (again : f.checkD t none Request.checkTimestamp? = .ok x) : x = some time := by
  rw [kept] at again
  exact (Checked.ok.inj again).symm

/-- A written object holds no `null`. -/
theorem ne_null_of_mem_written {e : String × Json} (member : e ∈ written fs extra) :
    e.2.isNull = false := by
  simp only [written, withoutNulls, List.mem_append, List.mem_filter] at member
  rcases member with ⟨-, present⟩ | ⟨-, present⟩ <;> simpa using present

theorem isHidden_written : f.isHidden (written fs extra) = false := by
  by_contra hidden
  obtain ⟨-, read, -⟩ := read_hides (eq_true_of_ne_false hidden)
  have found : (written fs extra).find? f.key = some .null := by
    simp only [isHidden, Bool.and_eq_true, beq_iff_eq, Bool.not_eq_false] at hidden
    exact hidden.1.2
  have null := ne_null_of_mem_written (Table.mem_of_find? found)
  cases null

/-- What is left over of a written object was kept aside before. -/
theorem mem_of_mem_leftover (named : fs.map Prod.fst = names) {e : String × Json}
    (member : e ∈ leftover names (written fs extra)) : e ∈ extra := by
  subst named
  have inside : e ∈ written fs extra := (List.mem_filter.mp member).1
  simp only [written, withoutNulls, List.mem_append, List.mem_filter, List.mem_map] at inside
  rcases inside with ⟨⟨g, typed, rfl⟩, -⟩ | ⟨aside, -⟩
  · have named : g.1 ∈ fs.map Prod.fst := List.mem_map_of_mem typed
    have absent := values_leftover_key named (written fs extra)
    rw [List.eq_nil_iff_forall_not_mem] at absent
    exact absurd (Table.mem_values.mpr member) (absent g.2)
  · exact aside

theorem withoutNulls_leftover :
    withoutNulls (leftover names (written fs extra)) = leftover names (written fs extra) := by
  refine List.filter_eq_self.mpr fun e member => ?_
  simp [ne_null_of_mem_written (List.mem_filter.mp member).1]

theorem isFlat_leftover (named : fs.map Prod.fst = names) (flat : isFlat extra = true) :
    isFlat (leftover names (written fs extra)) = true := by
  simp only [isFlat, List.all_eq_true] at flat ⊢
  exact fun e member => flat e (mem_of_mem_leftover named member)

end FieldName

namespace Condition

/-- The timestamps that are set are read back from their places in the written form. -/
structure ShowsTimes (c : Condition) : Prop where
  updated : ∀ time, c.lastUpdateTime = some time →
    lastUpdateTimeField.checkD c.members none Request.checkTimestamp? = .ok (some time)
  changed : ∀ time, c.lastTransitionTime = some time →
    lastTransitionTimeField.checkD c.members none Request.checkTimestamp? = .ok (some time)

/-- The timestamps that are set in the first condition have the same values in the second. -/
structure KeepsTimes (c d : Condition) : Prop where
  updated : ∀ time, c.lastUpdateTime = some time → d.lastUpdateTime = some time
  changed : ∀ time, c.lastTransitionTime = some time → d.lastTransitionTime = some time

variable {c d : Condition} {t : Table Json}

theorem KeepsTimes.refl (c : Condition) : c.KeepsTimes c := ⟨fun _ => id, fun _ => id⟩

theorem showsTimes_of_checked (checked : Request.checkConditionMembers t = .ok c) :
    c.ShowsTimes := by
  obtain ⟨-, -, -, -, -, -, extra⟩ := Request.checkConditionMembers_eq_ok.mp checked
  have aside : ∀ e ∈ c.entries, c.extra.values e.1.key = [] := extra ▸ aside_leftover rfl t
  have distinct : (c.entries.map (·.1.key)).Nodup := apart.1
  have updated : (lastUpdateTimeField, Timestamp.json? c.lastUpdateTime) ∈ c.entries := by
    simp [entries]
  have changed : (lastTransitionTimeField, Timestamp.json? c.lastTransitionTime) ∈ c.entries := by
    simp [entries]
  constructor <;> rw [members_eq] <;> intro time isSet
  · exact checkD_written_timestamp distinct aside updated isSet
  · exact checkD_written_timestamp distinct aside changed isSet

theorem keepsTimes_of_reread (shows : c.ShowsTimes)
    (reread : Request.checkConditionMembers c.members = .ok d) : c.KeepsTimes d := by
  obtain ⟨-, -, -, -, updated, changed, -⟩ := Request.checkConditionMembers_eq_ok.mp reread
  exact ⟨fun time isSet => eq_of_reread_timestamp (shows.updated time isSet) updated,
    fun time isSet => eq_of_reread_timestamp (shows.changed time isSet) changed⟩

theorem settled_of_reread (reread : Request.checkConditionMembers c.members = .ok d) :
    Settled d.entries d.extra := by
  rw [members_eq] at reread
  exact settled_of_shown reread fun _ _ => isHidden_written

theorem extra_of_reread (reread : Request.checkConditionMembers c.members = .ok d) :
    d.extra = leftover fields (FieldName.written c.entries c.extra) :=
  (Request.checkConditionMembers_eq_ok.mp reread).2.2.2.2.2.2

theorem pruned_of_reread (reread : Request.checkConditionMembers c.members = .ok d) :
    d.pruned = d := by
  rw [pruned, extra_of_reread reread, withoutNulls_leftover, ← extra_of_reread reread]

theorem isWritable_of_reread (reread : Request.checkConditionMembers c.members = .ok d)
    (writable : c.isWritable = true) : d.isWritable = true := by
  rw [isWritable, extra_of_reread reread]
  exact isFlat_leftover rfl writable

end Condition

namespace Request

/-- One cycle: a request is written, and what was written is read. -/
def cycled (r : Request) : Except Fault Request := r.written.bind understood

/-- So many cycles, one after the other. -/
def cycles : Nat → Request → Except Fault Request
  | 0, r => .ok r
  | n + 1, r => r.cycled.bind (cycles n)

/-- The timestamps that are set are read back from their places in the written form. -/
structure ShowsTimes (r : Request) : Prop where
  deletion : ∀ time, r.metadata.deletionTimestamp = some time →
    Metadata.deletionTimestampField.checkD r.metadata.members none checkTimestamp? =
      .ok (some time)
  conditions : ∀ c ∈ r.conditions, c.ShowsTimes

/-- The timestamps that are set in the first request have the same values in the second. -/
structure KeepsTimes (r again : Request) : Prop where
  deletion : ∀ time, r.metadata.deletionTimestamp = some time →
    again.metadata.deletionTimestamp = some time
  conditions : List.Forall₂ Condition.KeepsTimes r.conditions again.conditions

section Cycles

variable {t : Table Json} {r again last : Request}

theorem KeepsTimes.refl (r : Request) : r.KeepsTimes r :=
  ⟨fun _ => id, List.forall₂_same.mpr fun c _ => .refl c⟩

/-- A request whose deletion has a time is still being deleted. -/
theorem KeepsTimes.isDeleting (keeps : r.KeepsTimes again) (deleting : r.isDeleting = true) :
    again.isDeleting = true := by
  obtain ⟨time, isSet⟩ := Option.isSome_iff_exists.mp deleting
  rw [Request.isDeleting, keeps.deletion time isSet]
  rfl

theorem cycled_eq_ok :
    r.cycled = .ok again ↔ r.isWritable = true ∧ understood r.body = .ok again := by
  unfold cycled written
  cases r.isWritable <;> simp [Except.bind]

theorem showsTimes_of_understood (accepted : understood (.obj t) = .ok r) : r.ShowsTimes := by
  obtain ⟨-, -, metadata, -, status, -⟩ :=
    checkMembers_eq_ok.mp (understood_obj_eq_ok.mp accepted)
  constructor
  · obtain ⟨members, -, checked⟩ := metadata_inside metadata
    obtain ⟨-, -, -, -, -, extra⟩ := checkMetadataMembers_eq_ok.mp checked
    have aside : ∀ e ∈ r.metadata.entries, r.metadata.extra.values e.1.key = [] :=
      extra ▸ aside_leftover rfl members
    have distinct : (r.metadata.entries.map (·.1.key)).Nodup := Metadata.apart.1
    have written : (Metadata.deletionTimestampField,
        Timestamp.json? r.metadata.deletionTimestamp) ∈ r.metadata.entries := by
      simp [Metadata.entries]
    intro time isSet
    rw [Metadata.members_eq]
    exact checkD_written_timestamp distinct aside written isSet
  · intro c member
    obtain ⟨members, -, checked⟩ := Checked.source_of_mem (conditions_inside status) member
    exact Condition.showsTimes_of_checked checked

theorem keepsTimes_of_cycled (accepted : understood (.obj t) = .ok r)
    (cycled : r.cycled = .ok again) : r.KeepsTimes again := by
  obtain ⟨-, reread⟩ := cycled_eq_ok.mp cycled
  obtain ⟨metadata, conditions⟩ := reread_parts accepted reread
  have shows := showsTimes_of_understood accepted
  obtain ⟨-, -, -, -, deletion, -⟩ := checkMetadataMembers_eq_ok.mp metadata
  constructor
  · intro time isSet
    exact eq_of_reread_timestamp (shows.deletion time isSet) deletion
  · refine List.forall₂_iff_get.mpr ?_
    obtain ⟨sameLength, each⟩ := List.forall₂_iff_get.mp conditions
    refine ⟨sameLength, fun i first second => ?_⟩
    exact Condition.keepsTimes_of_reread (shows.conditions _ (List.get_mem ..))
      (each i first second)

theorem conditions_of_cycled (accepted : understood (.obj t) = .ok r)
    (cycled : r.cycled = .ok again) : ∀ d ∈ again.conditions, ∃ c ∈ r.conditions,
      checkConditionMembers c.members = .ok d := by
  intro d member
  obtain ⟨-, reread⟩ := cycled_eq_ok.mp cycled
  exact Checked.source_of_mem (reread_parts accepted reread).2 member

/-- After one cycle, every field has its place. -/
theorem settled_of_cycled (accepted : understood (.obj t) = .ok r)
    (cycled : r.cycled = .ok again) : again.Settled := by
  obtain ⟨-, reread⟩ := cycled_eq_ok.mp cycled
  obtain ⟨metadata, -⟩ := reread_parts accepted reread
  rw [body_eq] at reread
  refine settled_of_parts reread ?_ ?_
  · rw [Metadata.members_eq] at metadata
    exact Metadata.settled_of_shown metadata fun _ _ => isHidden_written
  · intro d member
    obtain ⟨c, -, checked⟩ := conditions_of_cycled accepted cycled d member
    exact Condition.settled_of_reread checked

/-- What is kept aside of the specification, and of the status, when they are read back. -/
theorem extras_of_cycled (accepted : understood (.obj t) = .ok r)
    (cycled : r.cycled = .ok again) :
    again.metadata.extra = leftover Metadata.fields
        (FieldName.written r.metadata.entries r.metadata.extra) ∧
      again.spec.extra = leftover RequestSpec.fields
        (FieldName.written r.spec.entries r.spec.extra) ∧
      again.status.extra = leftover RequestStatus.fields
        (FieldName.written r.status.entries r.status.extra) ∧
      again.extra = leftover fields (FieldName.written r.entries r.extra) := by
  obtain ⟨-, reread⟩ := cycled_eq_ok.mp cycled
  obtain ⟨metadata, spec, status, extra⟩ := reread_sections accepted reread
  refine ⟨(checkMetadataMembers_eq_ok.mp metadata).2.2.2.2.2, ?_, ?_, extra⟩
  · exact (checkSpecMembers_eq_ok.mp spec).2
  · exact (checkStatusMembers_eq_ok.mp status).2

/-- After one cycle, there is nothing left to leave out. -/
theorem pruned_of_cycled (accepted : understood (.obj t) = .ok r)
    (cycled : r.cycled = .ok again) : again.pruned = again := by
  obtain ⟨metadata, spec, status, extra⟩ := extras_of_cycled accepted cycled
  have conditions : again.status.conditions.map Condition.pruned = again.status.conditions := by
    refine (List.map_congr_left fun d member => ?_).trans (List.map_id _)
    obtain ⟨c, -, checked⟩ := conditions_of_cycled accepted cycled d member
    exact Condition.pruned_of_reread checked
  rw [pruned, Metadata.pruned, RequestSpec.pruned, RequestStatus.pruned, conditions, metadata,
    spec, status, extra]
  simp only [withoutNulls_leftover]
  rw [← metadata, ← spec, ← status, ← extra]

theorem isWritable_of_cycled (accepted : understood (.obj t) = .ok r)
    (cycled : r.cycled = .ok again) : again.isWritable = true := by
  obtain ⟨metadata, spec, status, extra⟩ := extras_of_cycled accepted cycled
  obtain ⟨writable, -⟩ := cycled_eq_ok.mp cycled
  simp only [isWritable, Bool.and_eq_true, List.all_eq_true] at writable ⊢
  obtain ⟨⟨⟨⟨inRoot, inMetadata⟩, inSpec⟩, inStatus⟩, inConditions⟩ := writable
  rw [metadata, spec, status, extra]
  refine ⟨⟨⟨⟨isFlat_leftover rfl inRoot, isFlat_leftover rfl inMetadata⟩,
    isFlat_leftover rfl inSpec⟩, isFlat_leftover rfl inStatus⟩, ?_⟩
  intro d member
  obtain ⟨c, inside, checked⟩ := conditions_of_cycled accepted cycled d member
  exact Condition.isWritable_of_reread checked (inConditions c inside)

/-- What the first cycle gives, every later cycle gives back. -/
theorem cycled_again (accepted : understood (.obj t) = .ok r) (cycled : r.cycled = .ok again) :
    again.cycled = .ok again := by
  have back := reread (settled_of_cycled accepted cycled)
  rw [pruned_of_cycled accepted cycled] at back
  exact cycled_eq_ok.mpr ⟨isWritable_of_cycled accepted cycled, back⟩

theorem cycles_of_fixed (fixed : again.cycled = .ok again) (n : Nat) :
    again.cycles n = .ok again := by
  induction n with
  | zero => rfl
  | succ n ih =>
      rw [cycles, fixed]
      exact ih

/-- However often a request is written and read, its timestamps keep their values. -/
theorem keepsTimes_of_cycles (accepted : understood (.obj t) = .ok r) {n : Nat}
    (reached : r.cycles n = .ok last) : r.KeepsTimes last := by
  cases n with
  | zero => exact Except.ok.inj reached ▸ .refl r
  | succ n =>
      rw [cycles] at reached
      cases first : r.cycled with
      | error fault =>
          rw [first] at reached
          cases reached
      | ok again =>
          rw [first] at reached
          have same := (cycles_of_fixed (cycled_again accepted first) n).symm.trans reached
          exact Except.ok.inj same ▸ keepsTimes_of_cycled accepted first

/-- The first cycle is there when the request can be written and no object of it hides a value. -/
theorem cycled_of_shown (accepted : understood (.obj t) = .ok r) (writable : r.isWritable = true)
    (shown : ¬ HidesValue t) : r.cycled = .ok r.pruned :=
  cycled_eq_ok.mpr ⟨writable, reread (settled_of_shown accepted shown)⟩

end Cycles

/-- What is written for a timestamp that was accepted is a text that gives the same timestamp again;
and a timestamp that is set in a request is read back from its place and keeps its value over any
number of cycles, where the second cycle already gives back the whole request. -/
theorem timestamps_survive :
    (∀ j x, j ≠ .null → checkTimestamp? j = .ok x →
      ∃ text, Timestamp.json? x = .str text ∧ checkTimestamp? (.str text) = .ok x) ∧
    ∀ t r, understood (.obj t) = .ok r →
      r.ShowsTimes ∧
      (∀ n last, r.cycles n = .ok last →
        r.KeepsTimes last ∧ (r.isDeleting = true → last.isDeleting = true)) ∧
      (∀ again, r.cycled = .ok again → ∀ n, again.cycles n = .ok again) ∧
      (r.isWritable = true → ¬ HidesValue t → ∃ again, r.cycled = .ok again) := by
  constructor
  · intro j x notNull accepted
    cases x with
    | none => exact absurd (eq_null_of_checkTimestamp? accepted) notNull
    | some time => exact ⟨time.text, rfl, checkTimestamp?_json? (some time)⟩
  · intro t r accepted
    refine ⟨showsTimes_of_understood accepted, fun n last reached => ?_, fun again cycled => ?_,
      fun writable shown => ⟨_, cycled_of_shown accepted writable shown⟩⟩
    · have keeps := keepsTimes_of_cycles accepted reached
      exact ⟨keeps, keeps.isDeleting⟩
    · exact cycles_of_fixed (cycled_again accepted cycled)

/-- The members of a request that is being deleted, with timestamps in several forms. -/
def dated : Table Json :=
  [("metadata", .obj [("name", .str "a"), ("deletionTimestamp", .str "+1714564800.25")]),
   ("status", .obj [("conditions", .arr [.obj [("type", .str "Denied"),
     ("lastUpdateTime", .str "2024-05-01t14:00:00,5+0200"), ("last_transition_time", .int (-1))],
     .obj [("type", .str "Failed"), ("lastUpdateTime", .str "2024-05-01 12:00:00"),
       ("lastTransitionTime", .int 1714564800250)]])])]

theorem timestamps_survive_dated :
    (∃ time, checkTimestamp? (.decimal ⟨false, 17145648002, -1⟩) = .ok time ∧
      ∃ text, Timestamp.json? time = .str text ∧ checkTimestamp? (.str text) = .ok time) ∧
    ∃ r, understood (.obj dated) = .ok r ∧ r.isDeleting = true ∧ r.conditions.length = 2 ∧
      ∃ again, r.cycled = .ok again ∧ again.isDeleting = true ∧ r.KeepsTimes again ∧
        ∀ n, again.cycles n = .ok again := by
  constructor
  · have accepted : checkTimestamp? (.decimal ⟨false, 17145648002, -1⟩) =
        .ok (Timestamp.ofUnixMicros? 1714564800200000) := rfl
    exact ⟨_, accepted, timestamps_survive.1 _ _ (by simp) accepted⟩
  · have read : (understood (.obj dated)).map
        (fun r => (r.isWritable, r.isDeleting, r.conditions.length)) = .ok (true, true, 2) := rfl
    cases accepted : understood (.obj dated) with
    | error f => simp [accepted, Except.map] at read
    | ok r =>
        simp only [accepted, Except.map, Except.ok.injEq, Prod.mk.injEq] at read
        obtain ⟨writable, deleting, two⟩ := read
        obtain ⟨-, keeps, fixed, first⟩ := timestamps_survive.2 dated r accepted
        obtain ⟨again, cycled⟩ := first writable (by decide)
        obtain ⟨kept, stays⟩ := keeps 1 again (by simp [cycles, cycled, Except.bind])
        exact ⟨r, rfl, deleting, two, again, cycled, stays deleting, kept, fixed again cycled⟩

end Request

end BootstrapApproval
