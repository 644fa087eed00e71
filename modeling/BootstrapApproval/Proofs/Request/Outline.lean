import BootstrapApproval.Eligibility
import BootstrapApproval.Proofs.Request.Reading

/-! # Members that belong to no field

An object may hold members that no field is read from. The outline of a body is what is left of it
without them. A body and its outline are read with the same problems, or as two requests that differ
in nothing but what they keep aside.
-/

namespace BootstrapApproval

/-- Two checks that end alike: with the same problems, or with related values. -/
inductive Checked.Rel {α : Type u} {β : Type v} (R : α → β → Prop) : Checked α → Checked β → Prop
    where
  | ok {a : α} {b : β} (related : R a b) : Rel R (.ok a) (.ok b)
  | bad (ps : List Problem) : Rel R (.bad ps) (.bad ps)

namespace Checked.Rel

variable {α β γ δ ε ζ : Type} {R : α → β → Prop} {S : γ → δ → Prop} {T : ε → ζ → Prop}
  {x : Checked α} {y : Checked β}

theorem refl (x : Checked α) : Rel Eq x x := by
  cases x with
  | ok a => exact .ok rfl
  | bad ps => exact .bad ps

theorem map {f : α → γ} {g : β → δ} (rel : Rel R x y) (each : ∀ a b, R a b → S (f a) (g b)) :
    Rel S (x.map f) (y.map g) := by
  cases rel with
  | ok related => exact .ok (each _ _ related)
  | bad ps => exact .bad ps

theorem map₂ {f : α → γ → ε} {g : β → δ → ζ} {z : Checked γ} {w : Checked δ} (first : Rel R x y)
    (second : Rel S z w) (each : ∀ a b, R a b → ∀ c d, S c d → T (f a c) (g b d)) :
    Rel T (Checked.map₂ f x z) (Checked.map₂ g y w) := by
  cases first with
  | ok related =>
      cases second with
      | ok related' => exact .ok (each _ _ related _ _ related')
      | bad ps => exact .bad _
  | bad ps => cases second <;> exact .bad _

theorem and {f : Checked (α → γ)} {g : Checked (β → δ)}
    (functions : Rel (fun f g => ∀ a b, R a b → S (f a) (g b)) f g) (rel : Rel R x y) :
    Rel S (f.and x) (g.and y) :=
  functions.map₂ rel fun _ _ each a b related => each a b related

theorem under (rel : Rel R x y) (step : Step) : Rel R (x.under step) (y.under step) := by
  cases rel with
  | ok related => exact .ok related
  | bad ps => exact .bad _

theorem indexed {check : γ → Checked α} {check' : δ → Checked β} {view : γ → δ}
    (each : ∀ j, Rel R (check j) (check' (view j))) (n : Nat) (items : List γ) :
    Rel (List.Forall₂ R) (Checked.indexed check n items)
      (Checked.indexed check' n (items.map view)) := by
  induction items generalizing n with
  | nil => exact .ok .nil
  | cons j rest ih =>
      exact ((each j).under (.index n)).map₂ (ih (n + 1)) fun _ _ head _ _ tail => .cons head tail

/-- Two checks that end like a third one end alike. -/
theorem meet {f : α → β} {x y z : Checked α} (first : Rel (fun a b => f a = f b) x z)
    (second : Rel (fun a b => f a = f b) y z) : Rel (fun a b => f a = f b) x y := by
  cases first with
  | ok same =>
      cases second with
      | ok same' => exact .ok (same.trans same'.symm)
  | bad ps =>
      cases second with
      | bad _ => exact .bad ps

/-- Checks that end alike accept alike, and find the same problems. -/
theorem agree (rel : Rel R x y) :
    ((∃ a, x = .ok a) ↔ ∃ b, y = .ok b) ∧ x.problems = y.problems := by
  cases rel with
  | ok related => exact ⟨by simp, rfl⟩
  | bad ps => exact ⟨by simp, rfl⟩

end Checked.Rel

namespace Json

/-- The value with its members changed, if it is an object. -/
def mapMembers (f : Table Json → Table Json) : Json → Json
  | .obj t => .obj (f t)
  | j => j

/-- What is no object stays as it is. -/
theorem objects_of_mapMembers {f : Table Json → Table Json} {j j' : Json}
    (same : j.mapMembers f = j'.mapMembers f) : j = j' ∨ ∃ t t', j = .obj t ∧ j' = .obj t' := by
  cases j with
  | obj t =>
      cases j' with
      | obj t' => exact .inr ⟨t, t', rfl, rfl⟩
      | _ => cases same
  | _ =>
      left
      cases j' <;> simp_all [mapMembers]

/-- The value with each of its items changed, if it is a list. -/
def mapItems (f : Json → Json) : Json → Json
  | .arr items => .arr (items.map f)
  | j => j

end Json

namespace FieldName

/-- The keys that fields are read from. -/
def keys (fs : List FieldName) : List String := fs.flatMap fun f => [f.key, f.twin]

/-- The members of an object that belong to fields, the value of each seen through a view. -/
def outline (fs : List FieldName) (view : String → Json → Json) (t : Table Json) : Table Json :=
  (t.filter fun e => (keys fs).contains e.1).map fun e => (e.1, view e.1 e.2)

variable {fs : List FieldName} {view : String → Json → Json} {f : FieldName}

section Edits

variable {k : String} {v v' : Json}

theorem outline_cons_of_foreign (foreign : k ∉ keys fs) (v : Json) (t : Table Json) :
    outline fs view ((k, v) :: t) = outline fs view t := by
  unfold outline
  rw [List.filter_cons_of_neg (by simpa using foreign)]

theorem outline_cons_of_known (known : k ∈ keys fs) (v : Json) (t : Table Json) :
    outline fs view ((k, v) :: t) = (k, view k v) :: outline fs view t := by
  unfold outline
  rw [List.filter_cons_of_pos (by simpa using known)]
  rfl

/-- Adding or changing a member that belongs to no field leaves the outline as it was. -/
theorem outline_insert_of_foreign (foreign : k ∉ keys fs) (v : Json) (t : Table Json) :
    outline fs view (t.insert k v) = outline fs view t := by
  induction t with
  | nil => exact outline_cons_of_foreign foreign v []
  | cons e rest ih =>
      obtain ⟨l, w⟩ := e
      unfold Table.insert
      by_cases same : l = k
      · subst same
        rw [if_pos rfl, outline_cons_of_foreign foreign, outline_cons_of_foreign foreign]
      · rw [if_neg same]
        by_cases known : l ∈ keys fs
        · rw [outline_cons_of_known known, outline_cons_of_known known, ih]
        · rw [outline_cons_of_foreign known, outline_cons_of_foreign known, ih]

/-- Removing a member that belongs to no field leaves the outline as it was. -/
theorem outline_erase_of_foreign (foreign : k ∉ keys fs) (t : Table Json) :
    outline fs view (t.erase k) = outline fs view t := by
  unfold outline Table.erase
  rw [List.filter_filter]
  congr 1
  apply List.filter_congr
  intro e _
  by_cases same : e.1 = k
  · simp [same, foreign]
  · simp [same]

/-- A part may be exchanged for another one that looks the same. -/
theorem outline_insert_of_same {t : Table Json} (found : t.find? k = some v)
    (same : view k v' = view k v) : outline fs view (t.insert k v') = outline fs view t := by
  induction t with
  | nil => cases found
  | cons e rest ih =>
      obtain ⟨l, w⟩ := e
      rw [Table.find?_cons] at found
      unfold Table.insert
      by_cases here : l = k
      · subst here
        rw [if_pos rfl] at found
        obtain rfl := Option.some.inj found
        rw [if_pos rfl]
        by_cases known : l ∈ keys fs
        · rw [outline_cons_of_known known, outline_cons_of_known known, same]
        · rw [outline_cons_of_foreign known, outline_cons_of_foreign known]
      · rw [if_neg here] at found ⊢
        by_cases known : l ∈ keys fs
        · rw [outline_cons_of_known known, outline_cons_of_known known, ih found]
        · rw [outline_cons_of_foreign known, outline_cons_of_foreign known, ih found]

end Edits

theorem find?_outline {k : String} (member : k ∈ keys fs) (t : Table Json) :
    (outline fs view t).find? k = (t.find? k).map (view k) := by
  induction t with
  | nil => rfl
  | cons e rest ih =>
      obtain ⟨l, v⟩ := e
      rw [Table.find?_cons]
      by_cases known : l ∈ keys fs
      · rw [outline_cons_of_known known, Table.find?_cons, ih]
        by_cases same : l = k
        · subst same
          simp
        · simp [same]
      · have other : l ≠ k := by
          rintro rfl
          exact known member
        rw [outline_cons_of_foreign known, ih, if_neg other]

theorem has_outline {k : String} (member : k ∈ keys fs) (t : Table Json) :
    (outline fs view t).has k = t.has k := by
  simp [Table.has, find?_outline member]

/-- A field is read from the outline under the key that it is read from in the whole. -/
theorem read_outline (member : f ∈ fs) (t : Table Json) :
    f.read (outline fs view t) = (f.read t).map fun e => (e.1, view e.1 e.2) := by
  have own : f.key ∈ keys fs := List.mem_flatMap.mpr ⟨f, member, by simp⟩
  have twin : f.twin ∈ keys fs := List.mem_flatMap.mpr ⟨f, member, by simp⟩
  have used : f.keyIn (outline fs view t) = f.keyIn t := by
    rw [keyIn, keyIn, has_outline own, has_outline twin]
  rw [read, read, used]
  cases key : f.keyIn t with
  | none => rfl
  | some k =>
      have known : k ∈ keys fs := by
        rcases keyIn_cases key with rfl | ⟨rfl, -⟩
        · exact own
        · exact twin
      simp [find?_outline known, Function.comp_def]

theorem mem_of_read {t : Table Json} {e : String × Json} (read : f.read t = some e) :
    e.1 = f.key ∨ e.1 = f.twin := by
  unfold FieldName.read at read
  cases key : f.keyIn t with
  | none => simp [key] at read
  | some k =>
      rw [key, Option.bind_some] at read
      obtain ⟨v, -, rfl⟩ := Option.map_eq_some_iff.mp read
      exact (keyIn_cases key).imp id And.left

section Checks

variable {α β : Type} {R : α → β → Prop} {check : Json → Checked α} {check' : Json → Checked β}
  (member : f ∈ fs)
  (each : ∀ k, k = f.key ∨ k = f.twin → ∀ v, Checked.Rel R (check v) (check' (view k v)))

include member each

theorem check_outline (t : Table Json) :
    Checked.Rel R (f.check t check) (f.check (outline fs view t) check') := by
  unfold FieldName.check
  rw [read_outline member]
  cases read : f.read t with
  | none => exact .bad _
  | some e => exact (each e.1 (mem_of_read read) e.2).under _

theorem checkD_outline {default : α} {default' : β} (absent : R default default')
    (t : Table Json) :
    Checked.Rel R (f.checkD t default check) (f.checkD (outline fs view t) default' check') := by
  unfold checkD
  rw [read_outline member]
  cases read : f.read t with
  | none => exact .ok absent
  | some e => exact (each e.1 (mem_of_read read) e.2).under _

end Checks

end FieldName

namespace Condition

/-- The condition without what it keeps aside. -/
def core (c : Condition) : Condition := { c with extra := [] }

def outline : Json → Json := Json.mapMembers (FieldName.outline fields fun _ v => v)

end Condition

namespace Metadata

def core (m : Metadata) : Metadata := { m with extra := [] }

def outline : Json → Json := Json.mapMembers (FieldName.outline fields fun _ v => v)

end Metadata

namespace RequestSpec

def core (s : RequestSpec) : RequestSpec := { s with extra := [] }

def outline : Json → Json := Json.mapMembers (FieldName.outline fields fun _ v => v)

end RequestSpec

namespace RequestStatus

def core (s : RequestStatus) : RequestStatus := ⟨s.conditions.map Condition.core, []⟩

def outline : Json → Json :=
  Json.mapMembers (FieldName.outline fields fun _ v => v.mapItems Condition.outline)

end RequestStatus

namespace Request

/-- The request without what it keeps aside on any level. -/
def core (r : Request) : Request :=
  { r with metadata := r.metadata.core, spec := r.spec.core, status := r.status.core, extra := [] }

/-- The outlines of the parts of a request. -/
def outlineOf (key : String) (v : Json) : Json :=
  if key = metadataField.key then Metadata.outline v
  else if key = specField.key then RequestSpec.outline v
  else if key = statusField.key then RequestStatus.outline v
  else v

/-- A body without the members that belong to no field: of itself, of its metadata, of its
specification, of its status and of each of its conditions. -/
def outline : Json → Json := Json.mapMembers (FieldName.outline fields outlineOf)

open FieldName Checked

variable {α : Type} {fs : List FieldName} {f : FieldName}

theorem checkObject_outline {R : α → α → Prop} {check : Table Json → Checked α}
    {view : Table Json → Table Json} (each : ∀ t, Rel R (check t) (check (view t))) (j : Json) :
    Rel R (checkObject check j) (checkObject check (j.mapMembers view)) := by
  cases j with
  | obj t => exact each t
  | _ => exact .bad _

/-- A field of an object that has no parts, when the field must be there. -/
theorem check_plain (member : f ∈ fs) (check : Json → Checked α) (t : Table Json) :
    Rel Eq (f.check t check) (f.check (FieldName.outline fs (fun _ v => v) t) check) :=
  check_outline member (fun _ _ _ => .refl _) t

theorem checkD_plain (member : f ∈ fs) (default : α) (check : Json → Checked α) (t : Table Json) :
    Rel Eq (f.checkD t default check)
      (f.checkD (FieldName.outline fs (fun _ v => v) t) default check) :=
  checkD_outline member (fun _ _ _ => .refl _) rfl t

theorem checkCondition_outline (j : Json) :
    Rel (fun c d => c.core = d.core) (checkCondition j) (checkCondition (Condition.outline j)) := by
  refine checkObject_outline (fun t => ?_) j
  refine ((((((check_plain ?_ _ t).map ?_).and (checkD_plain ?_ _ _ t)).and
    (checkD_plain ?_ _ _ t)).and (checkD_plain ?_ _ _ t)).and (checkD_plain ?_ _ _ t)).and
    (checkD_plain ?_ _ _ t)
  case refine_2 =>
    rintro _ type rfl _ status rfl _ reason rfl _ message rfl _ updated rfl _ changed rfl
    rfl
  all_goals simp [Condition.fields]

theorem checkMetadata_outline (j : Json) :
    Rel (fun m n => m.core = n.core) (checkMetadata j) (checkMetadata (Metadata.outline j)) := by
  refine checkObject_outline (fun t => ?_) j
  refine (((((check_plain ?_ _ t).map ?_).and (checkD_plain ?_ _ _ t)).and
    (checkD_plain ?_ _ _ t)).and (checkD_plain ?_ _ _ t)).and (checkD_plain ?_ _ _ t)
  case refine_2 =>
    rintro _ name rfl _ uid rfl _ version rfl _ labels rfl _ deletion rfl
    rfl
  all_goals simp [Metadata.fields]

theorem checkSpec_outline (j : Json) :
    Rel (fun s q => s.core = q.core) (checkSpec j) (checkSpec (RequestSpec.outline j)) := by
  have members (t : Table Json) : Rel (fun s q => s.core = q.core) (checkSpecMembers t)
      (checkSpecMembers (FieldName.outline RequestSpec.fields (fun _ v => v) t)) := by
    refine (checkD_plain ?_ _ _ t).map ?_
    · simp [RequestSpec.fields]
    · rintro _ username rfl
      rfl
  cases j with
  | null => exact .ok rfl
  | obj t => exact members t
  | _ => exact .bad _

theorem checkConditions_outline (j : Json) :
    Rel (List.Forall₂ fun c d => c.core = d.core) (checkConditions j)
      (checkConditions (j.mapItems Condition.outline)) := by
  cases j with
  | null => exact .ok .nil
  | arr items => exact Rel.indexed checkCondition_outline 0 items
  | _ => exact .bad _

theorem checkStatus_outline (j : Json) :
    Rel (fun s q => s.core = q.core) (checkStatus j) (checkStatus (RequestStatus.outline j)) := by
  have members (t : Table Json) : Rel (fun s q => s.core = q.core) (checkStatusMembers t)
      (checkStatusMembers (FieldName.outline RequestStatus.fields
        (fun _ v => v.mapItems Condition.outline) t)) := by
    refine (checkD_outline ?_ (fun _ _ => checkConditions_outline) .nil t).map ?_
    · simp [RequestStatus.fields]
    · intro conditions conditions' each
      have same : conditions.map Condition.core = conditions'.map Condition.core := by
        induction each with
        | nil => rfl
        | cons head _ ih => rw [List.map_cons, List.map_cons, head, ih]
      simp only [RequestStatus.core, same]
  cases j with
  | null => exact .ok rfl
  | obj t => exact members t
  | _ => exact .bad _

theorem checkMembers_outline (t : Table Json) :
    Rel (fun r q => r.core = q.core) (checkMembers t)
      (checkMembers (FieldName.outline fields outlineOf t)) := by
  have text {f : FieldName} (member : f ∈ fields) (default : String)
      (kept : ∀ k, k = f.key ∨ k = f.twin → ∀ v, outlineOf k v = v) :
      Rel Eq (f.checkD t default checkText)
        (f.checkD (FieldName.outline fields outlineOf t) default checkText) := by
    refine checkD_outline member ?_ rfl t
    intro k own v
    rw [kept k own]
    exact .refl _
  have apiVersion (default : String) := text (f := apiVersionField) (by simp [fields]) default
    (by rintro k (rfl | rfl) v <;> rfl)
  have kind (default : String) := text (f := kindField) (by simp [fields]) default
    (by rintro k (rfl | rfl) v <;> rfl)
  have metadata : Rel (fun m n => m.core = n.core) (metadataField.check t checkMetadata)
      (metadataField.check (FieldName.outline fields outlineOf t) checkMetadata) := by
    refine check_outline (by simp [fields]) ?_ t
    rintro k (rfl | rfl) <;> exact checkMetadata_outline
  have spec : Rel (fun s q => s.core = q.core) (specField.checkD t .empty checkSpec)
      (specField.checkD (FieldName.outline fields outlineOf t) .empty checkSpec) := by
    refine checkD_outline (by simp [fields]) ?_ ?_ t
    · rintro k (rfl | rfl) <;> exact checkSpec_outline
    · rfl
  have status : Rel (fun s q => s.core = q.core) (statusField.checkD t .empty checkStatus)
      (statusField.checkD (FieldName.outline fields outlineOf t) .empty checkStatus) := by
    refine checkD_outline (by simp [fields]) ?_ ?_ t
    · rintro k (rfl | rfl) <;> exact checkStatus_outline
    · rfl
  refine (((((apiVersion _).map ?_).and (kind _)).and metadata).and spec).and status
  rintro _ apiVersion rfl _ kind rfl metadata metadata' same spec spec' same' status status' same''
  simp only [core, same, same', same'']

/-- A body and its outline are read with the same problems, or as requests that differ in what they
keep aside alone. -/
theorem ofBody_outline (body : Json) :
    Rel (fun r q => r.core = q.core) (ofBody body) (ofBody (outline body)) :=
  checkObject_outline checkMembers_outline body

/-- Bodies with one outline are read with the same problems, or as requests that differ in what they
keep aside alone. -/
theorem ofBody_of_outline {b b' : Json} (same : outline b = outline b') :
    Rel (fun r q => r.core = q.core) (ofBody b) (ofBody b') := by
  have second := ofBody_outline b'
  rw [← same] at second
  exact (ofBody_outline b).meet second

theorem resolution?_core (r : Request) : r.core.resolution? = r.resolution? := by
  change (r.conditions.map Condition.core).findSome? Condition.resolution? = _
  rw [List.findSome?_map]
  rfl

/-- What is kept aside has no part in whether a request may be approved. -/
theorem isEligible_core (r : Request) : r.core.isEligible = r.isEligible := by
  unfold isEligible
  rw [resolution?_core]
  rfl

end Request

/-- Events whose bodies have one outline are accepted alike. -/
theorem acceptsEvent_of_outline {b b' : Json} (same : Request.outline b = Request.outline b') :
    acceptsEvent b = acceptsEvent b' := by
  have rel := Request.ofBody_of_outline same
  rcases Json.objects_of_mapMembers same with rfl | ⟨t, t', rfl, rfl⟩
  · rfl
  · generalize read : Request.ofBody (.obj t) = x at rel
    generalize read' : Request.ofBody (.obj t') = y at rel
    cases rel with
    | @ok r q related =>
        rw [acceptsEvent_of_ok read, acceptsEvent_of_ok read', ← r.isEligible_core,
          ← q.isEligible_core, related]
    | bad ps =>
        simp only [acceptsEvent, Request.understood_of_bad read, Request.understood_of_bad read']

end BootstrapApproval
