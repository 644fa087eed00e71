import BootstrapApproval.Proofs.Reconciler.Course
import BootstrapApproval.Proofs.Request.Outline

/-! # What has no part in a verdict

A review looks at four things in a request: the cluster it names, who has made it, whether it is
being deleted and whether it is decided. Where two requests agree in these, the same is asked about
both and the same is found. Members that belong to no field have a part in one thing only: one that
is too high keeps a request from being written.
-/

namespace BootstrapApproval

namespace Request

/-- The requests are the same in all that a review looks at. -/
structure AsksLike (r q : Request) : Prop where
  cluster : r.clusterName = q.clusterName
  username : r.username = q.username
  deleting : r.isDeleting = q.isDeleting
  decided : r.conditions.any Condition.isDecision = q.conditions.any Condition.isDecision

theorem resolution?_eq_none {r : Request} :
    r.resolution? = none ↔ r.conditions.any Condition.isDecision = false := by
  rw [undecided_iff, List.any_eq_false]
  simp [Condition.isDecision]

theorem AsksLike.undecided {r q : Request} (alike : r.AsksLike q) :
    r.resolution? = none ↔ q.resolution? = none := by
  rw [resolution?_eq_none, resolution?_eq_none, alike.decided]

end Request

/-- The state with a body in store under a name. -/
def State.storing (s : State) (name : String) (body : Json) : State :=
  { s with server := s.server.storeAs name body }

namespace Server

/-- A failure that waits for the read hides what is stored. -/
theorem read_storeAs (s : Server) (name : String) (body : Json) :
    ((s.storeAs name body).read name).1 =
      match s.readFaults with
      | f :: _ => .error f
      | [] => .ok body := by
  unfold read
  cases faults : s.readFaults with
  | cons f rest => simp [storeAs, faults]
  | nil => simp [storeAs, faults]

theorem lookUp_storeAs (s : Server) (name cluster : String) (body : Json) :
    ((s.storeAs name body).lookUp cluster).1 = (s.lookUp cluster).1 := by
  have clusters : (s.storeAs name body).race.clusters = s.race.clusters := by
    rw [clusters_race, clusters_race]
    rfl
  have faults : (s.storeAs name body).race.lookUpFaults = s.race.lookUpFaults := by
    rw [lookUpFaults_race, lookUpFaults_race]
    rfl
  unfold lookUp
  simp only [faults, clusters]
  cases s.race.lookUpFaults <;> rfl

end Server

namespace Reconciler

variable {g : Grounds} {r q : Request}

/-- Two courses with the same questions, which part at most where one request can be written and the
other one cannot. -/
inductive Parallel (r q : Request) : Course → Course → Prop where
  | ends (calls : List Call) {result result' : Except Raised Verdict}
      (same : reported result = reported result') :
      Parallel r q (.ends calls result) (.ends calls result')
  | writes (calls : List Call) (now : Timestamp) :
      Parallel r q (.writes calls r now) (.writes calls q now)
  | former (calls : List Call) (now : Timestamp) (result : Except Raised Verdict)
      (differ : r.isWritable ≠ q.isWritable) :
      Parallel r q (.writes calls r now) (.ends calls result)
  | latter (calls : List Call) (now : Timestamp) (result : Except Raised Verdict)
      (differ : r.isWritable ≠ q.isWritable) :
      Parallel r q (.ends calls result) (.writes calls q now)

/-- What is asked on parallel courses differs in a write alone, and where nothing is written they
end alike. -/
structure Compares (r q : Request) (s s' : State) (o o' : Outside)
    (result result' : Except Raised Outcome) (new new' : List Call) : Prop where
  asked : o.asked = s.outside.asked ++ new
  asked' : o'.asked = s'.outside.asked ++ new'
  questions : new.filter (!·.isReplace) = new'.filter (!·.isReplace)
  writes : r.isWritable = q.isWritable → new.any Call.isReplace = new'.any Call.isReplace
  unwritten : new.any Call.isReplace = false → new'.any Call.isReplace = false → result = result'

theorem Parallel.compares {name : String} {c c' : Course} {s s' : State} {o o' : Outside}
    {result result' : Except Raised Verdict} (parallel : Parallel r q c c')
    (follows : Follows name s c result o) (follows' : Follows name s' c' result' o') :
    ∃ new new', Compares r q s s' o o' (reported result) (reported result') new new' := by
  cases parallel with
  | ends calls same =>
      cases follows
      cases follows'
      exact ⟨calls, calls, s.outside.asked_askAll _, s'.outside.asked_askAll _, rfl, fun _ => rfl,
        fun _ _ => same⟩
  | writes calls now =>
      cases follows
      cases follows'
      refine ⟨_, _, s.outside.asked_askAll _, s'.outside.asked_askAll _, ?_, ?_, ?_⟩
      · simp [Call.isReplace]
      · simp [Call.isReplace]
      · simp [Call.isReplace]
  | former calls now _ differ =>
      cases follows
      cases follows'
      refine ⟨_, calls, s.outside.asked_askAll _, s'.outside.asked_askAll _, ?_, ?_, ?_⟩
      · simp [Call.isReplace]
      · exact fun same => absurd same differ
      · simp [Call.isReplace]
  | latter calls now _ differ =>
      cases follows
      cases follows'
      refine ⟨calls, _, s.outside.asked_askAll _, s'.outside.asked_askAll _, ?_, ?_, ?_⟩
      · simp [Call.isReplace]
      · exact fun same => absurd same differ
      · simp [Call.isReplace]

variable (rc : Reconciler) (name : String)

theorem parallel_cleared (calls : List Call) (time : Except Raised Timestamp) (r q : Request) :
    Parallel r q (courseCleared calls time r) (courseCleared calls time q) := by
  cases time with
  | error e => exact .ends calls rfl
  | ok now =>
      cases first : r.isWritable with
      | false =>
          cases second : q.isWritable with
          | false =>
              simp only [courseCleared, first, second]
              exact .ends calls rfl
          | true =>
              simp only [courseCleared, first, second]
              exact .latter calls now _ (by simp [first, second])
      | true =>
          cases second : q.isWritable with
          | false =>
              simp only [courseCleared, first, second]
              exact .former calls now _ (by simp [first, second])
          | true =>
              simp only [courseCleared, first, second]
              exact .writes calls now

/-- What is known of the cluster decides over both requests alike, or over neither. -/
theorem parallel_judged (alike : r.AsksLike q) (known : Bool) (calls : List Call)
    (time : Except Raised Timestamp) :
    Parallel r q
      (match Review.afterLookUp name rc.dryRun r known with
        | .decided v => .ends calls (.ok v)
        | .candidate r => courseCleared calls time r)
      (match Review.afterLookUp name rc.dryRun q known with
        | .decided v => .ends calls (.ok v)
        | .candidate q => courseCleared calls time q) := by
  have own : r.isFrom r.clusterName = q.isFrom q.clusterName := by
    rw [Request.isFrom, Request.isFrom, alike.cluster, alike.username]
  unfold Review.afterLookUp
  cases known with
  | false => exact .ends calls rfl
  | true =>
      cases first : r.resolution? with
      | none =>
          rw [alike.undecided.mp first]
          dsimp only
          rw [own]
          cases q.isFrom q.clusterName with
          | false => exact .ends calls rfl
          | true =>
              cases rc.dryRun with
              | true => exact .ends calls rfl
              | false => exact parallel_cleared calls time r q
      | some d =>
          cases second : q.resolution? with
          | none =>
              rw [alike.undecided.mpr second] at first
              cases first
          | some d' => exact .ends calls rfl

theorem parallel_read (alike : r.AsksLike q) :
    Parallel r q (rc.courseRead name g r) (rc.courseRead name g q) := by
  unfold courseRead
  rw [alike.cluster]
  cases g.known q.clusterName with
  | error e => exact .ends _ rfl
  | ok known => exact rc.parallel_judged name alike known _ g.time

theorem parallel_course (alike : r.AsksLike q) :
    Parallel r q (rc.course name { g with found := .ok (some r) })
      (rc.course name { g with found := .ok (some q) }) := by
  unfold course
  cases g.power with
  | error e => exact .ends [] rfl
  | ok _ =>
      dsimp only [Review.afterRead]
      rw [alike.deleting, alike.cluster]
      split_ifs
      · exact .ends _ rfl
      · exact .ends _ rfl
      · exact rc.parallel_read name alike

/-- A review goes by the same in states that differ in one stored body, but for what the read
gives. -/
theorem grounds_storing (s : State) (body : Json) :
    rc.grounds name (s.storing name body) =
      { rc.grounds name s with
        found := Store.readResult name ((s.server.storeAs name body).read name).1 } := by
  have power : (Client.ensure (s.storing name body)).1 = (Client.ensure s).1 :=
    Client.ensure_of_same rfl rfl
  have time : (rc.now (s.storing name body)).1 = (rc.now s).1 := rc.now_of_around rfl
  unfold grounds
  simp only [State.storing, Server.lookUp_storeAs]
  rw [← power, ← time]
  rfl

/-- Two states that differ in a stored body, which stands for alike requests, lead to parallel
courses. -/
theorem parallel_storing {b b' : Json} (understood : Request.understood b = .ok r)
    (understood' : Request.understood b' = .ok q) (alike : r.AsksLike q) (s : State) :
    Parallel r q (rc.course name (rc.grounds name (s.storing name b)))
      (rc.course name (rc.grounds name (s.storing name b'))) := by
  rw [grounds_storing, grounds_storing, Server.read_storeAs, Server.read_storeAs]
  cases s.server.readFaults with
  | nil =>
      have found : Store.readResult name (.ok b) = .ok (some r) :=
        Store.readResult_eq_some.mpr ⟨b, rfl, understood⟩
      have found' : Store.readResult name (.ok b') = .ok (some q) :=
        Store.readResult_eq_some.mpr ⟨b', rfl, understood'⟩
      simp only [found, found']
      exact rc.parallel_course name alike
  | cons f rest =>
      -- the fault hides both bodies, and what it leaves to decide is decided
      unfold course
      dsimp only
      cases (rc.grounds name s).power with
      | error e => exact .ends [] rfl
      | ok _ =>
          cases found : Store.readResult name (.error f) with
          | error e => exact .ends _ rfl
          | ok request =>
              cases request with
              | none => exact .ends _ rfl
              | some x =>
                  obtain ⟨body, answer, -⟩ := Store.readResult_eq_some.mp found
                  cases answer

end Reconciler

open Reconciler

/-- Members that belong to no field have no part in whether a body is accepted, in what is wrong
with it, or in whether an event with it is accepted. Where two accepted bodies are alike in what a
review looks at, reconciling them from states that differ in nothing else asks for the same reads
and look-ups. It asks for a write for both or for none, if both can be written or both cannot, and
where nothing is written it gives the same. -/
theorem kept_aside_without_part :
    (∀ b b' : Json, Request.outline b = Request.outline b' →
      ((∃ r, Request.ofBody b = .ok r) ↔ ∃ r, Request.ofBody b' = .ok r) ∧
      (Request.ofBody b).problems = (Request.ofBody b').problems ∧
      acceptsEvent b = acceptsEvent b') ∧
    ∀ (rc : Reconciler) (name : String) (s : State) (b b' : Json) (r q : Request),
      Request.ofBody b = .ok r → Request.ofBody b' = .ok q → r.AsksLike q →
      ∃ new new', Compares r q (s.storing name b) (s.storing name b')
        (rc.reconcile name (s.storing name b)).2.outside
        (rc.reconcile name (s.storing name b')).2.outside
        (rc.reconcile name (s.storing name b)).1 (rc.reconcile name (s.storing name b')).1
        new new' := by
  constructor
  · intro b b' same
    obtain ⟨accepted, problems⟩ := (Request.ofBody_of_outline same).agree
    exact ⟨accepted, problems, acceptsEvent_of_outline same⟩
  · intro rc name s b b' r q accepted accepted' alike
    obtain ⟨result, follows, given⟩ := rc.reconcile_follows name (s.storing name b)
    obtain ⟨result', follows', given'⟩ := rc.reconcile_follows name (s.storing name b')
    have parallel := rc.parallel_storing name (Request.understood_of_ok accepted)
      (Request.understood_of_ok accepted') alike s
    rw [given, given']
    exact parallel.compares follows follows'

/-- A request with members that belong to no field on every level. -/
def cluttered : Json :=
  .obj (willing [("note", .null)] [.obj [("type", .str "Failed"), ("weight", .int 1)]]
    [("other", .arr [])])

/-- The same request with some of these members changed and some removed. -/
def decluttered : Json :=
  .obj (willing [("mark", .obj [])] [.obj [("type", .str "Failed"), ("weight", .str "heavy")]] [])

theorem kept_aside_without_part_cluttered :
    let s := State.steady (Server.holding [])
    Request.outline cluttered = Request.outline decluttered ∧
    acceptsEvent cluttered = acceptsEvent decluttered ∧
    ∃ r q new new', Request.ofBody cluttered = .ok r ∧ Request.ofBody decluttered = .ok q ∧
      r.AsksLike q ∧ Compares r q (s.storing "a" cluttered) (s.storing "a" decluttered)
        (Reconciler.steady.reconcile "a" (s.storing "a" cluttered)).2.outside
        (Reconciler.steady.reconcile "a" (s.storing "a" decluttered)).2.outside
        (Reconciler.steady.reconcile "a" (s.storing "a" cluttered)).1
        (Reconciler.steady.reconcile "a" (s.storing "a" decluttered)).1 new new' := by
  obtain ⟨bodies, worlds⟩ := kept_aside_without_part
  have same : Request.outline cluttered = Request.outline decluttered := rfl
  obtain ⟨r, q, accepted, accepted', alike⟩ : ∃ r q, Request.ofBody cluttered = .ok r ∧
      Request.ofBody decluttered = .ok q ∧ r.AsksLike q := ⟨_, _, rfl, rfl, rfl, rfl, rfl, rfl⟩
  obtain ⟨new, new', compares⟩ := worlds .steady "a" (State.steady (Server.holding [])) cluttered
    decluttered r q accepted accepted' alike
  exact ⟨same, (bodies _ _ same).2.2, r, q, new, new', accepted, accepted', alike, compares⟩

/-- A request that keeps a member aside which is too high is not written, though one without that
member is. -/
theorem kept_aside_withholds :
    Request.outline (.obj (willing [] [] [])) = Request.outline (.obj (willing [] [] tower)) ∧
    (∃ r q, Request.ofBody (.obj (willing [] [] [])) = .ok r ∧
      Request.ofBody (.obj (willing [] [] tower)) = .ok q ∧ r.AsksLike q ∧ r.name = q.name) ∧
    (Reconciler.steady.reconcile "a"
      (.steady (.holding (willing [] [] [])))).2.outside.asked.any Call.isReplace = true ∧
    (Reconciler.steady.reconcile "a"
      (.steady (.holding (willing [] [] tower)))).2.outside.asked.any Call.isReplace = false := by
  refine ⟨rfl, ?_, ?_, ?_⟩
  · refine ⟨_, _, rfl, rfl, ⟨rfl, rfl, rfl, rfl⟩, rfl⟩
  · decide +kernel
  · decide +kernel

end BootstrapApproval
