import BootstrapApproval.Proofs.Reconciler.Answers
import BootstrapApproval.Proofs.Reconciler.Filter

/-! # The course of a review

What a review asks and how it ends, up to a write, is a function of what it goes by: whether there
are credentials, what the read gives, what is known of a cluster, and the time. Two reviews that go
by the same take the same course, whatever else their states hold.
-/

namespace BootstrapApproval

/-- What a review goes by. -/
structure Grounds where
  power : Except Raised Unit
  found : Except Raised (Option Request)
  known : String → Except Raised Bool
  time : Except Raised Timestamp

/-- What a review asks, and then how it ends, or which request it writes with an approval of which
time. -/
inductive Course where
  | ends (calls : List Call) (result : Except Raised Verdict)
  | writes (calls : List Call) (r : Request) (now : Timestamp)

namespace Reconciler

variable (rc : Reconciler) (name : String)

def grounds (s : State) : Grounds :=
  { power := (Client.ensure s).1
    found := Store.readResult name (s.server.read name).1
    known := fun cluster => registered (Store.lookUpResult cluster (s.server.lookUp cluster).1)
    time := (rc.now s).1 }

/-- The course of a review that has come to the commit. -/
def courseCleared (calls : List Call) (time : Except Raised Timestamp) (r : Request) : Course :=
  match time with
  | .error e => .ends calls (.error e)
  | .ok now => if r.isWritable then .writes calls r now else .ends calls (.error (.of tooHigh))

/-- The course of a review that has come to the look-up. -/
def courseRead (g : Grounds) (r : Request) : Course :=
  let calls := [.read name, .lookUp r.clusterName]
  match g.known r.clusterName with
  | .error e => .ends calls (.error e)
  | .ok known =>
      match Review.afterLookUp name rc.dryRun r known with
      | .decided v => .ends calls (.ok v)
      | .candidate r => courseCleared calls g.time r

def course (g : Grounds) : Course :=
  match g.power with
  | .error e => .ends [] (.error e)
  | .ok () =>
      match g.found with
      | .error e => .ends [.read name] (.error e)
      | .ok found =>
          match Review.afterRead found with
          | .decided v => .ends [.read name] (.ok v)
          | .candidate r => rc.courseRead name g r

variable {rc name} {s : State} {result : Except Raised Verdict} {o : Outside}

/-- A review that has taken its course: what it gives, and what it leaves outside. -/
inductive Follows (name : String) (s : State) :
    Course → Except Raised Verdict → Outside → Prop where
  | ends (calls : List Call) (result : Except Raised Verdict) :
      Follows name s (.ends calls result) result (s.outside.askAll calls)
  | writes (calls : List Call) (r : Request) (now : Timestamp) :
      Follows name s (.writes calls r now)
        (Store.submitResult r.name
            ((s.outside.askAll calls).server.replace r.name (r.approve now).body).1 >>= fun _ =>
          .ok (.approved name r.clusterName))
        (s.outside.askAll (calls ++ [.replace r.name (r.approve now).body]))

theorem Considers.course {body : Json} {r : Request} (considers : Considers name s body r) :
    rc.course name (rc.grounds name s) = rc.courseRead name (rc.grounds name s) r := by
  obtain ⟨read, goesOn⟩ := considers.afterRead
  have found : (rc.grounds name s).found = .ok (some r) := read
  have power : (rc.grounds name s).power = .ok () := considers.ensured
  simp only [Reconciler.course, power, found, goesOn]

theorem Clears.courseRead {r : Request} (clears : rc.Clears s r) :
    rc.courseRead name (rc.grounds name s) r =
      courseCleared [.read name, .lookUp r.clusterName] (rc.now s).1 r := by
  obtain ⟨registered_, goesOn⟩ := clears.afterLookUp name
  have known : (rc.grounds name s).known r.clusterName = .ok true := registered_
  simp only [Reconciler.courseRead, known, goesOn]
  rfl

/-- Every review takes the course that follows from what it goes by. -/
theorem Concludes.follows (concludes : rc.Concludes name s result o) :
    Follows name s (rc.course name (rc.grounds name s)) result o := by
  cases concludes with
  | powerless failed =>
      have power : (rc.grounds name s).power = .error _ := failed
      simp only [course, power]
      exact .ends [] _
  | unread ensured refused =>
      have power : (rc.grounds name s).power = .ok () := ensured
      have found : (rc.grounds name s).found = .error _ := refused
      simp only [course, power, found]
      exact .ends [.read name] _
  | dismisses ensured read decided =>
      have power : (rc.grounds name s).power = .ok () := ensured
      have found : (rc.grounds name s).found = .ok _ := read
      simp only [course, power, found, decided]
      exact .ends [.read name] _
  | @unknown body r e considers refused =>
      have known : (rc.grounds name s).known r.clusterName = .error e := refused
      rw [considers.course]
      simp only [courseRead, known]
      exact .ends [.read name, .lookUp r.clusterName] _
  | @judges body r k v considers answered decided =>
      have known : (rc.grounds name s).known r.clusterName = .ok k := answered
      rw [considers.course]
      simp only [courseRead, known, decided]
      exact .ends [.read name, .lookUp r.clusterName] _
  | @timeless body r e considers clears late =>
      rw [considers.course, clears.courseRead, late]
      exact .ends [.read name, .lookUp r.clusterName] _
  | @unwritable body r now considers clears shown high =>
      rw [considers.course, clears.courseRead, shown]
      simp only [courseCleared, high]
      exact .ends [.read name, .lookUp r.clusterName] _
  | @commits body r now considers clears shown writable =>
      rw [considers.course, clears.courseRead, shown]
      simp only [courseCleared, writable, if_true]
      rw [← considers.server_looked]
      exact .writes [.read name, .lookUp r.clusterName] r now

/-- A reconciliation reports the end of a review that has taken its course. -/
theorem reconcile_follows (rc : Reconciler) (name : String) (s : State) :
    ∃ result, Follows name s (rc.course name (rc.grounds name s)) result
        (rc.reconcile name s).2.outside ∧ (rc.reconcile name s).1 = reported result := by
  obtain ⟨result, concludes, given⟩ := rc.reconcile_concludes name s
  exact ⟨result, concludes.follows, given⟩

end Reconciler

end BootstrapApproval
