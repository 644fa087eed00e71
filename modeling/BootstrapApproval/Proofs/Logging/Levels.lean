import BootstrapApproval.Lifecycle
import BootstrapApproval.Proofs.Handler.Reports
import BootstrapApproval.Proofs.Reconciler.Steady
import BootstrapApproval.Proofs.Table

/-! # Names of levels

Levels are configured by their names. Any text can be given as a name, whether there is a level of
this name or not, but for two: in upper case these name layouts, and a layout is found where a level
should be. The set-up then fails at once; a call fails only when it is about to be told of.
-/

namespace BootstrapApproval

open Act

namespace Level

/-- A name stands for the level that has it in upper case, and for the level of information when
there is none. -/
inductive Stands (name : String) : Level → Prop where
  | named {l : Level} (known : (Letters.upper name, l) ∈ names) : Stands name l
  | unnamed (unknown : Letters.upper name ∉ names.keys) : Stands name info

/-- The names of layouts, in upper case. -/
def layoutNames : List String := ["BASIC_FORMAT", "_STYLES"]

theorem not_mem_keys_of_layout : ∀ layout ∈ layoutNames, layout ∉ names.keys := by decide

/-- A name is taken for a level, unless it is that of a layout. -/
inductive Names (name : String) : Except Misnamed Level → Prop where
  | level {l : Level} (other : Letters.upper name ∉ layoutNames) (stands : Stands name l) :
      Names name (.ok l)
  | layout {m : Misnamed} (same : Letters.upper name ∈ layoutNames) : Names name (.error m)

theorem names_ofName (name : String) : Names name (ofName name) := by
  unfold ofName
  dsimp only
  cases found : names.find? (Letters.upper name) with
  | some l =>
      have known := Table.mem_of_find? found
      exact .level (fun layout => not_mem_keys_of_layout _ layout (Table.mem_keys known))
        (.named known)
  | none =>
      have unknown : Letters.upper name ∉ names.keys := by
        intro member
        obtain ⟨⟨key, l⟩, known, same⟩ := List.mem_map.mp member
        have values : (names.values (Letters.upper name)).head? = none := by
          rw [← Table.find?_eq_head, found]
        rw [List.head?_eq_none_iff] at values
        obtain rfl : key = Letters.upper name := same
        exact absurd (Table.mem_values.mpr known) (by rw [values]; exact List.not_mem_nil)
      dsimp only
      split
      next same => exact .layout (by simp [layoutNames, same])
      next notFormat =>
        split
        next same => exact .layout (by simp [layoutNames, same])
        next notStyles =>
          exact .level (by simp [layoutNames, notFormat, notStyles]) (.unnamed unknown)

end Level

namespace Reconciler

/-- What has been logged before plays no part in what a reconciliation gives. -/
theorem reconcile_fst_of_logs (rc : Reconciler) (name : String) (s : State) (logs : Logs) :
    (rc.reconcile name { s with logs }).1 = (rc.reconcile name s).1 := by
  have first := rc.outside_opened name s
  have second := rc.outside_opened name { s with logs }
  have around : (rc.opened name { s with logs }).around = (rc.opened name s).around :=
    (congrArg Outside.around second).trans (congrArg Outside.around first).symm
  have server : (rc.opened name { s with logs }).server = (rc.opened name s).server :=
    (congrArg Outside.server second).trans (congrArg Outside.server first).symm
  have ensured := Client.ensure_of_same around
    (show (rc.opened name { s with logs }).reconciler = (rc.opened name s).reconciler from rfl)
  rw [(rc.reconcile_reports name _).given, (rc.reconcile_reports name s).given,
    (rc.review_agrees name server around ensured).1]

end Reconciler

namespace Handler

variable {levelName : String} (name : String) (reason : Option String) (s : State)

/-- Where the name stands for a level, what is given to the caller is the same as at any other
level. -/
theorem handleAt_fst {level : Level} (known : Level.ofName levelName = .ok level) :
    (handleAt levelName name reason s).1 = (handle name reason s).1 := by
  have found : OperatorLog.namedLevel levelName = pure level := by
    unfold OperatorLog.namedLevel
    rw [known]
  have body : handleAt levelName name reason =
      Act.traced (head name) (do
        OperatorLog.handlerCall level (.str (reason.getD "event")) (.str requestType)
          (.str name) []
        reconcile name) := by
    unfold handleAt
    rw [found]
    rfl
  rw [body, reconcile_traced (handlerCall_emits ..), handle_entered]
  exact congrArg advised ((used s).reconcile_fst_of_logs name (entered name reason s) _)

/-- Where the name stands for no level, nothing comes of an event but a span that has failed. -/
theorem handleAt_misnamed {m : Level.Misnamed} (misnamed : Level.ofName levelName = .error m) :
    handleAt levelName name reason s =
      (.error (.of OperatorLog.noLevel),
        { s with
          span := none
          spans := s.spans ++ [(head name).failed OperatorLog.noLevel] }) := by
  refine traced_apply (t := { s with span := some (head name) }) (bind_error ?_)
  unfold OperatorLog.namedLevel
  rw [misnamed]
  rfl

end Handler

namespace Level

/-- A name that can be configured for every purpose. -/
structure IsSafe (name : String) : Prop where
  level : ∃ l, ofName name = .ok l ∧ Stands name l
  /-- A call to the handler is told of without a fault. -/
  told (event type resource : Json) (s : State) : ∃ logs,
    (do OperatorLog.handlerCall (← OperatorLog.namedLevel name) event type resource []) s =
      (.ok (), { s with logs })
  /-- The caller of the handler gets what it gets at the standard level. -/
  handled (request : String) (reason : Option String) (s : State) :
    (Handler.handleAt name request reason s).1 = (Handler.handle request reason s).1
  setUp (setup : Logs.Setup) (same : setup.levelName = name) (s : State) : ∃ l logs,
    Stands name l ∧ Lifecycle.setUpLogging setup s = (.ok (), { s with logs }) ∧
      logs.handlers = [setup.handler] ∧ logs.rootLevel = l

/-- A name with which every call to the handler fails before anything is asked, and with which
logging cannot be set up. -/
structure IsBarred (name : String) : Prop where
  misnamed : ∃ m, ofName name = .error m
  handled (request : String) (reason : Option String) (s : State) :
    Handler.handleAt name request reason s =
      (.error (.of OperatorLog.noLevel),
        { s with
          span := none
          spans := s.spans ++ [(Handler.head request).failed OperatorLog.noLevel] })
  setUp (setup : Logs.Setup) (same : setup.levelName = name) (s : State) : ∃ m,
    Lifecycle.setUpLogging setup s =
      (.error (.of (Lifecycle.misnamed m)),
        { s with logs := { s.logs with handlers := [setup.handler] } })

theorem isSafe_of_level {name : String} {l : Level} (known : ofName name = .ok l)
    (stands : Stands name l) : IsSafe name where
  level := ⟨l, known, stands⟩
  told event type resource s := by
    refine ⟨_, Eq.trans (bind_ok (a := l) ?_) (Handler.handlerCall_emits l event type resource s)⟩
    unfold OperatorLog.namedLevel
    rw [known]
    rfl
  handled request reason s := Handler.handleAt_fst request reason s known
  setUp setup same s := by
    subst same
    refine ⟨l, (s.logs.setUp setup).2, stands, ?_⟩
    unfold Lifecycle.setUpLogging Logs.setUp
    rw [known]
    exact ⟨rfl, rfl, rfl⟩

theorem isBarred_of_misnamed {name : String} {m : Misnamed} (misnamed : ofName name = .error m) :
    IsBarred name where
  misnamed := ⟨m, misnamed⟩
  handled request reason s := Handler.handleAt_misnamed request reason s misnamed
  setUp setup same s := by
    subst same
    refine ⟨m, ?_⟩
    unfold Lifecycle.setUpLogging Logs.setUp
    rw [misnamed]

theorem IsSafe.not_isBarred {name : String} (safe : IsSafe name) : ¬ IsBarred name := by
  intro barred
  obtain ⟨l, known, -⟩ := safe.level
  obtain ⟨m, misnamed⟩ := barred.misnamed
  rw [known] at misnamed
  cases misnamed

/-- Every name is safe but those of layouts, and these are barred. -/
theorem isSafe_iff (name : String) :
    (IsSafe name ↔ Letters.upper name ∉ layoutNames) ∧
      (IsBarred name ↔ Letters.upper name ∈ layoutNames) := by
  cases named : ofName name with
  | ok l =>
      have names := names_ofName name
      rw [named] at names
      cases names with
      | level other stands =>
          have safe := isSafe_of_level named stands
          exact ⟨iff_of_true safe other, iff_of_false safe.not_isBarred other⟩
  | error m =>
      have names := names_ofName name
      rw [named] at names
      cases names with
      | layout same =>
          have barred := isBarred_of_misnamed named
          exact ⟨iff_of_false (fun safe => safe.not_isBarred barred) (not_not_intro same),
            iff_of_true barred same⟩

/-- The name of a layout in the place of a level: a call fails that would have ended well, and so
does the set-up. -/
theorem basicFormat_fails :
    (Handler.handleAt "basic_format" "a" (some "create") (.steady .empty)).1 =
        .error (.of OperatorLog.noLevel) ∧
      (Handler.handle "a" (some "create") (.steady .empty)).1 = .ok () ∧
      (Lifecycle.setUpLogging { Logs.Setup.standard with levelName := "basic_format" }
          (.steady .empty)).1 = .error (.of (Lifecycle.misnamed .layout)) ∧
      ¬ IsSafe "basic_format" := by
  have misnamed : ofName "basic_format" = .error .layout := rfl
  refine ⟨?_, rfl, ?_, fun safe => safe.not_isBarred (isBarred_of_misnamed misnamed)⟩
  · rw [Handler.handleAt_misnamed _ _ _ misnamed]
  · rfl

end Level

end BootstrapApproval
