import BootstrapApproval.Proofs.Handler.Transcript

/-! # Records that look like records about probes

A handler that refuses records about probes looks for the paths of the probes in the messages. Every
path begins with a slash, and of all the records of a call that returns only the first one has a
slash in its message: it stands right in front of the name of the request. So that record is refused
when the name of the request begins like a probe, and all the others pass.
-/

namespace BootstrapApproval

open Act

namespace Search

variable {sep : Char} {front rest needle : List Char}

/-- A separator that stands in a text only once is found where it stands. -/
theorem eq_of_separated (before : sep ∉ front) (after : sep ∉ rest) {a b : List Char}
    (same : front ++ sep :: rest = a ++ (sep :: needle) ++ b) : a = front ∧ rest = needle ++ b := by
  induction front generalizing a with
  | nil =>
      cases a with
      | nil => exact ⟨rfl, by simpa using same⟩
      | cons c a =>
          have tail : rest = a ++ (sep :: needle) ++ b := (List.cons.inj same).2
          simp [tail] at after
  | cons d front ih =>
      cases a with
      | nil =>
          have first : d = sep := (List.cons.inj same).1
          simp [first] at before
      | cons c a =>
          obtain ⟨head, tail⟩ := List.cons.inj same
          obtain ⟨rfl, found⟩ := ih (fun member => before (List.mem_cons_of_mem _ member)) tail
          exact ⟨by rw [head], found⟩

theorem occursIn_separated (before : sep ∉ front) (after : sep ∉ rest) :
    occursIn (sep :: needle) (front ++ sep :: rest) = needle.isPrefixOf rest := by
  rw [Bool.eq_iff_iff, occursIn_iff, List.isPrefixOf_iff_prefix]
  constructor
  · rintro ⟨a, b, same⟩
    exact ⟨b, (eq_of_separated before after same).2.symm⟩
  · rintro ⟨b, rfl⟩
    exact ⟨front, b, by simp⟩

theorem occursIn_of_not_mem {text : List Char} (absent : sep ∉ text) :
    occursIn (sep :: needle) text = false := by
  by_contra occurs
  obtain ⟨a, b, rfl⟩ := occursIn_iff.mp (eq_true_of_ne_false occurs)
  simp at absent

/-- Nothing is found across a text in which the separator does not stand. -/
theorem occursIn_append_of_not_mem (absent : sep ∉ front) :
    occursIn (sep :: needle) (front ++ rest) = occursIn (sep :: needle) rest := by
  induction front with
  | nil => rfl
  | cons c front ih =>
      have other : (sep == c) = false := by
        rw [beq_eq_false_iff_ne]
        rintro rfl
        exact absent List.mem_cons_self
      have tail := ih fun member => absent (List.mem_cons_of_mem _ member)
      simp [occursIn, List.isPrefixOf, other, tail]

/-- A character of a text is a separator or stands in a part. -/
theorem mem_of_split {p : Char → Bool} {text : List Char} {c : Char} (member : c ∈ text) :
    p c = true ∨ ∃ part ∈ split p text, c ∈ part := by
  induction text with
  | nil => cases member
  | cons d rest ih =>
      rw [split]
      split
      · rename_i isSep
        rcases List.mem_cons.mp member with rfl | later
        · exact .inl isSep
        · rcases ih later with isSep | ⟨part, inside, found⟩
          · exact .inl isSep
          · exact .inr ⟨part, List.mem_cons_of_mem _ inside, found⟩
      · cases parts : split p rest with
        | nil => exact absurd parts (split_ne_nil p rest)
        | cons part more =>
            rw [parts] at ih
            rcases List.mem_cons.mp member with rfl | later
            · exact .inr ⟨c :: part, List.mem_cons_self, List.mem_cons_self⟩
            · rcases ih later with isSep | ⟨other, inside, found⟩
              · exact .inl isSep
              · rcases List.mem_cons.mp inside with rfl | inside
                · exact .inr ⟨d :: other, List.mem_cons_self, List.mem_cons_of_mem _ found⟩
                · exact .inr ⟨other, List.mem_cons_of_mem _ inside, found⟩

end Search

def Slashless (s : String) : Prop := '/' ∉ s.toList

instance (s : String) : Decidable (Slashless s) := inferInstanceAs (Decidable (_ ∉ _))

@[simp] theorem slashless_append {a b : String} :
    Slashless (a ++ b) ↔ Slashless a ∧ Slashless b := by
  simp [Slashless]

/-- The names that the server admits: parts with dots between them, each of lower-case letters,
digits and dashes with no dash at its ends. -/
def isObjectName (s : String) : Bool :=
  decide (s.length ≤ 253) && (Search.split (· == '.') s.toList).all fun part =>
    part.all (fun c => isPlain c || c == '-') && part.head?.any isPlain && part.getLast?.any isPlain
where
  isPlain (c : Char) : Bool := decide ('a' ≤ c ∧ c ≤ 'z') || Digits.isDigit c

theorem slashless_of_isObjectName {s : String} (admitted : isObjectName s = true) :
    Slashless s := by
  intro member
  have slash : (isObjectName.isPlain '/' || '/' == '-') = false := by decide
  simp only [isObjectName, Bool.and_eq_true, List.all_eq_true] at admitted
  rcases Search.mem_of_split (p := (· == '.')) member with isDot | ⟨part, inside, found⟩
  · cases isDot
  · have plain := ((admitted.2 part inside).1).1 '/' found
    rw [slash] at plain
    cases plain

/-- Whether a name begins like the path of a probe, without its slash. -/
def namedForProbe (name : String) : Bool :=
  ["health", "ready", "metrics"].any fun word => word.toList.isPrefixOf name.toList

namespace Record

/-- The paths of the probes without their slashes. -/
def probeWords : List (List Char) := probePaths.map fun p => p.toList.drop 1

theorem namesProbe_eq (r : Record) :
    r.namesProbe = probeWords.any fun word => Search.occursIn ('/' :: word) r.message.toList := by
  rw [namesProbe, probeWords, List.any_map]
  rfl

/-- A message without a slash names no probe. -/
theorem namesProbe_of_slashless {r : Record} (slashless : Slashless r.message) :
    r.namesProbe = false := by
  rw [namesProbe_eq, List.any_eq_false]
  intro word _
  rw [Search.occursIn_of_not_mem slashless]
  exact Bool.false_ne_true

/-- A message with one slash names a probe when what follows the slash begins like one. -/
theorem namesProbe_of_slash {r : Record} {front name : String} (before : Slashless front)
    (after : Slashless name) (message : r.message = front ++ "/" ++ name) :
    r.namesProbe = namedForProbe name := by
  have text : r.message.toList = front.toList ++ '/' :: name.toList := by simp [message]
  have found : ∀ word, Search.occursIn ('/' :: word) r.message.toList =
      word.isPrefixOf name.toList := by
    intro word
    rw [text]
    exact Search.occursIn_separated before after
  have longer : "healthz".toList.isPrefixOf name.toList = true →
      "health".toList.isPrefixOf name.toList = true := by
    simp only [List.isPrefixOf_iff_prefix]
    exact (List.IsPrefix.trans (by decide))
  simp only [namesProbe_eq, found]
  change ("healthz".toList.isPrefixOf name.toList || namedForProbe name) = namedForProbe name
  rw [Bool.or_eq_right_iff_imp, namedForProbe, List.any_cons, Bool.or_eq_true]
  exact fun named => .inl (longer named)

/-- Text without a slash in front of a message does not change whether it names a probe. -/
theorem namesProbe_of_append {r : Record} {front rest : String} (before : Slashless front)
    (message : r.message = front ++ rest) :
    r.namesProbe = { r with message := rest }.namesProbe := by
  simp only [namesProbe_eq, message, String.toList_append,
    Search.occursIn_append_of_not_mem before]

end Record

theorem Outcome.slashless_code (o : Outcome) : Slashless o.code := by
  cases o <;> decide

/-- A verdict that says nothing with a slash, as long as its cluster has none. -/
def Verdict.IsClean (v : Verdict) : Prop :=
  (∀ c, v.cluster = some c → Slashless c) → Slashless v.message

namespace Review

variable {name : String} {v : Verdict}

theorem isClean_of_afterRead {found : Option Request} (decided : afterRead found = .decided v) :
    v.IsClean := by
  intro clustered
  cases found with
  | none =>
      obtain rfl := Review.decided.inj decided
      decide
  | some r =>
      rw [afterRead] at decided
      split at decided
      · obtain rfl := Review.decided.inj decided
        decide
      · split at decided
        · obtain rfl := Review.decided.inj decided
          decide
        · cases decided

theorem isClean_of_afterLookUp (named : Slashless name) {dryRun known : Bool} {r : Request}
    (decided : afterLookUp name dryRun r known = .decided v) : v.IsClean := by
  have literals : Slashless "Cluster " ∧ Slashless " is not registered, not approving CSR " ∧
      Slashless "CSR " ∧ Slashless " is already " ∧ Slashless " was not requested by " ∧
      Slashless identityStart ∧ Slashless ":" ∧ Slashless identityEnd ∧
      Slashless "DRY-RUN: would approve CSR " ∧ Slashless " for cluster " := by decide
  have resolutions : ∀ d : Resolution, Slashless d.text := by
    intro d
    cases d <;> decide
  intro clustered
  rw [afterLookUp] at decided
  split at decided
  · obtain rfl := Review.decided.inj decided
    have cluster := clustered _ rfl
    simp [Verdict.unregistered, cluster, named, literals]
  · split at decided
    · obtain rfl := Review.decided.inj decided
      simp [Verdict.resolved, named, literals, resolutions]
    · split at decided
      · obtain rfl := Review.decided.inj decided
        have cluster := clustered _ rfl
        simp [Verdict.mismatch, expectedUsername, cluster, named, literals]
      · split at decided
        · obtain rfl := Review.decided.inj decided
          have cluster := clustered _ rfl
          simp [Verdict.dryRun, cluster, named, literals]
        · cases decided

end Review

theorem Verdict.isClean_approved {name : String} (named : Slashless name) (cluster : String) :
    (Verdict.approved name cluster).IsClean := by
  have literals : Slashless "Approved CSR " ∧ Slashless " for cluster " := by decide
  intro clustered
  have cluster := clustered _ rfl
  simp [Verdict.approved, cluster, named, literals]

/-- No verdict of a review brings a slash into its message. -/
theorem Reconciler.Concludes.isClean {rc : Reconciler} {name : String} {s : State}
    {result : Except Raised Verdict} {o : Outside} (concludes : rc.Concludes name s result o)
    (named : Slashless name) {v : Verdict} (given : result = .ok v) : v.IsClean := by
  cases concludes with
  | dismisses ensured read decided =>
      obtain rfl := Except.ok.inj given
      exact Review.isClean_of_afterRead decided
  | judges considers known decided =>
      obtain rfl := Except.ok.inj given
      exact Review.isClean_of_afterLookUp named decided
  | @commits body r now considers clears shown writable =>
      have same : v = .approved name r.clusterName := by
        cases answered : Store.submitResult r.name
            ((s.server.lookUp r.clusterName).2.replace r.name (r.approve now).body).1 with
        | error e =>
            rw [answered] at given
            cases given
        | ok again =>
            rw [answered] at given
            exact (Except.ok.inj given).symm
      exact same ▸ Verdict.isClean_approved named _
  | _ => cases given

namespace Handler

variable {h : Handler} {rc : Reconciler} {name : String}

theorem passes_of_slashless {r : Record} (slashless : Slashless r.message) : h.passes r = true := by
  simp [passes, Record.namesProbe_of_slashless slashless]

theorem passes_startRecord (named : Slashless name) : h.passes (rc.startRecord name) = true := by
  have literals : Slashless "Reconciling " ∧ Slashless requestType ∧ Slashless " " := by decide
  have message : Slashless ("Reconciling " ++ requestType ++ " " ++ name) := by
    simp [literals, named]
  exact passes_of_slashless message

theorem passes_successRecord (named : Slashless name) (o : Outcome) :
    h.passes (rc.successRecord name o) = true := by
  have literals : Slashless "Reconciliation of " ∧ Slashless requestType ∧ Slashless " " ∧
      Slashless " finished: " := by decide
  have message : Slashless ("Reconciliation of " ++ requestType ++ " " ++ name ++ " finished: " ++
      o.code) := by
    simp [literals, named, o.slashless_code]
  exact passes_of_slashless message

/-- A warning about the look-up adds nothing that names a probe to the text of the fault. -/
theorem passes_troubleRecord {cluster : String} (named : Slashless cluster) (e : OperatorError) :
    h.passes (rc.troubleRecord name cluster e) =
      h.passes { rc.troubleRecord name cluster e with message := e.message } := by
  have literals : Slashless "Failed to read ManagedCluster " ∧ Slashless ": " := by decide
  have before : Slashless ("Failed to read ManagedCluster " ++ cluster ++ ": ") := by
    simp [literals, named]
  simp only [passes]
  rw [Record.namesProbe_of_append (r := rc.troubleRecord name cluster e) before rfl]

theorem namesProbe_entryRecord {reason : Option String} (plain : Slashless (reason.getD "event"))
    (named : Slashless name) : (entryRecord name reason).namesProbe = namedForProbe name := by
  have literals : Slashless "Handler invoked: " ∧ Slashless " " ∧ Slashless requestType := by
    decide
  have before : Slashless ("Handler invoked: " ++ reason.getD "event" ++ " " ++ requestType) := by
    simp [literals, plain]
  exact Record.namesProbe_of_slash before named rfl

/-- On a call that returns, every record but the first passes a handler that refuses records about
probes, whatever the outcome, for every name of a request and of a cluster that the server admits.
The first record, about the call itself, passes unless the name of the request begins like a probe.
A warning about the look-up passes unless the text of the fault itself names a probe. -/
theorem refused_iff_namedForProbe (name : String) (reason : Option String) (s : State)
    (admitted : isObjectName name = true) (plain : Slashless (reason.getD "event"))
    (returned : (handle name reason s).1 = .ok ()) :
    ∃ v remarks,
      (handle name reason s).2.logs =
        (s.logs.emit (entryRecord name reason)).renewed.emitAll
          ((used s).startRecord name :: (remarks ++
            [(used s).decisionRecord name v, (used s).successRecord name v.outcome])) ∧
      ∀ h : Handler, h.hidesProbes = true →
        h.passes (entryRecord name reason) = !namedForProbe name ∧
        h.passes ((used s).startRecord name) = true ∧
        ((∀ c, v.cluster = some c → isObjectName c = true) →
          h.passes ((used s).decisionRecord name v) = true) ∧
        h.passes ((used s).successRecord name v.outcome) = true ∧
        ∀ r ∈ remarks, r.logger = Client.logger ∨
          ∃ cluster e, r = (used s).troubleRecord name cluster e ∧
            (isObjectName cluster = true →
              h.passes r = h.passes { r with message := e.message }) := by
  have named := slashless_of_isObjectName admitted
  obtain ⟨records, ⟨remarks, result, rfl, remarked, ends, o, reviewed⟩, logged⟩ :=
    tells name reason s
  cases result with
  | error e =>
      rw [ends] at returned
      cases returned
  | ok v =>
      have clean := reviewed.concludes.isClean named rfl
      refine ⟨v, remarks, logged, fun h hides => ⟨?_, passes_startRecord named, fun clustered => ?_,
        passes_successRecord named _, fun r member => ?_⟩⟩
      · rw [passes, hides, namesProbe_entryRecord plain named, Bool.true_and]
      · exact passes_of_slashless (clean fun c isSet =>
          slashless_of_isObjectName (clustered c isSet))
      · cases remarked r member with
        | credentials own => exact .inl own
        | @trouble cluster e warns =>
            subst warns
            exact .inr ⟨cluster, e, rfl, fun clusterAdmitted =>
              passes_troubleRecord (slashless_of_isObjectName clusterAdmitted) e⟩

/-- A state in which nothing fails, with logging set up in the standard way. -/
def watched (server : Server) : State :=
  { State.steady server with logs := (Logs.initial.setUp .standard).2 }

theorem refused_iff_namedForProbe_approved :
    (handle "a" (some "create") (watched (.holding (willing [] [] [])))).1 = .ok () ∧
      Logs.Setup.standard.handler.passes (entryRecord "a" (some "create")) = true := by
  have returned : (handle "a" (some "create") (watched (.holding (willing [] [] [])))).1 =
      .ok () := rfl
  obtain ⟨v, remarks, -, passes⟩ := refused_iff_namedForProbe "a" (some "create")
    (watched (.holding (willing [] [] []))) (by decide) (by decide) returned
  exact ⟨returned, (passes _ rfl).1.trans (by decide)⟩

/-- The record about a call for a request whose name begins like a probe is never seen, though the
call returns. -/
theorem entryRecord_refused :
    isObjectName "ready-agent" = true ∧
      (handle "ready-agent" (some "create") (watched .empty)).1 = .ok () ∧
      (watched .empty).logs.takes OperatorLog.handlers.logger OperatorLog.handlerLevel = true ∧
      Logs.Setup.standard.handler.passes (entryRecord "ready-agent" (some "create")) = false ∧
      (handle "ready-agent" (some "create") (watched .empty)).2.logs.output.lines =
        [((Reconciler.steady.startRecord "ready-agent").correlate "00000002").line] := by
  refine ⟨by decide, rfl, by decide, by decide, ?_⟩
  rfl

end Handler

end BootstrapApproval
