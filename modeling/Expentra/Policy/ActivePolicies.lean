-- SUMMARY: The cached set of active policies beside changes of the policies: which set an evaluation takes.
import Expentra.Library.Interleaving
import Expentra.Policy.Engine

/-!
# Active policies

An evaluation takes the cached active policies, or asks the database and then fills the
cache. `create`, `update` and `remove` write the table and then clear the cache. A fill
with what was read before the write can come after the clearing; it then serves for
half a minute.

The shared state records the active policies at the start and after each write, so that
the sets can be told by the writes they follow.
-/

namespace Expentra.ActivePolicies

open Library

/-! ## The policies -/

/-- A row of `expense_policies`, with what its evaluation and its selection read. -/
structure PolicyRow extends ExpensePolicy where
  id : Nat
  isActive : Bool
  createdAt : Instant
deriving DecidableEq

abbrev Policies := Table PolicyRow.id

/-- `find({ where: { isActive: true }, order: { createdAt: 'ASC' } })` -/
def active (policies : Policies) : List PolicyRow :=
  (policies.rows.filter PolicyRow.isActive).insertionSort
    (fun left right => left.createdAt ≤ right.createdAt)

/-! ### Configurations -/

def paramsObject (params : PolicyConditionParams) : Json :=
  PolicyConfigValidator.object [("category", params.category.map .str),
    ("windowDays", params.windowDays.map .num)]

def conditionObject (condition : PolicyCondition) : Json :=
  PolicyConfigValidator.conditionObject condition.field condition.operator.name
    (some condition.value) (condition.params.map paramsObject)

/-- A normalized configuration as the object it is. -/
def configObject (config : ConditionalPolicyConfig) : Json :=
  PolicyConfigValidator.object
    [("match", some (.str (match config.match_ with | .all => "all" | .any => "any"))),
      ("conditions", some (.arr (config.conditions.map conditionObject)))]

/-! ### Inputs -/

structure CreateExpensePolicyInput where
  name : String
  ruleType : Option ExpensePolicyRuleType
  severity : ExpensePolicySeverity
  config : Json
  isActive : Option Bool

structure UpdateExpensePolicyInput where
  name : Option String
  severity : Option ExpensePolicySeverity
  config : Option Json
  isActive : Option Bool

/-- What `create` saves, as the columns hold it; the database assigns the id. -/
def created (input : CreateExpensePolicyInput) (reference : String) (now : Instant) :
    Except HttpException PolicyRow := do
  let ruleType := input.ruleType.getD .CONDITIONAL
  let config ← PolicyConfigValidator.normalizeRuleConfig ruleType input.config
  pure {
    reference
    name := Js.trim input.name
    ruleType := .CONDITIONAL
    severity := input.severity
    config := (configObject config).reparsed
    id := 0
    isActive := input.isActive.getD true
    createdAt := now }

/-- What `update` saves, as the columns hold it. -/
def updated (input : UpdateExpensePolicyInput) (policy : PolicyRow) : Except HttpException PolicyRow := do
  let named := { policy with
    name := (input.name.map Js.trim).getD policy.name
    severity := input.severity.getD policy.severity }
  let configured ← match input.config with
    | none => pure named
    | some raw => do
      let config ← PolicyConfigValidator.normalizeRuleConfig named.ruleType raw
      pure { named with ruleType := .CONDITIONAL, config := (configObject config).reparsed }
  pure { configured with isActive := input.isActive.getD configured.isActive }

/-! ## The process and its database -/

structure State where
  policies : Policies
  nextId : Nat
  activePoliciesCache : Option (List PolicyRow)
  activePoliciesCachedAt : Instant
  /-- The active policies at the start, and after each write. -/
  versions : List (List PolicyRow)
  /-- The latest of the writes whose operations have completed. -/
  completed : Nat

/-- A process that has evaluated nothing yet. -/
def State.init (policies : Policies) (nextId : Nat) : State :=
  ⟨policies, nextId, none, 0, [active policies], 0⟩

/-- The table after a write, with the active policies it leaves. -/
def State.written (s : State) (policies : Policies) (nextId : Nat) : State :=
  { s with policies, nextId, versions := s.versions ++ [active policies] }

def invalidateActivePoliciesCache (s : State) : State :=
  { s with activePoliciesCache := none, activePoliciesCachedAt := 0 }

def activePoliciesCacheTtlMs : Int := 30000

/-- `loadActivePolicies`, up to the question to the database. -/
def cachedPolicies (s : State) (now : Instant) : Option (List PolicyRow) :=
  s.activePoliciesCache.filter (fun _ => now - s.activePoliciesCachedAt < activePoliciesCacheTtlMs)

/-- `loadActivePolicies`, from the answer on. -/
def fillCache (s : State) (policies : List PolicyRow) (now : Instant) : State :=
  { s with activePoliciesCache := some policies, activePoliciesCachedAt := now }

/-- A command that writes the table. -/
inductive Write where
  | insert (policy : PolicyRow)
  | save (policy : PolicyRow)
  | remove (policy : PolicyRow)

/-- A policy whose row is gone is inserted again by `save`, and not missed by `remove`. -/
def Write.run (s : State) : Write → Option State
  | insert policy =>
    (s.policies.insert? { policy with id := s.nextId }).map (fun policies =>
      s.written policies (s.nextId + 1))
  | save policy => some (s.written (s.policies.upsert policy) s.nextId)
  | remove policy => some (s.written (s.policies.keep (fun row => row.id ≠ policy.id)) s.nextId)

/-! ## The calls -/

inductive Operation where
  | create (input : CreateExpensePolicyInput) (reference : String) (now : Instant)
  | update (reference : String) (input : UpdateExpensePolicyInput)
  | remove (reference : String)

inductive Evaluation where
  | querying (now : Instant)
  | filling (now : Instant) (policies : List PolicyRow)
  | evaluating (policies : List PolicyRow)
  | evaluated (policies : List PolicyRow) (result : PolicyEvaluationResult)
  | failed

/-- A write comes with the version it made. -/
inductive Change where
  | finding (reference : String) (edit : PolicyRow → Except HttpException Write)
  | writing (write : Write)
  | invalidating (version : Nat)
  | ended
  | failed

/-- An evaluation knows the last write whose operation had completed when it started. -/
inductive Thread where
  | evaluation (since : Nat) (context : PolicyEvaluationContext) (phase : Evaluation)
  | change (phase : Change)

inductive Arrival where
  | evaluate (context : PolicyEvaluationContext) (now : Instant)
  | operate (operation : Operation)

inductive Outcome where
  | answers
  /-- The command throws; it may have been executed nevertheless. -/
  | throws (executed : Bool)
  | evaluates (reads : PolicyReads)

/-- An evaluation looks at the cache before anything else happens. -/
def startEvaluation (s : State) (now : Instant) : Evaluation :=
  match cachedPolicies s now with
  | some policies => .evaluating policies
  | none => .querying now

/-- An operation up to its first question to the database. -/
def startOperation : Operation → Change
  | .create input reference now =>
    match created input reference now with
    | .ok policy => .writing (.insert policy)
    | .error _ => .failed
  | .update reference input => .finding reference (fun policy => (updated input policy).map .save)
  | .remove reference => .finding reference (fun policy => .ok (.remove policy))

def evaluateStep (s : State) (context : PolicyEvaluationContext) (phase : Evaluation)
    (outcome : Outcome) : Option (State × Evaluation) :=
  match phase, outcome with
  | .querying now, .answers => some (s, .filling now (active s.policies))
  | .querying _, .throws _ => some (s, .failed)
  | .filling now policies, .answers => some (fillCache s policies now, .evaluating policies)
  | .evaluating policies, .evaluates reads =>
    some (s, .evaluated policies (PolicyEngine.evaluate (policies.map PolicyRow.toExpensePolicy) context reads))
  | .evaluating _, .throws _ => some (s, .failed)
  | _, _ => none

def changeStep (s : State) (phase : Change) (outcome : Outcome) : Option (State × Change) :=
  match phase, outcome with
  | .finding reference edit, .answers =>
    match findEntityByReference s.policies.rows (fun row => row.reference) reference
        "Expense policy not found" with
    | .ok policy =>
      match edit policy with
      | .ok write => some (s, .writing write)
      | .error _ => some (s, .failed)
    | .error _ => some (s, .failed)
  | .finding _ _, .throws _ => some (s, .failed)
  | .writing write, .answers =>
    match write.run s with
    | some s' => some (s', .invalidating s.versions.length)
    | none => some (s, .failed)
  | .writing write, .throws executed =>
    if executed then some ((write.run s).getD s, .failed) else some (s, .failed)
  | .invalidating version, .answers =>
    some ({ invalidateActivePoliciesCache s with completed := max s.completed version }, .ended)
  | _, _ => none

/-- Any number of evaluations and operations in one process. `validatePolicyConfig` clears
    the cache as well. -/
def calls : Concurrent State Thread Arrival Outcome (ExpensePolicyRuleType × Json) where
  start s
    | .evaluate context now => some (s, .evaluation s.completed context (startEvaluation s now))
    | .operate operation => some (s, .change (startOperation operation))
  step _ s thread outcome :=
    match thread with
    | .evaluation since context phase =>
      (evaluateStep s context phase outcome).map (fun r => (r.1, .evaluation since context r.2))
    | .change phase => (changeStep s phase outcome).map (fun r => (r.1, .change r.2))
  surroundings s policy :=
    match PolicyConfigValidator.normalizeRuleConfig policy.1 policy.2 with
    | .ok _ => some (invalidateActivePoliciesCache s)
    | .error _ => none

/-! ## What an evaluation should take -/

/-- The policies an evaluation has taken, with the last write completed before it started. -/
def Thread.taken? : Thread → Option (Nat × List PolicyRow)
  | .evaluation since _ (.evaluating policies) | .evaluation since _ (.evaluated policies _) =>
    some (since, policies)
  | _ => none

/-- An evaluation that starts after an operation has completed takes the active policies as
    that operation left them, or a later one did. -/
def TakesNoOlder (p : Pool State Thread) : Prop :=
  ∀ thread ∈ p.threads, ∀ r ∈ thread.taken?, r.2 ∈ p.shared.versions.drop r.1

def Thread.fills? : Thread → Option (List PolicyRow)
  | .evaluation _ _ (.filling _ policies) => some policies
  | _ => none

/-- The cache is filled with the active policies as some operation left them since which
    none has completed. -/
def FillsCurrent (_ : Nat) (s : State) (thread : Thread) (_ : Outcome) : Prop :=
  ∀ policies ∈ thread.fills?, policies ∈ s.versions.drop s.completed

instance (i : Nat) (s : State) (thread : Thread) (outcome : Outcome) :
    Decidable (FillsCurrent i s thread outcome) :=
  inferInstanceAs (Decidable (∀ _ ∈ _, _ ∈ _))

/-! ## The invariant -/

/-- The table is the last version, and the cache holds one since the last completed write. -/
structure Good (s : State) : Prop where
  current : ∃ earlier, s.versions = earlier ++ [active s.policies]
  lt : s.completed < s.versions.length
  cached : ∀ policies, s.activePoliciesCache = some policies → policies ∈ s.versions.drop s.completed

/-- What the earlier steps of a call established. -/
def Knows (_ : Nat) (s : State) : Thread → Prop
  | .evaluation since _ (.querying _) => since < s.versions.length
  | .evaluation since _ (.filling _ policies) | .evaluation since _ (.evaluating policies)
  | .evaluation since _ (.evaluated policies _) => policies ∈ s.versions.drop since
  | .change (.invalidating version) => version < s.versions.length
  | _ => True

section Steps

variable {s s' : State} {policies : List PolicyRow} {versions versions' : List (List PolicyRow)}
  {since version : Nat}

/-- The assertion about a call holds after the steps of others. -/
theorem Knows.later {i : Nat} {thread : Thread} (h : Knows i s thread)
    (hversions : s.versions <+: s'.versions) : Knows i s' thread := by
  cases thread with
  | evaluation since context phase =>
    cases phase with
    | querying now => exact h.trans_le hversions.length_le
    | filling now policies => exact mem_drop_of_prefix hversions h
    | evaluating policies => exact mem_drop_of_prefix hversions h
    | evaluated policies result => exact mem_drop_of_prefix hversions h
    | failed => trivial
  | change phase =>
    cases phase with
    | invalidating version => exact h.trans_le hversions.length_le
    | _ => trivial

theorem Good.written (h : Good s) (policies : Policies) (nextId : Nat) :
    Good (s.written policies nextId) where
  current := ⟨s.versions, rfl⟩
  lt := h.lt.trans_le (List.prefix_append _ _).length_le
  cached held hheld := mem_drop_of_prefix (List.prefix_append _ _) (h.cached held hheld)

/-- Clearing the cache lets an operation complete. -/
theorem Good.invalidated (h : Good s) {completed : Nat} (hlt : completed < s.versions.length) :
    Good { invalidateActivePoliciesCache s with completed } where
  current := h.current
  lt := hlt
  cached held hheld := by cases hheld

theorem Good.filled (h : Good s) (hcurrent : policies ∈ s.versions.drop s.completed) (now : Instant) :
    Good (fillCache s policies now) where
  current := h.current
  lt := h.lt
  cached held hheld := by
    cases hheld
    exact hcurrent

/-- A write makes one more version, and leaves what is cached. -/
theorem Write.run_keeps {write : Write} (h : Good s) (hrun : write.run s = some s') :
    Good s' ∧ ∃ version, s'.versions = s.versions ++ [version] := by
  cases write with
  | insert policy =>
    obtain ⟨policies, -, rfl⟩ := Option.map_eq_some_iff.1 hrun
    exact ⟨h.written _ _, _, rfl⟩
  | save policy =>
    cases hrun
    exact ⟨h.written _ _, _, rfl⟩
  | remove policy =>
    cases hrun
    exact ⟨h.written _ _, _, rfl⟩

/-- An evaluation takes what is cached, which no completed write follows. -/
theorem startEvaluation_knows (h : Good s) (i : Nat) (context : PolicyEvaluationContext) (now : Instant) :
    Knows i s (.evaluation s.completed context (startEvaluation s now)) := by
  unfold startEvaluation
  split
  · rename_i policies hcached
    exact h.cached policies (Option.filter_eq_some_iff.1 hcached).1
  · exact h.lt

/-- A step of an evaluation. -/
theorem evaluateStep_keeps {i : Nat} {context : PolicyEvaluationContext} {phase phase' : Evaluation}
    {outcome : Outcome} (h : Good s) (hknows : Knows i s (.evaluation since context phase))
    (hfills : FillsCurrent i s (.evaluation since context phase) outcome)
    (hstep : evaluateStep s context phase outcome = some (s', phase')) :
    Good s' ∧ Knows i s' (.evaluation since context phase') ∧ s.versions <+: s'.versions := by
  unfold evaluateStep at hstep
  split at hstep
  · cases hstep
    exact ⟨h, mem_drop_of_current h.current hknows, List.prefix_rfl⟩
  · cases hstep
    exact ⟨h, trivial, List.prefix_rfl⟩
  · cases hstep
    exact ⟨h.filled (hfills _ rfl) _, hknows, List.prefix_rfl⟩
  · cases hstep
    exact ⟨h, hknows, List.prefix_rfl⟩
  · cases hstep
    exact ⟨h, trivial, List.prefix_rfl⟩
  · cases hstep

/-- A step of an operation. -/
theorem changeStep_keeps {i : Nat} {phase phase' : Change} {outcome : Outcome} (h : Good s)
    (hknows : Knows i s (.change phase)) (hstep : changeStep s phase outcome = some (s', phase')) :
    Good s' ∧ Knows i s' (.change phase') ∧ s.versions <+: s'.versions := by
  unfold changeStep at hstep
  split at hstep
  · -- the policy is read
    split at hstep
    · split at hstep
      all_goals
        cases hstep
        exact ⟨h, trivial, List.prefix_rfl⟩
    · cases hstep
      exact ⟨h, trivial, List.prefix_rfl⟩
  · cases hstep
    exact ⟨h, trivial, List.prefix_rfl⟩
  · split at hstep
    · rename_i write _ _ _ hrun
      cases hstep
      obtain ⟨hgood, version, hversions⟩ := Write.run_keeps h hrun
      refine ⟨hgood, ?_, hversions ▸ List.prefix_append _ _⟩
      show s.versions.length < s'.versions.length
      rw [hversions, List.length_append]
      exact Nat.lt_succ_self _
    · cases hstep
      exact ⟨h, trivial, List.prefix_rfl⟩
  · -- the operation fails, whether or not the table was written
    rename_i write executed
    split at hstep
    · cases hstep
      cases hrun : write.run s with
      | none => exact ⟨h, trivial, List.prefix_rfl⟩
      | some written =>
        obtain ⟨hgood, version, hversions⟩ := Write.run_keeps h hrun
        exact ⟨hgood, trivial, hversions ▸ List.prefix_append _ _⟩
    · cases hstep
      exact ⟨h, trivial, List.prefix_rfl⟩
  · cases hstep
    exact ⟨h.invalidated (max_lt h.lt hknows), trivial, List.prefix_rfl⟩
  · cases hstep

end Steps

/-! ## Runs -/

theorem outline : calls.Outline FillsCurrent Good Knows where
  start := by
    intro s arrival s' thread hs hstart
    cases arrival with
    | evaluate context now =>
      cases hstart
      exact ⟨hs, fun i => startEvaluation_knows hs i context now, fun _ _ h => h⟩
    | operate operation =>
      cases hstart
      refine ⟨hs, fun _ => ?_, fun _ _ h => h⟩
      cases operation with
      | create input reference now =>
        simp only [startOperation]
        split <;> trivial
      | update reference input => trivial
      | remove reference => trivial
  step := by
    intro i s thread outcome s' thread' hs hknows hguard hstep
    cases thread with
    | evaluation since context phase =>
      obtain ⟨⟨_, phase'⟩, hmove, hr⟩ := Option.map_eq_some_iff.1 hstep
      cases hr
      obtain ⟨hgood, hself, hlater⟩ := evaluateStep_keeps hs hknows hguard hmove
      exact ⟨hgood, hself, fun _ _ _ h => h.later hlater⟩
    | change phase =>
      obtain ⟨⟨_, phase'⟩, hmove, hr⟩ := Option.map_eq_some_iff.1 hstep
      cases hr
      obtain ⟨hgood, hself, hlater⟩ := changeStep_keeps hs hknows hmove
      exact ⟨hgood, hself, fun _ _ _ h => h.later hlater⟩
  surroundings := by
    intro s policy s' hs hchange
    simp only [calls] at hchange
    split at hchange
    · cases hchange
      exact ⟨hs.invalidated hs.lt, fun _ _ h => h.later List.prefix_rfl⟩
    · cases hchange

/-- When every fill is with the active policies as they were at some time since the last
    completed operation, an evaluation takes no older ones. -/
theorem evaluates_no_older (policies : Policies) (nextId : Nat) (p : Pool State Thread)
    (h : Reaches (Guarded (Concurrent.onStep FillsCurrent) calls.Step)
      (.idle (.init policies nextId)) p) : TakesNoOlder p := by
  have hstart : Good (.init policies nextId) :=
    ⟨⟨[], rfl⟩, Nat.zero_lt_one, fun _ hcached => by cases hcached⟩
  have hholds := outline.reaches (Concurrent.holds_idle hstart) h
  rintro thread hthread ⟨since, taken⟩ htaken
  obtain ⟨i, hi⟩ := List.mem_iff_getElem?.1 hthread
  have hknows := hholds.thread i thread hi
  cases thread with
  | evaluation since' context phase =>
    cases phase with
    | evaluating taken' =>
      cases htaken
      exact hknows
    | evaluated taken' result =>
      cases htaken
      exact hknows
    | _ => cases htaken
  | change phase => cases htaken

/-! ## A policy that is switched off -/

namespace Sample

def policy : PolicyRow where
  reference := "EXP1700000000001AAAAAA"
  name := "Meals"
  ruleType := .CONDITIONAL
  severity := .BLOCK
  config := .obj []
  id := 1
  isActive := true
  createdAt := 0

def policies : Policies := ⟨[policy], List.nodup_singleton _⟩

def context : PolicyEvaluationContext := ⟨1, 1, 5000, .MEALS, 0, 0, []⟩

/-- `update` with `isActive: false`, from its start to its end. -/
def switchOff (thread : Nat) : List (Turn Arrival Outcome (ExpensePolicyRuleType × Json)) :=
  .start (.operate (.update policy.reference ⟨none, none, none, some false⟩)) ::
    List.replicate 3 (.step thread .answers)

/-- An evaluation before the change and one after it. -/
def inOrder : List (Turn Arrival Outcome (ExpensePolicyRuleType × Json)) :=
  [.start (.evaluate context 0), .step 0 .answers, .step 0 .answers] ++ switchOff 1 ++
    [.start (.evaluate context 1), .step 2 .answers, .step 2 .answers]

/-- The change comes between the query and the fill of the first evaluation. -/
def lateFill : List (Turn Arrival Outcome (ExpensePolicyRuleType × Json)) :=
  [.start (.evaluate context 0), .step 0 .answers] ++ switchOff 1 ++
    [.step 0 .answers, .start (.evaluate context 1)]

end Sample

/-- The evaluation after the change takes no policy. -/
theorem evaluates_no_older_sample :
    ∃ p, calls.exec FillsCurrent Sample.inOrder (.idle (.init Sample.policies 2)) = some p ∧
      p.threads.map Thread.taken? = [some (0, [Sample.policy]), none, some (1, [])] ∧
      TakesNoOlder p := by
  have hexec : (calls.exec FillsCurrent Sample.inOrder (.idle (.init Sample.policies 2))).any (fun p =>
      p.threads.map Thread.taken? = [some (0, [Sample.policy]), none, some (1, [])]) = true := by
    decide +kernel
  obtain ⟨p, hp, htaken⟩ := (Option.any_eq_true _ _).1 hexec
  exact ⟨p, hp, of_decide_eq_true htaken,
    evaluates_no_older _ _ p (Concurrent.reaches_of_exec hp)⟩

/-- The second evaluation starts after the policy was switched off, and takes it from the
    cache. -/
theorem switched_off_policy_taken :
    ∃ p, Reaches calls.Step (.idle (.init Sample.policies 2)) p ∧ p.shared.completed = 1 ∧
      active p.shared.policies = [] ∧ ¬ TakesNoOlder p := by
  have hexec : (calls.exec Concurrent.anyStep Sample.lateFill (.idle (.init Sample.policies 2))).any
      (fun p => p.shared.completed = 1 ∧ active p.shared.policies = [] ∧
        p.shared.versions.drop 1 = [[]] ∧
        p.threads.map Thread.taken? = [some (0, [Sample.policy]), none, some (1, [Sample.policy])]) =
          true := by
    decide +kernel
  obtain ⟨p, hp, hcheck⟩ := (Option.any_eq_true _ _).1 hexec
  obtain ⟨hcompleted, hactive, hversions, htaken⟩ := of_decide_eq_true hcheck
  refine ⟨p, (Concurrent.reaches_of_exec hp).of_guarded, hcompleted, hactive, fun h => ?_⟩
  have hmem : some (1, [Sample.policy]) ∈ p.threads.map Thread.taken? := by simp [htaken]
  obtain ⟨thread, hthread, hthreadTaken⟩ := List.mem_map.1 hmem
  have hnewer := h thread hthread _ hthreadTaken
  rw [hversions, List.mem_singleton] at hnewer
  cases hnewer

end Expentra.ActivePolicies
