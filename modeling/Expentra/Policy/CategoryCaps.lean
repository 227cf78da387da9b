-- SUMMARY: The monthly caps shown as hints and on the dashboard, beside those the policy engine enforces.
import Expentra.Library.Traversal
import Expentra.Policy.Storage
import Expentra.System.Operations

/-!
# Category caps

The policy hints and the dashboard each read the caps out of the stored policies. Both
know the legacy rule; the dashboard also looks at the conditions of the other policies.
`create` and `update` store conditions only.
-/

namespace Expentra

open Library

namespace CategoryCaps

open ActivePolicies (PolicyRow CreateExpensePolicyInput UpdateExpensePolicyInput created updated
  conditionObject configObject)
open PolicyConfigValidator (normalizeRuleConfig)
open PolicyStorage (reread rereadCondition)

/-- A cap that is read from a policy. -/
structure CategoryCap where
  policyReference : String
  policyName : String
  category : Json
  capAmount : Json
deriving DecidableEq

def CategoryCap.pair (cap : CategoryCap) : Json × Json := (cap.category, cap.capAmount)

/-! ## Reading the caps -/

/-- A property; `null` has none. -/
def property (value : Json) (key : String) : Except HttpException (Option Json) :=
  if value.isNull then .error (.typeError ("Cannot read properties of null (reading '" ++ key ++ "')"))
  else .ok (value.get? key)

def isTruthy : Option Json → Bool
  | none | some .null | some (.bool false) => false
  | some (.num n) => !(n == 0) && !n.isNaN
  | some (.str s) => s ≠ ""
  | some _ => true

/-- The cap of a policy of the legacy rule type. -/
def legacyCaps (policy : ExpensePolicy) : Except HttpException (List CategoryCap) := do
  let category ← property policy.config "category"
  let capKobo ← property policy.config "capKobo"
  if isTruthy category && isTruthy capKobo then
    pure [⟨policy.reference, policy.name, category.getD .null, capKobo.getD .null⟩]
  else pure []

namespace ExpenseService

def capsOf (policy : ExpensePolicy) : Except HttpException (List CategoryCap) :=
  if policy.ruleType ≠ .CATEGORY_MONTHLY_CAP then .ok []
  else legacyCaps policy

def extractCategoryCaps (policies : List ExpensePolicy) : Except HttpException (List CategoryCap) :=
  (policies.mapM capsOf).map List.flatten

end ExpenseService

namespace DashboardService

def conditionCaps (policy : ExpensePolicy) (condition : Json) : Except HttpException (List CategoryCap) := do
  let field ← property condition "field"
  let category := (condition.get? "params").bind (fun params => params.get? "category")
  if field ≠ some (.str "monthly_category_spend") || !isTruthy category then pure []
  else if condition.get? "operator" ≠ some (.str "gt") && condition.get? "operator" ≠ some (.str "gte") then
    pure []
  else do
    let capAmount ← match condition.get? "value" with
      | some value => value.toNumber
      | none => pure Js.NaN
    pure [⟨policy.reference, policy.name, category.getD .null, .num capAmount⟩]

def capsOf (policy : ExpensePolicy) : Except HttpException (List CategoryCap) :=
  if policy.ruleType = .CATEGORY_MONTHLY_CAP then legacyCaps policy
  else
    match policy.config.get? "conditions" with
    | some (.arr conditions) => (conditions.mapM (conditionCaps policy)).map List.flatten
    | _ => .ok []

def extractCategoryCaps (policies : List ExpensePolicy) : Except HttpException (List CategoryCap) :=
  (policies.mapM capsOf).map List.flatten

end DashboardService

/-! ## The hints -/

structure ExpensePolicyHint where
  category : Json
  policyName : String
  capAmount : Json
  currentSpend : Int
  remainingAmount : Float
  utilizationPercent : Float

def ExpensePolicyHint.pair (hint : ExpensePolicyHint) : Json × Json := (hint.category, hint.capAmount)

/-- `cap.category === category`, when there is a category to filter by. -/
def isOf (category : Option ExpenseCategory) (cap : CategoryCap) : Bool :=
  category.all (fun category => cap.category.strictEquals (.str category.name))

/-- `loadMonthlySpendByCategory`, at one category. -/
def monthlySpend (db : Db) (userId : Nat) (now : Instant) (category : Json) : Int :=
  let period := PolicyEvaluationCache.monthRange now
  db.expenses.sum (fun e =>
    if e.userId = userId && PolicyEvaluationCache.isActiveStatus e.status &&
        e.submittedAt.any (fun t => period.1 ≤ t && t < period.2) && category = .str e.category.name
    then e.amount.val else 0)

/-- `Math.max(x, 0)` -/
def max0 (x : Float) : Float := if 0 < x || x.isNaN then x else 0

def hintOf (db : Db) (userId : Nat) (now : Instant) (cap : CategoryCap) :
    Except HttpException ExpensePolicyHint := do
  let currentSpend := monthlySpend db userId now cap.category
  let capAmount ← cap.capAmount.toNumber
  pure {
    category := cap.category
    policyName := cap.policyName
    capAmount := cap.capAmount
    currentSpend
    remainingAmount := max0 (capAmount - Float.ofInt currentSpend)
    utilizationPercent :=
      if 0 < capAmount then Js.round (Float.ofInt currentSpend / capAmount * 1000) / 10 else 0 }

/-- The policies are the active ones, in the order the database returns them. -/
def getPolicyHints (db : Db) (policies : List ExpensePolicy) (userId : Nat)
    (category : Option ExpenseCategory) (now : Instant) : Except HttpException (List ExpensePolicyHint) := do
  if policies = [] then pure []
  else
    let caps := (← ExpenseService.extractCategoryCaps policies).filter (isOf category)
    caps.mapM (hintOf db userId now)

/-! ## The caps that are enforced -/

/-- A condition on the monthly spend that is met when the spend is above a bound. -/
def IsCap (condition : PolicyCondition) : Prop :=
  condition.field = "monthly_category_spend" ∧ (condition.operator = .gt ∨ condition.operator = .gte)

instance (condition : PolicyCondition) : Decidable (IsCap condition) :=
  inferInstanceAs (Decidable (_ ∧ _))

/-- The normalised policy has a condition on the monthly spend of the category. -/
def EnforcesCap (policy : ExpensePolicy) (category : String) (cap : Float) : Prop :=
  ∃ config, normalizeRuleConfig policy.ruleType policy.config = .ok config ∧
    ∃ condition ∈ config.conditions, IsCap condition ∧ condition.category? = some category ∧
      condition.value = .num cap

/-- Hints and dashboard have the same caps, and every cap that is enforced is among them. -/
structure ShownAsEnforced (db : Db) (policies : List ExpensePolicy) (userId : Nat) (now : Instant) :
    Prop where
  same : ∀ category, (getPolicyHints db policies userId category now).map (List.map ExpensePolicyHint.pair) =
    (DashboardService.extractCategoryCaps policies).map (fun caps =>
      (caps.filter (isOf category)).map CategoryCap.pair)
  shown : ∀ policy ∈ policies, ∀ category cap, EnforcesCap policy category cap →
    ∃ hints, getPolicyHints db policies userId none now = .ok hints ∧
      (Json.str category, Json.num cap) ∈ hints.map ExpensePolicyHint.pair

/-- A policy that `create` has stored, and `update` any number of times since. -/
inductive Produced : PolicyRow → Prop
  | create {input : CreateExpensePolicyInput} {reference : String} {now : Instant} {stored : PolicyRow}
    (h : created input reference now = .ok stored) (id : Nat) : Produced { stored with id }
  | update {input : UpdateExpensePolicyInput} {policy stored : PolicyRow} (hpolicy : Produced policy)
    (h : updated input policy = .ok stored) : Produced stored

section Produced

variable {policy : PolicyRow} {policies : List PolicyRow} {config : ConditionalPolicyConfig}
  {condition : PolicyCondition} {caps : List CategoryCap} {category : String} {cap : Float}

/-- What `create` and `update` store has the conditional form. -/
theorem Produced.stored (h : Produced policy) : policy.ruleType = .CONDITIONAL ∧
    ∃ ruleType raw config, normalizeRuleConfig ruleType raw = .ok config ∧
      policy.config = (configObject config).reparsed := by
  induction h with
  | create h id =>
    obtain ⟨config, hconfig, htype, hstored⟩ := (PolicyStorage.Stores.create h).normalized
    exact ⟨htype, _, _, config, hconfig, hstored⟩
  | @update input policy stored _ h ih =>
    cases hraw : input.config with
    | none =>
      unfold updated at h
      rw [hraw] at h
      cases h
      exact ih
    | some raw =>
      obtain ⟨config, hconfig, htype, hstored⟩ := (PolicyStorage.Stores.update hraw h).normalized
      exact ⟨htype, _, _, config, hconfig, hstored⟩

/-- A validated condition on the monthly spend has a category and an amount. -/
theorem cap_of_valid (hvalid : ∃ field, PolicyConfigValidator.Valid field condition) (h : IsCap condition) :
    ∃ category n, condition.category? = some category ∧ category ≠ "" ∧ condition.value = .num n ∧
      (Json.num n).reparsed = .num n := by
  obtain ⟨field, hknown, -, index, hchecked⟩ := hvalid
  rw [h.1] at hknown
  cases hknown
  obtain ⟨_, hcategory, hamount⟩ := Except.bind_eq_ok.1 hchecked
  obtain ⟨x, n, hvalue, hinteger, hpositive⟩ := PolicyConfigValidator.num_of_assertPositiveKobo hamount
  have hstored := (PolicyStorage.rereadNumber_of_integer hinteger (by omega)).2
  unfold PolicyConfigValidator.assertCategoryParam at hcategory
  split at hcategory
  · cases hcategory
  · rename_i category hne hcategory'
    exact ⟨category, x, hcategory', hne, hvalue, hstored⟩
  · cases hcategory

theorem category_conditionObject (condition : PolicyCondition) :
    ((conditionObject condition).reparsed.get? "params").bind (fun params => params.get? "category") =
      condition.category?.map .str := by
  rw [Json.get?_reparsed, (PolicyStorage.conditionObject_get? condition).2.2.2]
  unfold PolicyCondition.category?
  rcases condition.params with _ | ⟨_ | category, _ | days⟩ <;> rfl

/-- What the dashboard takes from a condition that is stored. -/
def storedCaps (policy : ExpensePolicy) (condition : PolicyCondition) : List CategoryCap :=
  if IsCap condition then
    [⟨policy.reference, policy.name, .str (condition.category?.getD ""), condition.value⟩]
  else []

theorem conditionCaps_eq (policy : ExpensePolicy)
    (hvalid : ∃ field, PolicyConfigValidator.Valid field condition) :
    DashboardService.conditionCaps policy (conditionObject condition).reparsed =
      .ok (storedCaps policy condition) := by
  obtain ⟨hfield, hoperator, hvalue, -⟩ := PolicyStorage.conditionObject_get? condition
  have hread : property (conditionObject condition).reparsed "field" =
      .ok (some (.str condition.field)) := by
    rw [property, Json.get?_reparsed, hfield]
    rfl
  unfold DashboardService.conditionCaps storedCaps
  rw [hread, category_conditionObject, Json.get?_reparsed, hoperator, Json.get?_reparsed, hvalue]
  change (if _ then _ else _) = _
  by_cases hcap : IsCap condition
  · obtain ⟨category, n, hcategory, hne, hvalue, hstored⟩ := cap_of_valid hvalid hcap
    have hname : condition.operator.name = "gt" ∨ condition.operator.name = "gte" :=
      hcap.2.imp (fun h => by rw [h]; rfl) (fun h => by rw [h]; rfl)
    rw [if_pos hcap, hcategory]
    rcases hname with hname | hname <;> simp [hcap.1, hname, isTruthy, hne, hvalue, hstored] <;> rfl
  · rw [if_neg hcap]
    by_cases hmonthly : condition.field = "monthly_category_spend"
    · have hname : condition.operator.name ≠ "gt" ∧ condition.operator.name ≠ "gte" := by
        have hother : ¬ (condition.operator = .gt ∨ condition.operator = .gte) :=
          fun h => hcap ⟨hmonthly, h⟩
        cases hop : condition.operator <;> simp [hop, PolicyConditionOperator.name] at hother ⊢
      simp [hmonthly, hname.1, hname.2]
      rfl
    · simp [hmonthly]
      rfl

/-- What is enforced of a stored policy, in the conditions it was stored with. -/
theorem enforcesCap_iff {ruleType : ExpensePolicyRuleType} {raw : Json}
    (hnormalized : normalizeRuleConfig ruleType raw = .ok config) (htype : policy.ruleType = .CONDITIONAL)
    (hstored : policy.config = (configObject config).reparsed) :
    EnforcesCap policy.toExpensePolicy category cap ↔ ∃ condition ∈ config.conditions,
      IsCap condition ∧ condition.category? = some category ∧ condition.value = .num cap := by
  have hreread := PolicyStorage.normalizeRuleConfig_reparsed hnormalized
  rw [← htype, ← hstored] at hreread
  -- the amount of a cap is stored as it is
  have hsame : ∀ condition ∈ config.conditions, IsCap condition →
      condition.value.reparsed = condition.value := by
    intro condition hmem hcap
    obtain ⟨_, n, -, -, hvalue, hkept⟩ :=
      cap_of_valid (PolicyConfigValidator.valid_of_normalizeRuleConfig hnormalized condition hmem) hcap
    rw [hvalue, hkept]
  constructor
  · rintro ⟨_, hconfig, _, hmem, hcap, hcategory, hvalue⟩
    cases hreread.symm.trans hconfig
    obtain ⟨condition, hcondition, rfl⟩ := List.mem_map.1 hmem
    rw [PolicyStorage.rereadCondition_category?] at hcategory
    exact ⟨condition, hcondition, hcap, hcategory, (hsame condition hcondition hcap).symm.trans hvalue⟩
  · rintro ⟨condition, hcondition, hcap, hcategory, hvalue⟩
    refine ⟨_, hreread, _, List.mem_map_of_mem hcondition, hcap, ?_,
      (hsame condition hcondition hcap).trans hvalue⟩
    rw [PolicyStorage.rereadCondition_category?, hcategory]

/-- The dashboard takes from a stored policy exactly the caps that are enforced. -/
theorem capsOf_produced (h : Produced policy) :
    ∃ caps, DashboardService.capsOf policy.toExpensePolicy = .ok caps ∧
      ∀ pair, pair ∈ caps.map CategoryCap.pair ↔ ∃ category cap, pair = (.str category, .num cap) ∧
        EnforcesCap policy.toExpensePolicy category cap := by
  obtain ⟨htype, ruleType, raw, config, hnormalized, hstored⟩ := h.stored
  have hvalid := PolicyConfigValidator.valid_of_normalizeRuleConfig hnormalized
  have hrun : (config.conditions.map (fun condition => (conditionObject condition).reparsed)).mapM
      (DashboardService.conditionCaps policy.toExpensePolicy) =
        .ok (config.conditions.map (storedCaps policy.toExpensePolicy)) := by
    rw [Except.mapM_eq_ok, List.forall₂_map_left_iff, List.forall₂_map_right_iff, List.forall₂_same]
    exact fun condition hmem => conditionCaps_eq _ (hvalid condition hmem)
  refine ⟨(config.conditions.map (storedCaps policy.toExpensePolicy)).flatten, ?_, ?_⟩
  · unfold DashboardService.capsOf
    rw [if_neg (fun hlegacy => by cases htype.symm.trans hlegacy), hstored,
      (PolicyStorage.reparsed_configObject_get? config).2.2]
    dsimp only
    rw [hrun]
    rfl
  · intro pair
    simp only [enforcesCap_iff hnormalized htype hstored, List.mem_map, List.mem_flatten]
    constructor
    · rintro ⟨taken, ⟨_, ⟨condition, hmem, rfl⟩, htaken⟩, rfl⟩
      unfold storedCaps at htaken
      split at htaken
      · rename_i hcap
        obtain ⟨category, n, hcategory, -, hvalue, -⟩ := cap_of_valid (hvalid condition hmem) hcap
        cases List.mem_singleton.1 htaken
        refine ⟨category, n, ?_, condition, hmem, hcap, hcategory, hvalue⟩
        rw [CategoryCap.pair, hcategory, hvalue]
        rfl
      · cases htaken
    · rintro ⟨category, cap, rfl, condition, hmem, hcap, hcategory, hvalue⟩
      refine ⟨⟨policy.reference, policy.name, .str category, .num cap⟩,
        ⟨_, ⟨condition, hmem, rfl⟩, ?_⟩, rfl⟩
      rw [storedCaps, if_pos hcap, hcategory, hvalue]
      exact List.mem_singleton_self _

/-- The dashboard has exactly the caps that are enforced. -/
theorem dashboard_caps_enforced (h : ∀ policy ∈ policies, Produced policy) :
    ∃ caps, DashboardService.extractCategoryCaps (policies.map PolicyRow.toExpensePolicy) = .ok caps ∧
      ∀ pair, pair ∈ caps.map CategoryCap.pair ↔ ∃ policy ∈ policies, ∃ category cap,
        pair = (.str category, .num cap) ∧ EnforcesCap policy.toExpensePolicy category cap := by
  have hruns : ∀ policy ∈ policies.map PolicyRow.toExpensePolicy,
      ∃ caps, DashboardService.capsOf policy = .ok caps :=
    List.forall_mem_map.2 (fun policy hmem => (capsOf_produced (h policy hmem)).imp (fun _ hcaps => hcaps.1))
  obtain ⟨taken, htaken⟩ := Except.exists_mapM_eq_ok hruns
  refine ⟨taken.flatten, by rw [DashboardService.extractCategoryCaps, htaken]; rfl, fun pair => ?_⟩
  simp only [List.map_flatten, List.mem_flatten, List.mem_map]
  constructor
  · rintro ⟨_, ⟨caps, hcaps, rfl⟩, hpair⟩
    obtain ⟨_, hmem, hrun⟩ := Except.exists_of_mem_mapM htaken caps hcaps
    obtain ⟨policy, hpolicy, rfl⟩ := List.mem_map.1 hmem
    obtain ⟨caps', hrun', hiff⟩ := capsOf_produced (h policy hpolicy)
    cases hrun.symm.trans hrun'
    exact ⟨policy, hpolicy, (hiff pair).1 hpair⟩
  · rintro ⟨policy, hpolicy, henforced⟩
    obtain ⟨caps', hrun', hiff⟩ := capsOf_produced (h policy hpolicy)
    obtain ⟨caps, hcaps, hrun⟩ := Except.exists_of_mapM_eq_ok htaken _ (List.mem_map_of_mem hpolicy)
    cases hrun.symm.trans hrun'
    exact ⟨_, ⟨_, hcaps, rfl⟩, (hiff pair).2 henforced⟩

/-- The hints know the legacy rule only, which is not stored any more. -/
theorem getPolicyHints_produced (h : ∀ policy ∈ policies, Produced policy) (db : Db) (userId : Nat)
    (category : Option ExpenseCategory) (now : Instant) :
    getPolicyHints db (policies.map PolicyRow.toExpensePolicy) userId category now = .ok [] := by
  have hnone : ∀ policy ∈ policies.map PolicyRow.toExpensePolicy,
      ExpenseService.capsOf policy = .ok [] := by
    refine List.forall_mem_map.2 (fun policy hmem => ?_)
    unfold ExpenseService.capsOf
    rw [if_pos (fun hlegacy => by cases (h policy hmem).stored.1.symm.trans hlegacy)]
  obtain ⟨taken, htaken⟩ := Except.exists_mapM_eq_ok (fun policy hmem => ⟨_, hnone policy hmem⟩)
  have hempty : taken.flatten = [] := List.flatten_eq_nil_iff.2 (fun _ hcaps => by
    obtain ⟨policy, hmem, hrun⟩ := Except.exists_of_mem_mapM htaken _ hcaps
    exact Except.ok.inj (hrun.symm.trans (hnone policy hmem)))
  unfold getPolicyHints ExpenseService.extractCategoryCaps
  rw [htaken]
  split
  · rfl
  · change (taken.flatten.filter (isOf category)).mapM (hintOf db userId now) = _
    rw [hempty]
    rfl

end Produced

/-- Shown and enforced caps agree exactly when no active policy enforces one. -/
theorem shown_as_enforced_iff (db : Db) (policies : List PolicyRow) (userId : Nat) (now : Instant)
    (h : ∀ policy ∈ policies, Produced policy) :
    ShownAsEnforced db (policies.map PolicyRow.toExpensePolicy) userId now ↔
      ∀ policy ∈ policies, ∀ category cap, ¬ EnforcesCap policy.toExpensePolicy category cap := by
  constructor
  · intro hshown policy hpolicy category cap henforced
    obtain ⟨hints, hhints, hmem⟩ :=
      hshown.shown _ (List.mem_map_of_mem hpolicy) category cap henforced
    cases (getPolicyHints_produced h db userId none now).symm.trans hhints
    cases hmem
  · intro hnone
    obtain ⟨caps, hrun, hiff⟩ := dashboard_caps_enforced h
    have hempty : caps.map CategoryCap.pair = [] := by
      refine List.eq_nil_iff_forall_not_mem.2 (fun pair hpair => ?_)
      obtain ⟨policy, hpolicy, category, cap, -, henforced⟩ := (hiff pair).1 hpair
      exact hnone policy hpolicy category cap henforced
    refine ⟨fun category => ?_, ?_⟩
    · rw [getPolicyHints_produced h, hrun, List.map_eq_nil_iff.1 hempty]
      rfl
    · refine List.forall_mem_map.2 (fun policy hpolicy category cap henforced => ?_)
      exact absurd henforced (hnone policy hpolicy category cap)

/-! ## Runs -/

section Runs

open ActivePolicies (State Thread Change Write Outcome calls)

/-- A policy that is about to be written is produced. -/
def Prepared : Write → Prop
  | .insert policy => ∀ id, Produced { policy with id }
  | .save policy => Produced policy
  | .remove _ => True

def RowsProduced (s : State) : Prop := ∀ policy ∈ s.policies, Produced policy

/-- What a call is about to write, and what it makes of the policy it is looking for. -/
def Prepares (_ : Nat) (_ : State) : Thread → Prop
  | .change (.finding _ edit) =>
    ∀ policy write, Produced policy → edit policy = .ok write → Prepared write
  | .change (.writing write) => Prepared write
  | _ => True

variable {s s' : State} {write : Write}

theorem RowsProduced.run (hs : RowsProduced s) (hwrite : Prepared write) (hrun : write.run s = some s') :
    RowsProduced s' := by
  cases write with
  | insert policy =>
    obtain ⟨policies, hinsert, rfl⟩ := Option.map_eq_some_iff.1 hrun
    intro row hrow
    rcases (Table.mem_insert hinsert).1 hrow with hold | rfl
    · exact hs row hold
    · exact hwrite _
  | save policy =>
    cases hrun
    intro row hrow
    rcases Table.mem_of_mem_upsert hrow with hold | rfl
    · exact hs row hold
    · exact hwrite
  | remove policy =>
    cases hrun
    exact fun row hrow => hs row (Table.mem_keep.1 hrow).1

theorem prepares_startOperation (i : Nat) (s : State) (operation : ActivePolicies.Operation) :
    Prepares i s (.change (ActivePolicies.startOperation operation)) := by
  cases operation with
  | create input reference now =>
    unfold ActivePolicies.startOperation
    dsimp only
    split
    · rename_i policy hcreated
      exact fun id => Produced.create hcreated id
    · trivial
  | update reference input =>
    intro policy write hpolicy hedit
    dsimp only at hedit
    cases hupdated : updated input policy with
    | ok stored =>
      rw [hupdated] at hedit
      cases hedit
      exact Produced.update hpolicy hupdated
    | error e =>
      rw [hupdated] at hedit
      cases hedit
  | remove reference =>
    intro policy write hpolicy hedit
    cases hedit
    trivial

theorem changeStep_produced {i : Nat} {phase phase' : Change} {outcome : Outcome} (hs : RowsProduced s)
    (hprepares : Prepares i s (.change phase))
    (hstep : ActivePolicies.changeStep s phase outcome = some (s', phase')) :
    RowsProduced s' ∧ Prepares i s' (.change phase') := by
  unfold ActivePolicies.changeStep at hstep
  split at hstep
  · -- the policy is read, and edited
    rename_i reference edit
    split at hstep
    · rename_i policy hfound
      split at hstep
      · rename_i write hedit
        cases hstep
        exact ⟨hs, hprepares policy write (hs policy (findEntityByReference_eq_ok hfound).1) hedit⟩
      · cases hstep
        exact ⟨hs, trivial⟩
    · cases hstep
      exact ⟨hs, trivial⟩
  · cases hstep
    exact ⟨hs, trivial⟩
  · split at hstep
    · rename_i write _ _ _ hrun
      cases hstep
      exact ⟨hs.run hprepares hrun, trivial⟩
    · cases hstep
      exact ⟨hs, trivial⟩
  · rename_i write executed
    split at hstep
    · cases hstep
      cases hrun : write.run s with
      | none => exact ⟨hs, trivial⟩
      | some written => exact ⟨hs.run hprepares hrun, trivial⟩
    · cases hstep
      exact ⟨hs, trivial⟩
  · cases hstep
    exact ⟨hs, trivial⟩
  · cases hstep

/-- No other call writes a policy. -/
theorem outline : calls.Outline Concurrent.anyStep RowsProduced Prepares where
  start := by
    intro s arrival s' thread hs hstart
    cases arrival with
    | evaluate context now =>
      cases hstart
      exact ⟨hs, fun _ => trivial, fun _ _ h => h⟩
    | operate operation =>
      cases hstart
      exact ⟨hs, fun i => prepares_startOperation i s operation, fun _ _ h => h⟩
  step := by
    intro i s thread outcome s' thread' hs hprepares _ hstep
    cases thread with
    | evaluation since context phase =>
      obtain ⟨⟨s₁, phase'⟩, hmove, hr⟩ := Option.map_eq_some_iff.1 hstep
      cases hr
      have hrows : RowsProduced s₁ := by
        unfold ActivePolicies.evaluateStep at hmove
        split at hmove <;> cases hmove <;> exact hs
      exact ⟨hrows, trivial, fun _ _ _ h => h⟩
    | change phase =>
      obtain ⟨⟨_, phase'⟩, hmove, hr⟩ := Option.map_eq_some_iff.1 hstep
      cases hr
      obtain ⟨hrows, hself⟩ := changeStep_produced hs hprepares hmove
      exact ⟨hrows, hself, fun _ _ _ h => h⟩
  surroundings := by
    intro s policy s' hs hchange
    simp only [calls] at hchange
    split at hchange
    · cases hchange
      exact ⟨hs, fun _ _ h => h⟩
    · cases hchange

/-- Every policy there ever is, `create` and `update` have produced. -/
theorem rows_produced {nextId : Nat} {p : Pool State Thread}
    (h : Reaches calls.Step (.idle (.init ∅ nextId)) p) : ∀ policy ∈ p.shared.policies, Produced policy :=
  (outline.reaches_anyStep (Concurrent.holds_idle (fun _ hmem => absurd hmem List.not_mem_nil)) h).shared

end Runs

/-! ## A cap that is not shown -/

namespace Sample

def conditionConfig (conditions : List Json) : Json :=
  .obj [("match", .str "all"), ("conditions", .arr conditions)]

/-- A policy without a cap. -/
def receiptInput : CreateExpensePolicyInput where
  name := "Receipts"
  ruleType := none
  severity := .WARN
  config := conditionConfig [conditionObject ⟨"attachment_count", .eq, .num 0, none⟩]
  isActive := none

def receiptPolicy : PolicyRow where
  reference := "POL-1"
  name := "Receipts"
  ruleType := .CONDITIONAL
  severity := .WARN
  config := receiptInput.config
  id := 1
  isActive := true
  createdAt := 0

/-- A cap in the legacy form. -/
def capInput : CreateExpensePolicyInput where
  name := "Meals"
  ruleType := some .CATEGORY_MONTHLY_CAP
  severity := .BLOCK
  config := .obj [("category", .str "MEALS"), ("capKobo", .num 1000000)]
  isActive := none

def capConditions : List PolicyCondition :=
  [⟨"category", .eq, .str "MEALS", none⟩,
    ⟨"monthly_category_spend", .gt, .num 1000000, some ⟨some "MEALS", none⟩⟩]

def capPolicy : PolicyRow where
  reference := "POL-2"
  name := "Meals"
  ruleType := .CONDITIONAL
  severity := .BLOCK
  config := conditionConfig (capConditions.map conditionObject)
  id := 2
  isActive := true
  createdAt := 0

theorem produced_receiptPolicy : Produced receiptPolicy := by
  have h : created receiptInput "POL-1" 0 = .ok { receiptPolicy with id := 0 } := by decide +kernel
  exact Produced.create h 1

theorem produced_capPolicy : Produced capPolicy := by
  have h : created capInput "POL-2" 0 = .ok { capPolicy with id := 0 } := by decide +kernel
  exact Produced.create h 2

end Sample

/-- Without a cap there is nothing to show. -/
theorem shown_as_enforced_iff_sample :
    ShownAsEnforced Expentra.Sample.db [Sample.receiptPolicy.toExpensePolicy] 1 0 := by
  refine (shown_as_enforced_iff Expentra.Sample.db [Sample.receiptPolicy] 1 0
    (List.forall_mem_singleton.2 Sample.produced_receiptPolicy)).2 (List.forall_mem_singleton.2 ?_)
  rintro category cap ⟨config, hconfig, condition, hmem, hcap, -⟩
  have hnormalized : normalizeRuleConfig Sample.receiptPolicy.ruleType Sample.receiptPolicy.config =
      .ok ⟨.all, [⟨"attachment_count", .eq, .num 0, none⟩]⟩ := by decide +kernel
  cases hnormalized.symm.trans hconfig
  cases List.mem_singleton.1 hmem
  exact absurd hcap (by decide)

/-- The engine enforces the cap and the dashboard has it, but there are no hints. -/
theorem cap_not_shown : Produced Sample.capPolicy ∧
    EnforcesCap Sample.capPolicy.toExpensePolicy "MEALS" 1000000 ∧
    DashboardService.extractCategoryCaps [Sample.capPolicy.toExpensePolicy] =
      .ok [⟨"POL-2", "Meals", .str "MEALS", .num 1000000⟩] ∧
    ∀ db userId now,
      (getPolicyHints db [Sample.capPolicy.toExpensePolicy] userId none now).map (List.map
        ExpensePolicyHint.pair) = .ok [] ∧
      ¬ ShownAsEnforced db [Sample.capPolicy.toExpensePolicy] userId now := by
  have hcap : EnforcesCap Sample.capPolicy.toExpensePolicy "MEALS" 1000000 :=
    ⟨⟨.all, Sample.capConditions⟩, by decide +kernel, _, List.mem_cons_of_mem _ List.mem_cons_self,
      ⟨rfl, .inl rfl⟩, rfl, rfl⟩
  refine ⟨Sample.produced_capPolicy, hcap, rfl, fun db userId now => ⟨rfl, fun hshown => ?_⟩⟩
  obtain ⟨hints, hhints, hmem⟩ := hshown.shown _ List.mem_cons_self "MEALS" 1000000 hcap
  have hnone : getPolicyHints db [Sample.capPolicy.toExpensePolicy] userId none now = .ok [] := by rfl
  cases hnone.symm.trans hhints
  cases hmem

end CategoryCaps

end Expentra
