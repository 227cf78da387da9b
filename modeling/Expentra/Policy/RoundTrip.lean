-- SUMMARY: What is read back of a stored condition, and that it is evaluated and worded as it was.
import Expentra.Policy.ActivePolicies
import Expentra.Policy.Verdicts

/-!
# Reading back

A normalised configuration is stored as JSON. Reading it back gives the conditions that
were stored, up to numbers JSON does not have: `NaN` and the infinities are stored as
`null`, which is read as 0, and -0 is stored as 0. A valid condition does not tell them
apart.
-/

namespace Expentra

open Library

namespace PolicyStorage

open ActivePolicies (paramsObject conditionObject configObject)
open PolicyConfigValidator (normalizeRuleConfig validateCondition parseParams parseConditions
  ParsedFrom parseCondition_eq_ok normalizeRuleConfig_eq_ok Valid num_of_integer?
  num_of_assertPositiveKobo)
open PolicyVerdict

/-! ## Numbers and parameters -/

/-- A number after it was stored: `NaN` and the infinities are stored as `null`. -/
def rereadNumber (x : Float) : Float := (Json.num x).reparsed.toNumber.toOption.getD 0

/-- The parameters that are read from a stored object. -/
def rereadParams (params : PolicyConditionParams) : PolicyConditionParams :=
  { params with windowDays := params.windowDays.map rereadNumber }

def rereadCondition (condition : PolicyCondition) : PolicyCondition :=
  { condition with
    value := condition.value.reparsed
    params := condition.params.map rereadParams }

def reread (config : ConditionalPolicyConfig) : ConditionalPolicyConfig :=
  { config with conditions := config.conditions.map rereadCondition }

theorem toNumber_reparsed_num (x : Float) : (Json.num x).reparsed.toNumber = .ok (rereadNumber x) := by
  unfold rereadNumber Json.reparsed
  split <;> rfl

/-- A number that is not stored as it is is read back as zero. -/
theorem rereadNumber_cases (x : Float) : rereadNumber x = x ∨ rereadNumber x = 0 := by
  unfold rereadNumber Json.reparsed
  split
  · exact .inl rfl
  · exact .inr rfl
  · exact .inr rfl
  · exact .inr rfl

theorem rereadNumber_of_integer {x : Float} {n : Int} (h : Js.integer? x = some n) (hn : n ≠ 0) :
    rereadNumber x = x ∧ (Json.num x).reparsed = .num x := by
  unfold rereadNumber Json.reparsed
  unfold Js.integer? Js.value? at h
  split
  · exact ⟨rfl, rfl⟩
  · rename_i s hx
    rw [hx] at h
    cases h
    exact absurd rfl hn
  · rename_i s hx
    rw [hx] at h
    cases h
  · rename_i hx
    rw [hx] at h
    cases h

section Conditions

variable (condition : PolicyCondition)

@[simp] theorem rereadCondition_category? : (rereadCondition condition).category? = condition.category? := by
  unfold PolicyCondition.category? rereadCondition
  cases condition.params <;> rfl

/-- A window of some days is kept, and any other comes to none. -/
theorem rereadCondition_windowDays_cases :
    (rereadCondition condition).params.bind (·.windowDays) = condition.params.bind (·.windowDays) ∨
      (condition.windowDays?.getD 0 = 0 ∧ (rereadCondition condition).windowDays?.getD 0 = 0) := by
  obtain ⟨field, operator, value, params⟩ := condition
  rcases params with _ | ⟨category, _ | days⟩
  · exact .inl rfl
  · exact .inl rfl
  · change some (rereadNumber days) = some days ∨
      (Js.integer? days).getD 0 = 0 ∧ (Js.integer? (rereadNumber days)).getD 0 = 0
    cases hdays : Js.integer? days with
    | none =>
      rcases rereadNumber_cases days with hsame | hzero
      · exact .inl (congrArg some hsame)
      · rw [hzero]
        exact .inr ⟨rfl, rfl⟩
    | some n =>
      by_cases hn : n = 0
      · rcases rereadNumber_cases days with hsame | hzero
        · exact .inl (congrArg some hsame)
        · rw [hzero, hn]
          exact .inr ⟨rfl, rfl⟩
      · exact .inl (congrArg some (rereadNumber_of_integer hdays hn).1)

@[simp] theorem rereadCondition_windowDays? :
    (rereadCondition condition).windowDays?.getD 0 = condition.windowDays?.getD 0 := by
  rcases rereadCondition_windowDays_cases condition with hsame | ⟨hnone, hnone'⟩
  · unfold PolicyCondition.windowDays?
    rw [hsame]
  · rw [hnone, hnone']

end Conditions

/-! ### Values -/

section Values

variable {condition : PolicyCondition} {index : Nat}

theorem reparsed_of_isCategoryText {value : Json} (h : PolicyConfigValidator.isCategoryText value = true) :
    value.reparsed = value := by
  cases value with
  | str name => rfl
  | _ => cases h

theorem reparsed_of_isCategoryList {value : Json} (h : PolicyConfigValidator.isCategoryList value = true) :
    value.reparsed = value := by
  cases value with
  | arr items =>
    have hall := List.all_eq_true.1 (Bool.and_eq_true_iff.1 h).2
    rw [Json.reparsed, Json.reparsedItems_eq,
      List.map_congr_left (fun item hmem => reparsed_of_isCategoryText (hall item hmem)), List.map_id']
  | _ => cases h

/-- What the items of a list of weekdays are read as. -/
theorem readsAs_of_areIntegers {items : List Json} (h : PolicyConfigValidator.areIntegers items = .ok true) :
    ∀ item ∈ items, Json.ReadsAs item item.reparsed := by
  induction items with
  | nil => exact fun _ hmem => absurd hmem List.not_mem_nil
  | cons item rest ih =>
    obtain ⟨x, hx, h⟩ := Except.bind_eq_ok.1 h
    split at h
    · rename_i hinteger
      exact List.forall_mem_cons.2 ⟨Json.readsAs_reparsed hx hinteger, ih h⟩
    · cases h

theorem areIntegers_reparsed {items : List Json} (h : PolicyConfigValidator.areIntegers items = .ok true) :
    PolicyConfigValidator.areIntegers (items.map Json.reparsed) = .ok true := by
  induction items with
  | nil => rfl
  | cons item rest ih =>
    obtain ⟨x, hx, h⟩ := Except.bind_eq_ok.1 h
    split at h
    · rename_i hinteger
      obtain ⟨_, y, hx', hy, halike⟩ := (Json.readsAs_reparsed hx hinteger).number
      cases hx.symm.trans hx'
      refine Except.bind_eq_ok.2 ⟨y, hy, ?_⟩
      rw [← halike.integer?, if_pos hinteger]
      exact ih h
    · cases h

/-- The value of a valid condition is stored as it is, or it is a number of receipts, or a
    weekday or a list of weekdays. -/
inductive Kept (condition : PolicyCondition) : PolicyField → Prop
  | same {field : PolicyField} (h : condition.value.reparsed = condition.value) : Kept condition field
  | attachments (h : Json.ReadsAs condition.value condition.value.reparsed)
    (hlist : condition.operator ≠ .in_ ∧ condition.operator ≠ .notIn) : Kept condition .attachmentCount
  | weekday (h : Json.ReadsAs condition.value condition.value.reparsed) (heq : condition.operator = .eq) :
    Kept condition .submittedDayOfWeek
  | weekdays {items : List Json} (hvalue : condition.value = .arr items)
    (h : ∀ item ∈ items, Json.ReadsAs item item.reparsed)
    (hlist : condition.operator = .in_ ∨ condition.operator = .notIn) : Kept condition .submittedDayOfWeek

/-- An integer is read back as a number that is equal to it. -/
theorem readsAs_of_integer {value : Json} (h : value.integer?.isSome = true) :
    Json.ReadsAs value value.reparsed := by
  obtain ⟨n, hn⟩ := Option.isSome_iff_exists.1 h
  obtain ⟨x, rfl, hx⟩ := num_of_integer? hn
  exact Json.readsAs_reparsed rfl (Option.isSome_of_eq_some hx)

theorem kept_of_assertPositiveKobo {field : PolicyField} {label : String} {index : Nat}
    (h : PolicyConfigValidator.assertPositiveKobo condition index label = .ok ()) :
    Kept condition field := by
  obtain ⟨x, n, hvalue, hinteger, hpositive⟩ := num_of_assertPositiveKobo h
  refine .same ?_
  rw [hvalue, (rereadNumber_of_integer hinteger (by omega)).2]

theorem kept_of_assertCategoryValue {index : Nat}
    (h : PolicyConfigValidator.assertCategoryValue condition index = .ok ()) :
    Kept condition .category := by
  unfold PolicyConfigValidator.assertCategoryValue at h
  split at h
  · split at h
    · rename_i hlist
      exact .same (reparsed_of_isCategoryList hlist)
    · cases h
  · split at h
    · rename_i htext
      exact .same (reparsed_of_isCategoryText htext)
    · cases h

theorem kept_of_assertWeekdayValue {index : Nat}
    (hoperator : condition.operator ∈ PolicyField.operators .submittedDayOfWeek)
    (h : PolicyConfigValidator.assertWeekdayValue condition index = .ok ()) :
    Kept condition .submittedDayOfWeek := by
  unfold PolicyConfigValidator.assertWeekdayValue at h
  split at h
  · rename_i hlist
    have hlist : condition.operator = .in_ ∨ condition.operator = .notIn := by simpa using hlist
    obtain ⟨isList, hrun, h⟩ := Except.bind_eq_ok.1 h
    cases isList with
    | false => cases h
    | true =>
      unfold PolicyConfigValidator.isWeekdayList at hrun
      split at hrun
      · rename_i items hvalue
        split at hrun
        · cases hrun
        · exact .weekdays hvalue (readsAs_of_areIntegers hrun) hlist
      · cases hrun
  · rename_i hlist
    have hop : condition.operator = .eq := by
      have hnot : condition.operator ≠ .in_ ∧ condition.operator ≠ .notIn := by simpa using hlist
      simpa [PolicyField.operators, hnot.1, hnot.2] using hoperator
    split at h
    · rename_i hinteger
      exact .weekday (readsAs_of_integer hinteger) hop
    · cases h

theorem kept_of_valid {field : PolicyField} (hvalid : Valid field condition) : Kept condition field := by
  have hoperator := hvalid.operator
  obtain ⟨index, hchecked⟩ := hvalid.checked
  unfold PolicyConfigValidator.validateFieldCondition at hchecked
  cases field with
  | amount => exact kept_of_assertPositiveKobo hchecked
  | category => exact kept_of_assertCategoryValue hchecked
  | attachmentCount =>
    unfold PolicyConfigValidator.assertIntegerValue at hchecked
    dsimp only at hchecked
    split at hchecked
    · rename_i hinteger
      exact .attachments (readsAs_of_integer hinteger)
        (comparing_of_mem (.inr (.inl rfl)) hoperator)
    · cases hchecked
  | submittedDayOfWeek => exact kept_of_assertWeekdayValue hoperator hchecked
  | monthlyCategorySpend =>
    obtain ⟨_, -, hchecked⟩ := Except.bind_eq_ok.1 hchecked
    exact kept_of_assertPositiveKobo hchecked
  | hasDuplicateExpense =>
    dsimp only at hchecked
    split at hchecked
    · rename_i b hvalue
      refine .same ?_
      rw [hvalue]
      rfl
    · cases hchecked

theorem compareNumbers_reparsed {actual value : Json} {test : Float → Float → Bool}
    (h : Json.ReadsAs value value.reparsed) (htest : ∀ a {x y : Float}, Js.Alike x y → test a x = test a y) :
    ConditionEvaluator.compareNumbers actual value.reparsed test =
      ConditionEvaluator.compareNumbers actual value test := by
  obtain ⟨x, y, hx, hy, halike⟩ := h.number
  unfold ConditionEvaluator.compareNumbers
  rw [hx, hy]
  cases actual.toNumber with
  | error e => rfl
  | ok a => exact (htest a halike).symm

theorem isOneOf_reparsed {actual : Json} {items : List Json}
    (h : ∀ item ∈ items, Json.ReadsAs item item.reparsed) :
    ConditionEvaluator.isOneOf actual (items.map Json.reparsed) =
      ConditionEvaluator.isOneOf actual items := by
  have hitem : ∀ item ∈ items, (item.reparsed.strictEquals actual ||
      ConditionEvaluator.sameText item.reparsed actual) = true ↔ (item.strictEquals actual ||
      ConditionEvaluator.sameText item actual) = true := by
    intro item hmem
    rw [ConditionEvaluator.sameText, (h item hmem).equals, (h item hmem).text, ConditionEvaluator.sameText]
  unfold ConditionEvaluator.isOneOf
  rw [List.any_map, Bool.eq_iff_iff, List.any_eq_true, List.any_eq_true]
  exact exists_congr (fun item => and_congr_right (hitem item))

/-- A stored value compares as the value it was stored as. -/
theorem compare_reparsed {field : PolicyField} (h : Kept condition field) (actual : Json) :
    ConditionEvaluator.compare actual condition.operator condition.value.reparsed =
      ConditionEvaluator.compare actual condition.operator condition.value := by
  cases h with
  | same h => rw [h]
  | attachments h hlist =>
    cases hop : condition.operator with
    | eq => exact h.equalled actual
    | neq => exact congrArg not (h.equalled actual)
    | gt => exact compareNumbers_reparsed h (fun a _ _ halike => decide_eq_decide.2 (halike.lt_left a))
    | gte => exact compareNumbers_reparsed h (fun a _ _ halike => decide_eq_decide.2 (halike.le_left a))
    | lt => exact compareNumbers_reparsed h (fun a _ _ halike => decide_eq_decide.2 (halike.lt_right a))
    | lte => exact compareNumbers_reparsed h (fun a _ _ halike => decide_eq_decide.2 (halike.le_right a))
    | in_ => exact absurd hop hlist.1
    | notIn => exact absurd hop hlist.2
  | weekday h heq =>
    rw [heq]
    exact h.equalled actual
  | weekdays hvalue h hlist =>
    rw [hvalue, Json.reparsed, Json.reparsedItems_eq]
    rcases hlist with hop | hop
    · rw [hop]
      exact isOneOf_reparsed h
    · rw [hop]
      exact congrArg not (isOneOf_reparsed h)

/-! ### Conditions that are read back -/

theorem isWeekdayList_reparsed {value : Json} (h : PolicyConfigValidator.isWeekdayList value = .ok true) :
    PolicyConfigValidator.isWeekdayList value.reparsed = .ok true := by
  unfold PolicyConfigValidator.isWeekdayList at h
  split at h
  · split at h
    · cases h
    · rename_i items hempty
      rw [Json.reparsed, Json.reparsedItems_eq, PolicyConfigValidator.isWeekdayList, List.isEmpty_map,
        if_neg hempty]
      exact areIntegers_reparsed h
  · cases h

theorem assertWeekdayValue_reread (h : PolicyConfigValidator.assertWeekdayValue condition index = .ok ()) :
    PolicyConfigValidator.assertWeekdayValue (rereadCondition condition) index = .ok () := by
  unfold PolicyConfigValidator.assertWeekdayValue at h ⊢
  split at h
  · rename_i hlist
    refine (if_pos hlist).trans ?_
    obtain ⟨isList, hrun, h⟩ := Except.bind_eq_ok.1 h
    cases isList with
    | false => cases h
    | true => exact Except.bind_eq_ok.2 ⟨true, isWeekdayList_reparsed hrun, rfl⟩
  · rename_i hlist
    refine (if_neg hlist).trans ?_
    rw [rereadCondition, Json.integer?_reparsed]
    exact h

theorem assertPositiveKobo_reread (label : String) :
    PolicyConfigValidator.assertPositiveKobo (rereadCondition condition) index label =
      PolicyConfigValidator.assertPositiveKobo condition index label := by
  unfold PolicyConfigValidator.assertPositiveKobo
  rw [rereadCondition, Json.integer?_reparsed]

theorem assertWindowDaysParam_reread
    (h : PolicyConfigValidator.assertWindowDaysParam condition index = .ok ()) :
    PolicyConfigValidator.assertWindowDaysParam (rereadCondition condition) index = .ok () := by
  unfold PolicyConfigValidator.assertWindowDaysParam at h ⊢
  rcases rereadCondition_windowDays_cases condition with hwindow | ⟨hnone, -⟩
  · unfold PolicyCondition.windowDays? at h ⊢
    rw [hwindow]
    exact h
  · split at h
    · rename_i days hdays
      rw [hdays] at hnone
      change days = 0 at hnone
      rw [if_pos (by omega)] at h
      cases h
    · cases h

/-- A valid condition is valid when it is read back. -/
theorem validateFieldCondition_reread {field : PolicyField} (hkept : Kept condition field)
    (h : PolicyConfigValidator.validateFieldCondition field condition index = .ok ()) :
    PolicyConfigValidator.validateFieldCondition field (rereadCondition condition) index = .ok () := by
  unfold PolicyConfigValidator.validateFieldCondition at h ⊢
  cases field with
  | amount => exact (assertPositiveKobo_reread "amount").trans h
  | attachmentCount =>
    dsimp only [PolicyConfigValidator.assertIntegerValue] at h ⊢
    rw [rereadCondition, Json.integer?_reparsed]
    exact h
  | category =>
    cases hkept with
    | same hsame =>
      dsimp only [PolicyConfigValidator.assertCategoryValue] at h ⊢
      rw [rereadCondition, hsame]
      exact h
  | submittedDayOfWeek => exact assertWeekdayValue_reread h
  | monthlyCategorySpend =>
    obtain ⟨_, hcategory, h⟩ := Except.bind_eq_ok.1 h
    refine Except.bind_eq_ok.2 ⟨(), ?_, (assertPositiveKobo_reread "spend cap").trans h⟩
    unfold PolicyConfigValidator.assertCategoryParam at hcategory ⊢
    rw [rereadCondition_category?]
    exact hcategory
  | hasDuplicateExpense =>
    cases hkept with
    | same hsame =>
      have hvalue : (rereadCondition condition).value = condition.value := hsame
      dsimp only at h ⊢
      rw [hvalue]
      split at h
      · exact assertWindowDaysParam_reread h
      · cases h

theorem validateCondition_reread (h : validateCondition condition index = .ok ()) :
    validateCondition (rereadCondition condition) index = .ok () := by
  obtain ⟨field, hvalid⟩ := PolicyConfigValidator.valid_of_validateCondition h
  have hknown : PolicyField.ofKey (rereadCondition condition).field = some field := hvalid.known
  have hmem : field.operators.contains condition.operator = true := by simpa using hvalid.operator
  unfold validateCondition at h ⊢
  rw [hvalid.known] at h
  dsimp only at h
  rw [if_pos hmem] at h
  rw [hknown]
  exact (if_pos hmem).trans (validateFieldCondition_reread (kept_of_valid hvalid) h)

variable {field : PolicyField}

theorem evaluateCondition_reread (hvalid : Valid field condition) (context : PolicyEvaluationContext)
    (answers : Answers) (unknown : Bool) :
    evaluateCondition (rereadCondition condition) context answers unknown =
      evaluateCondition condition context answers unknown := by
  have hknown : PolicyField.ofKey (rereadCondition condition).field = some field := hvalid.known
  have hresolve : resolve field context (rereadCondition condition) answers =
      resolve field context condition answers := by
    cases field with
    | hasDuplicateExpense => rw [resolve, rereadCondition_windowDays?, resolve]
    | _ => rfl
  rw [evaluateCondition_of_known hknown, evaluateCondition_of_known hvalid.known,
    rereadCondition_category?, hresolve]
  split
  · rfl
  · exact congrArg (Except.map · _) (funext (compare_reparsed (kept_of_valid hvalid)))

end Values

section Configurations

variable {config : ConditionalPolicyConfig} {ruleType : ExpensePolicyRuleType} {raw : Json}

theorem isViolated_reread (h : normalizeRuleConfig ruleType raw = .ok config)
    (context : PolicyEvaluationContext) (answers : Answers) (unknown : Bool) :
    isViolated (reread config) context answers unknown = isViolated config context answers unknown := by
  have hsame : config.conditions.mapM (fun condition =>
      evaluateCondition (rereadCondition condition) context answers unknown) =
        config.conditions.mapM (evaluateCondition · context answers unknown) := by
    refine Except.mapM_congr (fun condition hmem => ?_)
    obtain ⟨field, hvalid⟩ := PolicyConfigValidator.valid_of_normalizeRuleConfig h condition hmem
    exact evaluateCondition_reread hvalid context answers unknown
  rw [isViolated_eq_map, isViolated_eq_map, ← hsame, reread, List.mapM_map]
  rfl

theorem parseParams_reparsed (params : Option PolicyConditionParams) (index : Nat) :
    parseParams (params.map (fun params => (paramsObject params).reparsed)) index =
      .ok (params.map rereadParams) := by
  rcases params with _ | ⟨category, _ | days⟩
  · rfl
  · cases category <;> rfl
  · have hdays : (some (Json.num days).reparsed).mapM Json.toNumber =
        (.ok (some (rereadNumber days)) : Except HttpException (Option Float)) :=
      congrArg (Except.map some) (toNumber_reparsed_num days)
    cases category with
    | none =>
      change (do
        let windowDays ← (some (Json.num days).reparsed).mapM Json.toNumber
        pure (some (PolicyConditionParams.mk none windowDays))) = _
      rw [hdays]
      rfl
    | some category =>
      change (do
        let windowDays ← (some (Json.num days).reparsed).mapM Json.toNumber
        pure (some (PolicyConditionParams.mk (some category) windowDays))) = _
      rw [hdays]
      rfl

theorem conditionObject_get? (condition : PolicyCondition) :
    (conditionObject condition).get? "field" = some (.str condition.field) ∧
    (conditionObject condition).get? "operator" = some (.str condition.operator.name) ∧
    (conditionObject condition).get? "value" = some condition.value ∧
    (conditionObject condition).get? "params" = condition.params.map paramsObject := by
  unfold conditionObject
  cases condition.params <;> exact ⟨rfl, rfl, rfl, rfl⟩

theorem ofName_name (operator : PolicyConditionOperator) :
    PolicyConditionOperator.ofName operator.name = some operator := by
  cases operator <;> rfl

variable {value : Json} {index : Nat} {condition : PolicyCondition}

theorem parsedFrom_reparsed (h : ParsedFrom value index condition) :
    ParsedFrom (conditionObject condition).reparsed index (rereadCondition condition) := by
  obtain ⟨hfield, hoperator, hvalue, hparams⟩ := conditionObject_get? condition
  exact
    { object := ⟨_, rfl⟩
      field := by rw [Json.get?_reparsed, hfield]; rfl
      operator := ⟨condition.operator.name, by rw [Json.get?_reparsed, hoperator]; rfl,
        ofName_name condition.operator⟩
      expected := by rw [Json.get?_reparsed, hvalue]; rfl
      params := by
        rw [Json.get?_reparsed, hparams, Option.map_map]
        exact parseParams_reparsed condition.params index
      valid := validateCondition_reread h.valid }

/-- Conditions are written and parsed at the positions they were parsed at. -/
theorem parseConditions_map {write : PolicyCondition → Json} {read : PolicyCondition → PolicyCondition}
    (hparsed : ∀ {value index condition}, ParsedFrom value index condition →
      ParsedFrom (write condition) index (read condition))
    {items : List Json} {conditions : List PolicyCondition}
    (h : parseConditions items index = .ok conditions) :
    parseConditions (conditions.map write) index = .ok (conditions.map read) := by
  induction items generalizing index conditions with
  | nil =>
    cases h
    rfl
  | cons item rest ih =>
    rw [parseConditions] at h
    obtain ⟨first, hfirst, h⟩ := Except.bind_eq_ok.1 h
    obtain ⟨others, hothers, h⟩ := Except.bind_eq_ok.1 h
    cases h
    have hwritten := parseCondition_eq_ok.2 (hparsed (parseCondition_eq_ok.1 hfirst))
    rw [List.map_cons, parseConditions]
    exact Except.bind_eq_ok.2 ⟨_, hwritten, Except.bind_eq_ok.2 ⟨_, ih hothers, rfl⟩⟩

theorem configObject_get? (config : ConditionalPolicyConfig) :
    (configObject config).get? "message" = none ∧
    PolicyConfigValidator.parseMatch (configObject config) = .ok config.match_ ∧
    (configObject config).get? "conditions" = some (.arr (config.conditions.map conditionObject)) := by
  obtain ⟨match_, conditions⟩ := config
  cases match_ <;> exact ⟨rfl, rfl, rfl⟩

theorem reparsed_configObject_get? (config : ConditionalPolicyConfig) :
    (configObject config).reparsed.get? "message" = none ∧
    PolicyConfigValidator.parseMatch (configObject config).reparsed = .ok config.match_ ∧
    (configObject config).reparsed.get? "conditions" =
      some (.arr (config.conditions.map (fun condition => (conditionObject condition).reparsed))) := by
  refine ⟨?_, ?_, ?_⟩
  · rw [Json.get?_reparsed, (configObject_get? config).1]
    rfl
  · obtain ⟨match_, conditions⟩ := config
    cases match_ <;> rfl
  · rw [Json.get?_reparsed, (configObject_get? config).2.2, Option.map_some, Json.reparsed,
      Json.reparsedItems_eq, List.map_map]
    rfl

/-- A configuration with no message and with conditions that were parsed once is accepted. -/
theorem normalizeRuleConfig_written {written : Json} (write : PolicyCondition → Json)
    (read : PolicyCondition → PolicyCondition) (h : normalizeRuleConfig ruleType raw = .ok config)
    (hobject : written.isNull = false) (hmessage : written.get? "message" = none)
    (hmatch : PolicyConfigValidator.parseMatch written = .ok config.match_)
    (hconditions : written.get? "conditions" = some (.arr (config.conditions.map write)))
    (hparsed : ∀ {value index condition}, ParsedFrom value index condition →
      ParsedFrom (write condition) index (read condition)) :
    normalizeRuleConfig .CONDITIONAL written =
      .ok { config with conditions := config.conditions.map read } := by
  obtain ⟨-, -, -, items, -, hnonempty, hitems⟩ := normalizeRuleConfig_eq_ok.1 h
  refine normalizeRuleConfig_eq_ok.2 ⟨hobject, ?_, hmatch, _, hconditions, ?_,
    parseConditions_map hparsed hitems⟩
  · change PolicyConfigValidator.assertOptionalMessage written = .ok ()
    unfold PolicyConfigValidator.assertOptionalMessage
    rw [hmessage]
  · intro hempty
    have hnil : config.conditions = [] := List.map_eq_nil_iff.1 hempty
    rw [hnil] at hitems
    cases items with
    | nil => exact hnonempty rfl
    | cons item rest =>
      obtain ⟨_, -, hrest⟩ := Except.bind_eq_ok.1 hitems
      obtain ⟨_, -, hrest⟩ := Except.bind_eq_ok.1 hrest
      cases hrest

/-- A stored configuration normalises to the conditions as they are read back. -/
theorem normalizeRuleConfig_reparsed (h : normalizeRuleConfig ruleType raw = .ok config) :
    normalizeRuleConfig .CONDITIONAL (configObject config).reparsed = .ok (reread config) := by
  obtain ⟨hmessage, hmatch, hconditions⟩ := reparsed_configObject_get? config
  exact normalizeRuleConfig_written _ _ h rfl hmessage hmatch hconditions parsedFrom_reparsed

end Configurations

end PolicyStorage

end Expentra
