-- SUMMARY: What the verdict of the policy engine says of the active policies, malformed or unreadable ones too.
import Mathlib.Tactic.IntervalCases
import Expentra.Library.Traversal
import Expentra.Policy.Engine
import Expentra.Policy.Normalization

/-!
# Verdicts

A policy is evaluated inside a `try`: a configuration that does not normalise, or a read
that fails, counts as a violation of a BLOCK policy and silences a WARN policy. The
meaning of a condition is stated here in the terms of its field; the engine decides it.

The cache keeps the promise of every read, so that during one evaluation a question has
one answer, or fails every time it is asked.
-/

namespace Expentra

open Library

namespace PolicyVerdict

open PolicyConfigValidator (Valid num_of_assertPositiveKobo num_of_integer?
  windowDays_of_assertWindowDaysParam valid_of_normalizeRuleConfig)

/-- What `PolicyEvaluationCache` answers during one evaluation, or the error of its query. -/
structure Answers where
  monthlyCategorySpend : ExpenseCategory → Except HttpException Float
  hasDuplicateExpense : Int → Except HttpException Bool

/-- Reads that do not fail. -/
def Answers.ofReads (reads : PolicyReads) : Answers where
  monthlyCategorySpend category := .ok (reads.monthlyCategorySpend category)
  hasDuplicateExpense windowDays := .ok (reads.hasDuplicateExpense windowDays)

/-! ## The engine -/

def resolve (field : PolicyField) (context : PolicyEvaluationContext) (condition : PolicyCondition)
    (answers : Answers) : Except HttpException Json :=
  match field with
  | .amount => .ok (.num (Float.ofInt context.amount))
  | .category => .ok (.str context.category.name)
  | .attachmentCount => .ok (.num (Float.ofNat context.attachmentCount))
  | .submittedDayOfWeek => .ok (.num (Float.ofInt (Date.getUTCDay context.submittedAt)))
  | .monthlyCategorySpend => (answers.monthlyCategorySpend context.category).map .num
  | .hasDuplicateExpense =>
    (answers.hasDuplicateExpense (condition.windowDays?.getD 0)).map .bool

def evaluateCondition (condition : PolicyCondition) (context : PolicyEvaluationContext)
    (answers : Answers) (treatUnknownFieldsAsViolated : Bool) : Except HttpException Bool :=
  match PolicyField.ofKey condition.field with
  | none => .ok treatUnknownFieldsAsViolated
  | some field =>
    if !ConditionEvaluator.conditionAppliesToExpense condition context then .ok false
    else (resolve field context condition answers).map (fun actual =>
      ConditionEvaluator.compare actual condition.operator condition.value)

/-- `Promise.all` over the conditions. -/
def isViolated (config : ConditionalPolicyConfig) (context : PolicyEvaluationContext)
    (answers : Answers) (treatUnknownFieldsAsViolated : Bool) : Except HttpException Bool := do
  let results ← config.conditions.mapM
    (evaluateCondition · context answers treatUnknownFieldsAsViolated)
  match config.match_ with
  | .all => pure (results.all id)
  | .any => pure (results.any id)

/-- The `try` of `evaluatePolicy`. -/
def violationOf (policy : ExpensePolicy) (context : PolicyEvaluationContext) (answers : Answers) :
    Except HttpException (Option PolicyViolation) := do
  let normalized ← PolicyConfigValidator.normalizeRuleConfig policy.ruleType policy.config
  let violated ← isViolated normalized context answers (policy.severity = .BLOCK)
  if violated then
    pure (some (PolicyEngine.toViolation policy (PolicyEngine.resolveMessage policy.config normalized)))
  else pure none

def evaluatePolicy (policy : ExpensePolicy) (context : PolicyEvaluationContext) (answers : Answers) :
    Option PolicyViolation :=
  match violationOf policy context answers with
  | .ok violation => violation
  | .error _ =>
    if policy.severity = .BLOCK then
      some (PolicyEngine.toViolation policy "Policy configuration is invalid. Contact an administrator.")
    else none

def evaluate (policies : List ExpensePolicy) (context : PolicyEvaluationContext) (answers : Answers) :
    PolicyEvaluationResult :=
  PolicyEngine.partitionViolations (policies.filterMap (evaluatePolicy · context answers))

def assertCompliant (policies : List ExpensePolicy) (context : PolicyEvaluationContext)
    (answers : Answers) : Except HttpException PolicyEvaluationResult :=
  let result := evaluate policies context answers
  match result.blockingViolations with
  | violation :: _ => .error (.badRequest violation.message)
  | [] =>
    match result.warningViolations.find? (fun violation => !PolicyEngine.isJustified context violation) with
    | some violation =>
      .error (.badRequest (violation.message ++ " Provide a justification to proceed."))
    | none => .ok result

/-! ## What the policies mean -/

/-- A comparison of two numbers. -/
def Compares (operator : PolicyConditionOperator) (actual expected : Float) : Prop :=
  match operator with
  | .eq => (actual == expected) = true
  | .neq => (actual == expected) = false
  | .gt => expected < actual
  | .gte => expected ≤ actual
  | .lt => actual < expected
  | .lte => actual ≤ expected
  | .in_ | .notIn => False

/-- A list that has, or has not, an item that reads as the text. -/
def Lists (operator : PolicyConditionOperator) (text : String) (expected : Json) : Prop :=
  match operator with
  | .in_ => ∃ items, expected = .arr items ∧ ∃ item ∈ items, item.toText = .ok text
  | .notIn => ∃ items, expected = .arr items ∧ ∀ item ∈ items, item.toText ≠ .ok text
  | _ => False

section Meaning

variable (context : PolicyEvaluationContext) (answers : Answers)

/-- The condition is met by the expense, in the terms of its field. A field that nothing is
    known of counts as met. -/
def Holds (condition : PolicyCondition) : Prop :=
  match PolicyField.ofKey condition.field with
  | none => True
  | some .amount =>
    ∃ n, condition.value = .num n ∧ Compares condition.operator (Float.ofInt context.amount) n
  | some .category =>
    match condition.operator with
    | .eq => condition.value = .str context.category.name
    | .neq => condition.value ≠ .str context.category.name
    | operator => Lists operator context.category.name condition.value
  | some .attachmentCount =>
    ∃ n, condition.value = .num n ∧
      Compares condition.operator (Float.ofNat context.attachmentCount) n
  | some .submittedDayOfWeek =>
    match condition.operator with
    | .eq => ∃ n, condition.value = .num n ∧
      Compares .eq (Float.ofInt (Date.getUTCDay context.submittedAt)) n
    | operator => Lists operator (toString (Date.getUTCDay context.submittedAt)) condition.value
  | some .monthlyCategorySpend => condition.category? = some context.category.name ∧
    ∃ n spend, condition.value = .num n ∧ answers.monthlyCategorySpend context.category = .ok spend ∧
      Compares condition.operator spend n
  | some .hasDuplicateExpense =>
    ∃ windowDays duplicate, condition.windowDays? = some windowDays ∧
      answers.hasDuplicateExpense windowDays = .ok duplicate ∧ condition.value = .bool duplicate

/-- The condition asks for something that cannot be read. -/
def Unanswered (condition : PolicyCondition) : Prop :=
  match PolicyField.ofKey condition.field with
  | some .monthlyCategorySpend => condition.category? = some context.category.name ∧
    ∃ e, answers.monthlyCategorySpend context.category = .error e
  | some .hasDuplicateExpense =>
    ∃ windowDays e, condition.windowDays? = some windowDays ∧
      answers.hasDuplicateExpense windowDays = .error e
  | _ => False

/-- All conditions are met, or one of them, as the configuration says. -/
def Violated (config : ConditionalPolicyConfig) : Prop :=
  match config.match_ with
  | .all => ∀ condition ∈ config.conditions, Holds context answers condition
  | .any => ∃ condition ∈ config.conditions, Holds context answers condition

/-- The policy has a configuration, and everything it asks for can be read. -/
def Evaluates (policy : ExpensePolicy) (config : ConditionalPolicyConfig) : Prop :=
  PolicyConfigValidator.normalizeRuleConfig policy.ruleType policy.config = .ok config ∧
    ∀ condition ∈ config.conditions, ¬ Unanswered context answers condition

/-- A justification under the reference that is not blank. -/
def Justified (reference : String) : Prop :=
  ∃ justification, context.policyJustifications.find? (fun entry => entry.1 = reference) =
    some justification ∧ Js.trim justification.2 ≠ ""

/-- Every BLOCK policy evaluates and is obeyed, and every WARN policy that evaluates is
    obeyed or justified. -/
structure Complies (policies : List ExpensePolicy) : Prop where
  blocking : ∀ policy ∈ policies, policy.severity = .BLOCK →
    ∃ config, Evaluates context answers policy config ∧ ¬ Violated context answers config
  warning : ∀ policy ∈ policies, policy.severity = .WARN →
    ∀ config, Evaluates context answers policy config → Violated context answers config →
      Justified context policy.reference

end Meaning

/-! ## One condition -/

section Condition

variable {context : PolicyEvaluationContext} {answers : Answers} {condition : PolicyCondition}
  {operator : PolicyConditionOperator} {unknown : Bool}

theorem compare_num_iff {actual expected : Float} (hoperator : operator ≠ .in_ ∧ operator ≠ .notIn) :
    ConditionEvaluator.compare (.num actual) operator (.num expected) = true ↔
      Compares operator actual expected := by
  cases operator <;>
    simp [ConditionEvaluator.compare, ConditionEvaluator.compareNumbers, Compares, Json.strictEquals,
      Json.toNumber] at hoperator ⊢

/-- Identical values have the same text. -/
theorem toText_of_strictEquals {item actual : Json} (h : item.strictEquals actual = true) :
    item.toText = actual.toText := by
  cases item <;> cases actual <;> first | cases h | skip
  · rfl
  · rw [of_decide_eq_true h]
  · rw [Json.toText, Json.toText, (Js.alike_of_beq h).numberToString]
  · rw [of_decide_eq_true h]

theorem isOneOf_iff {actual : Json} {text : String} {items : List Json} (htext : actual.toText = .ok text) :
    ConditionEvaluator.isOneOf actual items = true ↔ ∃ item ∈ items, item.toText = .ok text := by
  have hsame : ∀ item, ConditionEvaluator.sameText item actual = true ↔ item.toText = .ok text := by
    intro item
    unfold ConditionEvaluator.sameText
    rw [htext]
    cases item.toText <;> simp
  simp only [ConditionEvaluator.isOneOf, List.any_eq_true, Bool.or_eq_true, hsame]
  refine exists_congr (fun item => and_congr_right (fun _ => ⟨?_, .inr⟩))
  rintro (hequal | htext')
  · exact (toText_of_strictEquals hequal).trans htext
  · exact htext'

theorem compare_list_iff {actual expected : Json} {text : String}
    (htext : actual.toText = .ok text) (hoperator : operator = .in_ ∨ operator = .notIn) :
    ConditionEvaluator.compare actual operator expected = true ↔ Lists operator text expected := by
  rcases hoperator with rfl | rfl
  · cases expected <;> simp [ConditionEvaluator.compare, Lists, isOneOf_iff htext]
  · cases expected with
    | arr items =>
      simp only [ConditionEvaluator.compare, Lists, Json.arr.injEq, exists_eq_left',
        Bool.not_eq_true', ← Bool.not_eq_true, isOneOf_iff htext]
      simp
    | _ => simp [ConditionEvaluator.compare, Lists]

/-- The category of a monthly spend is that of the expense, or the condition does not apply. -/
theorem conditionApplies_iff {field : PolicyField} (context : PolicyEvaluationContext)
    (hknown : PolicyField.ofKey condition.field = some field) :
    ConditionEvaluator.conditionAppliesToExpense condition context = true ↔
      (field = .monthlyCategorySpend → condition.category? = some context.category.name) := by
  have hspend : condition.field = "monthly_category_spend" ↔ field = .monthlyCategorySpend := by
    constructor
    · intro h
      rw [h] at hknown
      exact (Option.some.inj hknown).symm
    · rintro rfl
      unfold PolicyField.ofKey at hknown
      split at hknown <;> first | assumption | cases hknown
  simp only [ConditionEvaluator.conditionAppliesToExpense, Bool.or_eq_true, decide_eq_true_eq, ne_eq,
    hspend]
  exact ⟨fun h hfield => h.resolve_left (fun hne => hne hfield), fun h => by
    by_cases hfield : field = .monthlyCategorySpend
    · exact .inr (h hfield)
    · exact .inl hfield⟩

theorem evaluateCondition_of_known {field : PolicyField}
    (hknown : PolicyField.ofKey condition.field = some field) :
    evaluateCondition condition context answers unknown =
      if field = .monthlyCategorySpend ∧ condition.category? ≠ some context.category.name then .ok false
      else (resolve field context condition answers).map (fun actual =>
        ConditionEvaluator.compare actual condition.operator condition.value) := by
  unfold evaluateCondition
  rw [hknown]
  dsimp only
  have happlies := conditionApplies_iff context hknown
  by_cases hother : field = .monthlyCategorySpend ∧ condition.category? ≠ some context.category.name
  · have hnot : ConditionEvaluator.conditionAppliesToExpense condition context = false := by
      rw [← Bool.not_eq_true, happlies]
      exact fun h => hother.2 (h hother.1)
    rw [hnot, if_pos hother]
    rfl
  · have hyes : ConditionEvaluator.conditionAppliesToExpense condition context = true :=
      happlies.2 (fun hfield => by
        by_contra hcategory
        exact hother ⟨hfield, hcategory⟩)
    rw [hyes, if_neg hother]
    rfl

/-- The operators of a numeric field compare. -/
theorem comparing_of_mem {field : PolicyField}
    (hfield : field = .amount ∨ field = .attachmentCount ∨ field = .monthlyCategorySpend)
    (h : operator ∈ field.operators) : operator ≠ .in_ ∧ operator ≠ .notIn := by
  rcases hfield with rfl | rfl | rfl <;> cases operator <;> simp [PolicyField.operators] at h ⊢

theorem compare_str_iff {actual : String} {expected : Json} :
    ConditionEvaluator.compare (.str actual) .eq expected = true ↔ expected = .str actual := by
  cases expected <;> simp [ConditionEvaluator.compare, Json.strictEquals, eq_comm]

theorem compare_neq_str_iff {actual : String} {expected : Json} :
    ConditionEvaluator.compare (.str actual) .neq expected = true ↔ expected ≠ .str actual := by
  rw [ne_eq, ← compare_str_iff]
  simp [ConditionEvaluator.compare]

theorem compare_bool_iff {actual : Bool} {expected : Json} :
    ConditionEvaluator.compare (.bool actual) .eq expected = true ↔ expected = .bool actual := by
  cases expected <;> simp [ConditionEvaluator.compare, Json.strictEquals, eq_comm]

/-- The text of a weekday. -/
theorem toText_getUTCDay (t : Instant) :
    (Json.num (Float.ofInt (Date.getUTCDay t))).toText = .ok (toString (Date.getUTCDay t)) := by
  have hlow : 0 ≤ Date.getUTCDay t := Int.emod_nonneg _ (by decide)
  have hhigh : Date.getUTCDay t < 7 := Int.emod_lt_of_pos _ (by decide)
  generalize Date.getUTCDay t = day at hlow hhigh
  interval_cases day <;> decide +kernel

/-- A question that fails makes the condition fail. -/
theorem evaluateCondition_of_unanswered {field : PolicyField} (hvalid : Valid field condition)
    (h : Unanswered context answers condition) :
    ∃ e, evaluateCondition condition context answers unknown = .error e := by
  rw [evaluateCondition_of_known hvalid.known]
  unfold Unanswered at h
  rw [hvalid.known] at h
  cases field with
  | monthlyCategorySpend =>
    obtain ⟨hcategory, e, herror⟩ := h
    refine ⟨e, ?_⟩
    rw [if_neg (fun hother => hother.2 hcategory), resolve, herror]
    rfl
  | hasDuplicateExpense =>
    obtain ⟨windowDays, e, hwindow, herror⟩ := h
    refine ⟨e, ?_⟩
    rw [if_neg (fun hother => by cases hother.1), resolve, hwindow, Option.getD_some, herror]
    rfl
  | _ => cases h

/-- A numeric field is valid only against a number. -/
theorem num_of_valid {field : PolicyField}
    (hfield : field = .amount ∨ field = .attachmentCount ∨ field = .monthlyCategorySpend)
    (hvalid : Valid field condition) : ∃ n, condition.value = .num n := by
  obtain ⟨-, -, index, hchecked⟩ := hvalid
  rcases hfield with rfl | rfl | rfl
  · obtain ⟨n, -, hvalue, -⟩ := num_of_assertPositiveKobo hchecked
    exact ⟨n, hvalue⟩
  · unfold PolicyConfigValidator.validateFieldCondition PolicyConfigValidator.assertIntegerValue
      at hchecked
    dsimp only at hchecked
    split at hchecked
    · rename_i hinteger
      obtain ⟨n, hn⟩ := Option.isSome_iff_exists.1 hinteger
      obtain ⟨x, hvalue, -⟩ := num_of_integer? hn
      exact ⟨x, hvalue⟩
    · cases hchecked
  · obtain ⟨_, -, hvalue⟩ := Except.bind_eq_ok.1 hchecked
    obtain ⟨n, -, hvalue, -⟩ := num_of_assertPositiveKobo hvalue
    exact ⟨n, hvalue⟩

theorem num_of_weekday (hvalid : Valid .submittedDayOfWeek condition) (hop : condition.operator = .eq) :
    ∃ n, condition.value = .num n := by
  obtain ⟨-, -, index, hchecked⟩ := hvalid
  unfold PolicyConfigValidator.validateFieldCondition PolicyConfigValidator.assertWeekdayValue at hchecked
  dsimp only at hchecked
  rw [hop, if_neg (by decide)] at hchecked
  split at hchecked
  · rename_i hinteger
    obtain ⟨n, hn⟩ := Option.isSome_iff_exists.1 hinteger
    obtain ⟨x, hvalue, -⟩ := num_of_integer? hn
    exact ⟨x, hvalue⟩
  · cases hchecked

/-- So a valid numeric condition compares what the field resolves to with that number. -/
theorem compare_of_valid {field : PolicyField} {actual : Float}
    (hfield : field = .amount ∨ field = .attachmentCount ∨ field = .monthlyCategorySpend)
    (hvalid : Valid field condition) :
    ConditionEvaluator.compare (.num actual) condition.operator condition.value = true ↔
      ∃ n, condition.value = .num n ∧ Compares condition.operator actual n := by
  obtain ⟨n, hvalue⟩ := num_of_valid hfield hvalid
  rw [hvalue, compare_num_iff (comparing_of_mem hfield hvalid.operator)]
  exact ⟨fun h => ⟨n, rfl, h⟩, fun ⟨_, hn, h⟩ => Json.num.inj hn ▸ h⟩

/-- A condition on duplicates is valid only with a window of days. -/
theorem windowDays_of_valid (hvalid : Valid .hasDuplicateExpense condition) :
    ∃ windowDays, condition.windowDays? = some windowDays := by
  obtain ⟨-, -, index, hchecked⟩ := hvalid
  unfold PolicyConfigValidator.validateFieldCondition at hchecked
  dsimp only at hchecked
  split at hchecked
  · exact windowDays_of_assertWindowDaysParam hchecked
  · cases hchecked

/-- A condition whose questions are answered is met or not, as its field says. -/
theorem evaluateCondition_of_answered {field : PolicyField} (hvalid : Valid field condition)
    (h : ¬ Unanswered context answers condition) :
    ∃ met, evaluateCondition condition context answers unknown = .ok met ∧
      (met = true ↔ Holds context answers condition) := by
  have hoperator := hvalid.operator
  rw [evaluateCondition_of_known hvalid.known]
  unfold Unanswered at h
  unfold Holds
  rw [hvalid.known] at h ⊢
  cases field with
  | amount => exact ⟨_, rfl, compare_of_valid (.inl rfl) hvalid⟩
  | attachmentCount => exact ⟨_, rfl, compare_of_valid (.inr (.inl rfl)) hvalid⟩
  | category =>
    refine ⟨_, rfl, ?_⟩
    dsimp only
    cases hop : condition.operator with
    | eq => exact compare_str_iff
    | neq => exact compare_neq_str_iff
    | in_ => exact compare_list_iff rfl (.inl rfl)
    | notIn => exact compare_list_iff rfl (.inr rfl)
    | _ =>
      rw [hop] at hoperator
      simp [PolicyField.operators] at hoperator
  | submittedDayOfWeek =>
    refine ⟨_, rfl, ?_⟩
    dsimp only
    have htext := toText_getUTCDay context.submittedAt
    cases hop : condition.operator with
    | eq =>
      obtain ⟨n, hvalue⟩ := num_of_weekday hvalid hop
      rw [hvalue, compare_num_iff ⟨by decide, by decide⟩]
      exact ⟨fun h => ⟨n, rfl, h⟩, fun ⟨_, hn, h⟩ => Json.num.inj hn ▸ h⟩
    | in_ => exact compare_list_iff htext (.inl rfl)
    | notIn => exact compare_list_iff htext (.inr rfl)
    | _ =>
      rw [hop] at hoperator
      simp [PolicyField.operators] at hoperator
  | monthlyCategorySpend =>
    by_cases hcategory : condition.category? = some context.category.name
    · rw [if_neg (fun hother => hother.2 hcategory), resolve]
      dsimp only at h ⊢
      cases hspend : answers.monthlyCategorySpend context.category with
      | error e => exact absurd ⟨hcategory, e, hspend⟩ h
      | ok spend =>
        refine ⟨_, rfl, (compare_of_valid (.inr (.inr rfl)) hvalid).trans ⟨?_, ?_⟩⟩
        · rintro ⟨n, hn, hcompare⟩
          exact ⟨hcategory, n, spend, hn, rfl, hcompare⟩
        · rintro ⟨-, n, _, hn, ⟨⟩, hcompare⟩
          exact ⟨n, hn, hcompare⟩
    · rw [if_pos ⟨rfl, hcategory⟩]
      exact ⟨false, rfl, by simp [hcategory]⟩
  | hasDuplicateExpense =>
    obtain ⟨windowDays, hwindow⟩ := windowDays_of_valid hvalid
    have hop : condition.operator = .eq := by simpa [PolicyField.operators] using hoperator
    rw [if_neg (fun hother => by cases hother.1), resolve, hwindow, Option.getD_some]
    dsimp only at h ⊢
    cases hduplicate : answers.hasDuplicateExpense windowDays with
    | error e => exact absurd ⟨windowDays, e, hwindow, hduplicate⟩ h
    | ok duplicate =>
      refine ⟨_, rfl, ?_⟩
      rw [hop]
      refine compare_bool_iff.trans ⟨?_, ?_⟩
      · intro hequal
        exact ⟨windowDays, duplicate, rfl, hduplicate, hequal⟩
      · rintro ⟨_, _, ⟨⟩, hsame, hequal⟩
        cases hduplicate.symm.trans hsame
        exact hequal

end Condition

/-! ## One policy -/

section Policy

variable {context : PolicyEvaluationContext} {answers : Answers} {config : ConditionalPolicyConfig}
  {policy : ExpensePolicy} {unknown : Bool}

theorem all_results {f : PolicyCondition → Except HttpException Bool} {conditions : List PolicyCondition}
    {results : List Bool} (h : List.Forall₂ (fun condition result => f condition = .ok result)
      conditions results) :
    results.all id = true ↔ ∀ condition ∈ conditions, f condition = .ok true := by
  induction h with
  | nil => simp
  | cons hfirst _ ih =>
    rw [List.all_cons, Bool.and_eq_true, ih, List.forall_mem_cons, hfirst, Except.ok.injEq, id_eq]

theorem any_results {f : PolicyCondition → Except HttpException Bool} {conditions : List PolicyCondition}
    {results : List Bool} (h : List.Forall₂ (fun condition result => f condition = .ok result)
      conditions results) :
    results.any id = true ↔ ∃ condition ∈ conditions, f condition = .ok true := by
  induction h with
  | nil => simp
  | cons hfirst _ ih =>
    rw [List.any_cons, Bool.or_eq_true, ih, List.exists_mem_cons_iff, hfirst, Except.ok.injEq, id_eq]

theorem isViolated_eq_map (context : PolicyEvaluationContext) (answers : Answers) (unknown : Bool) :
    isViolated config context answers unknown =
      (config.conditions.mapM (evaluateCondition · context answers unknown)).map (fun results =>
        match config.match_ with
        | .all => results.all id
        | .any => results.any id) := by
  unfold isViolated
  cases config.conditions.mapM (evaluateCondition · context answers unknown) with
  | error e => rfl
  | ok results => cases config.match_ <;> rfl

/-- The evaluation of a policy throws if one of its questions fails. -/
theorem isViolated_of_unanswered
    (hvalid : ∀ condition ∈ config.conditions, ∃ field, Valid field condition)
    (h : ∃ condition ∈ config.conditions, Unanswered context answers condition) :
    ∃ e, isViolated config context answers unknown = .error e := by
  obtain ⟨condition, hmem, hunanswered⟩ := h
  obtain ⟨field, hfield⟩ := hvalid condition hmem
  obtain ⟨e, herror⟩ : ∃ e, evaluateCondition condition context answers unknown = .error e :=
    evaluateCondition_of_unanswered hfield hunanswered
  rw [isViolated_eq_map]
  cases hrun : config.conditions.mapM (evaluateCondition · context answers unknown) with
  | error e => exact ⟨e, rfl⟩
  | ok results =>
    obtain ⟨result, -, hresult⟩ := Except.exists_of_mapM_eq_ok hrun condition hmem
    cases herror.symm.trans hresult

/-- An evaluation whose questions are answered says whether the policy is violated. -/
theorem isViolated_of_answered
    (hvalid : ∀ condition ∈ config.conditions, ∃ field, Valid field condition)
    (h : ∀ condition ∈ config.conditions, ¬ Unanswered context answers condition) :
    ∃ violated, isViolated config context answers unknown = .ok violated ∧
      (violated = true ↔ Violated context answers config) := by
  have hmet : ∀ condition ∈ config.conditions,
      evaluateCondition condition context answers unknown = .ok true ↔
        Holds context answers condition := by
    intro condition hmem
    obtain ⟨field, hfield⟩ := hvalid condition hmem
    obtain ⟨met, heval, hmet⟩ := evaluateCondition_of_answered hfield (h condition hmem)
    rw [heval, Except.ok.injEq, hmet]
  rw [isViolated_eq_map]
  cases hrun : config.conditions.mapM (evaluateCondition · context answers unknown) with
  | error e =>
    obtain ⟨condition, hmem, herror⟩ := Except.exists_of_mapM_eq_error hrun
    obtain ⟨field, hfield⟩ := hvalid condition hmem
    obtain ⟨met, heval, -⟩ := evaluateCondition_of_answered hfield (h condition hmem)
    cases heval.symm.trans herror
  | ok results =>
    refine ⟨_, rfl, ?_⟩
    have hresults := Except.mapM_eq_ok.1 hrun
    unfold Violated
    cases config.match_ with
    | all => exact (all_results hresults).trans (forall₂_congr hmet)
    | any =>
      exact (any_results hresults).trans
        (exists_congr (fun condition => and_congr_right (hmet condition)))

/-- A policy that evaluates is violated, or it is not. -/
theorem violationOf_of_evaluates (h : Evaluates context answers policy config) :
    (Violated context answers config ∧ ∃ message,
      violationOf policy context answers = .ok (some (PolicyEngine.toViolation policy message))) ∨
    (¬ Violated context answers config ∧ violationOf policy context answers = .ok none) := by
  obtain ⟨hnormalized, hanswered⟩ := h
  obtain ⟨violated, hviolated, hiff⟩ : ∃ violated,
      isViolated config context answers (policy.severity = .BLOCK) = .ok violated ∧
        (violated = true ↔ Violated context answers config) :=
    isViolated_of_answered (valid_of_normalizeRuleConfig hnormalized) hanswered
  cases violated with
  | true =>
    refine .inl ⟨hiff.1 rfl, PolicyEngine.resolveMessage policy.config config, ?_⟩
    rw [violationOf, hnormalized]
    exact Except.bind_eq_ok.2 ⟨config, rfl, Except.bind_eq_ok.2 ⟨true, hviolated, rfl⟩⟩
  | false =>
    refine .inr ⟨fun hyes => Bool.false_ne_true (hiff.2 hyes), ?_⟩
    rw [violationOf, hnormalized]
    exact Except.bind_eq_ok.2 ⟨config, rfl, Except.bind_eq_ok.2 ⟨false, hviolated, rfl⟩⟩

/-- A policy that does not evaluate throws. -/
theorem violationOf_eq_error (h : ∀ config, ¬ Evaluates context answers policy config) :
    ∃ e, violationOf policy context answers = .error e := by
  unfold violationOf
  cases hnormalized : PolicyConfigValidator.normalizeRuleConfig policy.ruleType policy.config with
  | error e => exact ⟨e, rfl⟩
  | ok config =>
    have hunanswered : ∃ condition ∈ config.conditions, Unanswered context answers condition := by
      by_contra hnone
      exact h config ⟨hnormalized, fun condition hmem hun => hnone ⟨condition, hmem, hun⟩⟩
    obtain ⟨e, herror⟩ : ∃ e, isViolated config context answers (policy.severity = .BLOCK) = .error e :=
      isViolated_of_unanswered (valid_of_normalizeRuleConfig hnormalized) hunanswered
    exact ⟨e, Except.bind_eq_error.2 (.inr ⟨config, rfl, Except.bind_eq_error.2 (.inl herror)⟩)⟩

/-- What `evaluatePolicy` reports, in four cases. -/
inductive Reports (context : PolicyEvaluationContext) (answers : Answers) (policy : ExpensePolicy) :
    Option PolicyViolation → Prop where
  | violated {config : ConditionalPolicyConfig} (message : String)
    (hevaluates : Evaluates context answers policy config) (hviolated : Violated context answers config) :
    Reports context answers policy (some (PolicyEngine.toViolation policy message))
  | obeyed {config : ConditionalPolicyConfig} (hevaluates : Evaluates context answers policy config)
    (hobeyed : ¬ Violated context answers config) : Reports context answers policy none
  | failsClosed (message : String) (hfails : ∀ config, ¬ Evaluates context answers policy config)
    (hblock : policy.severity = .BLOCK) :
    Reports context answers policy (some (PolicyEngine.toViolation policy message))
  | skipped (hfails : ∀ config, ¬ Evaluates context answers policy config)
    (hwarn : policy.severity = .WARN) : Reports context answers policy none

theorem reports_evaluatePolicy (context : PolicyEvaluationContext) (answers : Answers)
    (policy : ExpensePolicy) :
    Reports context answers policy (evaluatePolicy policy context answers) := by
  unfold evaluatePolicy
  by_cases hevaluates : ∃ config, Evaluates context answers policy config
  · obtain ⟨config, hevaluates⟩ := hevaluates
    rcases violationOf_of_evaluates hevaluates with ⟨hviolated, message, hrun⟩ | ⟨hobeyed, hrun⟩
    · rw [hrun]
      exact .violated message hevaluates hviolated
    · rw [hrun]
      exact .obeyed hevaluates hobeyed
  · have hfails : ∀ config, ¬ Evaluates context answers policy config :=
      fun config hconfig => hevaluates ⟨config, hconfig⟩
    obtain ⟨e, hrun⟩ := violationOf_eq_error hfails
    rw [hrun]
    cases hseverity : policy.severity with
    | BLOCK =>
      dsimp only
      rw [if_pos rfl]
      exact .failsClosed _ hfails hseverity
    | WARN => exact .skipped hfails hseverity

/-- A policy has one normalised configuration. -/
theorem Evaluates.unique {config' : ConditionalPolicyConfig} (h : Evaluates context answers policy config)
    (h' : Evaluates context answers policy config') : config = config' :=
  Except.ok.inj (h.1.symm.trans h'.1)

/-- A violation is about its policy. -/
theorem evaluatePolicy_eq_some {violation : PolicyViolation}
    (h : evaluatePolicy policy context answers = some violation) :
    violation.severity = policy.severity ∧ violation.policyReference = policy.reference := by
  have hreports := reports_evaluatePolicy context answers policy
  rw [h] at hreports
  cases hreports <;> exact ⟨rfl, rfl⟩

/-- A BLOCK policy reports nothing if and only if it evaluates and is obeyed. -/
theorem evaluatePolicy_block (hblock : policy.severity = .BLOCK) :
    evaluatePolicy policy context answers = none ↔
      ∃ config, Evaluates context answers policy config ∧ ¬ Violated context answers config := by
  have hreports := reports_evaluatePolicy context answers policy
  generalize evaluatePolicy policy context answers = violation at hreports
  cases hreports with
  | violated message hevaluates hviolated =>
    simp only [reduceCtorEq, false_iff]
    rintro ⟨config, hevaluates', hobeyed⟩
    exact hobeyed (hevaluates.unique hevaluates' ▸ hviolated)
  | obeyed hevaluates hobeyed => simp only [true_iff]; exact ⟨_, hevaluates, hobeyed⟩
  | failsClosed message hfails =>
    simp only [reduceCtorEq, false_iff]
    rintro ⟨config, hevaluates, -⟩
    exact hfails config hevaluates
  | skipped hfails hwarn => cases hblock.symm.trans hwarn

/-- A WARN policy reports a violation if and only if it evaluates and is violated. -/
theorem evaluatePolicy_warn (hwarn : policy.severity = .WARN) :
    (∃ violation, evaluatePolicy policy context answers = some violation) ↔
      ∃ config, Evaluates context answers policy config ∧ Violated context answers config := by
  have hreports := reports_evaluatePolicy context answers policy
  generalize evaluatePolicy policy context answers = violation at hreports
  cases hreports with
  | violated message hevaluates hviolated =>
    exact ⟨fun _ => ⟨_, hevaluates, hviolated⟩, fun _ => ⟨_, rfl⟩⟩
  | obeyed hevaluates hobeyed =>
    simp only [reduceCtorEq, exists_false, false_iff]
    rintro ⟨config, hevaluates', hviolated⟩
    exact hobeyed (hevaluates'.unique hevaluates ▸ hviolated)
  | failsClosed message hfails hblock => cases hwarn.symm.trans hblock
  | skipped hfails =>
    simp only [reduceCtorEq, exists_false, false_iff]
    rintro ⟨config, hevaluates, -⟩
    exact hfails config hevaluates

end Policy

/-! ## All policies -/

section Policies

variable {context : PolicyEvaluationContext} {answers : Answers} {policies : List ExpensePolicy}

theorem mem_blocking {violation : PolicyViolation} :
    violation ∈ (evaluate policies context answers).blockingViolations ↔ ∃ policy ∈ policies,
      policy.severity = .BLOCK ∧ evaluatePolicy policy context answers = some violation := by
  simp only [evaluate, PolicyEngine.partitionViolations, List.mem_filter, List.mem_filterMap,
    decide_eq_true_eq]
  constructor
  · rintro ⟨⟨policy, hmem, hviolation⟩, hblock⟩
    exact ⟨policy, hmem, (evaluatePolicy_eq_some hviolation).1 ▸ hblock, hviolation⟩
  · rintro ⟨policy, hmem, hblock, hviolation⟩
    exact ⟨⟨policy, hmem, hviolation⟩, (evaluatePolicy_eq_some hviolation).1.trans hblock⟩

theorem mem_warning {violation : PolicyViolation} :
    violation ∈ (evaluate policies context answers).warningViolations ↔ ∃ policy ∈ policies,
      policy.severity = .WARN ∧ evaluatePolicy policy context answers = some violation := by
  simp only [evaluate, PolicyEngine.partitionViolations, List.mem_filter, List.mem_filterMap,
    decide_eq_true_eq]
  constructor
  · rintro ⟨⟨policy, hmem, hviolation⟩, hwarn⟩
    exact ⟨policy, hmem, (evaluatePolicy_eq_some hviolation).1 ▸ hwarn, hviolation⟩
  · rintro ⟨policy, hmem, hwarn, hviolation⟩
    exact ⟨⟨policy, hmem, hviolation⟩, (evaluatePolicy_eq_some hviolation).1.trans hwarn⟩

theorem isJustified_iff {violation : PolicyViolation} :
    PolicyEngine.isJustified context violation = true ↔ Justified context violation.policyReference := by
  unfold PolicyEngine.isJustified Justified
  rw [Option.any_eq_true]
  exact exists_congr (fun justification => and_congr_right (fun _ => decide_eq_true_iff))

/-- Nothing blocks and every warning is justified. -/
theorem assertCompliant_eq_ok_iff : (∃ result, assertCompliant policies context answers = .ok result) ↔
    (∀ violation, violation ∉ (evaluate policies context answers).blockingViolations) ∧
      ∀ violation ∈ (evaluate policies context answers).warningViolations,
        Justified context violation.policyReference := by
  rw [← List.eq_nil_iff_forall_not_mem]
  unfold assertCompliant
  dsimp only
  cases (evaluate policies context answers).blockingViolations with
  | cons violation rest => simp
  | nil =>
    cases hfind : (evaluate policies context answers).warningViolations.find?
        (fun violation => !PolicyEngine.isJustified context violation) with
    | some violation =>
      have hunjustified := List.find?_some hfind
      simp only [reduceCtorEq, exists_false, true_and, false_iff]
      intro hjustified
      have hyes := isJustified_iff.2 (hjustified violation (List.mem_of_find?_eq_some hfind))
      rw [hyes] at hunjustified
      cases hunjustified
    | none =>
      simp only [Except.ok.injEq, exists_eq', true_and, true_iff]
      intro violation hmem
      have hjustified := List.find?_eq_none.1 hfind violation hmem
      simp only [Bool.not_eq_true', Bool.not_eq_false] at hjustified
      exact isJustified_iff.1 hjustified

/-- The engine accepts an expense if and only if it complies with the policies. -/
theorem assertCompliant_iff_complies : (∃ result, assertCompliant policies context answers = .ok result) ↔
    Complies context answers policies := by
  rw [assertCompliant_eq_ok_iff]
  constructor
  · rintro ⟨hblocking, hwarning⟩
    refine ⟨fun policy hmem hblock => (evaluatePolicy_block hblock).1 ?_,
      fun policy hmem hwarn config hevaluates hviolated => ?_⟩
    · rw [Option.eq_none_iff_forall_ne_some]
      exact fun violation hviolation =>
        hblocking violation (mem_blocking.2 ⟨policy, hmem, hblock, hviolation⟩)
    · obtain ⟨violation, hviolation⟩ := (evaluatePolicy_warn hwarn).2 ⟨config, hevaluates, hviolated⟩
      rw [← (evaluatePolicy_eq_some hviolation).2]
      exact hwarning violation (mem_warning.2 ⟨policy, hmem, hwarn, hviolation⟩)
  · rintro ⟨hblocking, hwarning⟩
    refine ⟨fun violation hviolation => ?_, fun violation hviolation => ?_⟩
    · obtain ⟨policy, hmem, hblock, hreported⟩ := mem_blocking.1 hviolation
      rw [(evaluatePolicy_block hblock).2 (hblocking policy hmem hblock)] at hreported
      cases hreported
    · obtain ⟨policy, hmem, hwarn, hreported⟩ := mem_warning.1 hviolation
      obtain ⟨config, hevaluates, hviolated⟩ := (evaluatePolicy_warn hwarn).1 ⟨violation, hreported⟩
      rw [(evaluatePolicy_eq_some hreported).2]
      exact hwarning policy hmem hwarn config hevaluates hviolated

/-- A WARN policy that does not evaluate: malformed, or with a question that fails. -/
def Silent (context : PolicyEvaluationContext) (answers : Answers) (policy : ExpensePolicy) : Prop :=
  policy.severity = .WARN ∧ ∀ config, ¬ Evaluates context answers policy config

theorem evaluatePolicy_of_silent {policy : ExpensePolicy} (h : Silent context answers policy) :
    evaluatePolicy policy context answers = none := by
  have hreports := reports_evaluatePolicy context answers policy
  generalize evaluatePolicy policy context answers = violation at hreports
  cases hreports with
  | violated message hevaluates => exact absurd hevaluates (h.2 _)
  | obeyed => rfl
  | failsClosed message hfails hblock => cases h.1.symm.trans hblock
  | skipped => rfl

/-- A WARN policy that does not evaluate leaves the result as it is without it. -/
theorem evaluate_of_silent {policy : ExpensePolicy} (before after : List ExpensePolicy)
    (h : Silent context answers policy) :
    evaluate (before ++ policy :: after) context answers = evaluate (before ++ after) context answers := by
  unfold evaluate
  rw [List.filterMap_append, List.filterMap_append, List.filterMap_cons, evaluatePolicy_of_silent h]

/-- So does its verdict. -/
theorem assertCompliant_of_silent {policy : ExpensePolicy} (before after : List ExpensePolicy)
    (h : Silent context answers policy) : assertCompliant (before ++ policy :: after) context answers =
      assertCompliant (before ++ after) context answers := by
  unfold assertCompliant
  rw [evaluate_of_silent before after h]

end Policies

/-- The verdict is that of the policies, and a WARN policy that does not evaluate has no
    part in it. -/
theorem assertCompliant_sound_complete (policies : List ExpensePolicy) (context : PolicyEvaluationContext)
    (answers : Answers) :
    ((∃ result, assertCompliant policies context answers = .ok result) ↔
      Complies context answers policies) ∧
    ∀ before policy after, policies = before ++ policy :: after → Silent context answers policy →
      assertCompliant policies context answers = assertCompliant (before ++ after) context answers := by
  refine ⟨assertCompliant_iff_complies, ?_⟩
  rintro before policy after rfl hsilent
  exact assertCompliant_of_silent before after hsilent

/-! ## Reads that do not fail -/

theorem evaluateCondition_ofReads (condition : PolicyCondition) (context : PolicyEvaluationContext)
    (reads : PolicyReads) (unknown : Bool) :
    evaluateCondition condition context (.ofReads reads) unknown =
      .ok (ConditionEvaluator.evaluateCondition condition context reads unknown) := by
  unfold evaluateCondition ConditionEvaluator.evaluateCondition
  cases PolicyField.ofKey condition.field with
  | none => rfl
  | some field =>
    dsimp only
    split
    · rfl
    · cases field <;> rfl

/-- The engine whose reads do not fail is the one the services are modelled with. -/
theorem assertCompliant_ofReads (policies : List ExpensePolicy) (context : PolicyEvaluationContext)
    (reads : PolicyReads) : assertCompliant policies context (.ofReads reads) =
      PolicyEngine.assertCompliant policies context reads := by
  have hresults : ∀ (conditions : List PolicyCondition) (unknown : Bool),
      conditions.mapM (evaluateCondition · context (.ofReads reads) unknown) =
        .ok (conditions.map (ConditionEvaluator.evaluateCondition · context reads unknown)) := by
    intro conditions unknown
    induction conditions with
    | nil => rfl
    | cons condition rest ih =>
      rw [List.mapM_cons, evaluateCondition_ofReads, ih]
      rfl
  have hpolicy : ∀ policy, evaluatePolicy policy context (.ofReads reads) =
      PolicyEngine.evaluatePolicy policy context reads := by
    intro policy
    unfold evaluatePolicy PolicyEngine.evaluatePolicy
    cases hnormalized : PolicyConfigValidator.normalizeRuleConfig policy.ruleType policy.config with
    | error e =>
      rw [violationOf, hnormalized]
      rfl
    | ok config =>
      have hviolated : isViolated config context (.ofReads reads) (policy.severity = .BLOCK) =
          .ok (ConditionEvaluator.isViolated config context reads (policy.severity = .BLOCK)) := by
        rw [isViolated_eq_map, hresults]
        rfl
      have hrun : violationOf policy context (.ofReads reads) =
          .ok (if ConditionEvaluator.isViolated config context reads (policy.severity = .BLOCK) then
            some (PolicyEngine.toViolation policy (PolicyEngine.resolveMessage policy.config config))
          else none) := by
        rw [violationOf, hnormalized]
        refine Except.bind_eq_ok.2 ⟨config, rfl, Except.bind_eq_ok.2 ⟨_, hviolated, ?_⟩⟩
        split <;> rfl
      rw [hrun]
  have hevaluate : evaluate policies context (.ofReads reads) =
      PolicyEngine.evaluate policies context reads := by
    unfold evaluate PolicyEngine.evaluate
    rw [List.filterMap_congr (fun policy _ => hpolicy policy)]
  unfold assertCompliant PolicyEngine.assertCompliant
  exact hevaluate ▸ rfl

end PolicyVerdict

end Expentra
