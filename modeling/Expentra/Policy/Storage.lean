-- SUMMARY: What a policy means before and after it is stored in its conditional form.
import Expentra.Policy.RoundTrip

/-!
# Storage

`create` and `update` store the normalised form of a configuration, which has the match
mode and the conditions but no message. The stored policy is violated in the same cases;
it says the same when the given one has no message of its own.
-/

namespace Expentra

open Library

namespace PolicyStorage

open ActivePolicies (PolicyRow CreateExpensePolicyInput UpdateExpensePolicyInput created updated
  configObject)
open PolicyConfigValidator (normalizeRuleConfig conditionalForm normalizeRuleConfig_eq_ok)
open PolicyVerdict

/-! ## What is stored -/

/-- A rule that `create` or `update` accepts, and the policy that comes to be stored. -/
inductive Stores : ExpensePolicyRuleType → Json → PolicyRow → Prop
  | create {input : CreateExpensePolicyInput} {reference : String} {now : Instant} {stored : PolicyRow}
    (h : created input reference now = .ok stored) :
    Stores (input.ruleType.getD .CONDITIONAL) input.config stored
  | update {input : UpdateExpensePolicyInput} {policy stored : PolicyRow} {raw : Json}
    (hconfig : input.config = some raw) (h : updated input policy = .ok stored) :
    Stores policy.ruleType raw stored

/-- The policy with the rule as it was given. -/
def asGiven (stored : PolicyRow) (ruleType : ExpensePolicyRuleType) (raw : Json) : ExpensePolicy :=
  { stored.toExpensePolicy with ruleType, config := raw }

section Meaning

variable {ruleType : ExpensePolicyRuleType} {raw : Json} {stored : PolicyRow}
  {config : ConditionalPolicyConfig} {given : ExpensePolicy}

theorem Stores.normalized (h : Stores ruleType raw stored) :
    ∃ config, normalizeRuleConfig ruleType raw = .ok config ∧ stored.ruleType = .CONDITIONAL ∧
      stored.config = (configObject config).reparsed := by
  cases h with
  | create h =>
    obtain ⟨config, hconfig, h⟩ := Except.bind_eq_ok.1 h
    cases h
    exact ⟨config, hconfig, rfl, rfl⟩
  | @update input policy _ _ hraw h =>
    unfold updated at h
    rw [hraw] at h
    obtain ⟨config, hconfig, h⟩ := Except.bind_eq_ok.1 h
    cases h
    exact ⟨config, hconfig, rfl, rfl⟩

/-- What a policy reports, by what the conditions come to. -/
def messageOf (severity : ExpensePolicySeverity) (message : String) :
    Except HttpException Bool → Option String
  | .ok violated => if violated then some message else none
  | .error _ =>
    if severity = .BLOCK then some "Policy configuration is invalid. Contact an administrator." else none

theorem evaluatePolicy_message (context : PolicyEvaluationContext) (answers : Answers)
    (h : normalizeRuleConfig given.ruleType given.config = .ok config) :
    (evaluatePolicy given context answers).map PolicyViolation.message =
      messageOf given.severity (PolicyEngine.resolveMessage given.config config)
        (isViolated config context answers (given.severity = .BLOCK)) := by
  have hrun : violationOf given context answers =
      (isViolated config context answers (given.severity = .BLOCK)).map (fun violated =>
        if violated then some (PolicyEngine.toViolation given (PolicyEngine.resolveMessage given.config config))
        else none) := by
    rw [violationOf, h]
    change (isViolated config context answers (given.severity = .BLOCK) >>= _) = _
    cases isViolated config context answers (given.severity = .BLOCK) with
    | error e => rfl
    | ok violated => cases violated <;> rfl
  unfold evaluatePolicy
  rw [hrun]
  cases isViolated config context answers (given.severity = .BLOCK) with
  | error e => cases hseverity : given.severity <;> simp [messageOf, Except.map, PolicyEngine.toViolation]
  | ok violated => cases violated <;> rfl

theorem isSome_messageOf (severity : ExpensePolicySeverity) (m m' : String) (r : Except HttpException Bool) :
    (messageOf severity m r).isSome = (messageOf severity m' r).isSome := by
  rcases r with e | _ | _ <;> rfl

/-- Whatever message it has, a stored policy is violated in the same cases. -/
theorem Stores.verdict (h : Stores ruleType raw stored) (context : PolicyEvaluationContext)
    (answers : Answers) :
    (evaluatePolicy stored.toExpensePolicy context answers).isSome =
      (evaluatePolicy (asGiven stored ruleType raw) context answers).isSome := by
  obtain ⟨config, hnormalized, htype, hstored⟩ := h.normalized
  have hreread := normalizeRuleConfig_reparsed hnormalized
  rw [← htype, ← hstored] at hreread
  have hgiven : (evaluatePolicy (asGiven stored ruleType raw) context answers).map PolicyViolation.message =
      messageOf stored.severity (PolicyEngine.resolveMessage raw config)
        (isViolated config context answers (stored.severity = .BLOCK)) :=
    evaluatePolicy_message context answers hnormalized
  have hsome : ∀ violation : Option PolicyViolation,
      violation.isSome = (violation.map PolicyViolation.message).isSome :=
    fun violation => Option.isSome_map.symm
  rw [hsome, evaluatePolicy_message context answers hreread, isViolated_reread hnormalized, hsome, hgiven]
  exact isSome_messageOf _ _ _ _

end Meaning

private def receiptInput : CreateExpensePolicyInput where
  name := "Receipts"
  ruleType := some .RECEIPT_REQUIRED
  severity := .BLOCK
  config := .obj [("minAmountKobo", .num 500000), ("message", .str "Attach the receipt.")]
  isActive := none

private def storedReceipt : PolicyRow where
  reference := "POL-1"
  name := "Receipts"
  ruleType := .CONDITIONAL
  severity := .BLOCK
  config := .obj [("match", .str "all"), ("conditions", .arr
    [.obj [("field", .str "amount"), ("operator", .str "gte"), ("value", .num 500000)],
      .obj [("field", .str "attachment_count"), ("operator", .str "eq"), ("value", .num 0)]])]
  id := 0
  isActive := true
  createdAt := 0

end PolicyStorage

end Expentra
