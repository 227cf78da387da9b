-- SUMMARY: What the normalisation of a policy configuration accepts, and what it returns.
import Mathlib.Data.List.Forall2
import Expentra.Library.Transaction
import Expentra.Policy.Condition

/-!
# Normalisation

`normalizeRuleConfig` parses a configuration property by property. The lemmas say which
properties an accepted configuration has, and which conditions come of them.
-/

namespace Expentra

open Library

namespace PolicyConfigValidator

/-! ## Validated conditions -/

/-- What the validation of a condition leaves. -/
structure Valid (field : PolicyField) (condition : PolicyCondition) : Prop where
  known : PolicyField.ofKey condition.field = some field
  operator : condition.operator ∈ field.operators
  checked : ∃ index, validateFieldCondition field condition index = .ok ()

section Conditions

variable {condition : PolicyCondition} {index : Nat} {u : Unit}

theorem valid_of_validateCondition (h : validateCondition condition index = .ok u) :
    ∃ field, Valid field condition := by
  unfold validateCondition at h
  split at h
  · cases h
  · rename_i field hknown
    split at h
    · rename_i hoperator
      exact ⟨field, hknown, by simpa using hoperator, index, h⟩
    · cases h

theorem num_of_integer? {value : Json} {n : Int} (h : value.integer? = some n) :
    ∃ x, value = .num x ∧ Js.integer? x = some n := by
  cases value with
  | num x => exact ⟨x, rfl, h⟩
  | _ => cases h

theorem num_of_assertPositiveKobo {label : String} (h : assertPositiveKobo condition index label = .ok u) :
    ∃ x n, condition.value = .num x ∧ Js.integer? x = some n ∧ 0 < n := by
  unfold assertPositiveKobo at h
  split at h
  · rename_i n hn
    obtain ⟨x, hvalue, hinteger⟩ := num_of_integer? hn
    split at h
    · cases h
    · exact ⟨x, n, hvalue, hinteger, by omega⟩
  · cases h

theorem windowDays_of_assertWindowDaysParam (h : assertWindowDaysParam condition index = .ok u) :
    ∃ days, condition.windowDays? = some days := by
  unfold assertWindowDaysParam at h
  split at h
  · rename_i days hdays
    exact ⟨days, hdays⟩
  · cases h

end Conditions

/-! ## Parsing -/

section Parsing

variable {value config : Json} {index : Nat} {condition : PolicyCondition}

/-- The object a condition is parsed from. -/
structure ParsedFrom (value : Json) (index : Nat) (condition : PolicyCondition) : Prop where
  object : ∃ fields, value = .obj fields
  field : value.get? "field" = some (.str condition.field)
  operator : ∃ name, value.get? "operator" = some (.str name) ∧
    PolicyConditionOperator.ofName name = some condition.operator
  expected : value.get? "value" = some condition.value
  params : parseParams (value.get? "params") index = .ok condition.params
  valid : validateCondition condition index = .ok ()

theorem parseCondition_eq_ok :
    parseCondition value index = .ok condition ↔ ParsedFrom value index condition := by
  constructor
  · intro h
    unfold parseCondition at h
    split at h
    · rename_i fields
      dsimp only at h
      split at h
      · rename_i field hfield
        split at h
        · rename_i name hname
          split at h
          · rename_i operator hoperator
            split at h
            · rename_i expected hexpected
              simp only [pure_bind] at h
              obtain ⟨params, hparams, h⟩ := Except.bind_eq_ok.1 h
              obtain ⟨_, hvalid, h⟩ := Except.bind_eq_ok.1 h
              cases h
              exact ⟨⟨fields, rfl⟩, hfield, ⟨name, hname, hoperator⟩, hexpected, hparams, hvalid⟩
            · cases h
          · cases h
        · cases h
      · cases h
    · cases h
  · rintro ⟨⟨fields, rfl⟩, hfield, ⟨name, hname, hoperator⟩, hexpected, hparams, hvalid⟩
    unfold parseCondition
    simp only [hfield, hname, hoperator, hexpected, hparams]
    change (validateCondition condition index >>= fun _ => pure condition) = .ok condition
    rw [hvalid]
    rfl

/-- The conditions of a list, each parsed at its own position. -/
theorem parseConditions_eq_ok {items : List Json} {conditions : List PolicyCondition} :
    parseConditions items index = .ok conditions ↔ List.Forall₂ (fun entry condition =>
      ParsedFrom entry.1 entry.2 condition) (items.zipIdx index) conditions := by
  induction items generalizing index conditions with
  | nil =>
    rw [parseConditions, List.zipIdx_nil, List.forall₂_nil_left_iff]
    exact ⟨fun h => (Except.ok.inj h).symm, fun h => congrArg Except.ok h.symm⟩
  | cons item rest ih =>
    rw [parseConditions, List.zipIdx_cons, List.forall₂_cons_left_iff]
    constructor
    · intro h
      obtain ⟨first, hfirst, h⟩ := Except.bind_eq_ok.1 h
      obtain ⟨others, hothers, h⟩ := Except.bind_eq_ok.1 h
      exact ⟨first, others, parseCondition_eq_ok.1 hfirst, ih.1 hothers, (Except.ok.inj h).symm⟩
    · rintro ⟨first, others, hfirst, hothers, rfl⟩
      rw [parseCondition_eq_ok.2 hfirst]
      refine Except.bind_eq_ok.2 ⟨first, rfl, Except.bind_eq_ok.2 ⟨others, ih.2 hothers, rfl⟩⟩

/-- What a configuration is validated to. -/
structure ValidatedTo (config : Json) (normalized : ConditionalPolicyConfig) : Prop where
  message : assertOptionalMessage config = .ok ()
  mode : parseMatch config = .ok normalized.match_
  conditions : ∃ items, config.get? "conditions" = some (.arr items) ∧ items ≠ [] ∧
    parseConditions items 0 = .ok normalized.conditions

theorem validate_eq_ok {normalized : ConditionalPolicyConfig} :
    validate config = .ok normalized ↔ ValidatedTo config normalized := by
  constructor
  · intro h
    obtain ⟨_, hmessage, h⟩ := Except.bind_eq_ok.1 h
    obtain ⟨mode, hmode, h⟩ := Except.bind_eq_ok.1 h
    split at h
    · rename_i item rest hitems
      obtain ⟨conditions, hconditions, h⟩ := Except.bind_eq_ok.1 h
      cases h
      exact ⟨hmessage, hmode, item :: rest, hitems, List.cons_ne_nil _ _, hconditions⟩
    · cases h
  · rintro ⟨hmessage, hmode, items, hitems, hnonempty, hconditions⟩
    cases items with
    | nil => exact absurd rfl hnonempty
    | cons item rest =>
      rw [validate, hmessage, hmode]
      simp only [hitems]
      exact Except.bind_eq_ok.2 ⟨(), rfl, Except.bind_eq_ok.2 ⟨_, rfl,
        Except.bind_eq_ok.2 ⟨_, hconditions, rfl⟩⟩⟩

/-- The conditional form of a configuration: itself, or the translation of a legacy rule. -/
def conditionalForm (ruleType : ExpensePolicyRuleType) (config : Json) : Json :=
  if ruleType = .CONDITIONAL then config else legacyToConditional ruleType config

theorem normalizeRuleConfig_eq_ok {ruleType : ExpensePolicyRuleType} {normalized : ConditionalPolicyConfig} :
    normalizeRuleConfig ruleType config = .ok normalized ↔
      config.isNull = false ∧ ValidatedTo (conditionalForm ruleType config) normalized := by
  rw [normalizeRuleConfig, conditionalForm]
  cases config.isNull with
  | true => simp
  | false =>
    rw [if_neg (by decide), ← validate_eq_ok]
    split <;> simp

/-- A normalised configuration has conditions on known fields only. -/
theorem valid_of_normalizeRuleConfig {ruleType : ExpensePolicyRuleType}
    {normalized : ConditionalPolicyConfig} (h : normalizeRuleConfig ruleType config = .ok normalized) :
    ∀ condition ∈ normalized.conditions, ∃ field, Valid field condition := by
  obtain ⟨-, -, -, items, -, -, hconditions⟩ := normalizeRuleConfig_eq_ok.1 h
  have hparsed := parseConditions_eq_ok.1 hconditions
  generalize normalized.conditions = conditions at hparsed ⊢
  generalize items.zipIdx = entries at hparsed
  induction hparsed with
  | nil => exact fun _ h => absurd h List.not_mem_nil
  | cons hfirst _ ih => exact List.forall_mem_cons.2 ⟨valid_of_validateCondition hfirst.valid, ih⟩

end Parsing

end PolicyConfigValidator

end Expentra
