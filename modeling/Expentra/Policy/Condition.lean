-- SUMMARY: Policy conditions, their validation from stored configurations, and their descriptions.
import Expentra.Core.Json
import Expentra.Database.Entities

/-!
# Policy conditions

A stored policy is a rule type with a JSON configuration. `normalizeRuleConfig`
turns it into a list of conditions or says what is wrong with it. Each condition
compares one field of the expense; the fields carry their admitted operators,
their validation and their wording.
-/

namespace Expentra

inductive PolicyConditionOperator where
  | eq | neq | gt | gte | lt | lte | in_ | notIn
deriving DecidableEq, Repr

/-- `POLICY_CONDITION_OPERATORS`, by their stored names. -/
def PolicyConditionOperator.ofName : String → Option PolicyConditionOperator
  | "eq" => some .eq
  | "neq" => some .neq
  | "gt" => some .gt
  | "gte" => some .gte
  | "lt" => some .lt
  | "lte" => some .lte
  | "in" => some .in_
  | "not_in" => some .notIn
  | _ => none

def PolicyConditionOperator.name : PolicyConditionOperator → String
  | .eq => "eq"
  | .neq => "neq"
  | .gt => "gt"
  | .gte => "gte"
  | .lt => "lt"
  | .lte => "lte"
  | .in_ => "in"
  | .notIn => "not_in"

structure PolicyConditionParams where
  category : Option String
  /-- `Number(params.windowDays)`, when the property is there. -/
  windowDays : Option Float
deriving DecidableEq

structure PolicyCondition where
  field : String
  operator : PolicyConditionOperator
  value : Json
  params : Option PolicyConditionParams
deriving DecidableEq

inductive PolicyMatch where
  | all
  | any
deriving DecidableEq, Repr

structure ConditionalPolicyConfig where
  match_ : PolicyMatch
  conditions : List PolicyCondition
deriving DecidableEq

/-- `Number(condition.params?.windowDays)`, when it is an integer. -/
def PolicyCondition.windowDays? (condition : PolicyCondition) : Option Int :=
  (condition.params.bind (·.windowDays)).bind Js.integer?

def PolicyCondition.category? (condition : PolicyCondition) : Option String :=
  condition.params.bind (·.category)

/-- The keys of `PolicyFieldResolverRegistry`. -/
inductive PolicyField where
  | amount
  | category
  | attachmentCount
  | submittedDayOfWeek
  | monthlyCategorySpend
  | hasDuplicateExpense
deriving DecidableEq, Repr

def PolicyField.ofKey : String → Option PolicyField
  | "amount" => some .amount
  | "category" => some .category
  | "attachment_count" => some .attachmentCount
  | "submitted_day_of_week" => some .submittedDayOfWeek
  | "monthly_category_spend" => some .monthlyCategorySpend
  | "has_duplicate_expense" => some .hasDuplicateExpense
  | _ => none

def PolicyField.operators : PolicyField → List PolicyConditionOperator
  | .amount => [.eq, .neq, .gt, .gte, .lt, .lte]
  | .category => [.eq, .neq, .in_, .notIn]
  | .attachmentCount => [.eq, .neq, .gt, .gte, .lt, .lte]
  | .submittedDayOfWeek => [.eq, .in_, .notIn]
  | .monthlyCategorySpend => [.gt, .gte, .lt, .lte, .eq]
  | .hasDuplicateExpense => [.eq]

def ExpenseCategory.name : ExpenseCategory → String
  | .TRAVEL => "TRAVEL"
  | .MEALS => "MEALS"
  | .SUPPLIES => "SUPPLIES"
  | .OTHERS => "OTHERS"

def isExpenseCategory (name : String) : Bool :=
  name = "TRAVEL" || name = "MEALS" || name = "SUPPLIES" || name = "OTHERS"

/-! ## Validation -/

namespace PolicyConfigValidator

/-- A complaint about the condition at a position. -/
def conditionError (index : Nat) (complaint : String) : HttpException :=
  .badRequest ("Condition " ++ toString (index + 1) ++ " " ++ complaint)

def assertPositiveKobo (condition : PolicyCondition) (index : Nat) (label : String) :
    Except HttpException Unit :=
  match condition.value.integer? with
  | some n =>
    if n ≤ 0 then .error (conditionError index (label ++ " must be a positive amount in kobo"))
    else .ok ()
  | none => .error (conditionError index (label ++ " must be a positive amount in kobo"))

def assertIntegerValue (condition : PolicyCondition) (index : Nat) : Except HttpException Unit :=
  if condition.value.integer?.isSome then .ok ()
  else .error (conditionError index "requires a numeric value")

def isCategoryText : Json → Bool
  | .str name => isExpenseCategory name
  | _ => false

/-- A list of categories, for `in` and `not_in`. -/
def isCategoryList : Json → Bool
  | .arr items => !items.isEmpty && items.all isCategoryText
  | _ => false

def assertCategoryValue (condition : PolicyCondition) (index : Nat) : Except HttpException Unit :=
  if condition.operator = .in_ || condition.operator = .notIn then
    if isCategoryList condition.value then .ok ()
    else .error (conditionError index "category list is invalid")
  else if isCategoryText condition.value then .ok ()
  else .error (conditionError index "category value is invalid")

/-- `items.every((item) => Number.isInteger(Number(item)))`, up to the first that is not. -/
def areIntegers : List Json → Except HttpException Bool
  | [] => .ok true
  | item :: rest => do
    let n ← item.toNumber
    if (Js.integer? n).isSome then areIntegers rest else pure false

/-- A list of weekdays, for `in` and `not_in`. -/
def isWeekdayList : Json → Except HttpException Bool
  | .arr items => if items.isEmpty then .ok false else areIntegers items
  | _ => .ok false

def assertWeekdayValue (condition : PolicyCondition) (index : Nat) : Except HttpException Unit :=
  if condition.operator = .in_ || condition.operator = .notIn then do
    if ← isWeekdayList condition.value then pure ()
    else throw (conditionError index "weekday list is invalid")
  else if condition.value.integer?.isSome then .ok ()
  else .error (conditionError index "requires a numeric weekday")

def assertCategoryParam (condition : PolicyCondition) (index : Nat) : Except HttpException Unit :=
  match condition.category? with
  | some "" => .error (conditionError index "requires a category param")
  | some _ => .ok ()
  | none => .error (conditionError index "requires a category param")

def assertWindowDaysParam (condition : PolicyCondition) (index : Nat) :
    Except HttpException Unit :=
  match condition.windowDays? with
  | some days =>
    if days ≤ 0 then .error (conditionError index "requires a positive windowDays param") else .ok ()
  | none => .error (conditionError index "requires a positive windowDays param")

/-- The `validateCondition` of each resolver. -/
def validateFieldCondition (field : PolicyField) (condition : PolicyCondition) (index : Nat) :
    Except HttpException Unit :=
  match field with
  | .amount => assertPositiveKobo condition index "amount"
  | .category => assertCategoryValue condition index
  | .attachmentCount => assertIntegerValue condition index
  | .submittedDayOfWeek => assertWeekdayValue condition index
  | .monthlyCategorySpend => do
    assertCategoryParam condition index
    assertPositiveKobo condition index "spend cap"
  | .hasDuplicateExpense =>
    match condition.value with
    | .bool _ => assertWindowDaysParam condition index
    | _ => .error (conditionError index "duplicate value must be true or false")

def validateCondition (condition : PolicyCondition) (index : Nat) : Except HttpException Unit :=
  match PolicyField.ofKey condition.field with
  | none =>
    .error (conditionError index ("uses unsupported field \"" ++ condition.field ++ "\""))
  | some field =>
    if field.operators.contains condition.operator then
      validateFieldCondition field condition index
    else .error (conditionError index
      ("operator \"" ++ condition.operator.name ++ "\" is invalid for " ++ condition.field))

/-- The `params` of a condition. An array passes for an object without properties. -/
def parseParams (params : Option Json) (index : Nat) :
    Except HttpException (Option PolicyConditionParams) :=
  match params with
  | none => .ok none
  | some (.obj fields) => do
    let raw := Json.obj fields
    let category ← (raw.get? "category").mapM Json.toText
    let windowDays ← (raw.get? "windowDays").mapM Json.toNumber
    pure (some ⟨category, windowDays⟩)
  | some (.arr _) => .ok (some ⟨none, none⟩)
  | some _ => .error (conditionError index "params must be an object")

def parseCondition (value : Json) (index : Nat) : Except HttpException PolicyCondition :=
  match value with
  | .obj _ => do
    let field ← match value.get? "field" with
      | some (.str field) => pure field
      | _ => throw (conditionError index "has an invalid field")
    let operator ← match value.get? "operator" with
      | some (.str name) =>
        match PolicyConditionOperator.ofName name with
        | some operator => pure operator
        | none => throw (conditionError index "has an invalid operator")
      | _ => throw (conditionError index "has an invalid operator")
    let expected ← match value.get? "value" with
      | some expected => pure expected
      | none => throw (conditionError index "requires a value")
    let params ← parseParams (value.get? "params") index
    let condition : PolicyCondition := ⟨field, operator, expected, params⟩
    validateCondition condition index
    pure condition
  | _ => .error (conditionError index "must be an object")

/-- `config.conditions.map(parseCondition)`, up to the first that throws. -/
def parseConditions : List Json → Nat → Except HttpException (List PolicyCondition)
  | [], _ => .ok []
  | item :: rest, index => do
    let condition ← parseCondition item index
    let conditions ← parseConditions rest (index + 1)
    pure (condition :: conditions)

def assertOptionalMessage (config : Json) : Except HttpException Unit :=
  let refusal := HttpException.badRequest "Policy message must be a non-empty string when provided"
  match config.get? "message" with
  | none => .ok ()
  | some (.str message) => if Js.trim message = "" then .error refusal else .ok ()
  | some _ => .error refusal

def parseMatch (config : Json) : Except HttpException PolicyMatch :=
  match config.get? "match" with
  | some (.str "all") => .ok .all
  | some (.str "any") => .ok .any
  | _ => .error (.badRequest "Policy match mode must be \"all\" or \"any\"")

def validate (config : Json) : Except HttpException ConditionalPolicyConfig := do
  assertOptionalMessage config
  let match_ ← parseMatch config
  match config.get? "conditions" with
  | some (.arr (item :: rest)) => do
    let conditions ← parseConditions (item :: rest) 0
    pure ⟨match_, conditions⟩
  | _ => throw (.badRequest "Policy requires at least one condition")

end PolicyConfigValidator

inductive ExpensePolicyRuleType where
  | CONDITIONAL
  | RECEIPT_REQUIRED
  | CATEGORY_MONTHLY_CAP
  | WEEKEND_TRAVEL_JUSTIFICATION
  | DUPLICATE_DETECTION
deriving DecidableEq, Repr

namespace PolicyConfigValidator

/-- An object literal; properties that are `undefined` are left out. -/
def object (fields : List (String × Option Json)) : Json :=
  .obj (fields.filterMap (fun field => field.2.map (fun value => (field.1, value))))

/-- `{ field, operator, value, params }` -/
def conditionObject (field operator : String) (value : Option Json) (params : Option Json) : Json :=
  object [("field", some (.str field)), ("operator", some (.str operator)), ("value", value),
    ("params", params)]

def legacyConditions (ruleType : ExpensePolicyRuleType) (config : Json) : List Json :=
  match ruleType with
  | .RECEIPT_REQUIRED =>
    [conditionObject "amount" "gte" (config.get? "minAmountKobo") none,
      conditionObject "attachment_count" "eq" (some (.num 0)) none]
  | .CATEGORY_MONTHLY_CAP =>
    [conditionObject "category" "eq" (config.get? "category") none,
      conditionObject "monthly_category_spend" "gt" (config.get? "capKobo")
        (some (object [("category", config.get? "category")]))]
  | .WEEKEND_TRAVEL_JUSTIFICATION =>
    -- `typed.categories ?? [TRAVEL]`: `null` counts as missing
    let categories := match config.get? "categories" with
      | none => Json.arr [.str "TRAVEL"]
      | some .null => Json.arr [.str "TRAVEL"]
      | some categories => categories
    [conditionObject "category" "in" (some categories) none,
      conditionObject "submitted_day_of_week" "in" (some (.arr [.num 0, .num 6])) none]
  | .DUPLICATE_DETECTION =>
    [conditionObject "has_duplicate_expense" "eq" (some (.bool true))
      (some (object [("windowDays", config.get? "windowDays")]))]
  | .CONDITIONAL => []

/-- The message of a configuration, when it is text. -/
def textMessage (config : Json) : Option Json :=
  match config.get? "message" with
  | some (.str message) => some (.str message)
  | _ => none

def legacyToConditional (ruleType : ExpensePolicyRuleType) (config : Json) : Json :=
  object [("match", some (.str "all")), ("message", textMessage config),
    ("conditions", some (.arr (legacyConditions ruleType config)))]

/-- `null` has no `message`, whatever the rule type. -/
def normalizeRuleConfig (ruleType : ExpensePolicyRuleType) (config : Json) :
    Except HttpException ConditionalPolicyConfig :=
  if config.isNull then .error (.typeError "Cannot read properties of null (reading 'message')")
  else if ruleType = .CONDITIONAL then validate config
  else validate (legacyToConditional ruleType config)

end PolicyConfigValidator

end Expentra
