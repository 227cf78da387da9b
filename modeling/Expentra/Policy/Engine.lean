-- SUMMARY: The policy engine: evaluation of the active policies against an expense and the spend of its owner.
import Expentra.Policy.Condition
import Expentra.Database.Store

/-!
# The policy engine

`assertCompliant` evaluates the active policies on a context. What it asks the
database for, the monthly spend in a category and the existence of a duplicate,
is kept apart in `PolicyReads`, so that the moment of those reads can be told
from the moment of the verdict.
-/

namespace Expentra

open Library

inductive ExpensePolicySeverity where
  | BLOCK
  | WARN
deriving DecidableEq, Repr

structure ExpensePolicy where
  reference : String
  name : String
  ruleType : ExpensePolicyRuleType
  severity : ExpensePolicySeverity
  config : Json
deriving DecidableEq

structure PolicyEvaluationContext where
  expenseId : Nat
  userId : Nat
  amount : Int
  category : ExpenseCategory
  submittedAt : Instant
  attachmentCount : Nat
  /-- The justification of a policy, by its reference. -/
  policyJustifications : List (String × String)
deriving DecidableEq, Repr

structure PolicyViolation where
  policyReference : String
  policyName : String
  ruleType : ExpensePolicyRuleType
  severity : ExpensePolicySeverity
  message : String
deriving DecidableEq, Repr

structure PolicyEvaluationResult where
  violations : List PolicyViolation
  blockingViolations : List PolicyViolation
  warningViolations : List PolicyViolation
deriving DecidableEq, Repr

/-! ## The evaluation cache -/

/-- What `PolicyEvaluationCache` returns during one evaluation. -/
structure PolicyReads where
  monthlyCategorySpend : ExpenseCategory → Float
  hasDuplicateExpense : Int → Bool

namespace PolicyEvaluationCache

/-- `ACTIVE_EXPENSE_STATUSES.includes` -/
def isActiveStatus : ExpenseStatus → Bool
  | .SUBMITTED | .UNDER_REVIEW | .APPROVED | .REIMBURSED => true
  | .DRAFT | .REJECTED => false

/-- The UTC month of a date, half open. -/
def monthRange (date : Instant) : Instant × Instant :=
  (Date.utc (Date.getUTCFullYear date) (Date.getUTCMonth date) 1 0 0 0,
    Date.utc (Date.getUTCFullYear date) (Date.getUTCMonth date + 1) 1 0 0 0)

def loadMonthlyCategorySpend (db : Db) (context : PolicyEvaluationContext)
    (category : ExpenseCategory) : Float :=
  let period := monthRange context.submittedAt
  let priorTotal := db.expenses.sum (fun e =>
    if e.userId = context.userId && e.category = category && isActiveStatus e.status &&
        e.submittedAt.any (fun t => period.1 ≤ t && t < period.2) && e.id ≠ context.expenseId
    then e.amount.val else 0)
  Float.ofInt priorTotal + (if context.category = category then Float.ofInt context.amount else 0)

def loadDuplicateExpense (db : Db) (context : PolicyEvaluationContext) (windowDays : Int) : Bool :=
  let since := context.submittedAt - windowDays * Date.msPerDay
  db.expenses.rows.any (fun e =>
    e.userId = context.userId && e.amount.val = context.amount && e.category = context.category &&
      e.status ≠ .DRAFT && e.status ≠ .REJECTED && e.id ≠ context.expenseId &&
      e.submittedAt.any (fun t => since ≤ t))

/-- Every read at one moment. -/
def reads (db : Db) (context : PolicyEvaluationContext) : PolicyReads where
  monthlyCategorySpend := loadMonthlyCategorySpend db context
  hasDuplicateExpense := loadDuplicateExpense db context

end PolicyEvaluationCache

/-! ## Wording -/

namespace ConditionDescription

/-- The functions an object literal inherits. -/
def objectMethods : List String :=
  ["__defineGetter__", "__defineSetter__", "hasOwnProperty", "__lookupGetter__", "__lookupSetter__",
    "isPrototypeOf", "propertyIsEnumerable", "toString", "valueOf", "toLocaleString"]

/-- `CATEGORY_LABELS[category] ?? category`, as text. A name that every object has a property
    under finds that property. -/
def formatCategoryLabel : String → String
  | "TRAVEL" => "Travel"
  | "MEALS" => "Meals"
  | "SUPPLIES" => "Supplies"
  | "OTHERS" => "Others"
  | "constructor" => "function Object() \x7b [native code] \x7d"
  | "__proto__" => "[object Object]"
  | category =>
    if objectMethods.contains category then "function " ++ category ++ "() \x7b [native code] \x7d"
    else category

def formatWeekday (day : Float) : String :=
  match Js.integer? day with
  | some 0 => "Sunday"
  | some 1 => "Monday"
  | some 2 => "Tuesday"
  | some 3 => "Wednesday"
  | some 4 => "Thursday"
  | some 5 => "Friday"
  | some 6 => "Saturday"
  | _ => Js.numberToString day

/-- `Number(value)` of a validated value. -/
def numberOf (value : Json) : Float := value.toNumber.toOption.getD Js.NaN

/-- `String(value)` of a validated value. -/
def textOf (value : Json) : String := value.toText.toOption.getD ""

/-- `₦` and the amount in major units with two decimals. -/
def formatKobo (kobo : Float) : String := "₦" ++ Js.numberToFixedTwo (kobo / 100)

/-- The elements of a list, or the value itself, each put in words. -/
def describeList (word : Json → String) : Json → String
  | .arr items => ", ".intercalate (items.map word)
  | value => word value

def describeAmount (condition : PolicyCondition) : String :=
  let amount := formatKobo (numberOf condition.value)
  match condition.operator with
  | .gte => "the expense amount is at least " ++ amount
  | .gt => "the expense amount is more than " ++ amount
  | .lte => "the expense amount is " ++ amount ++ " or less"
  | .lt => "the expense amount is less than " ++ amount
  | .eq => "the expense amount is exactly " ++ amount
  | .neq => "the expense amount is not " ++ amount
  | .in_ | .notIn => "the expense amount is " ++ amount

def describeCategory (condition : PolicyCondition) : String :=
  let label := fun item : Json => formatCategoryLabel (textOf item)
  match condition.operator with
  | .eq => "the category is " ++ label condition.value
  | .neq => "the category is not " ++ label condition.value
  | .in_ => "the category is " ++ describeList label condition.value
  | .notIn => "the category is not " ++ describeList label condition.value
  | _ => "the category is " ++ label condition.value

def describeAttachmentCount (condition : PolicyCondition) : String :=
  let count := numberOf condition.value
  let text := Js.numberToString count
  let plural := if count == 1 then "" else "s"
  match condition.operator with
  | .eq =>
    if count == 0 then "no receipts are attached"
    else "exactly " ++ text ++ " receipt" ++ plural ++ " " ++
      (if count == 1 then "is" else "are") ++ " attached"
  | .neq =>
    if count == 0 then "at least one receipt is attached"
    else "the number of receipts is not " ++ text
  | .gte =>
    if count ≤ 1 then "at least one receipt is required"
    else "at least " ++ text ++ " receipts are required"
  | .gt =>
    "more than " ++ text ++ " receipt" ++ plural ++ " " ++
      (if count == 0 then "are" else "is") ++ " required"
  | .lte =>
    if count == 0 then "no receipts should be attached"
    else "no more than " ++ text ++ " receipt" ++ plural ++ " should be attached"
  | .lt => "fewer than " ++ text ++ " receipt" ++ plural ++ " are attached"
  | .in_ | .notIn => "the receipt count is " ++ text

def describeSubmittedDay (condition : PolicyCondition) : String :=
  let weekday := fun item : Json => formatWeekday (numberOf item)
  match condition.operator with
  | .eq => "the expense was submitted on " ++ weekday condition.value
  | .in_ => "the expense was submitted on " ++ describeList weekday condition.value
  | .notIn => "the expense was not submitted on " ++ describeList weekday condition.value
  | _ => "the expense was submitted on " ++ weekday condition.value

def describeMonthlyCategorySpend (condition : PolicyCondition) : String :=
  let category := formatCategoryLabel (condition.category?.getD "this category")
  let amount := formatKobo (numberOf condition.value)
  match condition.operator with
  | .gte => category ++ " monthly spend is at least " ++ amount
  | .gt => category ++ " monthly spend is more than " ++ amount
  | .lte => category ++ " monthly spend is " ++ amount ++ " or less"
  | .lt => category ++ " monthly spend is less than " ++ amount
  | .eq => category ++ " monthly spend is exactly " ++ amount
  | _ => category ++ " monthly spend is " ++ amount

def describeDuplicate (condition : PolicyCondition) : String :=
  let days := (condition.params.bind (·.windowDays)).getD 0
  let window := Js.numberToString days ++ " day" ++ (if days == 1 then "" else "s")
  match condition.value with
  | .bool true =>
    if days.isFinite && 0 < days then "a similar expense was submitted within the last " ++ window
    else "a similar expense was submitted recently"
  | _ =>
    if days.isFinite && 0 < days then "no similar expense exists within the last " ++ window
    else "no similar expense exists recently"

/-- The `describe` of each resolver. -/
def describe : PolicyField → PolicyCondition → String
  | .amount => describeAmount
  | .category => describeCategory
  | .attachmentCount => describeAttachmentCount
  | .submittedDayOfWeek => describeSubmittedDay
  | .monthlyCategorySpend => describeMonthlyCategorySpend
  | .hasDuplicateExpense => describeDuplicate

end ConditionDescription

/-! ## Evaluation -/

namespace ConditionEvaluator

def describeCondition (condition : PolicyCondition) : String :=
  match PolicyField.ofKey condition.field with
  | some field => ConditionDescription.describe field condition
  | none => condition.field

def joinNaturalLanguage (items : List String) (conjunction : String) : String :=
  match items with
  | [] => ""
  | [item] => item
  | [left, right] => left ++ " " ++ conjunction ++ " " ++ right
  | _ =>
    ", ".intercalate items.dropLast ++ ", " ++ conjunction ++ " " ++ (items.getLast?.getD "")

/-- `text.charAt(0)` is one code unit; half of a pair has no upper case. -/
def capitalizeFirst (text : String) : String :=
  match text.toList with
  | [] => text
  | first :: rest =>
    if first.toNat < 65536 then String.ofList (Js.upperChar first ++ rest) else text

def buildDefaultMessage (config : ConditionalPolicyConfig) : String :=
  let conjunction := match config.match_ with
    | .any => "or"
    | .all => "and"
  capitalizeFirst (joinNaturalLanguage (config.conditions.map describeCondition) conjunction) ++ "."

/-- A comparison of `Number(actual)` with `Number(expected)`. Validated values are numbers. -/
def compareNumbers (actual expected : Json) (test : Float → Float → Bool) : Bool :=
  match actual.toNumber, expected.toNumber with
  | .ok a, .ok e => test a e
  | _, _ => false

/-- `String(item) === String(actual)`. The items of a validated list all have a text. -/
def sameText (item actual : Json) : Bool :=
  match item.toText, actual.toText with
  | .ok left, .ok right => left = right
  | _, _ => false

def isOneOf (actual : Json) (items : List Json) : Bool :=
  items.any (fun item => item.strictEquals actual || sameText item actual)

def compare (actual : Json) (operator : PolicyConditionOperator) (expected : Json) : Bool :=
  match operator with
  | .eq => actual.strictEquals expected
  | .neq => !actual.strictEquals expected
  | .gt => compareNumbers actual expected (fun a e => e < a)
  | .gte => compareNumbers actual expected (fun a e => e ≤ a)
  | .lt => compareNumbers actual expected (fun a e => a < e)
  | .lte => compareNumbers actual expected (fun a e => a ≤ e)
  | .in_ =>
    match expected with
    | .arr items => isOneOf actual items
    | _ => false
  | .notIn =>
    match expected with
    | .arr items => !isOneOf actual items
    | _ => false

def conditionAppliesToExpense (condition : PolicyCondition) (context : PolicyEvaluationContext) :
    Bool :=
  condition.field ≠ "monthly_category_spend" || condition.category? = some context.category.name

/-- The `resolve` of each resolver. A monthly spend is only asked for in the
    category of the expense itself. -/
def resolve (field : PolicyField) (context : PolicyEvaluationContext) (condition : PolicyCondition)
    (reads : PolicyReads) : Json :=
  match field with
  | .amount => .num (Float.ofInt context.amount)
  | .category => .str context.category.name
  | .attachmentCount => .num (Float.ofNat context.attachmentCount)
  | .submittedDayOfWeek => .num (Float.ofInt (Date.getUTCDay context.submittedAt))
  | .monthlyCategorySpend => .num (reads.monthlyCategorySpend context.category)
  | .hasDuplicateExpense => .bool (reads.hasDuplicateExpense (condition.windowDays?.getD 0))

def evaluateCondition (condition : PolicyCondition) (context : PolicyEvaluationContext)
    (reads : PolicyReads) (treatUnknownFieldsAsViolated : Bool) : Bool :=
  match PolicyField.ofKey condition.field with
  | none => treatUnknownFieldsAsViolated
  | some field =>
    if !conditionAppliesToExpense condition context then false
    else compare (resolve field context condition reads) condition.operator condition.value

def isViolated (config : ConditionalPolicyConfig) (context : PolicyEvaluationContext)
    (reads : PolicyReads) (treatUnknownFieldsAsViolated : Bool) : Bool :=
  let results := config.conditions.map
    (evaluateCondition · context reads treatUnknownFieldsAsViolated)
  match config.match_ with
  | .all => results.all id
  | .any => results.any id

end ConditionEvaluator

namespace PolicyEngine

def toViolation (policy : ExpensePolicy) (message : String) : PolicyViolation where
  policyReference := policy.reference
  policyName := policy.name
  ruleType := policy.ruleType
  severity := policy.severity
  message := message

def resolveMessage (rawConfig : Json) (normalized : ConditionalPolicyConfig) : String :=
  let custom := match rawConfig.get? "message" with
    | some (.str message) => Js.trim message
    | _ => ""
  if custom = "" then ConditionEvaluator.buildDefaultMessage normalized else custom

def evaluatePolicy (policy : ExpensePolicy) (context : PolicyEvaluationContext)
    (reads : PolicyReads) : Option PolicyViolation :=
  match PolicyConfigValidator.normalizeRuleConfig policy.ruleType policy.config with
  | .ok normalized =>
    if ConditionEvaluator.isViolated normalized context reads (policy.severity = .BLOCK) then
      some (toViolation policy (resolveMessage policy.config normalized))
    else none
  | .error _ =>
    -- a misconfigured policy blocks when it is a BLOCK policy and is skipped otherwise
    if policy.severity = .BLOCK then
      some (toViolation policy "Policy configuration is invalid. Contact an administrator.")
    else none

def partitionViolations (violations : List PolicyViolation) : PolicyEvaluationResult where
  violations := violations
  blockingViolations := violations.filter (·.severity = .BLOCK)
  warningViolations := violations.filter (·.severity = .WARN)

def evaluate (policies : List ExpensePolicy) (context : PolicyEvaluationContext)
    (reads : PolicyReads) : PolicyEvaluationResult :=
  partitionViolations (policies.filterMap (evaluatePolicy · context reads))

/-- A justification of the violated policy that is not blank. -/
def isJustified (context : PolicyEvaluationContext) (violation : PolicyViolation) : Bool :=
  (context.policyJustifications.find? (fun justification =>
    justification.1 = violation.policyReference)).any (fun justification =>
      Js.trim justification.2 ≠ "")

def assertCompliant (policies : List ExpensePolicy) (context : PolicyEvaluationContext)
    (reads : PolicyReads) : Except HttpException PolicyEvaluationResult :=
  let result := evaluate policies context reads
  match result.blockingViolations with
  | violation :: _ => .error (.badRequest violation.message)
  | [] =>
    match result.warningViolations.find? (fun violation => !isJustified context violation) with
    | some violation =>
      .error (.badRequest (violation.message ++ " Provide a justification to proceed."))
    | none => .ok result

end PolicyEngine

end Expentra
