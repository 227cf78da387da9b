-- SUMMARY: The catalogue that policies are composed from, edited concurrently, and that the engine accepts all it offers.
import Expentra.Database.Store
import Expentra.Export.Listings
import Expentra.Library.Interleaving
import Expentra.Library.Traversal
import Expentra.Policy.Normalization

/-!
# The policy catalogue

An administrator chooses which fields of the engine are offered, under which labels and with
which operators, and keeps templates of conditions. A request reads and checks first and writes
in a statement of its own, so requests interleave.
-/

namespace Expentra

open Library Library.Concurrent

inductive PolicyFieldValueType where
  | naira
  | number
  | category
  | weekdays
  | boolean
deriving DecidableEq, Repr

inductive PolicyParamType where
  | category
  | number
deriving DecidableEq, Repr

def PolicyParamType.name : PolicyParamType → String
  | .category => "category"
  | .number => "number"

structure PolicyFieldParamDefinition where
  key : String
  label : String
  type : PolicyParamType
  required : Option Bool
deriving DecidableEq, Repr

structure PolicyFieldDefinition where
  key : String
  label : String
  description : String
  valueType : PolicyFieldValueType
  operators : List String
  paramDefinitions : List PolicyFieldParamDefinition
deriving DecidableEq, Repr

structure PolicyConditionField where
  id : Nat
  reference : String
  key : String
  label : String
  description : String
  valueType : PolicyFieldValueType
  operators : List String
  paramDefinitions : Option (List PolicyFieldParamDefinition)
  isActive : Bool
  sortOrder : Int
deriving DecidableEq, Repr

structure PolicyTemplateCondition where
  field : String
  operator : String
  value : Json
  params : Option Json
deriving DecidableEq

structure PolicyRuleTemplate where
  id : Nat
  reference : String
  name : String
  description : String
  match_ : PolicyMatch
  conditions : List PolicyTemplateCondition
  isActive : Bool
  sortOrder : Int
deriving DecidableEq

/-- The two tables. No two fields have one key. -/
structure PolicyCatalogTables where
  fields : Table PolicyConditionField.key
  templates : Table PolicyRuleTemplate.reference
  nextId : Nat

/-! ## The fields of the engine -/

namespace PolicyFieldResolverRegistry

/-- The operators of a resolver, by their names. -/
def operatorNames (field : PolicyField) : List String := field.operators.map (·.name)

def getFieldDefinitions : List PolicyFieldDefinition :=
  [{ key := "amount"
     label := "Expense amount"
     description := "The amount of this expense claim."
     valueType := .naira
     operators := operatorNames .amount
     paramDefinitions := [] },
   { key := "category"
     label := "Expense category"
     description := "The category selected on the expense."
     valueType := .category
     operators := operatorNames .category
     paramDefinitions := [] },
   { key := "attachment_count"
     label := "Receipt count"
     description := "How many receipts are attached to the expense."
     valueType := .number
     operators := operatorNames .attachmentCount
     paramDefinitions := [] },
   { key := "submitted_day_of_week"
     label := "Submitted day"
     description := "Day of week when the expense is submitted."
     valueType := .weekdays
     operators := operatorNames .submittedDayOfWeek
     paramDefinitions := [] },
   { key := "monthly_category_spend"
     label := "Monthly category spend"
     description := "Total submitted spend in a category for the current month, including this " ++
       "claim. Only applies when the expense uses that category."
     valueType := .naira
     operators := operatorNames .monthlyCategorySpend
     paramDefinitions := [⟨"category", "Spend category", .category, some true⟩] },
   { key := "has_duplicate_expense"
     label := "Duplicate expense"
     description := "Whether a similar expense exists within a recent window."
     valueType := .boolean
     operators := operatorNames .hasDuplicateExpense
     paramDefinitions := [⟨"windowDays", "Lookback window (days)", .number, some true⟩] }]

/-- `getFieldDefinitions().find` -/
def definitionOf (key : String) : Option PolicyFieldDefinition :=
  getFieldDefinitions.find? (fun field => field.key = key)

end PolicyFieldResolverRegistry

/-! ## Requests -/

structure CreatePolicyConditionFieldInput where
  key : String
  label : String
  description : String
  operators : Option (List String)
  paramDefinitions : Option (List PolicyFieldParamDefinition)
  isActive : Option Bool
  sortOrder : Option Int

structure UpdatePolicyConditionFieldInput where
  label : Option String
  description : Option String
  operators : Option (List String)
  paramDefinitions : Option (List PolicyFieldParamDefinition)
  isActive : Option Bool
  sortOrder : Option Int

structure CreatePolicyRuleTemplateInput where
  name : String
  description : String
  match_ : PolicyMatch
  conditions : List PolicyTemplateCondition
  isActive : Option Bool
  sortOrder : Option Int

structure UpdatePolicyRuleTemplateInput where
  name : Option String
  description : Option String
  match_ : Option PolicyMatch
  conditions : Option (List PolicyTemplateCondition)
  isActive : Option Bool
  sortOrder : Option Int

inductive CatalogRequest where
  | createField (input : CreatePolicyConditionFieldInput)
  | updateField (reference : String) (input : UpdatePolicyConditionFieldInput)
  | removeField (reference : String)
  | createTemplate (input : CreatePolicyRuleTemplateInput)
  | updateTemplate (reference : String) (input : UpdatePolicyRuleTemplateInput)
  | removeTemplate (reference : String)

/-- What a request is left to write. A new row gets its number and its reference then. -/
inductive CatalogWrite where
  | insertField (field : PolicyConditionField)
  | saveField (field : PolicyConditionField)
  | deleteField (id : Nat)
  | insertTemplate (template : PolicyRuleTemplate)
  | saveTemplate (template : PolicyRuleTemplate)
  | deleteTemplate (id : Nat)

namespace PolicyCatalogService

open PolicyFieldResolverRegistry

def resolveOperators (allowedOperators : List String) (requested : Option (List String)) :
    Except HttpException (List String) :=
  let requested := requested.getD []
  if requested.isEmpty then .ok allowedOperators
  else
    let invalid := requested.filter (fun operator => !allowedOperators.contains operator)
    if !invalid.isEmpty then
      .error (.badRequest ("Invalid operators for this field: " ++ ", ".intercalate invalid))
    else .ok requested

/-- The definition a request gives for a parameter of the engine. -/
def resolveParamDefinition (requested : List PolicyFieldParamDefinition)
    (engineParam : PolicyFieldParamDefinition) : Except HttpException PolicyFieldParamDefinition :=
  match requested.find? (fun param => param.key = engineParam.key) with
  | none => .error (.badRequest ("Missing parameter definition for \"" ++ engineParam.key ++ "\""))
  | some found =>
    if found.type ≠ engineParam.type then
      .error (.badRequest ("Parameter \"" ++ engineParam.key ++ "\" must use type \"" ++
        engineParam.type.name ++ "\""))
    else .ok
      { key := engineParam.key
        type := engineParam.type
        label := Js.trim found.label
        required := some ((found.required <|> engineParam.required).getD false) }

def resolveParamDefinitions (engineParams : List PolicyFieldParamDefinition)
    (requested : Option (List PolicyFieldParamDefinition)) :
    Except HttpException (List PolicyFieldParamDefinition) := do
  let requested := requested.getD []
  if engineParams.isEmpty then
    if !requested.isEmpty then
      throw (.badRequest "This field does not support parameter configuration")
    else pure []
  else if requested.isEmpty then pure engineParams
  else
    let resolved ← engineParams.mapM (resolveParamDefinition requested)
    let extra := requested.filter (fun param =>
      !engineParams.any (fun engineParam => engineParam.key = param.key))
    if !extra.isEmpty then
      throw (.badRequest ("Unsupported parameter keys: " ++ ", ".intercalate (extra.map (·.key))))
    else pure resolved

def createField (s : PolicyCatalogTables) (input : CreatePolicyConditionFieldInput) :
    Except HttpException PolicyConditionField := do
  let key := Js.trim input.key
  match definitionOf key with
  | none =>
    throw (.badRequest ("Field key \"" ++ key ++ "\" is not supported by the policy engine"))
  | some definition =>
    if (s.fields.find? key).isSome then
      throw (.badRequest ("A condition field with key \"" ++ key ++ "\" already exists"))
    else
      let operators ← resolveOperators definition.operators input.operators
      let paramDefinitions ← resolveParamDefinitions definition.paramDefinitions input.paramDefinitions
      pure
        { id := 0
          reference := ""
          key
          label := Js.trim input.label
          description := Js.trim input.description
          valueType := definition.valueType
          operators
          paramDefinitions := some paramDefinitions
          isActive := input.isActive.getD true
          sortOrder := input.sortOrder.getD 0 }

/-- A property that is given, resolved; otherwise the one the row has. -/
def resolvedOr {α β : Type} (given : Option α) (resolve : Option α → Except HttpException β) (old : β) :
    Except HttpException β :=
  match given with
  | some value => resolve (some value)
  | none => .ok old

def updateField (s : PolicyCatalogTables) (reference : String)
    (input : UpdatePolicyConditionFieldInput) : Except HttpException PolicyConditionField := do
  let field ← findEntityByReference s.fields.rows (·.reference) reference
    "Policy condition field not found"
  match definitionOf field.key with
  | none => throw (.badRequest "This field is not supported by the policy engine")
  | some definition =>
    let operators ← resolvedOr input.operators (resolveOperators definition.operators) field.operators
    let paramDefinitions ← resolvedOr input.paramDefinitions (fun requested =>
      (resolveParamDefinitions definition.paramDefinitions requested).map some) field.paramDefinitions
    pure
      { field with
        label := (input.label.map Js.trim).getD field.label
        description := (input.description.map Js.trim).getD field.description
        operators
        isActive := input.isActive.getD field.isActive
        sortOrder := input.sortOrder.getD field.sortOrder
        paramDefinitions }

/-- The first condition without a field of the engine. -/
def assertConditionFields : List PolicyTemplateCondition → Nat → Except HttpException Unit
  | [], _ => .ok ()
  | condition :: rest, index =>
    if (PolicyField.ofKey condition.field).isNone then
      .error (.badRequest ("Template condition " ++ toString (index + 1) ++ " has an invalid field"))
    else assertConditionFields rest (index + 1)

def assertTemplateInput (name description : String) (conditions : List PolicyTemplateCondition) :
    Except HttpException Unit :=
  if Js.trim name = "" then .error (.badRequest "Template name is required")
  else if Js.trim description = "" then .error (.badRequest "Template description is required")
  else if conditions.isEmpty then
    .error (.badRequest "Template requires at least one condition")
  else assertConditionFields conditions 0

def createTemplate (input : CreatePolicyRuleTemplateInput) : Except HttpException PolicyRuleTemplate := do
  assertTemplateInput input.name input.description input.conditions
  pure
    { id := 0
      reference := ""
      name := Js.trim input.name
      description := Js.trim input.description
      match_ := input.match_
      conditions := input.conditions
      isActive := input.isActive.getD true
      sortOrder := input.sortOrder.getD 0 }

/-- The template is only checked again where its match or its conditions are given. -/
def updateTemplate (s : PolicyCatalogTables) (reference : String)
    (input : UpdatePolicyRuleTemplateInput) : Except HttpException PolicyRuleTemplate := do
  let old ← findEntityByReference s.templates.rows (·.reference) reference
    "Policy rule template not found"
  let template :=
    { old with
      name := (input.name.map Js.trim).getD old.name
      description := (input.description.map Js.trim).getD old.description
      match_ := input.match_.getD old.match_
      conditions := input.conditions.getD old.conditions
      isActive := input.isActive.getD old.isActive
      sortOrder := input.sortOrder.getD old.sortOrder }
  if input.match_.isSome || input.conditions.isSome then
    assertTemplateInput template.name template.description template.conditions
  pure template

/-- What a request reads and checks. -/
def prepare (s : PolicyCatalogTables) : CatalogRequest → Except HttpException CatalogWrite
  | .createField input => (createField s input).map .insertField
  | .updateField reference input => (updateField s reference input).map .saveField
  | .removeField reference =>
    (findEntityByReference s.fields.rows (·.reference) reference
      "Policy condition field not found").map (fun field => .deleteField field.id)
  | .createTemplate input => (createTemplate input).map .insertTemplate
  | .updateTemplate reference input => (updateTemplate s reference input).map .saveTemplate
  | .removeTemplate reference =>
    (findEntityByReference s.templates.rows (·.reference) reference
      "Policy rule template not found").map (fun template => .deleteTemplate template.id)

end PolicyCatalogService

/-! ## Statements -/

namespace PolicyCatalogTables

variable (s : PolicyCatalogTables)

/-- A statement that would break a unique column fails. -/
def putField (fields : Table PolicyConditionField.key) (field : PolicyConditionField) :
    Option (Table PolicyConditionField.key) :=
  if fields.rows.any (fun row => row.id = field.id || row.reference = field.reference) then none
  else fields.insert? field

def putTemplate (templates : Table PolicyRuleTemplate.reference) (template : PolicyRuleTemplate) :
    Option (Table PolicyRuleTemplate.reference) :=
  if templates.rows.any (fun row => row.id = template.id) then none else templates.insert? template

/-- `save` of a loaded row writes the whole row, and inserts it where it is gone. -/
def write (reference : String) : CatalogWrite → Option PolicyCatalogTables
  | .insertField field => (putField s.fields { field with id := s.nextId, reference }).map (fun fields =>
      { s with fields, nextId := s.nextId + 1 })
  | .saveField field => (putField (s.fields.keep (fun row => row.id ≠ field.id)) field).map (fun fields =>
      { s with fields })
  | .deleteField id => some { s with fields := s.fields.keep (fun row => row.id ≠ id) }
  | .insertTemplate template =>
    (putTemplate s.templates { template with id := s.nextId, reference }).map (fun templates =>
      { s with templates, nextId := s.nextId + 1 })
  | .saveTemplate template =>
    (putTemplate (s.templates.keep (fun row => row.id ≠ template.id)) template).map (fun templates =>
      { s with templates })
  | .deleteTemplate id => some { s with templates := s.templates.keep (fun row => row.id ≠ id) }

end PolicyCatalogTables

inductive CatalogThread where
  | writing (write : CatalogWrite)
  | finished
  | refused (e : HttpException)
  | failed

namespace PolicyCatalogService

/-- Requests over the two tables. A statement draws a reference, or the database fails. -/
def catalogRequests : Concurrent PolicyCatalogTables CatalogThread CatalogRequest (Option String) Unit where
  start s request := some (s, match prepare s request with
    | .ok write => .writing write
    | .error e => .refused e)
  step _ s t outcome := match t, outcome with
    | .writing write, some reference => match s.write reference write with
      | some s' => some (s', .finished)
      | none => some (s, .failed)
    | .writing _, none => some (s, .failed)
    | _, _ => none
  surroundings _ _ := none

/-! ## The catalogue -/

structure PolicyCatalogFieldResponse where
  reference : String
  key : String
  label : String
  description : String
  valueType : PolicyFieldValueType
  operators : List String
  paramDefinitions : List PolicyFieldParamDefinition
  isActive : Bool
  sortOrder : Int
deriving DecidableEq, Repr

structure PolicyCatalogResponse where
  fields : List PolicyCatalogFieldResponse
  templates : List PolicyRuleTemplate
  fieldDefinitions : List PolicyCatalogFieldResponse
  operators : List (String × String)
  categories : List String
  weekdays : List (Int × String)
  supportedFieldKeys : List String

def POLICY_OPERATOR_LABELS : List (String × String) :=
  [("eq", "equals"), ("neq", "does not equal"), ("gt", "is greater than"),
    ("gte", "is greater than or equal to"), ("lt", "is less than"),
    ("lte", "is less than or equal to"), ("in", "is one of"), ("not_in", "is not one of")]

def POLICY_EXPENSE_CATEGORIES : List String := ["TRAVEL", "MEALS", "SUPPLIES", "OTHERS"]

def POLICY_WEEKDAYS : List (Int × String) :=
  [(0, "Sunday"), (1, "Monday"), (2, "Tuesday"), (3, "Wednesday"), (4, "Thursday"), (5, "Friday"),
    (6, "Saturday")]

def getFieldDefinitionsFromEngine : List PolicyCatalogFieldResponse :=
  PolicyFieldResolverRegistry.getFieldDefinitions.map (fun definition =>
    { reference := definition.key
      key := definition.key
      label := definition.label
      description := definition.description
      valueType := definition.valueType
      operators := definition.operators
      paramDefinitions := definition.paramDefinitions
      isActive := true
      sortOrder := 0 })

def toFieldResponse (field : PolicyConditionField) : PolicyCatalogFieldResponse where
  reference := field.reference
  key := field.key
  label := field.label
  description := field.description
  valueType := field.valueType
  operators := field.operators
  paramDefinitions :=
    match field.paramDefinitions with
    | some (param :: rest) => param :: rest
    | _ => ((PolicyFieldResolverRegistry.definitionOf field.key).map (·.paramDefinitions)).getD []
  isActive := field.isActive
  sortOrder := field.sortOrder

/-- `ORDER BY sort_order, label` -/
def inOrder {ρ : Type} (locale : Locale) (sortOrder : ρ → Int) (label : ρ → String) (rows : List ρ) :
    List ρ :=
  rows.insertionSort (fun left right => sortOrder left < sortOrder right ∨
    (sortOrder left = sortOrder right ∧ locale.le (label left) (label right) = true))

def getCatalog (locale : Locale) (s : PolicyCatalogTables) : PolicyCatalogResponse where
  fields := ((inOrder locale (·.sortOrder) (·.label) (s.fields.rows.filter (·.isActive))).filter
    (fun field => (PolicyField.ofKey field.key).isSome)).map toFieldResponse
  templates := inOrder locale (·.sortOrder) (·.name) (s.templates.rows.filter (·.isActive))
  fieldDefinitions := getFieldDefinitionsFromEngine
  operators := POLICY_OPERATOR_LABELS
  categories := POLICY_EXPENSE_CATEGORIES
  weekdays := POLICY_WEEKDAYS
  supportedFieldKeys := PolicyFieldResolverRegistry.getFieldDefinitions.map (·.key)

/-! ## What is stored -/

open PolicyFieldResolverRegistry

/-- What the engine says of a parameter. -/
def paramShape (param : PolicyFieldParamDefinition) : String × PolicyParamType := (param.key, param.type)

/-- A field of the engine, with operators of its own and all its parameters. -/
structure FieldSound (key : String) (valueType : PolicyFieldValueType) (operators : List String)
    (paramDefinitions : List PolicyFieldParamDefinition) (d : PolicyFieldDefinition) : Prop where
  definition : d ∈ getFieldDefinitions
  key : d.key = key
  valueType : d.valueType = valueType
  operators_ne : operators ≠ []
  operators : ∀ operator ∈ operators, operator ∈ d.operators
  params : paramDefinitions.map paramShape = d.paramDefinitions.map paramShape

def StoredField (field : PolicyConditionField) : Prop :=
  ∃ params d, field.paramDefinitions = some params ∧
    FieldSound field.key field.valueType field.operators params d

/-- A template has conditions, on fields of the engine. -/
structure StoredTemplate (template : PolicyRuleTemplate) : Prop where
  conditions_ne : template.conditions ≠ []
  fields : ∀ condition ∈ template.conditions, (PolicyField.ofKey condition.field).isSome = true

def SoundWrite : CatalogWrite → Prop
  | .insertField field => StoredField field
  | .saveField field => StoredField field
  | .insertTemplate template => StoredTemplate template
  | .saveTemplate template => StoredTemplate template
  | .deleteField _ | .deleteTemplate _ => True

structure StoredSound (s : PolicyCatalogTables) : Prop where
  fields : ∀ field ∈ s.fields, StoredField field
  templates : ∀ template ∈ s.templates, StoredTemplate template

def SoundThread : CatalogThread → Prop
  | .writing write => SoundWrite write
  | _ => True

section Checks

variable {s s' : PolicyCatalogTables} {key reference : String}

theorem operators_definition_ne {d : PolicyFieldDefinition} (h : d ∈ getFieldDefinitions) :
    d.operators ≠ [] := by
  have hall : ∀ d ∈ getFieldDefinitions, d.operators ≠ [] := by decide
  exact hall d h

theorem definitionOf_eq_some {d : PolicyFieldDefinition} (h : definitionOf key = some d) :
    d ∈ getFieldDefinitions ∧ d.key = key :=
  ⟨List.mem_of_find?_eq_some h, by simpa using List.find?_some h⟩

theorem resolveOperators_ok {allowed operators : List String} {requested : Option (List String)}
    (hallowed : allowed ≠ []) (h : resolveOperators allowed requested = .ok operators) :
    operators ≠ [] ∧ ∀ operator ∈ operators, operator ∈ allowed := by
  unfold resolveOperators at h
  dsimp only at h
  split at h
  · cases h
    exact ⟨hallowed, fun _ ho => ho⟩
  · next hsome =>
    split at h
    · cases h
    · next hvalid =>
      cases h
      refine ⟨fun hnil => hsome (List.isEmpty_iff.2 hnil), fun operator ho => ?_⟩
      simp only [Bool.not_eq_true', Bool.not_eq_false, List.isEmpty_iff, List.filter_eq_nil_iff] at hvalid
      simpa using hvalid operator ho

theorem resolveParamDefinition_ok {requested : List PolicyFieldParamDefinition}
    {engineParam param : PolicyFieldParamDefinition}
    (h : resolveParamDefinition requested engineParam = .ok param) :
    paramShape param = paramShape engineParam := by
  unfold resolveParamDefinition at h
  split at h
  · cases h
  · split at h
    · cases h
    · cases h
      rfl

/-- The parameters of the engine, whatever is asked for. -/
theorem resolveParamDefinitions_ok {engineParams params : List PolicyFieldParamDefinition}
    {requested : Option (List PolicyFieldParamDefinition)}
    (h : resolveParamDefinitions engineParams requested = .ok params) :
    params.map paramShape = engineParams.map paramShape := by
  unfold resolveParamDefinitions at h
  dsimp only at h
  split at h
  · next hnone =>
    split at h
    · cases h
    · cases h
      rw [List.isEmpty_iff.1 hnone]
  · split at h
    · cases h
      rfl
    · obtain ⟨resolved, hresolved, h⟩ := Except.bind_eq_ok.1 h
      split at h
      · cases h
      · cases h
        have hshapes := Except.mapM_eq_ok.1 hresolved
        have heq := hshapes.imp fun _ _ hparam => (resolveParamDefinition_ok hparam).symm
        exact (List.forall₂_eq_eq_eq ▸ List.forall₂_map_left_iff.2 (List.forall₂_map_right_iff.2 heq) :
          engineParams.map paramShape = params.map paramShape).symm

theorem assertConditionFields_ok {conditions : List PolicyTemplateCondition} {index : Nat}
    (h : assertConditionFields conditions index = .ok ()) :
    ∀ condition ∈ conditions, (PolicyField.ofKey condition.field).isSome = true := by
  induction conditions generalizing index with
  | nil => exact fun _ hmem => absurd hmem List.not_mem_nil
  | cons condition rest ih =>
    unfold assertConditionFields at h
    split at h
    · cases h
    · next hfield =>
      exact List.forall_mem_cons.2 ⟨by simpa [Option.isSome_iff_ne_none] using hfield, ih h⟩

theorem assertTemplateInput_ok {name description : String} {conditions : List PolicyTemplateCondition}
    (h : assertTemplateInput name description conditions = .ok ()) : conditions ≠ [] ∧
      ∀ condition ∈ conditions, (PolicyField.ofKey condition.field).isSome = true := by
  unfold assertTemplateInput at h
  split at h
  · cases h
  · split at h
    · cases h
    · split at h
      · cases h
      · next hsome => exact ⟨fun hnil => hsome (List.isEmpty_iff.2 hnil), assertConditionFields_ok h⟩

theorem createField_ok {input : CreatePolicyConditionFieldInput} {field : PolicyConditionField}
    (h : createField s input = .ok field) : StoredField field := by
  unfold createField at h
  dsimp only at h
  split at h
  · cases h
  · next d hd =>
    split at h
    · cases h
    · obtain ⟨operators, hoperators, h⟩ := Except.bind_eq_ok.1 h
      obtain ⟨params, hparams, h⟩ := Except.bind_eq_ok.1 h
      cases h
      obtain ⟨hmem, hkey⟩ := definitionOf_eq_some hd
      obtain ⟨hne, hsub⟩ := resolveOperators_ok (operators_definition_ne hmem) hoperators
      exact ⟨params, d, rfl, hmem, hkey, rfl, hne, hsub, resolveParamDefinitions_ok hparams⟩

/-- The engine has one definition of a key. -/
theorem definition_unique {d d' : PolicyFieldDefinition} (hd : d ∈ getFieldDefinitions)
    (hd' : d' ∈ getFieldDefinitions) (h : d.key = d'.key) : d = d' := by
  have hnodup : (getFieldDefinitions.map (·.key)).Nodup := by decide
  exact List.inj_on_of_nodup_map hnodup hd hd' h

theorem updateField_ok (hs : StoredSound s) {input : UpdatePolicyConditionFieldInput}
    {field : PolicyConditionField} (h : updateField s reference input = .ok field) :
    StoredField field := by
  obtain ⟨old, hold, h⟩ := Except.bind_eq_ok.1 h
  obtain ⟨oldParams, d, holdParams, hsound⟩ := hs.fields old (findEntityByReference_eq_ok hold).1
  split at h
  · cases h
  · next d' hd' =>
    obtain ⟨operators, hoperators, h⟩ := Except.bind_eq_ok.1 h
    obtain ⟨params, hparams, h⟩ := Except.bind_eq_ok.1 h
    cases h
    obtain ⟨hmem, hkey⟩ := definitionOf_eq_some hd'
    obtain rfl := definition_unique hsound.definition hmem (hsound.key.trans hkey.symm)
    have hnew : operators ≠ [] ∧ ∀ operator ∈ operators, operator ∈ d.operators := by
      unfold resolvedOr at hoperators
      split at hoperators
      · exact resolveOperators_ok (operators_definition_ne hmem) hoperators
      · cases hoperators
        exact ⟨hsound.operators_ne, hsound.operators⟩
    obtain ⟨stored, hstored, hshape⟩ : ∃ stored, params = some stored ∧
        stored.map paramShape = d.paramDefinitions.map paramShape := by
      unfold resolvedOr at hparams
      split at hparams
      · obtain ⟨stored, hstored, heq⟩ := Except.map_eq_ok.1 hparams
        exact ⟨stored, heq.symm, resolveParamDefinitions_ok hstored⟩
      · cases hparams
        exact ⟨oldParams, holdParams, hsound.params⟩
    exact ⟨stored, d, hstored, hmem, hkey, hsound.valueType, hnew.1, hnew.2, hshape⟩

theorem createTemplate_ok {input : CreatePolicyRuleTemplateInput} {template : PolicyRuleTemplate}
    (h : createTemplate input = .ok template) : StoredTemplate template := by
  unfold createTemplate at h
  obtain ⟨_, hinput, h⟩ := Except.bind_eq_ok.1 h
  obtain ⟨hne, hfields⟩ := assertTemplateInput_ok hinput
  cases h
  exact ⟨hne, hfields⟩

theorem updateTemplate_ok (hs : StoredSound s) {input : UpdatePolicyRuleTemplateInput}
    {template : PolicyRuleTemplate} (h : updateTemplate s reference input = .ok template) :
    StoredTemplate template := by
  obtain ⟨old, hold, h⟩ := Except.bind_eq_ok.1 h
  have hsound := hs.templates old (findEntityByReference_eq_ok hold).1
  dsimp only at h
  split at h
  · obtain ⟨_, hinput, h⟩ := Except.bind_eq_ok.1 h
    cases h
    obtain ⟨hne, hfields⟩ := assertTemplateInput_ok hinput
    exact ⟨hne, hfields⟩
  · next hsame =>
    cases h
    have hnone : input.conditions = none := by
      cases hconditions : input.conditions with
      | none => rfl
      | some conditions => simp [hconditions] at hsame
    have hkept : input.conditions.getD old.conditions = old.conditions := by rw [hnone, Option.getD_none]
    exact ⟨hkept.symm ▸ hsound.conditions_ne, hkept.symm ▸ hsound.fields⟩

/-- A request only goes on to write what the engine knows. -/
theorem prepare_ok (hs : StoredSound s) {request : CatalogRequest} {write : CatalogWrite}
    (h : prepare s request = .ok write) : SoundWrite write := by
  cases request with
  | createField input =>
    rw [prepare] at h
    obtain ⟨field, hfield, rfl⟩ := Except.map_eq_ok.1 h
    exact createField_ok hfield
  | updateField reference input =>
    rw [prepare] at h
    obtain ⟨field, hfield, rfl⟩ := Except.map_eq_ok.1 h
    exact updateField_ok hs hfield
  | removeField reference =>
    rw [prepare] at h
    obtain ⟨field, -, rfl⟩ := Except.map_eq_ok.1 h
    trivial
  | createTemplate input =>
    rw [prepare] at h
    obtain ⟨template, htemplate, rfl⟩ := Except.map_eq_ok.1 h
    exact createTemplate_ok htemplate
  | updateTemplate reference input =>
    rw [prepare] at h
    obtain ⟨template, htemplate, rfl⟩ := Except.map_eq_ok.1 h
    exact updateTemplate_ok hs htemplate
  | removeTemplate reference =>
    rw [prepare] at h
    obtain ⟨template, -, rfl⟩ := Except.map_eq_ok.1 h
    trivial

theorem mem_putField {fields fields' : Table PolicyConditionField.key} {field x : PolicyConditionField}
    (h : PolicyCatalogTables.putField fields field = some fields') (hx : x ∈ fields') :
    x ∈ fields ∨ x = field := by
  unfold PolicyCatalogTables.putField at h
  split at h
  · cases h
  · exact (Table.mem_insert h).1 hx

theorem mem_putTemplate {templates templates' : Table PolicyRuleTemplate.reference}
    {template x : PolicyRuleTemplate}
    (h : PolicyCatalogTables.putTemplate templates template = some templates') (hx : x ∈ templates') :
    x ∈ templates ∨ x = template := by
  unfold PolicyCatalogTables.putTemplate at h
  split at h
  · cases h
  · exact (Table.mem_insert h).1 hx

theorem StoredSound.write (hs : StoredSound s) {write : CatalogWrite} (hwrite : SoundWrite write)
    (h : s.write reference write = some s') : StoredSound s' := by
  cases write with
  | insertField field =>
    obtain ⟨fields, hput, rfl⟩ := Option.map_eq_some_iff.1 h
    exact ⟨fun x hx => (mem_putField hput hx).elim (hs.fields x) (fun heq => heq ▸ hwrite), hs.templates⟩
  | saveField field =>
    obtain ⟨fields, hput, rfl⟩ := Option.map_eq_some_iff.1 h
    exact ⟨fun x hx => (mem_putField hput hx).elim (fun hold => hs.fields x (Table.mem_keep.1 hold).1)
      (fun heq => heq ▸ hwrite), hs.templates⟩
  | deleteField id =>
    cases h
    exact ⟨fun x hx => hs.fields x (Table.mem_keep.1 hx).1, hs.templates⟩
  | insertTemplate template =>
    obtain ⟨templates, hput, rfl⟩ := Option.map_eq_some_iff.1 h
    exact ⟨hs.fields, fun x hx => (mem_putTemplate hput hx).elim (hs.templates x)
      (fun heq => heq ▸ ⟨hwrite.conditions_ne, hwrite.fields⟩)⟩
  | saveTemplate template =>
    obtain ⟨templates, hput, rfl⟩ := Option.map_eq_some_iff.1 h
    exact ⟨hs.fields, fun x hx => (mem_putTemplate hput hx).elim
      (fun hold => hs.templates x (Table.mem_keep.1 hold).1) (fun heq => heq ▸ hwrite)⟩
  | deleteTemplate id =>
    cases h
    exact ⟨hs.fields, fun x hx => hs.templates x (Table.mem_keep.1 hx).1⟩

end Checks

/-- What a request has prepared stays sound while others write. -/
theorem catalog_outline : Outline catalogRequests Concurrent.anyStep StoredSound
    (fun _ _ => SoundThread) where
  start := by
    intro s request s' t hs hstart
    cases hstart
    refine ⟨hs, fun _ => ?_, fun _ _ hu => hu⟩
    split
    · next hprepare => exact prepare_ok hs hprepare
    · trivial
  step := by
    intro i s t outcome s' t' hs ht _ hstep
    cases t with
    | writing write =>
      cases outcome with
      | none =>
        cases hstep
        exact ⟨hs, trivial, fun _ _ _ hu => hu⟩
      | some reference =>
        change (match s.write reference write with
          | some s' => some (s', CatalogThread.finished)
          | none => some (s, .failed)) = some (s', t') at hstep
        split at hstep
        · next hwrite =>
          cases hstep
          exact ⟨hs.write ht hwrite, trivial, fun _ _ _ hu => hu⟩
        · cases hstep
          exact ⟨hs, trivial, fun _ _ _ hu => hu⟩
    | _ => cases outcome <;> cases hstep
  surroundings := by
    intro s event s' hs hchange
    cases hchange

/-! ## What is offered is accepted -/

/-- The operators that compare with a list. -/
def comparesList (operator : String) : Bool := operator = "in" || operator = "not_in"

/-- A value, or a list of values, for an operator. -/
def OneOrMany (operator : String) (fits : Json → Prop) (value : Json) : Prop :=
  if comparesList operator then ∃ items, value = .arr items ∧ items ≠ [] ∧ ∀ item ∈ items, fits item
  else fits value

/-- The value is one the catalogue lets a field of the type be compared with. -/
def FitsValue (catalog : PolicyCatalogResponse) (operator : String) (value : Json) :
    PolicyFieldValueType → Prop
  | .naira => ∃ x n, value = .num x ∧ Js.integer? x = some n ∧ 0 < n
  | .number => ∃ x n, value = .num x ∧ Js.integer? x = some n
  | .category => OneOrMany operator (fun item => ∃ name ∈ catalog.categories, item = .str name) value
  | .weekdays =>
    OneOrMany operator (fun item => ∃ day ∈ catalog.weekdays, item = .num (Float.ofInt day.1)) value
  | .boolean => ∃ b, value = .bool b

def FitsParam (catalog : PolicyCatalogResponse) (value : Json) : PolicyParamType → Prop
  | .category => ∃ name ∈ catalog.categories, value = .str name
  | .number => ∃ x n, value = .num x ∧ Js.integer? x = some n ∧ 0 < n

/-- The parameters that are defined are given, and no others. -/
structure FitsParams (catalog : PolicyCatalogResponse)
    (definitions : List PolicyFieldParamDefinition) (params : Option Json) : Prop where
  given : ∀ d ∈ definitions, ∃ object value, params = some (.obj object) ∧
    (Json.obj object).get? d.key = some value ∧ FitsParam catalog value d.type
  only : ∀ object, params = some (.obj object) →
    ∀ property ∈ object, ∃ d ∈ definitions, d.key = property.1
  none : definitions = [] → params = none

/-- A condition composed from what the catalogue offers. -/
def Composed (catalog : PolicyCatalogResponse) (condition : PolicyTemplateCondition) : Prop :=
  ∃ field ∈ catalog.fields, condition.field = field.key ∧ condition.operator ∈ field.operators ∧
    FitsValue catalog condition.operator condition.value field.valueType ∧
    FitsParams catalog field.paramDefinitions condition.params

/-- The value type of a field of the engine. -/
def valueTypeOf : PolicyField → PolicyFieldValueType
  | .amount => .naira
  | .category => .category
  | .attachmentCount => .number
  | .submittedDayOfWeek => .weekdays
  | .monthlyCategorySpend => .naira
  | .hasDuplicateExpense => .boolean

/-- The parameters of a field of the engine. -/
def paramsOf : PolicyField → List (String × PolicyParamType)
  | .monthlyCategorySpend => [("category", .category)]
  | .hasDuplicateExpense => [("windowDays", .number)]
  | _ => []

section Accepted

open PolicyConfigValidator (conditionObject parseCondition_eq_ok validateFieldCondition validateCondition
  parseParams)

variable {locale : Locale} {s : PolicyCatalogTables} {condition : PolicyTemplateCondition}

theorem field_of_definition {d : PolicyFieldDefinition} (h : d ∈ getFieldDefinitions) :
    ∃ field, PolicyField.ofKey d.key = some field ∧ d.operators = operatorNames field ∧
      d.valueType = valueTypeOf field ∧ d.paramDefinitions.map paramShape = paramsOf field := by
  simp only [getFieldDefinitions, List.mem_cons, List.not_mem_nil, or_false] at h
  rcases h with rfl | rfl | rfl | rfl | rfl | rfl
  · exact ⟨.amount, rfl, rfl, rfl, rfl⟩
  · exact ⟨.category, rfl, rfl, rfl, rfl⟩
  · exact ⟨.attachmentCount, rfl, rfl, rfl, rfl⟩
  · exact ⟨.submittedDayOfWeek, rfl, rfl, rfl, rfl⟩
  · exact ⟨.monthlyCategorySpend, rfl, rfl, rfl, rfl⟩
  · exact ⟨.hasDuplicateExpense, rfl, rfl, rfl, rfl⟩

theorem mem_catalog_fields {field : PolicyCatalogFieldResponse}
    (h : field ∈ (getCatalog locale s).fields) :
    ∃ row ∈ s.fields, row.isActive = true ∧ toFieldResponse row = field := by
  obtain ⟨row, hrow, rfl⟩ := List.mem_map.1 h
  obtain ⟨hstored, hactive⟩ := List.mem_filter.1
    ((List.mem_insertionSort _).1 (List.mem_filter.1 hrow).1)
  exact ⟨row, hstored, hactive, rfl⟩

/-- What is shown of a stored field are its own parameters, or those of the engine. -/
theorem fieldSound_toFieldResponse {row : PolicyConditionField} (h : StoredField row) :
    ∃ d, FieldSound row.key row.valueType row.operators (toFieldResponse row).paramDefinitions d := by
  obtain ⟨params, d, hparams, hsound⟩ := h
  have hshown : (toFieldResponse row).paramDefinitions.map paramShape =
      d.paramDefinitions.map paramShape := by
    unfold toFieldResponse
    cases params with
    | cons param rest =>
      rw [hparams]
      exact hsound.params
    | nil =>
      rw [hparams]
      dsimp only
      cases hdefinition : definitionOf row.key with
      | none => exact hsound.params
      | some d' =>
        obtain ⟨hmem, hkey⟩ := definitionOf_eq_some hdefinition
        obtain rfl := definition_unique hsound.definition hmem (hsound.key.trans hkey.symm)
        rfl
  exact ⟨d, hsound.definition, hsound.key, hsound.valueType, hsound.operators_ne, hsound.operators, hshown⟩

theorem comparesList_name (operator : PolicyConditionOperator) :
    comparesList operator.name = (operator = .in_ || operator = .notIn) := by
  cases operator <;> rfl

theorem isCategoryText_of_mem {name : String} (h : name ∈ POLICY_EXPENSE_CATEGORIES) :
    PolicyConfigValidator.isCategoryText (.str name) = true := by
  have hall : ∀ name ∈ POLICY_EXPENSE_CATEGORIES,
      PolicyConfigValidator.isCategoryText (.str name) = true := by decide
  exact hall name h

variable {operator : PolicyConditionOperator} {value : Json} {key : String} {index : Nat}
  {params : Option PolicyConditionParams}

theorem assertCategoryValue_of_fits
    (h : FitsValue (getCatalog locale s) operator.name value .category) :
    PolicyConfigValidator.assertCategoryValue ⟨key, operator, value, params⟩ index = .ok () := by
  change OneOrMany operator.name
    (fun item => ∃ name ∈ POLICY_EXPENSE_CATEGORIES, item = .str name) value at h
  unfold OneOrMany at h
  rw [comparesList_name] at h
  unfold PolicyConfigValidator.assertCategoryValue
  dsimp only
  split at h
  · next hlist =>
    obtain ⟨items, rfl, hne, hitems⟩ := h
    rw [if_pos hlist]
    refine if_pos (Bool.and_eq_true_iff.2 ⟨by simpa using hne, List.all_eq_true.2 fun item hitem => ?_⟩)
    obtain ⟨name, hname, rfl⟩ := hitems item hitem
    exact isCategoryText_of_mem hname
  · next hlist =>
    obtain ⟨name, hname, rfl⟩ := h
    rw [if_neg hlist]
    exact if_pos (isCategoryText_of_mem hname)

theorem areIntegers_of_forall {items : List Json}
    (h : ∀ item ∈ items, ∃ x, item = .num x ∧ (Js.integer? x).isSome = true) :
    PolicyConfigValidator.areIntegers items = .ok true := by
  induction items with
  | nil => rfl
  | cons item rest ih =>
    obtain ⟨⟨x, rfl, hx⟩, hrest⟩ := List.forall_mem_cons.1 h
    refine Except.bind_eq_ok.2 ⟨x, rfl, ?_⟩
    rw [if_pos hx]
    exact ih hrest

theorem isInteger_of_mem_weekdays {day : Int × String} (h : day ∈ POLICY_WEEKDAYS) :
    (Js.integer? (Float.ofInt day.1)).isSome = true := by
  have hall : ∀ day ∈ POLICY_WEEKDAYS, (Js.integer? (Float.ofInt day.1)).isSome = true := by
    decide +kernel
  exact hall day h

theorem assertWeekdayValue_of_fits
    (h : FitsValue (getCatalog locale s) operator.name value .weekdays) :
    PolicyConfigValidator.assertWeekdayValue ⟨key, operator, value, params⟩ index = .ok () := by
  change OneOrMany operator.name
    (fun item => ∃ day ∈ POLICY_WEEKDAYS, item = .num (Float.ofInt day.1)) value at h
  unfold OneOrMany at h
  rw [comparesList_name] at h
  unfold PolicyConfigValidator.assertWeekdayValue
  dsimp only
  split at h
  · next hlist =>
    obtain ⟨items, rfl, hne, hitems⟩ := h
    rw [if_pos hlist]
    refine Except.bind_eq_ok.2 ⟨true, ?_, rfl⟩
    rw [PolicyConfigValidator.isWeekdayList, if_neg (by simpa using hne)]
    refine areIntegers_of_forall (fun item hitem => ?_)
    obtain ⟨day, hday, rfl⟩ := hitems item hitem
    exact ⟨_, rfl, isInteger_of_mem_weekdays hday⟩
  · next hlist =>
    obtain ⟨day, hday, rfl⟩ := h
    have hinteger : (Json.num (Float.ofInt day.1)).integer?.isSome = true :=
      isInteger_of_mem_weekdays hday
    rw [if_neg hlist]
    simp only [hinteger, if_true]

theorem assertPositiveKobo_of_fits (label : String)
    (h : FitsValue (getCatalog locale s) operator.name value .naira) :
    PolicyConfigValidator.assertPositiveKobo ⟨key, operator, value, params⟩ index label = .ok () := by
  obtain ⟨x, n, rfl, hinteger, hpos⟩ := h
  unfold PolicyConfigValidator.assertPositiveKobo
  rw [show (Json.num x).integer? = some n from hinteger]
  exact if_neg (by omega)

/-- The one parameter of a field is given. -/
theorem param_of_fits {definitions : List PolicyFieldParamDefinition} {given : Option Json}
    {name : String} {type : PolicyParamType} (hshape : definitions.map paramShape = [(name, type)])
    (h : FitsParams (getCatalog locale s) definitions given) : ∃ object value,
      given = some (.obj object) ∧ (Json.obj object).get? name = some value ∧
        FitsParam (getCatalog locale s) value type := by
  obtain ⟨d, rest, rfl, hd, hrest⟩ := List.map_eq_cons_iff.1 hshape
  cases hd
  exact h.given d List.mem_cons_self

/-- Nothing is given under another name. -/
theorem get?_of_other {definitions : List PolicyFieldParamDefinition} {object : List (String × Json)}
    {name other : String} {type : PolicyParamType} (hshape : definitions.map paramShape = [(name, type)])
    (h : FitsParams (getCatalog locale s) definitions (some (.obj object))) (hother : other ≠ name) :
    (Json.obj object).get? other = none := by
  have hnone : object.find? (fun field => field.1 = other) = none := by
    refine List.find?_eq_none.2 (fun property hmem => ?_)
    obtain ⟨d, hd, hkey⟩ := h.only object rfl property hmem
    have hshown : paramShape d ∈ [(name, type)] := hshape ▸ List.mem_map_of_mem hd
    have hname : d.key = name := congrArg Prod.fst (List.mem_singleton.1 hshown)
    rw [← hkey, hname]
    simpa using hother.symm
  rw [Json.get?, hnone]
  rfl

/-- The resolver of a field accepts the values and the parameters that fit. -/
theorem validateFieldCondition_of_fits {field : PolicyField}
    {definitions : List PolicyFieldParamDefinition} {given : Option Json}
    (hvalue : FitsValue (getCatalog locale s) operator.name value (valueTypeOf field))
    (hshape : definitions.map paramShape = paramsOf field)
    (hparams : FitsParams (getCatalog locale s) definitions given) :
    ∃ params, parseParams given index = .ok params ∧
      validateFieldCondition field ⟨key, operator, value, params⟩ index = .ok () := by
  cases field with
  | amount =>
    rw [hparams.none (List.map_eq_nil_iff.1 hshape)]
    exact ⟨none, rfl, assertPositiveKobo_of_fits _ hvalue⟩
  | category =>
    rw [hparams.none (List.map_eq_nil_iff.1 hshape)]
    exact ⟨none, rfl, assertCategoryValue_of_fits hvalue⟩
  | attachmentCount =>
    rw [hparams.none (List.map_eq_nil_iff.1 hshape)]
    obtain ⟨x, n, rfl, hinteger⟩ := hvalue
    refine ⟨none, rfl, ?_⟩
    change PolicyConfigValidator.assertIntegerValue _ index = .ok ()
    exact if_pos (Option.isSome_of_eq_some hinteger)
  | submittedDayOfWeek =>
    rw [hparams.none (List.map_eq_nil_iff.1 hshape)]
    exact ⟨none, rfl, assertWeekdayValue_of_fits hvalue⟩
  | monthlyCategorySpend =>
    obtain ⟨object, param, rfl, hget, name, hname, rfl⟩ := param_of_fits hshape hparams
    have hother := get?_of_other hshape hparams (by decide : "windowDays" ≠ "category")
    refine ⟨some ⟨some name, none⟩, by rw [parseParams, hget, hother]; rfl,
      Except.bind_eq_ok.2 ⟨(), ?_, assertPositiveKobo_of_fits _ hvalue⟩⟩
    simp only [getCatalog, POLICY_EXPENSE_CATEGORIES, List.mem_cons, List.not_mem_nil, or_false] at hname
    rcases hname with rfl | rfl | rfl | rfl <;> rfl
  | hasDuplicateExpense =>
    obtain ⟨object, param, rfl, hget, x, n, rfl, hinteger, hpos⟩ := param_of_fits hshape hparams
    obtain ⟨b, rfl⟩ := hvalue
    have hother := get?_of_other hshape hparams (by decide : "category" ≠ "windowDays")
    refine ⟨some ⟨none, some x⟩, by rw [parseParams, hget, hother]; rfl, ?_⟩
    change PolicyConfigValidator.assertWindowDaysParam _ index = .ok ()
    unfold PolicyConfigValidator.assertWindowDaysParam PolicyCondition.windowDays?
    rw [Option.bind_some, Option.bind_some, hinteger]
    exact if_neg (by omega)

theorem conditionObject_get? (field operator : String) (value : Json) (params : Option Json) :
    (conditionObject field operator (some value) params).get? "field" = some (.str field) ∧
      (conditionObject field operator (some value) params).get? "operator" = some (.str operator) ∧
      (conditionObject field operator (some value) params).get? "value" = some value ∧
      (conditionObject field operator (some value) params).get? "params" = params := by
  cases params <;> exact ⟨rfl, rfl, rfl, rfl⟩

/-- The condition as a request for a policy has it. -/
def requested (condition : PolicyTemplateCondition) : Json :=
  conditionObject condition.field condition.operator (some condition.value) condition.params

theorem parseCondition_of_composed (hs : StoredSound s)
    (h : Composed (getCatalog locale s) condition) (index : Nat) : ∃ parsed,
      PolicyConfigValidator.parseCondition (requested condition) index = .ok parsed ∧
        (parsed.field, parsed.operator.name, parsed.value) =
          (condition.field, condition.operator, condition.value) := by
  obtain ⟨shown, hshown, hfield, hoperator, hvalue, hparams⟩ := h
  obtain ⟨row, hrow, -, rfl⟩ := mem_catalog_fields hshown
  obtain ⟨d, hsound⟩ := fieldSound_toFieldResponse (hs.fields row hrow)
  obtain ⟨field, hkey, hoperators, htype, hshape⟩ := field_of_definition hsound.definition
  have hengine := hsound.operators _ hoperator
  rw [hoperators] at hengine
  obtain ⟨operator, hmem, hname⟩ := List.mem_map.1 hengine
  have hvalue' : FitsValue (getCatalog locale s) operator.name condition.value (valueTypeOf field) := by
    rw [hname, ← htype, hsound.valueType]
    exact hvalue
  obtain ⟨params, hparsed, hvalid⟩ : ∃ params, parseParams condition.params index = .ok params ∧
      validateFieldCondition field ⟨condition.field, operator, condition.value, params⟩ index = .ok () :=
    validateFieldCondition_of_fits hvalue' (hsound.params.trans hshape) hparams
  have hofKey : PolicyField.ofKey condition.field = some field := by
    rw [hfield, ← hkey, hsound.key]
    rfl
  obtain ⟨hgetField, hgetOperator, hgetValue, hgetParams⟩ :=
    conditionObject_get? condition.field condition.operator condition.value condition.params
  refine ⟨⟨condition.field, operator, condition.value, params⟩, parseCondition_eq_ok.2 ?_, by rw [← hname]⟩
  exact
    { object := ⟨_, rfl⟩
      field := hgetField
      operator := ⟨_, hgetOperator, by rw [← hname]; cases operator <;> rfl⟩
      expected := hgetValue
      params := hgetParams.symm ▸ hparsed
      valid := by
        unfold validateCondition
        rw [hofKey]
        exact (if_pos (List.contains_iff_mem.2 hmem)).trans hvalid }

variable {match_ : PolicyMatch} {conditions : List PolicyTemplateCondition}

theorem parseConditions_of_composed (hs : StoredSound s)
    (h : ∀ condition ∈ conditions, Composed (getCatalog locale s) condition) (index : Nat) : ∃ parsed,
      PolicyConfigValidator.parseConditions (conditions.map requested) index = .ok parsed ∧
        parsed.map (fun condition => (condition.field, condition.operator.name, condition.value)) =
          conditions.map (fun condition => (condition.field, condition.operator, condition.value)) := by
  induction conditions generalizing index with
  | nil => exact ⟨[], rfl, rfl⟩
  | cons condition rest ih =>
    obtain ⟨hfirst, hrest⟩ := List.forall_mem_cons.1 h
    obtain ⟨first, hparsed, hsame⟩ := parseCondition_of_composed hs hfirst index
    obtain ⟨others, hothers, hall⟩ := ih hrest (index + 1)
    refine ⟨first :: others, ?_, by rw [List.map_cons, List.map_cons, hsame, hall]⟩
    rw [List.map_cons, PolicyConfigValidator.parseConditions]
    exact Except.bind_eq_ok.2 ⟨first, hparsed, Except.bind_eq_ok.2 ⟨others, hothers, rfl⟩⟩

/-- The configuration of a policy as a request has it. -/
def toConfig (match_ : PolicyMatch) (conditions : List PolicyTemplateCondition) : Json :=
  PolicyConfigValidator.object
    [("match", some (.str (if match_ = .all then "all" else "any"))),
      ("conditions", some (.arr (conditions.map requested)))]

theorem toConfig_get? (match_ : PolicyMatch) (conditions : List PolicyTemplateCondition) :
    (toConfig match_ conditions).isNull = false ∧
      (toConfig match_ conditions).get? "message" = none ∧
      PolicyConfigValidator.parseMatch (toConfig match_ conditions) = .ok match_ ∧
      (toConfig match_ conditions).get? "conditions" = some (.arr (conditions.map requested)) := by
  cases match_ <;> exact ⟨rfl, rfl, rfl, rfl⟩

/-- The engine takes the conditions for what they were composed as. -/
structure Accepts (match_ : PolicyMatch) (conditions : List PolicyTemplateCondition)
    (config : ConditionalPolicyConfig) : Prop where
  normalized :
    PolicyConfigValidator.normalizeRuleConfig .CONDITIONAL (toConfig match_ conditions) = .ok config
  mode : config.match_ = match_
  conditions : config.conditions.map (fun condition =>
      (condition.field, condition.operator.name, condition.value)) =
    conditions.map (fun condition => (condition.field, condition.operator, condition.value))

theorem accepts_of_composed (hs : StoredSound s) (hne : conditions ≠ [])
    (h : ∀ condition ∈ conditions, Composed (getCatalog locale s) condition) :
    ∃ config, Accepts match_ conditions config := by
  obtain ⟨parsed, hparsed, hsame⟩ := parseConditions_of_composed hs h 0
  obtain ⟨hnull, hmessage, hmode, hconditions⟩ := toConfig_get? match_ conditions
  have hvalidated : PolicyConfigValidator.ValidatedTo (toConfig match_ conditions) ⟨match_, parsed⟩ :=
    { message := by rw [PolicyConfigValidator.assertOptionalMessage, hmessage]
      mode := hmode
      conditions := ⟨_, hconditions, fun hnil => hne (List.map_eq_nil_iff.1 hnil), hparsed⟩ }
  exact ⟨⟨match_, parsed⟩, PolicyConfigValidator.normalizeRuleConfig_eq_ok.2 ⟨hnull, hvalidated⟩, rfl, hsame⟩

/-- A catalogue that can be composed from: its fields are fields of the engine, each once, and
    what is composed of them is accepted. -/
structure CatalogSound (catalog : PolicyCatalogResponse) : Prop where
  fields : ∀ field ∈ catalog.fields, field.isActive = true ∧
    ∃ d, FieldSound field.key field.valueType field.operators field.paramDefinitions d
  once : (catalog.fields.map (·.key)).Nodup
  templates : ∀ template ∈ catalog.templates, template.isActive = true ∧ StoredTemplate template
  accepted : ∀ match_ conditions, conditions ≠ [] →
    (∀ condition ∈ conditions, Composed catalog condition) → ∃ config, Accepts match_ conditions config

theorem catalogSound_of_stored (hs : StoredSound s) : CatalogSound (getCatalog locale s) where
  fields field hfield := by
    obtain ⟨row, hrow, hactive, rfl⟩ := mem_catalog_fields hfield
    exact ⟨hactive, fieldSound_toFieldResponse (hs.fields row hrow)⟩
  once := by
    change ((List.map toFieldResponse _).map (fun field => field.key)).Nodup
    rw [List.map_map]
    refine (List.filter_sublist.map _).nodup ?_
    refine ((List.perm_insertionSort _ _).map _).nodup_iff.2 ?_
    exact (List.filter_sublist.map _).nodup s.fields.nodup
  templates template htemplate := by
    obtain ⟨hrow, hactive⟩ := List.mem_filter.1 ((List.mem_insertionSort _).1 htemplate)
    exact ⟨hactive, hs.templates template hrow⟩
  accepted match_ conditions hne h := accepts_of_composed hs hne h

end Accepted

/-- Whatever requests have edited the catalogue, in any interleaving and with any statement
    failing, what it shows can be composed from. -/
theorem catalog_sound {locale : Locale} {p : Pool PolicyCatalogTables CatalogThread}
    (hreach : Reaches catalogRequests.Step (Pool.idle ⟨∅, ∅, 1⟩) p) :
    CatalogSound (getCatalog locale p.shared) := by
  have hempty : StoredSound ⟨∅, ∅, 1⟩ :=
    ⟨fun _ h => absurd h List.not_mem_nil, fun _ h => absurd h List.not_mem_nil⟩
  exact catalogSound_of_stored (catalog_outline.reaches_anyStep (holds_idle hempty) hreach).shared

end PolicyCatalogService

namespace Sample

def codepoints : Locale where
  ilike _ _ := true
  le left right := decide (left ≤ right)

def capField : CreatePolicyConditionFieldInput where
  key := " monthly_category_spend "
  label := "Spent this month"
  description := "What the category has cost this month."
  operators := some ["gt", "gte"]
  paramDefinitions := none
  isActive := none
  sortOrder := none

/-- Two administrators offer one field at once: the second row breaks the unique key. -/
def offeredTwice : List (Turn CatalogRequest (Option String) Unit) :=
  [.start (.createField capField), .start (.createField capField), .step 0 (some "PCF1700000000001AAAAAA"),
    .step 1 (some "PCF1700000000002AAAAAA")]

def shownField : PolicyCatalogService.PolicyCatalogFieldResponse where
  reference := "PCF1700000000001AAAAAA"
  key := "monthly_category_spend"
  label := "Spent this month"
  description := "What the category has cost this month."
  valueType := .naira
  operators := ["gt", "gte"]
  paramDefinitions := [⟨"category", "Spend category", .category, some true⟩]
  isActive := true
  sortOrder := 0

def travelCap : PolicyTemplateCondition :=
  ⟨"monthly_category_spend", "gt", .num 5000000, some (.obj [("category", .str "TRAVEL")])⟩

theorem composed_travelCap {catalog : PolicyCatalogService.PolicyCatalogResponse}
    (hfields : catalog.fields = [shownField])
    (hcategories : catalog.categories = PolicyCatalogService.POLICY_EXPENSE_CATEGORIES) :
    PolicyCatalogService.Composed catalog travelCap := by
  refine ⟨shownField, hfields ▸ List.mem_singleton_self _, rfl, by decide,
    ⟨5000000, 5000000, rfl, by decide +kernel, by decide⟩,
    ⟨fun d hd => ?_, fun object hobject property hproperty => ?_,
      fun hnil => absurd hnil (List.cons_ne_nil _ _)⟩⟩
  · rw [List.mem_singleton.1 hd]
    exact ⟨_, _, rfl, rfl, "TRAVEL", hcategories ▸ List.mem_cons_self, rfl⟩
  · cases hobject
    rw [List.mem_singleton.1 hproperty]
    exact ⟨_, List.mem_singleton_self _, rfl⟩

end Sample

theorem catalog_sound_sample : ∃ p, Reaches PolicyCatalogService.catalogRequests.Step
      (Pool.idle ⟨∅, ∅, 1⟩) p ∧
    (PolicyCatalogService.getCatalog Sample.codepoints p.shared).fields = [Sample.shownField] ∧
    PolicyCatalogService.CatalogSound (PolicyCatalogService.getCatalog Sample.codepoints p.shared) ∧
    ∃ config, PolicyCatalogService.Accepts .all [Sample.travelCap] config := by
  have hrun : (PolicyCatalogService.catalogRequests.exec Concurrent.anyStep Sample.offeredTwice
      (Pool.idle ⟨∅, ∅, 1⟩)).any (fun p =>
        (PolicyCatalogService.getCatalog Sample.codepoints p.shared).fields = [Sample.shownField]) =
      true := by
    decide +kernel
  obtain ⟨p, hexec, hp⟩ := (Option.any_eq_true _ _).1 hrun
  have hreach := (Concurrent.reaches_of_exec hexec).of_guarded
  have hfields := of_decide_eq_true hp
  have hsound : PolicyCatalogService.CatalogSound (PolicyCatalogService.getCatalog Sample.codepoints p.shared) :=
    PolicyCatalogService.catalog_sound hreach
  exact ⟨p, hreach, hfields, hsound, hsound.accepted .all _ (List.cons_ne_nil _ _)
    (List.forall_mem_singleton.2 (Sample.composed_travelCap hfields rfl))⟩

end Expentra
