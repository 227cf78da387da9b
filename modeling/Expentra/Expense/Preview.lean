-- SUMMARY: The preview of a submission, and when it predicts what the submission does.
import Expentra.Expense.Submit
import Expentra.System.Operations

/-!
# The submit preview

`checkSubmitPolicies` evaluates the policies and the budget of a draft without a
transaction. It dates the budget check by `incurredAt ?? new Date()`, where the
submission dates it by `submittedAt ?? new Date()`. Both run at one instant here.
-/

namespace Expentra

namespace ExpenseSubmit

open Library ExpenseMutationSupport

structure ExpenseSubmitCheckResult where
  policies : PolicyEvaluationResult
  budget : BudgetSubmitEvaluation

def checkSubmitPolicies (cfg : Config) (policies : List ExpensePolicy) (now : Instant)
    (authUser : AuthUser) (reference : String) (db : Db) :
    Except HttpException ExpenseSubmitCheckResult := do
  let draft ← findReadableExpense db authUser reference
  assertSubmittable cfg now authUser draft
  let context := buildSubmitPolicyContext db now authUser draft []
  let result := PolicyEngine.evaluate policies context (PolicyEvaluationCache.reads db context)
  let budget ← BudgetService.evaluateExpenseSubmit cfg db authUser.id draft.amount.val
    (draft.incurredAt.toOption.getD now) draft.departmentId.toOption
  pure ⟨result, budget⟩

/-! ## What is compared -/

/-- A justification of the violated policy that is not blank. -/
def IsJustified (policyJustifications : List (String × String)) (violation : PolicyViolation) : Prop :=
  (policyJustifications.find? (fun justification =>
    justification.1 = violation.policyReference)).any (fun justification =>
      Js.trim justification.2 ≠ "") = true

/-- A blocking violation, or a warning without a justification. -/
def Violates (policyJustifications : List (String × String)) (result : PolicyEvaluationResult) : Prop :=
  result.blockingViolations ≠ [] ∨
    ∃ violation ∈ result.warningViolations, ¬ IsJustified policyJustifications violation

/-- The preview reports something that a submission is refused for. -/
def Reports (policyJustifications : List (String × String)) (report : ExpenseSubmitCheckResult) :
    Prop :=
  Violates policyJustifications report.policies ∨ report.budget.allowed = false

/-- A draft that the preview and the submission both take up. -/
structure TakenUp (cfg : Config) (now : Instant) (authUser : AuthUser) (reference : String) (db : Db)
    (row : Expense) : Prop where
  found : findExpense db reference = .ok row
  readable : ExpenseAccessPolicy.canReadExpense authUser (db.withRelations row) = true
  submittable : assertSubmittable cfg now authUser (db.withRelations row) = .ok ()

/-- The policy result of a draft; the justifications do not enter it. -/
def policyResult (policies : List ExpensePolicy) (now : Instant) (authUser : AuthUser) (db : Db)
    (row : Expense) : PolicyEvaluationResult :=
  let context := buildSubmitPolicyContext db now authUser (db.withRelations row) []
  PolicyEngine.evaluate policies context (PolicyEvaluationCache.reads db context)

/-- The department a draft is charged to. -/
def chargedDepartment (db : Db) (row : Expense) : Option Nat :=
  db.resolveDepartmentForSubmit row.userId row.departmentId

/-- The budget year of the preview. -/
def previewYear (cfg : Config) (now : Instant) (row : Expense) : Int :=
  BudgetPeriod.resolveBudgetYear (row.incurredAt.getD now) cfg.budgetTimeZone

/-- The budget year of the submission. -/
def submitYear (cfg : Config) (now : Instant) (row : Expense) : Int :=
  BudgetPeriod.resolveBudgetYear (row.submittedAt.getD now) cfg.budgetTimeZone

section Refusals

variable (cfg : Config) (policies : List ExpensePolicy) (now : Instant) (authUser : AuthUser)
  (reference : String) (policyJustifications : List (String × String)) (db : Db)

/-- The submission gets to its policy check and fails there. -/
def RefusedByPolicy : Prop :=
  ∃ row, TakenUp cfg now authUser reference db row ∧
    Violates policyJustifications (policyResult policies now authUser db row)

/-- The submission gets to its budget check and fails there. -/
def RefusedByBudget : Prop :=
  ∃ row departmentId check, TakenUp cfg now authUser reference db row ∧
    ¬ Violates policyJustifications (policyResult policies now authUser db row) ∧
    chargedDepartment db row = some departmentId ∧
    lacksDepartmentManager db (routed db row departmentId) db.activeLevels = false ∧
    BudgetService.evaluateExpenseSubmit cfg db authUser.id row.amount.val (row.submittedAt.getD now)
      (some departmentId) = .ok check ∧ check.allowed = false

/-- The preview predicts the submission, by the same policy context, department and year. -/
structure Predicts : Prop where
  refusal : (RefusedByPolicy cfg policies now authUser reference policyJustifications db ∨
      RefusedByBudget cfg policies now authUser reference policyJustifications db) ↔
    ∃ report, checkSubmitPolicies cfg policies now authUser reference db = .ok report ∧
      Reports policyJustifications report
  context : ∀ row, TakenUp cfg now authUser reference db row →
    { buildSubmitPolicyContext db now authUser (db.withRelations row) [] with
      policyJustifications := policyJustifications } =
      buildSubmitPolicyContext db now authUser (db.withRelations row) policyJustifications
  budget : ∀ row, TakenUp cfg now authUser reference db row →
    (db.resolveDepartmentForSubmit authUser.id row.departmentId).map (·, previewYear cfg now row) =
      (chargedDepartment db row).map (·, submitYear cfg now row)

/-- What a draft that is charged to a department has to meet. -/
structure Foreseen (row : Expense) (departmentId : Nat) : Prop where
  sameYear : previewYear cfg now row = submitYear cfg now row
  /-- The preview can read the budget of a draft that the policies refuse. -/
  summary : Violates policyJustifications (policyResult policies now authUser db row) →
    ∃ summary, BudgetService.getDepartmentSummary cfg db departmentId (previewYear cfg now row) =
      .ok summary
  /-- A submission refused for a missing manager is within its budget. -/
  managed : ¬ Violates policyJustifications (policyResult policies now authUser db row) →
    lacksDepartmentManager db (routed db row departmentId) db.activeLevels = true →
    ∀ summary, BudgetService.getDepartmentSummary cfg db departmentId (previewYear cfg now row) =
      .ok summary → (BudgetService.buildSubmitEvaluation cfg summary row.amount.val).allowed = true

end Refusals

section Preview

variable {cfg : Config} {policies : List ExpensePolicy} {now : Instant} {authUser : AuthUser}
  {reference : String} {policyJustifications : List (String × String)} {db : Db} {row row' : Expense}
  {departmentId : Nat} {report : ExpenseSubmitCheckResult}

/-! ## The refusals are those of the submission -/

theorem assertCompliant_eq_error {context : PolicyEvaluationContext} {reads : PolicyReads} :
    (∃ e, PolicyEngine.assertCompliant policies context reads = .error e) ↔
      Violates context.policyJustifications (PolicyEngine.evaluate policies context reads) := by
  unfold PolicyEngine.assertCompliant Violates
  dsimp only
  cases hblocking : (PolicyEngine.evaluate policies context reads).blockingViolations with
  | cons violation rest => simp
  | nil =>
    cases hwarning : (PolicyEngine.evaluate policies context reads).warningViolations.find?
        (fun violation => !PolicyEngine.isJustified context violation) with
    | some violation =>
      have hunjustified := List.find?_some hwarning
      simp only [ne_eq, not_true_eq_false, false_or]
      refine ⟨fun _ => ⟨violation, List.mem_of_find?_eq_some hwarning, fun hjustified => ?_⟩,
        fun _ => ⟨_, rfl⟩⟩
      rw [show PolicyEngine.isJustified context violation = true from hjustified] at hunjustified
      cases hunjustified
    | none =>
      simp only [ne_eq, not_true_eq_false, false_or, reduceCtorEq, exists_false, false_iff]
      rintro ⟨violation, hmem, hunjustified⟩
      have hjustified := List.find?_eq_none.1 hwarning violation hmem
      simp only [Bool.not_eq_true', Bool.not_eq_false] at hjustified
      exact hunjustified hjustified

theorem TakenUp.readable_eq (h : TakenUp cfg now authUser reference db row) :
    findReadableExpense db authUser reference = .ok (db.withRelations row) :=
  findReadableExpense_eq_ok.2 ⟨row, h.found, rfl, h.readable⟩

theorem TakenUp.owner (h : TakenUp cfg now authUser reference db row) : row.userId = authUser.id :=
  (assertSubmittable_eq_ok.1 h.submittable).1

theorem TakenUp.unique (h : TakenUp cfg now authUser reference db row)
    (h' : TakenUp cfg now authUser reference db row') : row = row' :=
  Except.ok.inj (h.found.symm.trans h'.found)

theorem policyResult_eq : policyResult policies now authUser db row =
    PolicyEngine.evaluate policies
      (buildSubmitPolicyContext db now authUser (db.withRelations row) policyJustifications)
      (PolicyEvaluationCache.reads db
        (buildSubmitPolicyContext db now authUser (db.withRelations row) policyJustifications)) := rfl

/-- A draft that is submitted violates nothing. -/
theorem not_violates_of_assertCompliant {result : PolicyEvaluationResult}
    (h : PolicyEngine.assertCompliant policies
      (buildSubmitPolicyContext db now authUser (db.withRelations row) policyJustifications)
      (PolicyEvaluationCache.reads db
        (buildSubmitPolicyContext db now authUser (db.withRelations row) policyJustifications)) =
          .ok result) :
    ¬ Violates policyJustifications (policyResult policies now authUser db row) := by
  intro hviolates
  obtain ⟨e, he⟩ := assertCompliant_eq_error.2 (policyResult_eq ▸ hviolates)
  cases h.symm.trans he

/-- A submission that fails at its policy check or at its budget check throws. -/
theorem submit_of_refused
    (h : RefusedByPolicy cfg policies now authUser reference policyJustifications db ∨
      RefusedByBudget cfg policies now authUser reference policyJustifications db) :
    ∃ e, submit cfg policies now authUser reference policyJustifications db = .error e := by
  cases hsubmit : submit cfg policies now authUser reference policyJustifications db with
  | error e => exact ⟨e, rfl⟩
  | ok p =>
    obtain ⟨row, result, hfound, -, -, hcompliant, hcommit⟩ := submit_eq_ok.1 hsubmit
    have hcomplies := not_violates_of_assertCompliant hcompliant
    rcases h with ⟨row', htaken, hviolates⟩ |
      ⟨row', departmentId, check, htaken, -, hdepartment, -, hcheck, hrefused⟩
    · obtain rfl : row = row' := Except.ok.inj (hfound.symm.trans htaken.found)
      exact absurd hviolates hcomplies
    · obtain rfl : row = row' := Except.ok.inj (hfound.symm.trans htaken.found)
      obtain ⟨row', departmentId', check', _, hfound', -, hdepartment', -, hcheck', hallowed, -⟩ :=
        commitSubmit_eq_ok.1 hcommit
      obtain rfl : row = row' := Except.ok.inj (hfound.symm.trans hfound')
      obtain rfl : departmentId = departmentId' :=
        Option.some.inj (hdepartment.symm.trans hdepartment')
      obtain rfl : check = check' := Except.ok.inj (hcheck.symm.trans hcheck')
      cases hrefused.symm.trans hallowed

/-! ## The preview -/

/-- The budget check for a charged department. -/
theorem evaluateExpenseSubmit_eq_ok {userId : Nat} {amount : Int} {at_ : Instant}
    {department : Option Nat} {check : BudgetSubmitEvaluation}
    (hdepartment : db.resolveDepartmentForSubmit userId department = some departmentId) :
    BudgetService.evaluateExpenseSubmit cfg db userId amount at_ department = .ok check ↔
      ∃ summary, BudgetService.getDepartmentSummary cfg db departmentId
          (BudgetPeriod.resolveBudgetYear at_ cfg.budgetTimeZone) = .ok summary ∧
        check = BudgetService.buildSubmitEvaluation cfg summary amount := by
  rw [BudgetService.evaluateExpenseSubmit, hdepartment]
  dsimp only
  rw [Except.bind_eq_ok]
  exact exists_congr (fun summary => and_congr_right (fun _ =>
    ⟨fun h => (Except.ok.inj h).symm, fun h => congrArg Except.ok h.symm⟩))

theorem checkSubmitPolicies_eq_ok :
    checkSubmitPolicies cfg policies now authUser reference db = .ok report ↔
      ∃ row, TakenUp cfg now authUser reference db row ∧
        report.policies = policyResult policies now authUser db row ∧
        BudgetService.evaluateExpenseSubmit cfg db authUser.id row.amount.val
          (row.incurredAt.getD now) row.departmentId = .ok report.budget := by
  have hincurred : ∀ row : Expense,
      (db.withRelations row).incurredAt.toOption = row.incurredAt := fun row => Property.toOption_ofColumn _
  have hdepartment : ∀ row : Expense,
      (db.withRelations row).departmentId.toOption = row.departmentId := fun row => Property.toOption_ofColumn _
  simp only [checkSubmitPolicies, Except.bind_eq_ok, findReadableExpense_eq_ok]
  constructor
  · rintro ⟨_, ⟨row, hfound, rfl, hread⟩, _, hassert, budget, hbudget, hreport⟩
    cases hreport
    rw [hincurred, hdepartment] at hbudget
    exact ⟨row, ⟨hfound, hread, hassert⟩, rfl, hbudget⟩
  · rintro ⟨row, htaken, hpolicies, hbudget⟩
    refine ⟨_, ⟨row, htaken.found, rfl, htaken.readable⟩, (), htaken.submittable, report.budget, ?_, ?_⟩
    · rw [hincurred, hdepartment]
      exact hbudget
    · obtain ⟨policies, budget⟩ := report
      cases hpolicies
      rfl

/-- The preview of a draft without a department allows it. -/
theorem allowed_of_no_department {userId : Nat} {amount : Int} {at_ : Instant}
    {department : Option Nat} (hdepartment : db.resolveDepartmentForSubmit userId department = none) :
    BudgetService.evaluateExpenseSubmit cfg db userId amount at_ department =
      .ok (BudgetService.noDepartmentBudgetEvaluation amount) := by
  rw [BudgetService.evaluateExpenseSubmit, hdepartment]

theorem TakenUp.charged (h : TakenUp cfg now authUser reference db row) :
    db.resolveDepartmentForSubmit authUser.id row.departmentId = chargedDepartment db row := by
  rw [chargedDepartment, h.owner]

/-! ## When it predicts -/

/-- A draft that is refused is one the preview reports. -/
theorem reported_of_refused
    (hforeseen : ∀ row departmentId, TakenUp cfg now authUser reference db row →
      chargedDepartment db row = some departmentId →
      Foreseen cfg policies now authUser policyJustifications db row departmentId)
    (h : RefusedByPolicy cfg policies now authUser reference policyJustifications db ∨
      RefusedByBudget cfg policies now authUser reference policyJustifications db) :
    ∃ report, checkSubmitPolicies cfg policies now authUser reference db = .ok report ∧
      Reports policyJustifications report := by
  rcases h with ⟨row, htaken, hviolates⟩ |
    ⟨row, departmentId, check, htaken, -, hdepartment, -, hcheck, hrefused⟩
  · cases hdepartment : chargedDepartment db row with
    | none =>
      exact ⟨⟨policyResult policies now authUser db row, _⟩, checkSubmitPolicies_eq_ok.2 ⟨row, htaken,
        rfl, allowed_of_no_department (htaken.charged.trans hdepartment)⟩, .inl hviolates⟩
    | some departmentId =>
      obtain ⟨summary, hsummary⟩ := (hforeseen row departmentId htaken hdepartment).summary hviolates
      exact ⟨⟨policyResult policies now authUser db row, _⟩, checkSubmitPolicies_eq_ok.2 ⟨row, htaken,
        rfl, (evaluateExpenseSubmit_eq_ok (htaken.charged.trans hdepartment)).2 ⟨summary, hsummary, rfl⟩⟩,
        .inl hviolates⟩
  · have hyear := (hforeseen row departmentId htaken hdepartment).sameYear
    obtain ⟨summary, hsummary, rfl⟩ := (evaluateExpenseSubmit_eq_ok rfl).1 hcheck
    refine ⟨⟨policyResult policies now authUser db row, _⟩, checkSubmitPolicies_eq_ok.2 ⟨row, htaken,
      rfl, (evaluateExpenseSubmit_eq_ok (htaken.charged.trans hdepartment)).2 ⟨summary, ?_, rfl⟩⟩,
      .inr hrefused⟩
    exact (congrArg (BudgetService.getDepartmentSummary cfg db departmentId) hyear).trans hsummary

theorem refused_of_reported
    (hforeseen : ∀ row departmentId, TakenUp cfg now authUser reference db row →
      chargedDepartment db row = some departmentId →
      Foreseen cfg policies now authUser policyJustifications db row departmentId)
    (hreport : checkSubmitPolicies cfg policies now authUser reference db = .ok report)
    (hreports : Reports policyJustifications report) :
    RefusedByPolicy cfg policies now authUser reference policyJustifications db ∨
      RefusedByBudget cfg policies now authUser reference policyJustifications db := by
  obtain ⟨row, htaken, hpolicies, hbudget⟩ := checkSubmitPolicies_eq_ok.1 hreport
  rw [Reports, hpolicies] at hreports
  by_cases hviolates : Violates policyJustifications (policyResult policies now authUser db row)
  · exact .inl ⟨row, htaken, hviolates⟩
  · have hrefused := hreports.resolve_left hviolates
    cases hdepartment : chargedDepartment db row with
    | none =>
      rw [allowed_of_no_department (htaken.charged.trans hdepartment)] at hbudget
      rw [← Except.ok.inj hbudget] at hrefused
      cases hrefused
    | some departmentId =>
      have hrow := hforeseen row departmentId htaken hdepartment
      obtain ⟨summary, hsummary, hcheck⟩ :=
        (evaluateExpenseSubmit_eq_ok (htaken.charged.trans hdepartment)).1 hbudget
      rw [hcheck] at hrefused
      have hmanaged : lacksDepartmentManager db (routed db row departmentId) db.activeLevels = false := by
        by_contra hlacks
        rw [hrow.managed hviolates (Bool.not_eq_false _ ▸ hlacks) summary hsummary] at hrefused
        cases hrefused
      refine .inr ⟨row, departmentId, _, htaken, hviolates, hdepartment, hmanaged,
        (evaluateExpenseSubmit_eq_ok rfl).2 ⟨summary, ?_, rfl⟩, hrefused⟩
      exact (congrArg (BudgetService.getDepartmentSummary cfg db departmentId)
        hrow.sameYear).symm.trans hsummary

theorem predicts_of_foreseen
    (hforeseen : ∀ row departmentId, TakenUp cfg now authUser reference db row →
      chargedDepartment db row = some departmentId →
      Foreseen cfg policies now authUser policyJustifications db row departmentId) :
    Predicts cfg policies now authUser reference policyJustifications db where
  refusal := ⟨reported_of_refused hforeseen, fun ⟨_, hreport, hreports⟩ =>
    refused_of_reported hforeseen hreport hreports⟩
  context := fun _ _ => rfl
  budget := by
    intro row htaken
    rw [htaken.charged]
    cases hdepartment : chargedDepartment db row with
    | none => rfl
    | some departmentId =>
      simp only [Option.map_some, (hforeseen row departmentId htaken hdepartment).sameYear]

theorem foreseen_of_predicts
    (h : Predicts cfg policies now authUser reference policyJustifications db)
    (htaken : TakenUp cfg now authUser reference db row)
    (hdepartment : chargedDepartment db row = some departmentId) :
    Foreseen cfg policies now authUser policyJustifications db row departmentId where
  sameYear := by
    have hkey := h.budget row htaken
    rw [htaken.charged, hdepartment] at hkey
    exact (Prod.mk.inj (Option.some.inj hkey)).2
  summary := by
    intro hviolates
    obtain ⟨report, hreport, -⟩ := h.refusal.1 (.inl ⟨row, htaken, hviolates⟩)
    obtain ⟨row', htaken', -, hbudget⟩ := checkSubmitPolicies_eq_ok.1 hreport
    obtain rfl := htaken.unique htaken'
    obtain ⟨summary, hsummary, -⟩ :=
      (evaluateExpenseSubmit_eq_ok (htaken.charged.trans hdepartment)).1 hbudget
    exact ⟨summary, hsummary⟩
  managed := by
    intro hcomplies hlacks summary hsummary
    by_contra hrefused
    have hreport : checkSubmitPolicies cfg policies now authUser reference db =
        .ok ⟨policyResult policies now authUser db row,
          BudgetService.buildSubmitEvaluation cfg summary row.amount.val⟩ :=
      checkSubmitPolicies_eq_ok.2 ⟨row, htaken, rfl,
        (evaluateExpenseSubmit_eq_ok (htaken.charged.trans hdepartment)).2 ⟨summary, hsummary, rfl⟩⟩
    rcases h.refusal.2 ⟨_, hreport, .inr (Bool.not_eq_true _ ▸ hrefused)⟩ with
      ⟨row', htaken', hviolates⟩ | ⟨row', departmentId', _, htaken', -, hdepartment', hmanaged, -⟩
    · obtain rfl := htaken.unique htaken'
      exact hcomplies hviolates
    · obtain rfl := htaken.unique htaken'
      cases hdepartment.symm.trans hdepartment'
      cases hlacks.symm.trans hmanaged

end Preview

/-- The preview predicts the submission, if and only if a draft that is charged to a
    department is budgeted in one year by both, has a readable budget when the policies
    refuse it, and is within its budget when its manager is missing. -/
theorem preview_predicts_iff (cfg : Config) (policies : List ExpensePolicy) (now : Instant)
    (authUser : AuthUser) (reference : String) (policyJustifications : List (String × String)) (db : Db) :
    Predicts cfg policies now authUser reference policyJustifications db ↔
      ∀ row departmentId, TakenUp cfg now authUser reference db row →
        chargedDepartment db row = some departmentId →
        Foreseen cfg policies now authUser policyJustifications db row departmentId :=
  ⟨fun h _ _ htaken hdepartment => foreseen_of_predicts h htaken hdepartment, predicts_of_foreseen⟩

end ExpenseSubmit

/-! ## A draft for next year -/

namespace Sample

/-- Submissions are blocked when they exceed the budget. -/
def blockingConfig : Config := ⟨BudgetPeriod.utcZone, true⟩

/-- The budget of the year is spent, and the owner has drafted an expense of next year. -/
def spentYear : Db :=
  runAll blockingConfig
    [.createExpense now expenseReference 1
      ⟨"Train to Abuja", none, 5000, .TRAVEL, some (Date.utc 2026 0 15 0 0 0)⟩]
    { db with budgets := ⟨[⟨"BUD1700000000001AAAAAA", 1, 2025, 1000, true, 0, 0, none, by decide⟩],
        by decide⟩ }

end Sample

namespace ExpenseSubmit

open Sample

/-- The preview allows the draft, by the budget of next year, and the submission is refused,
    by the budget of this one. -/
theorem preview_misses_budget :
    ¬ Predicts blockingConfig [] now authOwner expenseReference [] spentYear ∧
    ((checkSubmitPolicies blockingConfig [] now authOwner expenseReference spentYear).toOption.any
      (fun report => report.policies.violations.isEmpty && report.budget.allowed)) = true ∧
    submit blockingConfig [] now authOwner expenseReference [] spentYear =
      .error (.badRequest "Submitting this expense would exceed your department annual budget") := by
  refine ⟨fun h => ?_, by decide +kernel, rfl⟩
  have hyears : (ExpenseMutationSupport.findExpense spentYear expenseReference).toOption.any
      (fun row => decide (assertSubmittable blockingConfig now authOwner (spentYear.withRelations row) =
        .ok ()) && ExpenseAccessPolicy.canReadExpense authOwner (spentYear.withRelations row) &&
        decide (chargedDepartment spentYear row = some 1) &&
        decide (previewYear blockingConfig now row ≠ submitYear blockingConfig now row)) = true := by
    decide +kernel
  cases hfound : ExpenseMutationSupport.findExpense spentYear expenseReference with
  | error e =>
    rw [hfound] at hyears
    cases hyears
  | ok row =>
    rw [hfound] at hyears
    simp only [Except.toOption, Option.any_some, Bool.and_eq_true, decide_eq_true_eq] at hyears
    obtain ⟨⟨⟨hsubmittable, hreadable⟩, hdepartment⟩, hyears⟩ := hyears
    exact hyears (foreseen_of_predicts h ⟨hfound, hreadable, hsubmittable⟩ hdepartment).sameYear

end ExpenseSubmit

end Expentra
