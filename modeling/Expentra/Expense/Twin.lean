-- SUMMARY: A draft and a fresh draft with the same contents: what lets the fresh one be submitted lets the old one.
import Expentra.System.Effects

/-!
# Twins

Two drafts of one owner with the same department, amount, category, date and
number of receipts, one of them inserted beside the other. Neither counts as
spend, so that every check of a submission sees the same for both; only the keys
of the events tell them apart.
-/

namespace Expentra

open Library ApprovalRouting ExpenseMutationSupport

/-- `db₁` is `db` with a second draft like `row`, neither of them dated. -/
structure Twin (db db₁ : Db) (row twin : Expense) : Prop where
  mem : row ∈ db.expenses
  inserted : db.expenses.insert? twin = some db₁.expenses
  users : db₁.users = db.users
  departments : db₁.departments = db.departments
  levels : db₁.levels = db.levels
  budgets : db₁.budgets = db.budgets
  receipts : db₁.attachmentCount twin.id = db.attachmentCount row.id
  owner : twin.userId = row.userId
  department : twin.departmentId = row.departmentId
  amount : twin.amount = row.amount
  category : twin.category = row.category
  incurredAt : twin.incurredAt = row.incurredAt
  title : Js.trim twin.title ≠ "" → Js.trim row.title ≠ ""
  draft : row.status = .DRAFT
  twinDraft : twin.status = .DRAFT
  undated : row.submittedAt = none
  twinUndated : twin.submittedAt = none

namespace Twin

variable {cfg : Config} {policies : List ExpensePolicy} {now : Instant} {db db₁ : Db}
  {row twin : Expense} {authUser : AuthUser} {reference twinReference : String}
  {policyJustifications : List (String × String)} {u : Unit}

/-! ## The checks before the transaction -/

theorem canReadExpense (h : Twin db db₁ row twin)
    (hread : ExpenseAccessPolicy.canReadExpense authUser (db₁.withRelations twin) = true) :
    ExpenseAccessPolicy.canReadExpense authUser (db.withRelations row) = true := by
  have hdraft : (db.withRelations row).status = .DRAFT := h.draft
  have hdraft' : (db₁.withRelations twin).status = .DRAFT := h.twinDraft
  have howner : (db₁.withRelations twin).userId = (db.withRelations row).userId := h.owner
  unfold ExpenseAccessPolicy.canReadExpense at hread ⊢
  rw [if_pos hdraft', howner] at hread
  rw [if_pos hdraft]
  exact hread

theorem assertSubmittable (h : Twin db db₁ row twin) {department department' : Option Department}
    {user user' : Option User}
    (hassert : ExpenseSubmit.assertSubmittable cfg now authUser (twin.toEntity department user) = .ok ()) :
    ExpenseSubmit.assertSubmittable cfg now authUser (row.toEntity department' user') = .ok () := by
  obtain ⟨howner, -, htitle, hincurred⟩ := ExpenseSubmit.assertSubmittable_eq_ok.1 hassert
  refine ExpenseSubmit.assertSubmittable_eq_ok.2 ⟨h.owner.symm.trans howner, h.draft, h.title htitle, ?_⟩
  simp only [Expense.toEntity, h.incurredAt] at hincurred ⊢
  exact hincurred

/-- The contexts of the two policy checks differ in the id only. -/
theorem context_eq (h : Twin db db₁ row twin) :
    ExpenseSubmit.buildSubmitPolicyContext db₁ now authUser (db₁.withRelations twin)
        policyJustifications =
      { ExpenseSubmit.buildSubmitPolicyContext db now authUser (db.withRelations row)
          policyJustifications with expenseId := twin.id } := by
  simp only [ExpenseSubmit.buildSubmitPolicyContext, Db.withRelations, Expense.toEntity, h.amount,
    h.category, h.undated, h.twinUndated, h.receipts]

/-- Neither draft counts in a monthly spend. -/
theorem loadMonthlyCategorySpend_eq (h : Twin db db₁ row twin) {context : PolicyEvaluationContext}
    (hid : context.expenseId = row.id) (category : ExpenseCategory) :
    PolicyEvaluationCache.loadMonthlyCategorySpend db₁ { context with expenseId := twin.id } category =
      PolicyEvaluationCache.loadMonthlyCategorySpend db context category := by
  simp only [PolicyEvaluationCache.loadMonthlyCategorySpend]
  congr 2
  rw [Table.sum_insert _ h.inserted]
  have hzero : PolicyEvaluationCache.isActiveStatus twin.status = false := by
    rw [h.twinDraft]
    rfl
  simp only [hzero, Bool.and_false, Bool.false_and, Bool.false_eq_true, if_false, add_zero]
  refine Table.sum_congr (fun e he => ?_)
  have hne : e.id ≠ twin.id := (Table.insert?_eq_some.1 h.inserted).1 e he
  by_cases hrow : e.id = row.id
  · have hactive : PolicyEvaluationCache.isActiveStatus e.status = false := by
      rw [Table.eq_of_key_eq he h.mem hrow, h.draft]
      rfl
    simp [hactive]
  · simp [hne, hid, hrow]

/-- Neither draft counts as a duplicate. -/
theorem loadDuplicateExpense_eq (h : Twin db db₁ row twin) {context : PolicyEvaluationContext}
    (hid : context.expenseId = row.id) (windowDays : Int) :
    PolicyEvaluationCache.loadDuplicateExpense db₁ { context with expenseId := twin.id } windowDays =
      PolicyEvaluationCache.loadDuplicateExpense db context windowDays := by
  simp only [PolicyEvaluationCache.loadDuplicateExpense]
  rw [(Table.insert?_eq_some.1 h.inserted).2, List.any_append]
  simp only [List.any_cons, List.any_nil, Bool.or_false, h.twinDraft, ne_eq, not_true_eq_false,
    decide_false, Bool.and_false, Bool.false_and]
  rw [Bool.eq_iff_iff, List.any_eq_true, List.any_eq_true]
  refine exists_congr (fun e => and_congr_right (fun he => ?_))
  have hne : e.id ≠ twin.id := (Table.insert?_eq_some.1 h.inserted).1 e he
  by_cases hrow : e.id = row.id
  · have hdraft : e.status = .DRAFT := by
      rw [Table.eq_of_key_eq he h.mem hrow]
      exact h.draft
    simp [hdraft]
  · simp [hne, hid, hrow]

theorem reads_eq (h : Twin db db₁ row twin) {context : PolicyEvaluationContext}
    (hid : context.expenseId = row.id) :
    PolicyEvaluationCache.reads db₁ { context with expenseId := twin.id } =
      PolicyEvaluationCache.reads db context := by
  unfold PolicyEvaluationCache.reads
  rw [funext (h.loadMonthlyCategorySpend_eq hid), funext (h.loadDuplicateExpense_eq hid)]

/-! ## The transaction -/

theorem activeLevels_eq (h : Twin db db₁ row twin) : db₁.activeLevels = db.activeLevels := by
  rw [Db.activeLevels, h.levels, Db.activeLevels]

theorem departmentRelation_eq (h : Twin db db₁ row twin) (departmentId : Option Nat) :
    db₁.departmentRelation departmentId = db.departmentRelation departmentId := by
  rw [Db.departmentRelation, h.departments, Db.departmentRelation]

theorem getRequiredLevels_eq (h : Twin db db₁ row twin) (departmentId : Nat) :
    getRequiredLevels (ExpenseSubmit.routed db₁ twin departmentId) db₁.activeLevels =
      getRequiredLevels (ExpenseSubmit.routed db row departmentId) db.activeLevels := by
  have hdepartment : (ExpenseSubmit.routed db₁ twin departmentId).department =
      (ExpenseSubmit.routed db row departmentId).department :=
    congrArg (Option.filter _) (h.departmentRelation_eq _)
  have howner : (ExpenseSubmit.routed db₁ twin departmentId).userId =
      (ExpenseSubmit.routed db row departmentId).userId := h.owner
  rw [h.activeLevels_eq]
  exact getRequiredLevels_congr h.amount (shouldSkipDepartmentManagerStage_congr howner hdepartment)

theorem lacksDepartmentManager_eq (h : Twin db db₁ row twin) (departmentId : Nat) :
    ExpenseSubmit.lacksDepartmentManager db₁ (ExpenseSubmit.routed db₁ twin departmentId)
        db₁.activeLevels =
      ExpenseSubmit.lacksDepartmentManager db (ExpenseSubmit.routed db row departmentId)
        db.activeLevels := by
  have hdepartment : (ExpenseSubmit.routed db₁ twin departmentId).department =
      (ExpenseSubmit.routed db row departmentId).department :=
    congrArg (Option.filter _) (h.departmentRelation_eq _)
  have howner : (ExpenseSubmit.routed db₁ twin departmentId).userId =
      (ExpenseSubmit.routed db row departmentId).userId := h.owner
  have hactive : ExpenseSubmit.activeDepartment db₁ (ExpenseSubmit.routed db₁ twin departmentId) =
      ExpenseSubmit.activeDepartment db (ExpenseSubmit.routed db row departmentId) :=
    congrArg (Option.filter _) (h.departmentRelation_eq _)
  unfold ExpenseSubmit.lacksDepartmentManager
  rw [h.activeLevels_eq, hactive, shouldSkipDepartmentManagerStage_congr howner hdepartment]

theorem resolveInitialSubmitStatus_eq (h : Twin db db₁ row twin) (departmentId : Nat) :
    resolveInitialSubmitStatus (ExpenseSubmit.routed db₁ twin departmentId) db₁.activeLevels =
      resolveInitialSubmitStatus (ExpenseSubmit.routed db row departmentId) db.activeLevels := by
  unfold resolveInitialSubmitStatus
  rw [h.getRequiredLevels_eq]

/-- Neither draft counts as spend of the department. -/
theorem sumSpendForDepartmentYear_eq (h : Twin db db₁ row twin) (departmentId : Nat)
    (period : Instant × Instant) :
    BudgetService.sumSpendForDepartmentYear db₁ departmentId period countsTowardCommittedBudget =
      BudgetService.sumSpendForDepartmentYear db departmentId period countsTowardCommittedBudget := by
  unfold BudgetService.sumSpendForDepartmentYear
  rw [Table.sum_insert _ h.inserted]
  have hzero : countsTowardCommittedBudget twin.status = false := by
    rw [h.twinDraft]
    rfl
  simp [hzero]

/-- What the transaction would do with the twin, it does with the draft, as long as the
    keys of its events are free. -/
theorem commitSubmit (h : Twin db db₁ row twin) (hrow : findExpense db reference = .ok row)
    (htwin : findExpense db₁ twinReference = .ok twin)
    (hkeys : ∀ t at_, db.hasOutboxKey (.ofTransition t row.id at_) = false)
    (hok : ∃ db₂, ExpenseSubmit.commitSubmit cfg now authUser twinReference now db₁ = .ok ((), db₂)) :
    ∃ db', ExpenseSubmit.commitSubmit cfg now authUser reference now db = .ok (u, db') := by
  obtain ⟨db₂, hok⟩ := hok
  obtain ⟨twin', departmentId, budgetCheck, db₃, htwin', hassert, hdepartment, hmanager, hcheck,
    hallowed, hpersist, -⟩ := ExpenseSubmit.commitSubmit_eq_ok.1 hok
  cases htwin.symm.trans htwin'
  -- the snapshots of the two transitions are the same
  have hbefore : toExpenseBudgetSnapshot (ExpenseSubmit.routed db₁ twin departmentId) =
      toExpenseBudgetSnapshot (ExpenseSubmit.routed db row departmentId) := by
    simp [toExpenseBudgetSnapshot, ExpenseSubmit.routed, Expense.toEntity, h.owner, h.amount,
      h.draft, h.twinDraft, h.undated, h.twinUndated]
  have hafter : toExpenseBudgetSnapshot (ExpenseSubmit.submitted
        (ExpenseSubmit.routed db₁ twin departmentId) db₁.activeLevels now) =
      toExpenseBudgetSnapshot (ExpenseSubmit.submitted (ExpenseSubmit.routed db row departmentId)
        db.activeLevels now) := by
    rw [ExpenseSubmit.submitted_eq, ExpenseSubmit.submitted_eq, h.resolveInitialSubmitStatus_eq]
    simp [toExpenseBudgetSnapshot, ExpenseSubmit.routed, Expense.toEntity, h.owner, h.amount]
  rw [hbefore] at hpersist
  obtain ⟨_, db₄, hsave, hsync⟩ := Transaction.bind_eq_ok.1 hpersist
  obtain ⟨stored, -, rfl⟩ := saveExpense_eq_ok.1 hsave
  rw [hafter] at hsync
  have hfound : db.expenses.find? (ExpenseSubmit.submitted (ExpenseSubmit.routed db row departmentId)
      db.activeLevels now).id = some row := by
    rw [ExpenseSubmit.submitted_eq]
    exact Table.find?_of_mem h.mem
  have hpersist' : ∃ db₅, persistTransition cfg.budgetTimeZone
      (toExpenseBudgetSnapshot (ExpenseSubmit.routed db row departmentId))
      (ExpenseSubmit.submitted (ExpenseSubmit.routed db row departmentId) db.activeLevels now) db =
        .ok ((), db₅) := by
    refine ⟨_, Transaction.bind_eq_ok.2 ⟨(), _, saveExpense_eq_ok.2 ⟨row, hfound, rfl⟩,
      syncCommittedAmountForExpenseTransition_congr ?_ ?_ hsync⟩⟩
    · exact h.users.symm
    · exact h.budgets.symm
  obtain ⟨db₅, hpersist'⟩ := hpersist'
  obtain ⟨_, _, -, hdb₅, -⟩ := persistTransition_ok hpersist'
  refine ⟨_, ExpenseSubmit.commitSubmit_eq_ok.2 ⟨row, departmentId, budgetCheck, db₅, hrow,
    h.assertSubmittable hassert, ?_, ?_, ?_, hallowed, hpersist',
    (publishTransitions_eq_ok (ExpenseSubmit.nodup_submitEventTypes _ _)).2 ⟨?_, rfl⟩⟩⟩
  · rw [← hdepartment, h.owner, h.department, Db.resolveDepartmentForSubmit_congr h.users]
  · rw [← h.lacksDepartmentManager_eq]
    exact hmanager
  · rw [← hcheck, h.amount]
    exact (BudgetService.evaluateExpenseSubmit_congr h.users h.departments h.budgets
      h.sumSpendForDepartmentYear_eq _ _ _ _).symm
  · rw [hdb₅]
    exact fun t _ => hkeys t now

/-- A draft is submitted whenever its twin would be. -/
theorem submit (h : Twin db db₁ row twin) (hrow : findExpense db reference = .ok row)
    (htwin : findExpense db₁ twinReference = .ok twin)
    (hkeys : ∀ t at_, db.hasOutboxKey (.ofTransition t row.id at_) = false)
    (hok : ∃ db₂, ExpenseSubmit.submit cfg policies now authUser twinReference policyJustifications
      db₁ = .ok ((), db₂)) :
    ∃ db', ExpenseSubmit.submit cfg policies now authUser reference policyJustifications db =
      .ok (u, db') := by
  obtain ⟨db₂, hok⟩ := hok
  obtain ⟨twin', result, htwin', hread, hassert, hcompliant, hcommit⟩ :=
    ExpenseSubmit.submit_eq_ok.1 hok
  cases htwin.symm.trans htwin'
  rw [h.twinUndated] at hcommit
  obtain ⟨db', hcommit'⟩ := @commitSubmit cfg now db db₁ row twin authUser reference twinReference u
    h hrow htwin hkeys ⟨db₂, hcommit⟩
  refine ⟨db', ExpenseSubmit.submit_eq_ok.2 ⟨row, result, hrow, h.canReadExpense hread,
    h.assertSubmittable hassert, ?_, ?_⟩⟩
  · rw [h.context_eq, h.reads_eq rfl] at hcompliant
    exact hcompliant
  · rw [h.undated]
    exact hcommit'

end Twin

end Expentra
