-- SUMMARY: The columns of a budget row stop a submission that every check allows, once the utilization has too many digits.
import Expentra.Budget.Overspend
import Expentra.Expense.Preview

/-!
# Utilization

With blocking disabled, a submission may exceed the limit by any amount. The
generated column `utilization_percent` is a `numeric(7,2)` all the same: the row
cannot be written once the committed amount is about a thousand times the limit, and
the submission is rolled back with the error of the database.
-/

namespace Expentra

open Library ExpenseMutationSupport ExpenseSubmit

namespace Utilization

/-- A call of `submit`. -/
structure Submission where
  now : Instant
  authUser : AuthUser
  reference : String
  policyJustifications : List (String × String)

def Submission.perform (cfg : Config) (policies : List ExpensePolicy) (submission : Submission) :
    Tx Unit :=
  submit cfg policies submission.now submission.authUser submission.reference
    submission.policyJustifications

/-- `numeric_value_out_of_range`: the columns cannot hold the row. -/
def outOfRange : HttpException := .queryFailed "22003"

/-! ## What the columns hold -/

/-- The columns of the row can hold its committed amount with another amount added. -/
def Representable (budget : DepartmentBudget) (amount : Amount) : Prop :=
  budgetRepresentable budget.amountLimit (budget.committedAmount + amount.val).toNat
    budget.reimbursedAmount

/-- The utilization rounds to less than 100000%, and the committed amount is a `bigint`. -/
structure Fits (amountLimit : Nat) (committedAmount : Int) : Prop where
  utilization : 0 < amountLimit → 20000 * committedAmount < 19999999 * amountLimit
  bigint : committedAmount < 2 ^ 63

theorem utilizationHundredths_lt_iff {committedAmount amountLimit : Nat} (hlimit : 0 < amountLimit) :
    utilizationHundredths committedAmount amountLimit < 10000000 ↔
      20000 * committedAmount < 19999999 * amountLimit := by
  rw [utilizationHundredths, if_pos hlimit, Nat.div_lt_iff_lt_mul (by omega)]
  omega

theorem representable_iff {budget : DepartmentBudget} {amount : Amount} :
    Representable budget amount ↔ Fits budget.amountLimit (budget.committedAmount + amount.val) := by
  obtain ⟨-, hlimit, -, hreimbursed⟩ := budget.representable
  have hamount := amount.property
  have hcommitted : (((budget.committedAmount + amount.val).toNat : Nat) : Int) =
      budget.committedAmount + amount.val := Int.toNat_of_nonneg (by omega)
  have hbigint : bigintBound = 2 ^ 63 := rfl
  constructor
  · rintro ⟨hutilization, -, hbound, -⟩
    refine ⟨fun hpositive => ?_, by omega⟩
    rw [utilizationHundredths_lt_iff hpositive] at hutilization
    omega
  · rintro ⟨hutilization, hbound⟩
    refine ⟨?_, hlimit, by omega, hreimbursed⟩
    rcases Nat.eq_zero_or_pos budget.amountLimit with hzero | hpositive
    · rw [utilizationHundredths, if_neg (by omega)]
      decide
    · rw [utilizationHundredths_lt_iff hpositive]
      have := hutilization hpositive
      omega

/-- A submission that blocking would allow fits. -/
theorem fits_of_le_limit {budget : DepartmentBudget} {amount : Amount}
    (hle : budget.committedAmount + amount.val ≤ budget.amountLimit) :
    Fits budget.amountLimit (budget.committedAmount + amount.val) := by
  have hlimit := budget.representable.2.1
  have hbigint : bigintBound = 2 ^ 63 := rfl
  exact ⟨fun _ => by omega, by omega⟩

/-! ## What a submission is charged to -/

/-- A submission that every check allows, of a draft that is charged to a department. -/
structure Allowed (cfg : Config) (policies : List ExpensePolicy) (db : Db) (submission : Submission)
    (row : Expense) (departmentId : Nat) : Prop where
  taken : TakenUp cfg submission.now submission.authUser submission.reference db row
  complies : ¬ Violates submission.policyJustifications
    (policyResult policies submission.now submission.authUser db row)
  charged : chargedDepartment db row = some departmentId
  managed : lacksDepartmentManager db (routed db row departmentId) db.activeLevels = false
  budgeted : ∃ check, BudgetService.evaluateExpenseSubmit cfg db submission.authUser.id row.amount.val
    (row.submittedAt.getD submission.now) (some departmentId) = .ok check ∧ check.allowed = true

/-- The live budget row a submission adds to. -/
def chargedRow (cfg : Config) (db : Db) (submission : Submission) (row : Expense) (departmentId : Nat) :
    Option DepartmentBudget :=
  BudgetService.liveBudget db departmentId (submitYear cfg submission.now row)

/-- A submission that is allowed can be written, and the columns fail no submission. -/
structure NeverBlocked (cfg : Config) (policies : List ExpensePolicy) (db : Db)
    (submission : Submission) : Prop where
  representable : ∀ row departmentId budget, Allowed cfg policies db submission row departmentId →
    chargedRow cfg db submission row departmentId = some budget → Representable budget row.amount
  passes : submission.perform cfg policies db ≠ .error outOfRange


/-! ## What else a submission throws -/

section Errors

variable {cfg : Config} {policies : List ExpensePolicy} {db : Db} {now submitAt : Instant}
  {authUser : AuthUser} {reference : String} {expense : ExpenseEntity} {e : HttpException}

theorem ne_of_findExpense (h : findExpense db reference = .error e) : e ≠ outOfRange := by
  unfold findExpense findEntityByReference at h
  dsimp only at h
  split at h
  · cases h
    nofun
  · split at h <;> cases h
    nofun

theorem ne_of_findReadableExpense (h : findReadableExpense db authUser reference = .error e) :
    e ≠ outOfRange := by
  unfold findReadableExpense at h
  split at h
  · rename_i hfound
    cases h
    exact ne_of_findExpense hfound
  · dsimp only at h
    split at h <;> cases h
    nofun

theorem ne_of_assertSubmittable (h : assertSubmittable cfg now authUser expense = .error e) :
    e ≠ outOfRange := by
  unfold assertSubmittable at h
  rcases Except.bind_eq_error.1 h with howner | ⟨_, -, h⟩
  · unfold assertCanMutateExpenseDraft ExpenseAccessPolicy.mutateDraftRefusal at howner
    split at howner <;> cases howner
    nofun
  rcases Except.bind_eq_error.1 h with hdraft | ⟨_, -, h⟩
  · unfold assertDraftStatus at hdraft
    split at hdraft <;> cases hdraft
    nofun
  rcases Except.bind_eq_error.1 h with htitle | ⟨_, -, h⟩
  · unfold assertNonEmptyTitle at htitle
    split at htitle <;> cases htitle
    nofun
  rcases Except.bind_eq_error.1 h with hamount | ⟨_, -, hincurred⟩
  · unfold assertPositiveAmount at hamount
    split at hamount <;> cases hamount
    nofun
  · unfold assertIncurredAt at hincurred
    split at hincurred
    · cases hincurred
    · split at hincurred <;> cases hincurred
      nofun

theorem ne_of_assertCompliant {context : PolicyEvaluationContext} {reads : PolicyReads}
    (h : PolicyEngine.assertCompliant policies context reads = .error e) : e ≠ outOfRange := by
  unfold PolicyEngine.assertCompliant at h
  dsimp only at h
  split at h
  · cases h
    nofun
  · split at h <;> cases h
    nofun

theorem ne_of_resolveDepartment (h : resolveDepartment db expense = .error e) : e ≠ outOfRange := by
  unfold resolveDepartment at h
  split at h
  · cases h
  · split at h <;> cases h
    nofun

theorem ne_of_zonedMidnightToUtc {year month day : Int} {timeZone : TimeZone}
    (h : BudgetPeriod.zonedMidnightToUtc year month day timeZone = .error e) : e ≠ outOfRange := by
  unfold BudgetPeriod.zonedMidnightToUtc at h
  split at h
  · cases h
    nofun
  · split at h <;> cases h

theorem ne_of_getDepartmentSummary {departmentId : Nat} {year : Int}
    (h : BudgetService.getDepartmentSummary cfg db departmentId year = .error e) : e ≠ outOfRange := by
  unfold BudgetService.getDepartmentSummary BudgetService.assertValidYear
    BudgetService.loadDepartmentBudgetSummary BudgetPeriod.budgetYearRangeInTimeZone at h
  rcases Except.bind_eq_error.1 h with hyear | ⟨_, -, h⟩
  · split at hyear <;> cases hyear
    nofun
  rcases Except.bind_eq_error.1 h with hload | ⟨summary, -, h⟩
  · rcases Except.bind_eq_error.1 hload with hrange | ⟨_, -, hfound⟩
    · rcases Except.bind_eq_error.1 hrange with hstart | ⟨_, -, hrange⟩
      · exact ne_of_zonedMidnightToUtc hstart
      · rcases Except.bind_eq_error.1 hrange with hend | ⟨_, -, hpure⟩
        · exact ne_of_zonedMidnightToUtc hend
        · cases hpure
    · split at hfound
      · cases hfound
      · split at hfound <;> cases hfound
  · cases summary <;> cases h
    nofun

theorem ne_of_evaluateExpenseSubmit {userId : Nat} {amount : Int} {departmentId : Option Nat}
    (h : BudgetService.evaluateExpenseSubmit cfg db userId amount submitAt departmentId = .error e) :
    e ≠ outOfRange := by
  unfold BudgetService.evaluateExpenseSubmit at h
  split at h
  · cases h
  · rcases Except.bind_eq_error.1 h with hsummary | ⟨_, -, hpure⟩
    · exact ne_of_getDepartmentSummary hsummary
    · cases hpure

theorem throws_publishTransitions {eventTypes : List DomainEventType} {expenseId : Nat} {at_ : Instant} :
    Transaction.Throws (· ≠ outOfRange) (publishTransitions eventTypes expenseId at_) := by
  induction eventTypes with
  | nil => exact .pure
  | cons eventType rest ih =>
    refine .bind (.bind .read fun _ => .bind (.require ?_) fun _ => .write) fun _ => ih
    intro h
    exact absurd (HttpException.queryFailed.inj h) (by decide)

end Errors

/-! ## The update of the counters -/

section Update

variable {timeZone : TimeZone} {db : Db} {key : Nat × Int} {row : Expense} {departmentId : Nat}
  {approvalLevels : List ApprovalLevel} {submitAt : Instant}

theorem updateLiveBudget_eq_error {committed reimbursed : DepartmentBudget → Nat} {e : HttpException} :
    updateLiveBudget key committed reimbursed db = .error e ↔ e = outOfRange ∧
      ∃ budget, (db.budgets.find? key).filter (·.isLive) = some budget ∧
        ¬ budgetRepresentable budget.amountLimit (committed budget) (reimbursed budget) := by
  rw [updateLiveBudget, Transaction.read_bind]
  cases (db.budgets.find? key).filter (·.isLive) with
  | none =>
    constructor
    · intro h
      cases h
    · rintro ⟨-, _, h, -⟩
      cases h
  | some budget =>
    dsimp only
    by_cases hrep : budgetRepresentable budget.amountLimit (committed budget) (reimbursed budget)
    · have hsome := DepartmentBudget.withCounters_eq_some.2 ⟨hrep, rfl⟩
      rw [hsome]
      constructor
      · intro h
        cases h
      · rintro ⟨-, _, hbudget, hnot⟩
        cases hbudget
        exact absurd hrep hnot
    · have hnone : budget.withCounters (committed budget) (reimbursed budget) = none := dif_neg hrep
      rw [hnone]
      constructor
      · intro h
        exact ⟨(Except.error.inj h).symm, budget, rfl, hrep⟩
      · rintro ⟨rfl, -⟩
        rfl

/-- A submission updates one counter, that of the department and year it is charged to. -/
theorem sync_of_submission (hdraft : row.status = .DRAFT) :
    syncCommittedAmountForExpenseTransition timeZone
        (some (toExpenseBudgetSnapshot (routed db row departmentId)))
        (some (toExpenseBudgetSnapshot (submitted (routed db row departmentId) approvalLevels submitAt))) =
      applyDeltas [((departmentId, BudgetPeriod.resolveBudgetYear submitAt timeZone), row.amount.val)] := by
  funext db₁
  have hdraft' : (routed db row departmentId).status = .DRAFT := hdraft
  have hdeltas : SubmitStatements.committedDeltas timeZone db₁
      (toExpenseBudgetSnapshot (routed db row departmentId))
      (toExpenseBudgetSnapshot (submitted (routed db row departmentId) approvalLevels submitAt)) =
        [((departmentId, BudgetPeriod.resolveBudgetYear submitAt timeZone), row.amount.val)] :=
    SubmitStatements.committedDeltas_submitted hdraft' rfl
  have hreimb : isReimbursementTransition (some (toExpenseBudgetSnapshot (routed db row departmentId)))
      (some (toExpenseBudgetSnapshot
        (submitted (routed db row departmentId) approvalLevels submitAt))) = false := by
    simp [isReimbursementTransition, toExpenseBudgetSnapshot, hdraft']
  unfold SubmitStatements.committedDeltas at hdeltas
  unfold syncCommittedAmountForExpenseTransition
  rw [hreimb]
  split at hdeltas
  · cases hdeltas
  · rename_i hchanged
    simp only [Bool.false_eq_true, if_false, hchanged]
    rw [Transaction.read_bind, hdeltas]

/-- The transition of a submission is out of range if its row is. -/
theorem persistTransition_eq_outOfRange (hrow : row ∈ db.expenses) (hdraft : row.status = .DRAFT) :
    persistTransition timeZone (toExpenseBudgetSnapshot (routed db row departmentId))
        (submitted (routed db row departmentId) approvalLevels submitAt) db = .error outOfRange ↔
      ∃ budget, BudgetService.liveBudget db departmentId
          (BudgetPeriod.resolveBudgetYear submitAt timeZone) = some budget ∧
        ¬ Representable budget row.amount := by
  obtain ⟨db₁, hsave, hbudgets⟩ : ∃ db₁, saveExpense
      (submitted (routed db row departmentId) approvalLevels submitAt) db = .ok ((), db₁) ∧
      db₁.budgets = db.budgets := by
    refine ⟨_, saveExpense_eq_ok.2 ⟨row, ?_, rfl⟩, rfl⟩
    rw [submitted_eq]
    exact Table.find?_of_mem hrow
  have hpositive : row.amount.val ≠ 0 := by
    have := row.amount.property
    omega
  rw [persistTransition, Transaction.bind_eq_error, hsave]
  simp only [reduceCtorEq, false_or, Except.ok.injEq, Prod.mk.injEq]
  constructor
  · rintro ⟨_, _, ⟨-, rfl⟩, hsync⟩
    rw [sync_of_submission hdraft, applyDeltas, Transaction.bind_eq_error] at hsync
    rcases hsync with hupdate | ⟨_, _, -, hrest⟩
    · rw [applyCommittedAmountDelta, if_neg hpositive, updateLiveBudget_eq_error, hbudgets] at hupdate
      exact hupdate.2
    · cases hrest
  · rintro ⟨budget, hlive, hnot⟩
    refine ⟨(), db₁, ⟨trivial, rfl⟩, ?_⟩
    rw [sync_of_submission hdraft, applyDeltas, Transaction.bind_eq_error]
    left
    rw [applyCommittedAmountDelta, if_neg hpositive, updateLiveBudget_eq_error, hbudgets]
    exact ⟨rfl, budget, hlive, hnot⟩

end Update

/-! ## One submission -/

section Submission

variable {cfg : Config} {policies : List ExpensePolicy} {db : Db} {now submitAt : Instant}
  {authUser : AuthUser} {reference : String} {submission : Submission} {row : Expense}
  {departmentId : Nat}

/-- A transaction that is out of range passed its checks. -/
theorem commitSubmit_eq_outOfRange
    (h : commitSubmit cfg now authUser reference submitAt db = .error outOfRange) :
    ∃ row departmentId budgetCheck, findExpense db reference = .ok row ∧
      db.resolveDepartmentForSubmit row.userId row.departmentId = some departmentId ∧
      lacksDepartmentManager db (routed db row departmentId) db.activeLevels = false ∧
      BudgetService.evaluateExpenseSubmit cfg db authUser.id row.amount.val submitAt
        (some departmentId) = .ok budgetCheck ∧ budgetCheck.allowed = true ∧
      persistTransition cfg.budgetTimeZone (toExpenseBudgetSnapshot (routed db row departmentId))
        (submitted (routed db row departmentId) db.activeLevels submitAt) db = .error outOfRange := by
  rw [commitSubmit, Transaction.query_bind_eq_error] at h
  rcases h with hload | ⟨locked, hload, h⟩
  · unfold loadExpenseForMutation at hload
    cases hfound : findExpense db reference with
    | ok row =>
      rw [hfound] at hload
      cases hload
    | error e =>
      rw [hfound] at hload
      exact absurd (Except.error.inj hload) (ne_of_findExpense hfound)
  obtain ⟨row, hfound, -, rfl⟩ := loadExpenseForMutation_eq_ok hload
  rcases Transaction.lift_bind_eq_error.1 h with hassert | ⟨_, -, h⟩
  · exact absurd rfl (ne_of_assertSubmittable hassert)
  rw [Transaction.read_bind, Transaction.query_bind_eq_error] at h
  rcases h with hresolve | ⟨resolved, hresolve, h⟩
  · exact absurd rfl (ne_of_resolveDepartment hresolve)
  obtain ⟨departmentId, hdepartment, rfl⟩ := resolveDepartment_eq_ok.1 hresolve
  rw [Transaction.read_bind, Transaction.read_bind, attachDepartment_eq_routed] at h
  rcases Transaction.require_bind_eq_error.1 h with ⟨-, hrefusal⟩ | ⟨hmanaged, h⟩
  · cases hrefusal
  rcases Transaction.query_bind_eq_error.1 h with hcheck | ⟨budgetCheck, hcheck, h⟩
  · exact absurd rfl (ne_of_evaluateExpenseSubmit hcheck)
  rcases Transaction.require_bind_eq_error.1 h with ⟨-, hrefusal⟩ | ⟨hallowed, h⟩
  · cases hrefusal
  rcases Transaction.bind_eq_error.1 h with hpersist | ⟨_, _, -, hpublish⟩
  · exact ⟨row, departmentId, budgetCheck, hfound, hdepartment, hmanaged, hcheck, hallowed, hpersist⟩
  · exact absurd rfl (throws_publishTransitions _ _ hpublish)

/-- A submission that is allowed fails if its transition does. -/
theorem Allowed.perform_eq_error (h : Allowed cfg policies db submission row departmentId)
    {e : HttpException} (hpersist : persistTransition cfg.budgetTimeZone
      (toExpenseBudgetSnapshot (routed db row departmentId))
      (submitted (routed db row departmentId) db.activeLevels (row.submittedAt.getD submission.now)) db =
        .error e) :
    submission.perform cfg policies db = .error e := by
  obtain ⟨check, hcheck, hallowed⟩ := h.budgeted
  have hcompliant : ∃ result, PolicyEngine.assertCompliant policies
      (buildSubmitPolicyContext db submission.now submission.authUser (db.withRelations row)
        submission.policyJustifications)
      (PolicyEvaluationCache.reads db (buildSubmitPolicyContext db submission.now submission.authUser
        (db.withRelations row) submission.policyJustifications)) = .ok result := by
    generalize hverdict : PolicyEngine.assertCompliant policies _ _ = verdict
    cases verdict with
    | ok result => exact ⟨result, rfl⟩
    | error e' => exact absurd (assertCompliant_eq_error.1 ⟨e', hverdict⟩) h.complies
  obtain ⟨result, hcompliant⟩ := hcompliant
  have hdate : (buildSubmitPolicyContext db submission.now submission.authUser (db.withRelations row)
      submission.policyJustifications).submittedAt = row.submittedAt.getD submission.now := by
    simp [buildSubmitPolicyContext, Db.withRelations, Expense.toEntity]
  have hassert : assertSubmittable cfg submission.now submission.authUser (row.toEntity none none) =
      .ok () := assertSubmittable_eq_ok.2 (assertSubmittable_eq_ok.1 h.taken.submittable)
  have hload : loadExpenseForMutation db submission.reference = .ok (row.toEntity none none) := by
    rw [loadExpenseForMutation, h.taken.found]
    rfl
  have hresolve := resolveDepartment_eq_ok.2 ⟨departmentId, h.charged, rfl⟩
  rw [Submission.perform, submit, Transaction.query_bind_eq_error]
  refine .inr ⟨_, h.taken.readable_eq, Transaction.lift_bind_eq_error.2 (.inr ⟨(), h.taken.submittable, ?_⟩)⟩
  rw [Transaction.read_bind, Transaction.query_bind_eq_error]
  refine .inr ⟨result, hcompliant, ?_⟩
  rw [hdate, commitSubmit, Transaction.query_bind_eq_error]
  refine .inr ⟨_, hload, Transaction.lift_bind_eq_error.2 (.inr ⟨(), hassert, ?_⟩)⟩
  rw [Transaction.read_bind, Transaction.query_bind_eq_error]
  refine .inr ⟨_, hresolve, ?_⟩
  rw [Transaction.read_bind, Transaction.read_bind, attachDepartment_eq_routed]
  refine Transaction.require_bind_eq_error.2 (.inr ⟨h.managed, ?_⟩)
  refine Transaction.query_bind_eq_error.2 (.inr ⟨check, hcheck, ?_⟩)
  exact Transaction.require_bind_eq_error.2 (.inr ⟨hallowed, Transaction.bind_eq_error.2 (.inl hpersist)⟩)

/-- A submission is out of range if and only if it is allowed and the columns of its
    budget row cannot hold its amount. -/
theorem perform_eq_outOfRange : submission.perform cfg policies db = .error outOfRange ↔
    ∃ row departmentId budget, Allowed cfg policies db submission row departmentId ∧
      chargedRow cfg db submission row departmentId = some budget ∧
      ¬ Representable budget row.amount := by
  constructor
  · intro h
    rw [Submission.perform, submit, Transaction.query_bind_eq_error] at h
    rcases h with hfind | ⟨draft, hfind, h⟩
    · exact absurd rfl (ne_of_findReadableExpense hfind)
    obtain ⟨row, hfound, rfl, hreadable⟩ := findReadableExpense_eq_ok.1 hfind
    rcases Transaction.lift_bind_eq_error.1 h with hassert | ⟨_, hassert, h⟩
    · exact absurd rfl (ne_of_assertSubmittable hassert)
    rw [Transaction.read_bind, Transaction.query_bind_eq_error] at h
    rcases h with hcompliant | ⟨result, hcompliant, h⟩
    · exact absurd rfl (ne_of_assertCompliant hcompliant)
    have hdate : (buildSubmitPolicyContext db submission.now submission.authUser (db.withRelations row)
        submission.policyJustifications).submittedAt = row.submittedAt.getD submission.now := by
      simp [buildSubmitPolicyContext, Db.withRelations, Expense.toEntity]
    rw [hdate] at h
    obtain ⟨row', departmentId, check, hfound', hdepartment, hmanaged, hcheck, hallowed, hpersist⟩ :=
      commitSubmit_eq_outOfRange h
    obtain rfl : row = row' := Except.ok.inj (hfound.symm.trans hfound')
    have hdraft : row.status = .DRAFT := (assertSubmittable_ok hassert).1
    obtain ⟨budget, hlive, hnot⟩ := (persistTransition_eq_outOfRange
      (findEntityByReference_eq_ok hfound).1 hdraft).1 hpersist
    exact ⟨row, departmentId, budget, ⟨⟨hfound, hreadable, hassert⟩,
      not_violates_of_assertCompliant hcompliant, hdepartment, hmanaged, check, hcheck, hallowed⟩, hlive, hnot⟩
  · rintro ⟨row, departmentId, budget, hallowed, hlive, hnot⟩
    refine hallowed.perform_eq_error ((persistTransition_eq_outOfRange
      (findEntityByReference_eq_ok hallowed.taken.found).1 ?_).2 ⟨budget, hlive, hnot⟩)
    exact (assertSubmittable_ok hallowed.taken.submittable).1

/-- The columns block no submission if and only if it fits its budget row. -/
theorem neverBlocked_iff : NeverBlocked cfg policies db submission ↔
    ∀ row departmentId budget, Allowed cfg policies db submission row departmentId →
      chargedRow cfg db submission row departmentId = some budget →
      Fits budget.amountLimit (budget.committedAmount + row.amount.val) := by
  constructor
  · intro h row departmentId budget hallowed hcharged
    exact representable_iff.1 (h.representable row departmentId budget hallowed hcharged)
  · intro h
    refine ⟨fun row departmentId budget hallowed hcharged =>
      representable_iff.2 (h row departmentId budget hallowed hcharged), fun hfails => ?_⟩
    obtain ⟨row, departmentId, budget, hallowed, hcharged, hnot⟩ := perform_eq_outOfRange.1 hfails
    exact hnot (representable_iff.2 (h row departmentId budget hallowed hcharged))

/-- With blocking enabled, the columns block nothing. -/
theorem neverBlocked_of_blocking (hblock : cfg.blockSubmitOnOverspend = true) :
    NeverBlocked cfg policies db submission := by
  refine neverBlocked_iff.2 (fun row departmentId budget hallowed hcharged => ?_)
  obtain ⟨check, hcheck, hchecked⟩ := hallowed.budgeted
  rcases (BudgetService.allowed_of_live hcheck hcharged).1 hchecked with hoff | hroom
  · cases hblock.symm.trans hoff
  · exact fits_of_le_limit hroom

end Submission

/-! ## Sequences of submissions -/

/-- The database after a submission, whether it succeeds or not. -/
def afterSubmission (cfg : Config) (policies : List ExpensePolicy) (db : Db) (submission : Submission) :
    Db :=
  (submission.perform cfg policies).commit db

def afterAll (cfg : Config) (policies : List ExpensePolicy) (db : Db) (submissions : List Submission) :
    Db :=
  submissions.foldl (afterSubmission cfg policies) db

/-- What a submission adds to the counter of a key: the amount of its expense, if it
    succeeds. -/
def added (cfg : Config) (policies : List ExpensePolicy) (db : Db) (submission : Submission)
    (key : Nat × Int) : Int :=
  match findExpense db submission.reference with
  | .error _ => 0
  | .ok row =>
    if (submission.perform cfg policies db).isOk = true ∧
        (chargedDepartment db row).map (·, submitYear cfg submission.now row) = some key
    then row.amount.val else 0

/-- What a sequence of submissions adds to the counter of a key. -/
def totalAdded (cfg : Config) (policies : List ExpensePolicy) : Db → List Submission → Nat × Int → Int
  | _, [], _ => 0
  | db, submission :: rest, key =>
    added cfg policies db submission key +
      totalAdded cfg policies (afterSubmission cfg policies db submission) rest key

section Sequence

variable {cfg : Config} {policies : List ExpensePolicy} {db db' : Db} {submission : Submission}
  {submissions : List Submission} {key : Nat × Int} {u : Unit}

theorem added_nonneg : 0 ≤ added cfg policies db submission key := by
  unfold added
  split
  · exact le_refl 0
  · rename_i row _
    split
    · exact row.amount.property.le
    · exact le_refl 0

/-- A row after an amount was added to its counter; only live rows grow. -/
structure Grown (amount : Int) (b b' : DepartmentBudget) : Prop where
  live : b'.isLive = b.isLive
  limit : b'.amountLimit = b.amountLimit
  committed : b.isLive = true → (b'.committedAmount : Int) = b.committedAmount + amount

theorem Grown.of_shiftedRow {b b' : DepartmentBudget} {amount : Int} (hamount : 0 ≤ amount)
    (h : ShiftedRow amount 0 b b') : Grown amount b b' := by
  unfold ShiftedRow at h
  split at h
  · obtain ⟨_, rfl⟩ := h
    exact ⟨rfl, rfl, fun _ => Int.toNat_of_nonneg (by omega)⟩
  · rename_i hlive
    subst h
    exact ⟨rfl, rfl, fun h => absurd h hlive⟩

theorem Grown.trans {b b' b'' : DepartmentBudget} {amount amount' : Int} (h : Grown amount b b')
    (h' : Grown amount' b' b'') : Grown (amount + amount') b b'' where
  live := h'.live.trans h.live
  limit := h'.limit.trans h.limit
  committed := by
    intro hlive
    rw [h'.committed (h.live.trans hlive), h.committed hlive]
    ring

theorem Grown.refl (b : DepartmentBudget) : Grown 0 b b := ⟨rfl, rfl, fun _ => (add_zero _).symm⟩

theorem optionRel_grown_refl (o : Option DepartmentBudget) : Option.Rel (Grown 0) o o := by
  cases o with
  | none => exact .none
  | some b => exact .some (.refl b)

theorem optionRel_grown_trans {o o' o'' : Option DepartmentBudget} {amount amount' : Int}
    (h : Option.Rel (Grown amount) o o') (h' : Option.Rel (Grown amount') o' o'') :
    Option.Rel (Grown (amount + amount')) o o'' := by
  cases h with
  | none =>
    cases h'
    exact .none
  | some h =>
    cases h' with
    | some h' => exact .some (h.trans h')

theorem optionRel_grown_of_shiftedRow {o o' : Option DepartmentBudget} {amount : Int}
    (hamount : 0 ≤ amount) (h : Option.Rel (ShiftedRow amount 0) o o') : Option.Rel (Grown amount) o o' := by
  cases h with
  | none => exact .none
  | some h => exact .some (.of_shiftedRow hamount h)

/-- A submission that succeeds adds its amount to the row it is charged to. -/
theorem grown_of_perform (h : submission.perform cfg policies db = .ok (u, db')) (key : Nat × Int) :
    Option.Rel (Grown (added cfg policies db submission key))
      (db.budgets.find? key) (db'.budgets.find? key) := by
  obtain ⟨row, result, hfound, -, -, -, hcommit⟩ := submit_eq_ok.1 h
  obtain ⟨row', departmentId, check, db₁, hfound', hassert, hdepartment, -, -, -, hpersist, hpublish⟩ :=
    commitSubmit_eq_ok.1 hcommit
  obtain rfl : row = row' := Except.ok.inj (hfound.symm.trans hfound')
  obtain ⟨-, rfl⟩ := (publishTransitions_eq_ok (nodup_submitEventTypes _ _)).1 hpublish
  obtain ⟨_, db₂, hsave, hsync⟩ := Transaction.bind_eq_ok.1 hpersist
  obtain ⟨saved, -, rfl⟩ := saveExpense_eq_ok.1 hsave
  rw [sync_of_submission (assertSubmittable_ok hassert).1] at hsync
  obtain ⟨budgets, rfl, hshift⟩ := applyDeltas_ok (by simp) hsync
  have hadded : added cfg policies db submission key = deltaAt
      [((departmentId, submitYear cfg submission.now row), row.amount.val)] key := by
    unfold added
    rw [hfound, h]
    dsimp only
    rw [show chargedDepartment db row = some departmentId from hdepartment]
    simp [deltaAt, Except.isOk, Except.toBool]
  rw [hadded]
  exact optionRel_grown_of_shiftedRow (hadded ▸ added_nonneg) (hshift key)

theorem grown_afterSubmission (key : Nat × Int) :
    Option.Rel (Grown (added cfg policies db submission key)) (db.budgets.find? key)
      ((afterSubmission cfg policies db submission).budgets.find? key) := by
  unfold afterSubmission
  cases hrun : submission.perform cfg policies db with
  | ok result =>
    rw [Transaction.commit_of_ok hrun]
    exact grown_of_perform hrun key
  | error e =>
    have hnone : added cfg policies db submission key = 0 := by
      unfold added
      rw [hrun]
      split
      · rfl
      · exact if_neg (by rintro ⟨⟨⟩, -⟩)
    rw [Transaction.commit_of_error hrun, hnone]
    exact optionRel_grown_refl _

/-- The counters after a sequence: those before it, and what its submissions added. -/
theorem grown_afterAll (cfg : Config) (policies : List ExpensePolicy) (submissions : List Submission)
    (db : Db) (key : Nat × Int) :
    Option.Rel (Grown (totalAdded cfg policies db submissions key))
      (db.budgets.find? key) ((afterAll cfg policies db submissions).budgets.find? key) := by
  induction submissions generalizing db with
  | nil => exact optionRel_grown_refl _
  | cons submission rest ih =>
    rw [totalAdded, afterAll, List.foldl_cons]
    exact optionRel_grown_trans (grown_afterSubmission key) (ih _)

/-- The live rows after a sequence are those before it, grown. -/
theorem liveBudget_afterAll {departmentId : Nat} {year : Int} {budget' : DepartmentBudget}
    (h : BudgetService.liveBudget (afterAll cfg policies db submissions) departmentId year = some budget') :
    ∃ budget, BudgetService.liveBudget db departmentId year = some budget ∧
      budget'.amountLimit = budget.amountLimit ∧ (budget'.committedAmount : Int) =
        budget.committedAmount + totalAdded cfg policies db submissions (departmentId, year) := by
  obtain ⟨hfind, hlive⟩ := Option.filter_eq_some_iff.1 h
  have hgrown := grown_afterAll cfg policies submissions db (departmentId, year)
  rw [hfind] at hgrown
  cases hbefore : db.budgets.find? (departmentId, year) with
  | none =>
    rw [hbefore] at hgrown
    cases hgrown
  | some budget =>
    rw [hbefore] at hgrown
    cases hgrown with
    | some hgrown =>
      have hlive' : budget.isLive = true := hgrown.live.symm.trans hlive
      refine ⟨budget, ?_, hgrown.limit, hgrown.committed hlive'⟩
      rw [BudgetService.liveBudget, hbefore, Option.filter_some, if_pos hlive']

/-- A row that is live stays live. -/
theorem exists_liveBudget_afterAll {departmentId : Nat} {year : Int} {budget : DepartmentBudget}
    (h : BudgetService.liveBudget db departmentId year = some budget) :
    ∃ budget', BudgetService.liveBudget (afterAll cfg policies db submissions) departmentId year =
      some budget' := by
  obtain ⟨hfind, hlive⟩ := Option.filter_eq_some_iff.1 h
  have hgrown := grown_afterAll cfg policies submissions db (departmentId, year)
  rw [hfind] at hgrown
  cases hafter : (afterAll cfg policies db submissions).budgets.find? (departmentId, year) with
  | none =>
    rw [hafter] at hgrown
    cases hgrown
  | some budget' =>
    rw [hafter] at hgrown
    cases hgrown with
    | some hgrown =>
      refine ⟨budget', ?_⟩
      rw [BudgetService.liveBudget, hafter, Option.filter_some, if_pos (hgrown.live.trans hlive)]

end Sequence

/-- A submission fits the budget row it is charged to, after what the submissions before
    it added to the counter the row started with. -/
def FitsInTurn (cfg : Config) (policies : List ExpensePolicy) (db : Db) (before : List Submission)
    (submission : Submission) : Prop :=
  ∀ row departmentId budget,
    Allowed cfg policies (afterAll cfg policies db before) submission row departmentId →
    chargedRow cfg db submission row departmentId = some budget →
    Fits budget.amountLimit (budget.committedAmount +
      totalAdded cfg policies db before (departmentId, submitYear cfg submission.now row) + row.amount.val)

/-- The columns block no submission of a sequence, if and only if each that is allowed keeps
    its committed amount below 999.99995 times the limit and below 2 to the power 63. -/
theorem submissions_never_blocked_iff (cfg : Config) (policies : List ExpensePolicy) (db : Db)
    (submissions : List Submission) :
    (∀ before submission rest, submissions = before ++ submission :: rest →
      NeverBlocked cfg policies (afterAll cfg policies db before) submission) ↔
    ∀ before submission rest, submissions = before ++ submission :: rest →
      FitsInTurn cfg policies db before submission := by
  refine forall₄_congr (fun before submission rest _ => ?_)
  rw [neverBlocked_iff]
  constructor
  · intro h row departmentId budget hallowed hcharged
    obtain ⟨budget', hlive⟩ : ∃ budget', chargedRow cfg (afterAll cfg policies db before) submission row
        departmentId = some budget' := exists_liveBudget_afterAll hcharged
    obtain ⟨_, hsame, hlimit, hcommitted⟩ := liveBudget_afterAll hlive
    cases hcharged.symm.trans hsame
    rw [← hcommitted, ← hlimit]
    exact h row departmentId budget' hallowed hlive
  · intro h row departmentId budget' hallowed hcharged
    obtain ⟨budget, hlive, hlimit, hcommitted⟩ := liveBudget_afterAll hcharged
    rw [hcommitted, hlimit]
    exact h row departmentId budget hallowed hlive

/-! ## A thousand times the limit -/

namespace Sample

def expensive : Operation :=
  .createExpense Sample.now Sample.expenseReference 1 ⟨"Charter", none, 100000000, .TRAVEL, none⟩

/-- A draft of 100000000 under a limit of 100000, with blocking disabled. -/
def db : Db := runAll Sample.config [expensive] Sample.dbWithBudget

def submission : Submission := ⟨Sample.now, Sample.authOwner, Sample.expenseReference, []⟩

end Sample

/-- The budget check allows the draft, and the database refuses the row: the utilization
    would be 100000.00%. -/
theorem charter_out_of_range :
    Sample.config.blockSubmitOnOverspend = false ∧
    Sample.db.budgets.rows.map (fun budget => (budget.amountLimit, budget.committedAmount)) =
      [(100000, 0)] ∧
    Sample.db.expenses.rows.map (·.amount.val) = [100000000] ∧
    (BudgetService.evaluateExpenseSubmit Sample.config Sample.db 1 100000000 Sample.now
      (some 1)).toOption.any (·.allowed) = true ∧
    Sample.submission.perform Sample.config [] Sample.db = .error outOfRange ∧
    ¬ ∀ before submission rest, [Sample.submission] = before ++ submission :: rest →
      NeverBlocked Sample.config [] (afterAll Sample.config [] Sample.db before) submission := by
  have hfails : Sample.submission.perform Sample.config [] Sample.db = .error outOfRange := by
    decide +kernel
  refine ⟨rfl, by decide +kernel, by decide +kernel, by decide +kernel, hfails, fun h => ?_⟩
  exact (h [] Sample.submission [] rfl).passes hfails

end Utilization

end Expentra
