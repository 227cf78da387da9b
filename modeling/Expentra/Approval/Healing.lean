-- SUMMARY: A refusal that reports an expense as healed leaves it pending: the exception takes the healing back.
import Expentra.Approval.Refusals
import Expentra.Budget.Ledger

/-!
# Healing

`healExpenseWithNoApprovalChain` approves a pending expense whose chain became
empty, and its callers then throw. The write, the synchronisation of the budgets
and the exception are in one transaction, so what the message reports never
reaches the database.
-/

namespace Expentra

open Library ApprovalRouting

namespace Approval

/-! ## What the refusal says about the database -/

/-- A pending expense without a chain, as `refuseWithoutStage` heals it. -/
structure Healable (cfg : Config) (now : Instant) (authUser : AuthUser) (db : Db) (row : Expense) :
    Prop where
  notOwner : row.userId ≠ authUser.id
  canDecide : ApprovalAccessPolicy.canDecideOnExpense authUser (db.withRelations row) = true
  isPending : row.status.isPending = true
  noChain : requiresApprovalChain (db.withRelations row) db.activeLevels = false
  saved : ∃ db', persistTransition cfg.budgetTimeZone (toExpenseBudgetSnapshot (db.withRelations row))
    (healed (db.withRelations row) now) db = .ok ((), db')

section Refusals

variable {cfg : Config} {now : Instant} {authUser : AuthUser} {expenseId : Nat} {db : Db}

theorem refuseWithoutStage_eq_markedApproved {α : Type} {expense : ExpenseEntity}
    {approvalLevels : List ApprovalLevel} :
    (refuseWithoutStage cfg now expense approvalLevels : Tx α) db = .error markedApproved ↔
      expense.status.isPending = true ∧ requiresApprovalChain expense approvalLevels = false ∧
        ∃ db', persistTransition cfg.budgetTimeZone (toExpenseBudgetSnapshot expense)
          (healed expense now) db = .ok ((), db') := by
  unfold refuseWithoutStage healExpenseWithNoApprovalChain
  by_cases hheal : expense.status.isPending = true ∧ requiresApprovalChain expense approvalLevels = false
  · obtain ⟨hpending, hchain⟩ := hheal
    simp only [hpending, hchain, Bool.not_true, Bool.or_false, Bool.false_eq_true, if_false, true_and]
    constructor
    · intro h
      rcases Transaction.bind_eq_error.1 h with hsave | ⟨_, _, hsave, -⟩
      · rcases Transaction.bind_eq_error.1 hsave with hsave | ⟨_, _, -, hpure⟩
        · exact absurd rfl (throws_persistTransition _ _ hsave).notHealing
        · cases hpure
      · obtain ⟨_, db', hsave, -⟩ := Transaction.bind_eq_ok.1 hsave
        exact ⟨db', hsave⟩
    · rintro ⟨db', hsave⟩
      refine Transaction.bind_eq_error.2 (.inr ⟨true, db', ?_, rfl⟩)
      exact Transaction.bind_eq_ok.2 ⟨(), db', hsave, rfl⟩
  · have hskip : (!expense.status.isPending || requiresApprovalChain expense approvalLevels) = true := by
      by_contra hne
      simp only [Bool.or_eq_true, Bool.not_eq_true', not_or, Bool.not_eq_false] at hne
      exact hheal ⟨hne.1, by simpa using hne.2⟩
    rw [if_pos hskip]
    constructor
    · intro h
      exact absurd (HttpException.conflict.inj (Except.error.inj h)) (by decide)
    · rintro ⟨hpending, hchain, -⟩
      exact absurd ⟨hpending, hchain⟩ hheal

/-- Loading the expense throws no such report. -/
theorem loadExpenseForDecision_ne_markedApproved :
    loadExpenseForDecision authUser expenseId db ≠ .error markedApproved := by
  have hthrows : Transaction.Throws (· ≠ markedApproved) (loadExpenseForDecision authUser expenseId) := by
    refine .bind (.require nofun) fun _ => .bind .read fun _ => .bind (.getOrThrow nofun) fun _ =>
      .bind .read fun _ => .bind (.lift fun e he => ?_) fun _ => .pure
    obtain ⟨message, rfl⟩ := forbidden_of_assertCanDecideOnExpense he
    exact nofun
  exact fun h => hthrows _ _ h rfl

/-- The refusal is about a stored expense that is still pending. -/
theorem requireActiveStage_eq_markedApproved :
    requireActiveStage cfg now authUser expenseId db = .error markedApproved ↔
      0 < expenseId ∧ ∃ row, db.expenses.find? expenseId = some row ∧
        Healable cfg now authUser db row := by
  rw [requireActiveStage, Transaction.bind_eq_error]
  constructor
  · rintro (hload | ⟨expense, db₁, hload, h⟩)
    · exact absurd hload loadExpenseForDecision_ne_markedApproved
    · obtain ⟨hid, row, hrow, rfl, howner, hdecide, rfl⟩ := loadExpenseForDecision_eq_ok.1 hload
      simp only [Transaction.read_bind] at h
      cases hstage : getActiveStage (db₁.withRelations row) db₁.activeLevels
          (db₁.approvalsOf (db₁.withRelations row).id) with
      | none =>
        rw [hstage] at h
        obtain ⟨hpending, hchain, hsaved⟩ := refuseWithoutStage_eq_markedApproved.1 h
        exact ⟨hid, row, hrow, howner, hdecide, hpending, hchain, hsaved⟩
      | some stage =>
        rw [hstage] at h
        have hthrows : Transaction.Throws (· ≠ markedApproved) (do
            Transaction.lift (assertReadyForStageApproval stage (db₁.withRelations row)
              db₁.activeLevels (db₁.approvalsOf (db₁.withRelations row).id))
            Transaction.query (assertCanActOnStage · now authUser stage (db₁.withRelations row))
            pure (db₁.withRelations row, db₁.activeLevels, stage)) := by
          refine .bind (.lift fun e he => (isOther_of_assertReadyForStageApproval he).notHealing) fun _ =>
            .bind (.query fun _ e he => ?_) fun _ => .pure
          obtain ⟨message, rfl⟩ := forbidden_of_assertCanActOnStage he
          exact HttpException.noConfusion
        exact absurd rfl (hthrows _ _ h)
  · rintro ⟨hid, row, hrow, hheal⟩
    refine .inr ⟨_, _, loadExpenseForDecision_eq_ok.2
      ⟨hid, row, hrow, rfl, hheal.notOwner, hheal.canDecide, rfl⟩, ?_⟩
    have hinactive : getActiveStage (db.withRelations row) db.activeLevels
        (db.approvalsOf (db.withRelations row).id) = none := by
      have hempty : getRequiredLevels (db.withRelations row) db.activeLevels = [] := by
        simpa [requiresApprovalChain] using hheal.noChain
      rw [getActiveStage, hempty]
      split <;> rfl
    simp only [Transaction.read_bind, hinactive]
    exact refuseWithoutStage_eq_markedApproved.2 ⟨hheal.isPending, hheal.noChain, hheal.saved⟩

end Refusals

end Approval

/-! ## Calls -/

/-- A call of `approve` or of `reject` on an expense. -/
inductive Operation.Decides (expenseId : Nat) : Operation → Prop where
  | approve (now : Instant) (authUser : AuthUser) (input : Approval.ApproveExpenseInput) :
      Decides expenseId (.approve now authUser expenseId input)
  | reject (now : Instant) (authUser : AuthUser) (commentReference comment : String) :
      Decides expenseId (.reject now authUser expenseId commentReference comment)

/-- What the refusal reports: the stored expense is approved, with its moment, and
    the live budgets of its key equal the ledger. -/
structure HealingStored (cfg : Config) (db : Db) (expenseId : Nat) (row : Expense) : Prop where
  stored : db.expenses.find? expenseId = some row
  approved : row.status = .APPROVED
  approvedAt : row.approvedAt.isSome = true
  counters : ∀ b ∈ db.budgets, b.isLive = true →
    row.snapshot.budgetKey cfg.budgetTimeZone db = some b.key → MatchesLedger cfg.budgetTimeZone db b

open Approval

section Calls

variable {cfg : Config} {db db' : Db} {op : Operation} {expenseId : Nat}

/-- A decision refused with the report is refused where the stage is looked up. -/
theorem Operation.Decides.refused (hop : op.Decides expenseId)
    (h : op.perform cfg db = .error markedApproved) :
    ∃ now authUser, requireActiveStage cfg now authUser expenseId db = .error markedApproved := by
  cases hop with
  | approve now authUser input =>
    exact ⟨now, authUser, (approve_refused h).resolve_right (fun hother => hother.notHealing rfl)⟩
  | reject now authUser commentReference comment =>
    exact ⟨now, authUser, (reject_refused h).resolve_right (fun hother => hother.notHealing rfl)⟩

/-- Whenever a decision is refused with the report, the database is the one before
    the call and the expense is stored as pending: the healing is not there. -/
theorem healing_undone (hop : op.Decides expenseId) (h : op.perform cfg db = .error markedApproved)
    (hstep : Step cfg db op db') :
    db' = db ∧ (∃ row, db'.expenses.find? expenseId = some row ∧ row.status.isPending = true) ∧
      ¬ ∃ row, HealingStored cfg db' expenseId row := by
  have hsame : db' = db := hstep.trans (Transaction.commit_of_error h)
  subst hsame
  obtain ⟨now, authUser, hrefused⟩ := hop.refused h
  obtain ⟨-, row, hrow, hheal⟩ := requireActiveStage_eq_markedApproved.1 hrefused
  refine ⟨rfl, ⟨row, hrow, hheal.isPending⟩, ?_⟩
  rintro ⟨row', hstored⟩
  obtain rfl : row' = row := Option.some.inj (hstored.stored.symm.trans hrow)
  have hpending := hheal.isPending
  rw [hstored.approved] at hpending
  cases hpending

end Calls

/-! ## Both levels of the chain removed after a submission -/

namespace Sample

def withdrawLevels : List Operation :=
  [createExpense, submit, .removeLevel managerLevel.reference, .removeLevel financeLevel.reference]

/-- A submitted expense whose chain became empty. -/
def unrouted : Db := runAll config withdrawLevels db

end Sample

open Sample in
theorem healing_undone_sample :
    Step config unrouted (approveAs authManager) unrouted ∧
      ¬ ∃ row, HealingStored config unrouted 1 row := by
  have hrefused : (approveAs authManager).perform config unrouted = .error markedApproved := by
    decide +kernel
  have hstep : Step config unrouted (approveAs authManager) unrouted :=
    (Transaction.commit_of_error hrefused).symm
  exact ⟨hstep, (healing_undone (.approve now authManager ⟨none, false⟩) hrefused hstep).2.2⟩

open Sample in
/-- The manager is told that the expense was marked approved; it stays submitted. -/
theorem healing_lost :
    Reaches (Step config) db unrouted ∧
      (approveAs authManager).perform config unrouted = .error markedApproved ∧
      Step config unrouted (approveAs authManager) unrouted ∧
      (∃ row, unrouted.expenses.find? 1 = some row ∧ row.status = .SUBMITTED ∧ row.approvedAt = none) ∧
      ¬ ∃ row, HealingStored config unrouted 1 row := by
  have hrefused : (approveAs authManager).perform config unrouted = .error markedApproved := by
    decide +kernel
  have hrow : (unrouted.expenses.find? 1).any
      (fun row => row.status = .SUBMITTED && row.approvedAt.isNone) = true := by
    decide +kernel
  obtain ⟨row, hfind, hrow⟩ := (Option.any_eq_true _ _).1 hrow
  rw [Bool.and_eq_true, decide_eq_true_iff, Option.isNone_iff_eq_none] at hrow
  refine ⟨reaches_runAll config withdrawLevels db, hrefused,
    (Transaction.commit_of_error hrefused).symm, ⟨row, hfind, hrow⟩, ?_⟩
  rintro ⟨row', hstored⟩
  obtain rfl : row' = row := Option.some.inj (hstored.stored.symm.trans hfind)
  exact absurd (hstored.approved.symm.trans hrow.1) (by decide)

end Expentra
