-- SUMMARY: The queue of expenses a user can act on, and when it agrees with what a rejection checks.
import Expentra.Approval.Refusals
import Expentra.System.Serials

/-!
# The actionable queue

`getActionableExpenseIds` selects the pending expenses of others that the user may
decide on and act on at their active stage. A rejection asks for all of that, and
for the status the active stage is decided in.
-/

namespace Expentra

open Library ApprovalRouting

namespace ActionableApprovalQueue

open ApprovalAccessPolicy

/-- `loadPendingCandidates`: pending expenses of others, for a manager without a
    global permission those of the managed departments. -/
def loadPendingCandidates (db : Db) (authUser : AuthUser) : List ExpenseEntity :=
  let pending := db.expenses.rows.filter (fun row =>
    row.status.isPending && row.userId ≠ authUser.id)
  let inScope := fun row : Expense =>
    row.departmentId.any authUser.managedDepartmentIds.contains ||
      ((db.users.find? row.userId).bind (·.departmentId)).any authUser.managedDepartmentIds.contains
  let candidates :=
    if isManagerApprover authUser && !hasGlobalApprovalPermission authUser then pending.filter inScope
    else pending
  candidates.map db.withRelations

def isActionableForUser (db : Db) (now : Instant) (authUser : AuthUser) (expense : ExpenseEntity)
    (approvalLevels : List ApprovalLevel) (approvals : List ExpenseApproval) : Bool :=
  if !canDecideOnExpense authUser expense then false
  else match getActiveStage expense approvalLevels approvals with
    | none => false
    | some stage =>
      if canActOnApprovalStage authUser expense stage then true
      else Delegation.canActAsDelegate db now authUser expense stage

/-- `getActionableExpenseIds`, with the cached catalogue current. -/
def getActionableExpenseIds (db : Db) (now : Instant) (authUser : AuthUser) : List Nat :=
  let candidates := loadPendingCandidates db authUser
  let expenseIds := candidates.map (·.id)
  let approvals := db.approvals.rows.filter (fun approval => expenseIds.contains approval.expenseId)
  (candidates.filter (fun expense => isActionableForUser db now authUser expense db.activeLevels
    (approvals.filter (fun approval => approval.expenseId = expense.id)))).map (·.id)

end ActionableApprovalQueue

namespace Approval

/-- What `reject` checks before it writes: ownership, authorization, stage, status,
    and that the level has no decision. -/
def rejectChecks (cfg : Config) (now : Instant) (authUser : AuthUser) (expenseId : Nat) : Tx Unit := do
  let (expense, _, stage) ← requireActiveStage cfg now authUser expenseId
  assertNoDecisionAtLevel expense.id stage

/-- A rejection is not refused by one of its checks. -/
def Admitted (cfg : Config) (now : Instant) (db : Db) (authUser : AuthUser) (expenseId : Nat) : Prop :=
  ∃ db', rejectChecks cfg now authUser expenseId db = .ok ((), db')

/-- The expense of a row waits at a stage at which the user may act. -/
structure MayAct (db : Db) (now : Instant) (authUser : AuthUser) (row : Expense)
    (stage : ApprovalLevel) : Prop where
  notOwner : row.userId ≠ authUser.id
  canDecide : ApprovalAccessPolicy.canDecideOnExpense authUser (db.withRelations row) = true
  active : getActiveStage (db.withRelations row) db.activeLevels (db.approvalsOf row.id) = some stage
  authority : ApprovalAccessPolicy.canActOnApprovalStage authUser (db.withRelations row) stage = true ∨
    Delegation.canActAsDelegate db now authUser (db.withRelations row) stage = true

section Queue

variable {cfg : Config} {now : Instant} {db db₀ : Db} {authUser : AuthUser} {expenseId : Nat}
  {row : Expense} {stage : ApprovalLevel}

/-- The checks come first: what they refuse, the rejection refuses. -/
theorem reject_of_rejectChecks {commentReference comment : String} {e : HttpException}
    (hcomment : Js.trim comment ≠ "") (h : rejectChecks cfg now authUser expenseId db = .error e) :
    reject cfg now authUser expenseId commentReference comment db = .error e := by
  refine Transaction.bind_eq_error.2 (.inr ⟨(), db, Transaction.require_eq_ok.2 ⟨hcomment, rfl⟩, ?_⟩)
  rcases Transaction.bind_eq_error.1 h with hstage | ⟨⟨expense, approvalLevels, stage⟩, db₁, hstage, h⟩
  · exact Transaction.bind_eq_error.2 (.inl hstage)
  · refine Transaction.bind_eq_error.2 (.inr ⟨_, _, hstage, ?_⟩)
    exact Transaction.bind_eq_error.2 (.inl (Transaction.bind_eq_error.2 (.inl h)))

theorem MayAct.ready_iff (h : MayAct db now authUser row stage) :
    assertReadyForStageApproval stage (db.withRelations row) db.activeLevels (db.approvalsOf row.id) =
      assertExpenseStatusForStage stage (db.withRelations row) db.activeLevels := by
  obtain ⟨before, after, hchain, -, hbefore⟩ := firstUndecided_eq_some.1 (getActiveStage_eq_some.1 h.active).2
  exact assertReadyForStageApproval_of_active (nodup_activeLevels db) h.active hchain hbefore

/-- The checks admit a user who may act on the active stage of an expense in the
    status of that stage. -/
theorem admitted_iff : Admitted cfg now db authUser expenseId ↔
    0 < expenseId ∧ ∃ row stage, db.expenses.find? expenseId = some row ∧
      MayAct db now authUser row stage ∧
      assertExpenseStatusForStage stage (db.withRelations row) db.activeLevels = .ok () := by
  constructor
  · rintro ⟨db', h⟩
    obtain ⟨⟨expense, approvalLevels, stage⟩, _, hstage, -⟩ := Transaction.bind_eq_ok.1 h
    obtain ⟨hid, row, hrow, -, -, hready, -⟩ := requireActiveStage_eq_ok.1 hstage
    have hmay : MayAct db now authUser row stage :=
      ⟨hready.notOwner, hready.canDecide, hready.active, hready.authority⟩
    exact ⟨hid, row, stage, hrow, hmay, hmay.ready_iff ▸ hready.ready⟩
  · rintro ⟨hid, row, stage, hrow, hmay, hstatus⟩
    have hready : ReadyStage db now authUser row stage :=
      ⟨hmay.notOwner, hmay.canDecide, hmay.active, hmay.ready_iff.trans hstatus, hmay.authority⟩
    obtain ⟨_, _, -, hnone, -⟩ := hready.chain
    refine ⟨db, Transaction.bind_eq_ok.2 ⟨_, _,
      requireActiveStage_eq_ok.2 ⟨hid, row, hrow, rfl, rfl, hready, rfl⟩, ?_⟩⟩
    have hfree : db.approvals.find? (row.id, stage.id) = none := by
      rw [Table.find?_eq_none]
      intro a ha hkey
      obtain ⟨hexpense, hlevel⟩ := Prod.mk.inj hkey
      exact decisionAt_eq_none.1 hnone a (mem_approvalsOf.2 ⟨ha, hexpense⟩) hlevel
    exact Transaction.require_eq_ok.2 ⟨Option.isNone_iff_eq_none.2 hfree, rfl⟩

/-! ## The queue -/

open ApprovalAccessPolicy ActionableApprovalQueue

/-- The departments a manager's candidates are looked for in. -/
theorem inScope_of_canDecide (hdecide : canDecideOnExpense authUser (db.withRelations row) = true)
    (hglobal : hasGlobalApprovalPermission authUser = false) :
    (row.departmentId.any authUser.managedDepartmentIds.contains ||
      ((db.users.find? row.userId).bind (·.departmentId)).any
        authUser.managedDepartmentIds.contains) = true := by
  have hmanages : isDepartmentManagerForExpense authUser (db.withRelations row) = true := by
    rw [canDecideOnExpense, hglobal] at hdecide
    simp only [Bool.false_eq_true, if_false] at hdecide
    split at hdecide
    · cases hdecide
    · exact hdecide
  have hcolumn : (db.withRelations row).departmentId.toOption = row.departmentId :=
    Property.toOption_ofColumn row.departmentId
  have huser : (db.withRelations row).user = db.users.find? row.userId := rfl
  rw [isDepartmentManagerForExpense, resolveExpenseDepartmentId, hcolumn, huser] at hmanages
  cases hdepartment : row.departmentId with
  | some departmentId =>
    rw [hdepartment] at hmanages
    exact Bool.or_eq_true _ _ ▸ .inl hmanages
  | none =>
    rw [hdepartment] at hmanages
    cases howner : (db.users.find? row.userId).bind (·.departmentId) with
    | some departmentId =>
      simp only [howner] at hmanages
      exact Bool.or_eq_true _ _ ▸ .inr hmanages
    | none => simp [howner] at hmanages

/-- The scope of a manager loses no expense the manager may decide on. -/
theorem mem_loadPendingCandidates {expense : ExpenseEntity}
    (hdecide : canDecideOnExpense authUser expense = true) :
    expense ∈ loadPendingCandidates db authUser ↔ ∃ row ∈ db.expenses,
      row.status.isPending = true ∧ row.userId ≠ authUser.id ∧ expense = db.withRelations row := by
  have hpending : ∀ row : Expense, (row.status.isPending && decide (row.userId ≠ authUser.id)) = true ↔
      row.status.isPending = true ∧ row.userId ≠ authUser.id := fun row => by simp
  simp only [loadPendingCandidates, List.mem_map]
  split
  · rename_i hmanager
    simp only [Bool.and_eq_true, Bool.not_eq_true'] at hmanager
    simp only [List.mem_filter, hpending]
    constructor
    · rintro ⟨row, ⟨⟨hrow, hpend, howner⟩, -⟩, rfl⟩
      exact ⟨row, hrow, hpend, howner, rfl⟩
    · rintro ⟨row, hrow, hpend, howner, rfl⟩
      exact ⟨row, ⟨⟨hrow, hpend, howner⟩, inScope_of_canDecide hdecide hmanager.2⟩, rfl⟩
  · simp only [List.mem_filter, hpending]
    constructor
    · rintro ⟨row, ⟨hrow, hpend, howner⟩, rfl⟩
      exact ⟨row, hrow, hpend, howner, rfl⟩
    · rintro ⟨row, hrow, hpend, howner, rfl⟩
      exact ⟨row, ⟨hrow, hpend, howner⟩, rfl⟩

theorem isActionableForUser_eq_true {expense : ExpenseEntity} {approvalLevels : List ApprovalLevel}
    {approvals : List ExpenseApproval} :
    isActionableForUser db now authUser expense approvalLevels approvals = true ↔
      canDecideOnExpense authUser expense = true ∧
        ∃ stage, getActiveStage expense approvalLevels approvals = some stage ∧
          (canActOnApprovalStage authUser expense stage = true ∨
            Delegation.canActAsDelegate db now authUser expense stage = true) := by
  unfold isActionableForUser
  cases canDecideOnExpense authUser expense with
  | false => simp
  | true =>
    cases getActiveStage expense approvalLevels approvals with
    | none => simp
    | some stage => cases hact : canActOnApprovalStage authUser expense stage <;> simp [hact]

/-- The bucket of a candidate holds the decisions on it. -/
theorem bucket_eq_approvalsOf {expenseIds : List Nat} (hmem : row.id ∈ expenseIds) :
    (db.approvals.rows.filter (fun approval => expenseIds.contains approval.expenseId)).filter
      (fun approval => approval.expenseId = row.id) = db.approvalsOf row.id := by
  rw [List.filter_filter, Db.approvalsOf]
  refine List.filter_congr (fun approval _ => ?_)
  by_cases hid : approval.expenseId = row.id
  · simp [hid, hmem]
  · simp [hid]

/-- The queue holds the expenses at whose active stage the user may act. -/
theorem mem_getActionableExpenseIds : expenseId ∈ getActionableExpenseIds db now authUser ↔
    ∃ row stage, db.expenses.find? expenseId = some row ∧ MayAct db now authUser row stage := by
  simp only [getActionableExpenseIds, List.mem_map, List.mem_filter, isActionableForUser_eq_true]
  constructor
  · rintro ⟨expense, ⟨hcandidate, hdecide, stage, hactive, hauthority⟩, rfl⟩
    obtain ⟨row, hrow, -, howner, rfl⟩ := (mem_loadPendingCandidates hdecide).1 hcandidate
    have hid : row.id ∈ (loadPendingCandidates db authUser).map (·.id) := List.mem_map_of_mem hcandidate
    have hbucket := @bucket_eq_approvalsOf db row _ hid
    exact ⟨row, stage, Table.find?_of_mem hrow, howner, hdecide, hbucket ▸ hactive, hauthority⟩
  · rintro ⟨row, stage, hrow, hmay⟩
    have hcandidate : db.withRelations row ∈ loadPendingCandidates db authUser :=
      (mem_loadPendingCandidates hmay.canDecide).2 ⟨row, Table.mem_of_find? hrow,
        (getActiveStage_eq_some.1 hmay.active).1, hmay.notOwner, rfl⟩
    have hid : row.id ∈ (loadPendingCandidates db authUser).map (·.id) :=
      List.mem_map_of_mem (f := fun expense : ExpenseEntity => expense.id) hcandidate
    have hbucket := @bucket_eq_approvalsOf db row _ hid
    have hkey : row.id = expenseId := Table.key_of_find? hrow
    exact ⟨db.withRelations row, ⟨hcandidate, hmay.canDecide, stage, hbucket.symm ▸ hmay.active,
      hmay.authority⟩, hkey⟩

/-- An expense is queued for a user exactly when the checks admit the user, if and
    only if it waits in the status of its active stage, whenever the user may act
    there. -/
theorem queue_agrees_iff (hfresh : Fresh db₀) (hreach : Reaches (Step cfg) db₀ db) :
    (expenseId ∈ getActionableExpenseIds db now authUser ↔ Admitted cfg now db authUser expenseId) ↔
      ∀ row stage, db.expenses.find? expenseId = some row → MayAct db now authUser row stage →
        assertExpenseStatusForStage stage (db.withRelations row) db.activeLevels = .ok () := by
  have hnumbered : Numbered db :=
    hreach.invariant (fun _ _ _ hdb hstep => numbered_step hdb hstep) hfresh.numbered
  rw [mem_getActionableExpenseIds, admitted_iff]
  constructor
  · intro hagree row stage hrow hmay
    obtain ⟨-, row', stage', hrow', hmay', hstatus⟩ := hagree.1 ⟨row, stage, hrow, hmay⟩
    obtain rfl : row = row' := Option.some.inj (hrow.symm.trans hrow')
    obtain rfl : stage = stage' := Option.some.inj (hmay.active.symm.trans hmay'.active)
    exact hstatus
  · intro hstatus
    constructor
    · rintro ⟨row, stage, hrow, hmay⟩
      have hid : 0 < expenseId :=
        Table.key_of_find? hrow ▸ (hnumbered.expense row (Table.mem_of_find? hrow)).1
      exact ⟨hid, row, stage, hrow, hmay, hstatus row stage hrow hmay⟩
    · rintro ⟨-, row, stage, hrow, hmay, -⟩
      exact ⟨row, stage, hrow, hmay⟩

end Queue

end Approval

/-! ## The first level removed after a submission -/

namespace Sample

/-- A submitted expense whose chain starts with finance. -/
def misplaced : Db := runAll config [createExpense, submit, .removeLevel managerLevel.reference] db

end Sample

namespace Approval

open Sample ActionableApprovalQueue

theorem queue_agrees_iff_sample :
    (1 ∈ getActionableExpenseIds misplaced now authFinance ↔
        Admitted config now misplaced authFinance 1) ↔
      ∀ row stage, misplaced.expenses.find? 1 = some row →
        MayAct misplaced now authFinance row stage →
        assertExpenseStatusForStage stage (misplaced.withRelations row) misplaced.activeLevels = .ok () :=
  queue_agrees_iff Sample.fresh (reaches_runAll config _ db)

/-- Finance is shown an expense that finance cannot reject. -/
theorem queued_not_admitted :
    Reaches (Step config) db misplaced ∧ 1 ∈ getActionableExpenseIds misplaced now authFinance ∧
      ¬ Admitted config now misplaced authFinance 1 ∧
      reject config now authFinance 1 "CMT1700000000001AAAAAA" "No receipt" misplaced =
        .error (.conflict "This expense is not awaiting finance approval") := by
  have hrefused : rejectChecks config now authFinance 1 misplaced =
      .error (.conflict "This expense is not awaiting finance approval") := by decide +kernel
  refine ⟨reaches_runAll config _ db, by decide +kernel, ?_,
    reject_of_rejectChecks (by decide) hrefused⟩
  rintro ⟨db', hok⟩
  rw [hrefused] at hok
  cases hok

end Approval

end Expentra
