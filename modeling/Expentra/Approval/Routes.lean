-- SUMMARY: The approval routes behind their guard, and when a decision at a finance stage goes through on the permission for the other kind.
import Expentra.Approval.Delegates
import Expentra.Authorization.Ability

/-!
# Routes

The guard of a route asks for the permission of its kind of decision, and every
department manager passes. The stage policy behind it takes either permission at a
finance stage, for the acting user as for a delegator.
-/

namespace Expentra

open Library ApprovalRouting ApprovalAccessPolicy

namespace Approval

def Decision.kind : Decision → PermissionAction
  | .approve _ => .APPROVE
  | .reject _ _ => .REJECT

def Decision.otherKind : Decision → PermissionAction
  | .approve _ => .REJECT
  | .reject _ _ => .APPROVE

/-- A route of the controller: its guard, then its handler. -/
def Decision.route (cfg : Config) (now : Instant) (user : AuthUser) (expenseReference : String)
    (d : Decision) : Tx Unit := do
  Transaction.lift (canActivate user d.kind .APPROVAL)
  d.perform cfg now user expenseReference

/-- The global permission for a kind of decision. -/
def holdsGlobal (user : AuthUser) (kind : PermissionAction) : Bool :=
  hasPermission user kind .APPROVAL (some .GLOBAL)

/-- The acting user, or a delegator whose authority at the stage the user has. -/
def ActsOnBehalfOf (db : Db) (now : Instant) (user : AuthUser) (row : Expense) (stage : ApprovalLevel)
    (holder : AuthUser) : Prop :=
  holder = user ∨ ∃ delegation ∈ db.delegations, Delegation.isActiveFor delegation user.id now = true ∧
    ∃ delegator, db.users.find? delegation.delegatorId = some delegator ∧
      Delegation.delegatorCanActOnStage db delegator (db.withRelations row) stage = true ∧
      holder = toAuthUser delegator (db.managedDepartmentIds delegator.id)

/-- A decision that goes through at a finance stage is backed by the permission of
    its kind. -/
def AuthorityMatches (cfg : Config) (now : Instant) (db : Db) (user : AuthUser)
    (expenseReference : String) (d : Decision) : Prop :=
  ∀ row stage, ExpenseMutationSupport.findExpense db expenseReference = .ok row →
    getActiveStage (db.withRelations row) db.activeLevels (db.approvalsOf row.id) = some stage →
    stage.approverType = .FINANCE_MANAGER →
    (∃ db', d.route cfg now user expenseReference db = .ok ((), db')) →
    ∃ holder, ActsOnBehalfOf db now user row stage holder ∧ holdsGlobal holder d.kind = true

/-- Nothing but authority stands in the way of a decision at a stage. -/
def Decision.Unblocked (cfg : Config) (now : Instant) (db : Db) (row : Expense) (stage : ApprovalLevel) :
    Decision → Prop
  | .approve input =>
    (∃ budgetCheck, assertOverBudgetApprovalAllowed cfg db now (db.withRelations row) stage
      (Js.trimmedOrUndefined input.comment) input.overBudgetAcknowledged = .ok budgetCheck) ∧
    ∀ t ∈ approveEventTypes (resolveStatusAfterLevelApproval stage (db.withRelations row)
      db.activeLevels), db.hasOutboxKey (.ofTransition t row.id now) = false
  | .reject commentReference comment =>
    Js.trim comment ≠ "" ∧ db.hasOutboxKey (.ofComment commentReference) = false ∧
      db.hasOutboxKey (.ofTransition .expenseRejected row.id now) = false

/-- A decision that the guard and all other checks let through, while the permission
    behind it is the one for the other kind. -/
structure Crossed (cfg : Config) (now : Instant) (db : Db) (user : AuthUser)
    (expenseReference : String) (d : Decision) (row : Expense) (stage : ApprovalLevel) : Prop where
  found : ExpenseMutationSupport.findExpense db expenseReference = .ok row
  validId : 0 < row.id
  admitted : canActivate user d.kind .APPROVAL = .ok ()
  notOwner : row.userId ≠ user.id
  canDecide : canDecideOnExpense user (db.withRelations row) = true
  active : getActiveStage (db.withRelations row) db.activeLevels (db.approvalsOf row.id) = some stage
  finance : stage.approverType = .FINANCE_MANAGER
  ready : assertReadyForStageApproval stage (db.withRelations row) db.activeLevels
    (db.approvalsOf row.id) = .ok ()
  lacking : ∀ holder, ActsOnBehalfOf db now user row stage holder → holdsGlobal holder d.kind = false
  other : ∃ holder, ActsOnBehalfOf db now user row stage holder ∧ holdsGlobal holder d.otherKind = true
  unblocked : d.Unblocked cfg now db row stage

section Routes

variable {cfg : Config} {now : Instant} {db db' : Db} {user : AuthUser} {row : Expense}
  {stage : ApprovalLevel} {expenseReference : String} {d : Decision}

/-- The permission for either kind. -/
theorem hasGlobalApprovalPermission_iff :
    hasGlobalApprovalPermission user = true ↔
      holdsGlobal user d.kind = true ∨ holdsGlobal user d.otherKind = true := by
  cases d with
  | approve input => simp [hasGlobalApprovalPermission, holdsGlobal, Decision.kind, Decision.otherKind]
  | reject commentReference comment =>
    simp [hasGlobalApprovalPermission, holdsGlobal, Decision.kind, Decision.otherKind, or_comm]

theorem canActOnApprovalStage_of_finance {expense : ExpenseEntity}
    (hfinance : stage.approverType = .FINANCE_MANAGER) :
    canActOnApprovalStage user expense stage = true ↔ hasGlobalApprovalPermission user = true := by
  unfold canActOnApprovalStage canDecideOnExpense
  rw [hfinance]
  cases hasGlobalApprovalPermission user <;> simp

/-- At a finance stage the authority is a global permission of either kind, of the
    user or of a delegator. -/
theorem authority_of_finance (hfinance : stage.approverType = .FINANCE_MANAGER) :
    (canActOnApprovalStage user (db.withRelations row) stage = true ∨
        Delegation.canActAsDelegate db now user (db.withRelations row) stage = true) ↔
      ∃ holder, ActsOnBehalfOf db now user row stage holder ∧
        hasGlobalApprovalPermission holder = true := by
  rw [canActOnApprovalStage_of_finance hfinance, Delegation.canActAsDelegate_eq_true]
  constructor
  · rintro (hown | ⟨delegation, hmem, hinForce, delegator, hstored, hact⟩)
    · exact ⟨user, .inl rfl, hown⟩
    · exact ⟨_, .inr ⟨delegation, hmem, hinForce, delegator, hstored, hact, rfl⟩,
        (canActOnApprovalStage_of_finance hfinance).1 hact⟩
  · rintro ⟨holder, rfl | ⟨delegation, hmem, hinForce, delegator, hstored, hact, rfl⟩, hglobal⟩
    · exact .inl hglobal
    · exact .inr ⟨delegation, hmem, hinForce, delegator, hstored, hact⟩

/-- The gate leads to the row the decision finds again. -/
theorem found_of_gate {expenseId : Nat} {row' : Expense}
    (hgate : resolveExpenseIdForDecision db user expenseReference = .ok expenseId)
    (hfind : db.expenses.find? expenseId = some row') :
    ExpenseMutationSupport.findExpense db expenseReference = .ok row' ∧ expenseId = row'.id := by
  obtain ⟨row, hrow, -, -, rfl⟩ := resolveExpenseIdForDecision_eq_ok.1 hgate
  have hfound : db.expenses.find? row.id = some row :=
    Table.find?_of_mem (findEntityByReference_eq_ok hrow).1
  obtain rfl : row = row' := Option.some.inj (hfound.symm.trans hfind)
  exact ⟨hrow, rfl⟩

/-- A decision by reference that succeeds is made at a ready stage, and nothing else
    stood in its way. -/
theorem Decision.unblocked_of_ok (h : d.perform cfg now user expenseReference db = .ok ((), db')) :
    ∃ row stage, ExpenseMutationSupport.findExpense db expenseReference = .ok row ∧ 0 < row.id ∧
      ReadyStage db now user row stage ∧ d.Unblocked cfg now db row stage := by
  cases d with
  | approve input =>
    rw [Decision.perform, approveByReference, Transaction.query_bind_eq_ok] at h
    obtain ⟨expenseId, hgate, h⟩ := h
    obtain ⟨row, stage, budgetCheck, approvals, db₁, hid, hfind, hready, hbudget, -, hpersist, hpublish⟩ :=
      approve_eq_ok.1 h
    obtain ⟨hrow, rfl⟩ := found_of_gate hgate hfind
    obtain ⟨_, budgets, -, rfl, -⟩ := persistTransition_ok hpersist
    exact ⟨row, stage, hrow, hid, hready, ⟨budgetCheck, hbudget⟩,
      ((publishTransitions_eq_ok (nodup_approveEventTypes _)).1 hpublish).1⟩
  | reject commentReference comment =>
    rw [Decision.perform, rejectByReference, Transaction.query_bind_eq_ok] at h
    obtain ⟨expenseId, hgate, h⟩ := h
    obtain ⟨row, stage, approvals, db₁, db₂, hcomment, hid, hfind, hready, -, hpersist, hcommented,
      hpublish⟩ := reject_eq_ok.1 h
    obtain ⟨hrow, rfl⟩ := found_of_gate hgate hfind
    obtain ⟨_, budgets, -, rfl, -⟩ := persistTransition_ok hpersist
    obtain ⟨hreference, rfl⟩ := publish_eq_ok.1 hcommented
    have hevent := ((publishTransitions_eq_ok (List.nodup_singleton _)).1 hpublish).1
      .expenseRejected (List.mem_singleton_self _)
    refine ⟨row, stage, hrow, hid, hready, hcomment, hreference, ?_⟩
    simp only [Db.hasOutboxKey, List.any_append, Bool.or_eq_false_iff] at hevent
    exact hevent.1

theorem Decision.succeeds_of_unblocked (hrow : ExpenseMutationSupport.findExpense db expenseReference = .ok row)
    (hid : 0 < row.id) (hready : ReadyStage db now user row stage)
    (hunblocked : d.Unblocked cfg now db row stage) :
    ∃ db', d.perform cfg now user expenseReference db = .ok ((), db') := by
  have hmem : row ∈ db.expenses := (findEntityByReference_eq_ok hrow).1
  have hgate : resolveExpenseIdForDecision db user expenseReference = .ok row.id :=
    resolveExpenseIdForDecision_eq_ok.2 ⟨row, hrow, hready.notOwner, hready.canDecide, rfl⟩
  cases d with
  | approve input =>
    obtain ⟨⟨budgetCheck, hbudget⟩, hevents⟩ := hunblocked
    obtain ⟨db', hok⟩ := @approve_of_ready cfg now db user row stage () input budgetCheck hid hmem hready
      hbudget hevents
    rw [Decision.perform, approveByReference]
    exact ⟨db', Transaction.query_bind_eq_ok.2 ⟨row.id, hgate, hok⟩⟩
  | reject commentReference comment =>
    obtain ⟨hcomment, hreference, hevent⟩ := hunblocked
    obtain ⟨db', hok⟩ := @reject_of_ready cfg now db user row stage () commentReference comment hid hmem
      hready hcomment hreference hevent
    rw [Decision.perform, rejectByReference]
    exact ⟨db', Transaction.query_bind_eq_ok.2 ⟨row.id, hgate, hok⟩⟩

/-- A route lets a decision at a finance stage through without the permission of its
    kind exactly when the decision is crossed. -/
theorem authorityMatches_iff :
    AuthorityMatches cfg now db user expenseReference d ↔
      ¬ ∃ row stage, Crossed cfg now db user expenseReference d row stage := by
  constructor
  · rintro hmatches ⟨row, stage, h⟩
    obtain ⟨other, hother, hglobal⟩ := h.other
    have hauthority := (@authority_of_finance now db user row stage h.finance).2
      ⟨other, hother, hasGlobalApprovalPermission_iff.2 (.inr hglobal)⟩
    obtain ⟨db', hok⟩ := Decision.succeeds_of_unblocked h.found h.validId
      ⟨h.notOwner, h.canDecide, h.active, h.ready, hauthority⟩ h.unblocked
    obtain ⟨holder, hholder, hkind⟩ := hmatches row stage h.found h.active h.finance
      ⟨db', Transaction.lift_bind_eq_ok.2 ⟨(), h.admitted, hok⟩⟩
    rw [h.lacking holder hholder] at hkind
    cases hkind
  · intro huncrossed row stage hrow hactive hfinance hsucceeds
    by_contra hlacking
    simp only [not_exists, not_and, Bool.not_eq_true] at hlacking
    obtain ⟨db', hok⟩ := hsucceeds
    obtain ⟨⟨⟩, hadmitted, hok⟩ := Transaction.lift_bind_eq_ok.1 hok
    obtain ⟨row', stage', hrow', hid, hready, hunblocked⟩ := Decision.unblocked_of_ok hok
    obtain rfl : row = row' := Except.ok.inj (hrow.symm.trans hrow')
    obtain rfl : stage = stage' := Option.some.inj (hactive.symm.trans hready.active)
    obtain ⟨holder, hholder, hglobal⟩ := (authority_of_finance hfinance).1 hready.authority
    have hother := (@hasGlobalApprovalPermission_iff holder d).1 hglobal
    rw [hlacking holder hholder] at hother
    exact huncrossed ⟨row, stage, hrow, hid, hadmitted, hready.notOwner, hready.canDecide, hready.active,
      hfinance, hready.ready, hlacking, ⟨holder, hholder, hother.resolve_left nofun⟩, hunblocked⟩

end Routes

end Approval

/-! ## A department manager who may reject -/

namespace Sample

def controllerRole : Role :=
  ⟨3, "ROL1700000000003AAAAAA", "controller", [⟨.REJECT, .APPROVAL, .GLOBAL, true⟩]⟩

/-- The manager of another department, with the permission to reject. -/
def controller : User :=
  ⟨5, "USR1700000000005AAAAAA", "controller@expentra.test", some 2, true, true, none, some controllerRole⟩

def authController : AuthUser := toAuthUser controller [2]

def controlled : Db :=
  { db with
    users := ⟨[owner, manager, finance, controller], by decide⟩
    roles := [employeeRole, financeRole, controllerRole]
    departments := ⟨[⟨1, "DPT1700000000001AAAAAA", some 2, true, none⟩,
      ⟨2, "DPT1700000000002AAAAAA", some 5, true, none⟩], by decide⟩ }

/-- An expense that waits for finance. -/
def awaitingFinance : Db := runAll config [createExpense, submit, approveAs authManager] controlled

end Sample

namespace Approval

open Sample

/-- The manager of another department approves at the finance stage on the permission
    to reject. -/
theorem controller_approves :
    Reaches (Step config) controlled awaitingFinance ∧
      authController = toAuthUser controller (awaitingFinance.managedDepartmentIds controller.id) ∧
      ¬ AuthorityMatches config now awaitingFinance authController expenseReference
        (.approve ⟨none, false⟩) := by
  have hstage : (ExpenseMutationSupport.findExpense awaitingFinance expenseReference).toOption.any
      (fun row => getActiveStage (awaitingFinance.withRelations row) awaitingFinance.activeLevels
        (awaitingFinance.approvalsOf row.id) = some financeLevel) = true := by decide +kernel
  have hsucceeds : ((Decision.approve ⟨none, false⟩).route config now authController expenseReference
      awaitingFinance).toOption.isSome = true := by decide +kernel
  have hdelegations : awaitingFinance.delegations = [] := by decide +kernel
  refine ⟨reaches_runAll config _ controlled, by decide +kernel, fun hmatches => ?_⟩
  cases hrow : ExpenseMutationSupport.findExpense awaitingFinance expenseReference with
  | error e =>
    rw [hrow] at hstage
    cases hstage
  | ok row =>
    rw [hrow] at hstage
    have hactive := of_decide_eq_true hstage
    cases hok : (Decision.approve ⟨none, false⟩).route config now authController expenseReference
        awaitingFinance with
    | error e =>
      rw [hok] at hsucceeds
      cases hsucceeds
    | ok result =>
      obtain ⟨holder, rfl | ⟨delegation, hmem, -⟩, hkind⟩ :=
        hmatches row financeLevel hrow hactive rfl ⟨result.2, hok⟩
      · exact absurd hkind (by decide)
      · rw [hdelegations] at hmem
        cases hmem

end Approval

end Expentra
