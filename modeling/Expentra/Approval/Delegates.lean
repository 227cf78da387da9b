-- SUMMARY: When a delegate's decision is refused on authorization: the gates before the stage ask for the delegate's own rights.
import Expentra.Approval.Refusals
import Expentra.System.Operations

/-!
# Delegates

At the stage a decision of a delegate is admitted on the authority of the
delegator. The gates before it, when the reference is resolved and when the expense
is loaded, know the delegate only.
-/

namespace Expentra

open Library ApprovalRouting

namespace Approval

/-- A decision, with what the caller sends. -/
inductive Decision where
  | approve (input : ApproveExpenseInput)
  | reject (commentReference comment : String)

def Decision.perform (cfg : Config) (now : Instant) (authUser : AuthUser) (expenseReference : String) :
    Decision → Tx Unit
  | .approve input => approveByReference cfg now authUser expenseReference input
  | .reject commentReference comment =>
    rejectByReference cfg now authUser expenseReference commentReference comment

/-- The delegate stands in for a delegator who may act on the stage; neither is the
    owner of the expense. -/
structure StandsInFor (db : Db) (now : Instant) (delegate : AuthUser) (delegator : User)
    (row : Expense) (stage : ApprovalLevel) : Prop where
  delegateActive : delegate.isActive = true
  delegateNotOwner : row.userId ≠ delegate.id
  delegatorStored : db.users.find? delegator.id = some delegator
  delegatorActive : delegator.isActive = true
  delegatorNotOwner : row.userId ≠ delegator.id
  delegatorCanAct :
    Delegation.delegatorCanActOnStage db delegator (db.withRelations row) stage = true
  inForce : ∃ delegation ∈ db.delegations, delegation.delegatorId = delegator.id ∧
    Delegation.isActiveFor delegation delegate.id now = true

section Delegates

variable {cfg : Config} {now : Instant} {db : Db} {delegate : AuthUser} {delegator : User}
  {row : Expense} {stage : ApprovalLevel} {expenseReference : String}

theorem StandsInFor.canActAsDelegate (h : StandsInFor db now delegate delegator row stage) :
    Delegation.canActAsDelegate db now delegate (db.withRelations row) stage = true := by
  obtain ⟨delegation, hmem, hdelegator, hinForce⟩ := h.inForce
  refine Delegation.canActAsDelegate_eq_true.2 ⟨delegation, hmem, hinForce, delegator, ?_,
    h.delegatorCanAct⟩
  rw [hdelegator]
  exact h.delegatorStored

/-- Behind the gates, a ready stage is never refused on authorization. -/
theorem requireActiveStage_ne_forbidden {expenseId : Nat} {message : String}
    (hrow : db.expenses.find? expenseId = some row) (hready : ReadyStage db now delegate row stage) :
    requireActiveStage cfg now delegate expenseId db ≠ .error (.forbidden message) := by
  by_cases hid : 0 < expenseId
  · rw [requireActiveStage_eq_ok.2 ⟨hid, row, hrow, rfl, rfl, hready, rfl⟩]
    exact nofun
  · intro h
    have hload : loadExpenseForDecision delegate expenseId db =
        .error (.badRequest "Valid expense id is required") := by
      rw [loadExpenseForDecision, Transaction.require, if_neg hid]
      rfl
    have hbad : requireActiveStage cfg now delegate expenseId db =
        .error (.badRequest "Valid expense id is required") := Transaction.bind_eq_error.2 (.inl hload)
    rw [hbad] at h
    cases h

/-- What a decision by reference throws, the gate or the decision throws. -/
theorem Decision.perform_eq_error {d : Decision} {e : HttpException}
    (h : d.perform cfg now delegate expenseReference db = .error e) :
    resolveExpenseIdForDecision db delegate expenseReference = .error e ∨ ∃ expenseId,
      resolveExpenseIdForDecision db delegate expenseReference = .ok expenseId ∧
        (requireActiveStage cfg now delegate expenseId db = .error e ∨ IsOther e) := by
  cases d with
  | approve input =>
    rw [Decision.perform, approveByReference, Transaction.query_bind_eq_error] at h
    exact h.imp_right (fun ⟨expenseId, hgate, h⟩ => ⟨expenseId, hgate, approve_refused h⟩)
  | reject commentReference comment =>
    rw [Decision.perform, rejectByReference, Transaction.query_bind_eq_error] at h
    exact h.imp_right (fun ⟨expenseId, hgate, h⟩ => ⟨expenseId, hgate, reject_refused h⟩)

/-- A gate that throws ends the decision. -/
theorem Decision.perform_of_gate {d : Decision} {e : HttpException}
    (h : resolveExpenseIdForDecision db delegate expenseReference = .error e) :
    d.perform cfg now delegate expenseReference db = .error e := by
  cases d with
  | approve input =>
    rw [Decision.perform, approveByReference]
    exact Transaction.query_bind_eq_error.2 (.inl h)
  | reject commentReference comment =>
    rw [Decision.perform, rejectByReference]
    exact Transaction.query_bind_eq_error.2 (.inl h)

theorem resolveExpenseIdForDecision_of_not_canDecide
    (hrow : ExpenseMutationSupport.findExpense db expenseReference = .ok row)
    (hdecide : ApprovalAccessPolicy.canDecideOnExpense delegate (db.withRelations row) = false) :
    ∃ message, resolveExpenseIdForDecision db delegate expenseReference = .error (.forbidden message) := by
  cases hassert : assertCanDecideOnExpense delegate (db.withRelations row) with
  | ok u =>
    obtain ⟨-, hcan⟩ := assertCanDecideOnExpense_eq_ok.1 hassert
    rw [hdecide] at hcan
    cases hcan
  | error e =>
    obtain ⟨message, rfl⟩ := forbidden_of_assertCanDecideOnExpense hassert
    refine ⟨message, Except.bind_eq_error.2 (.inr ⟨row, hrow, ?_⟩)⟩
    exact Except.bind_eq_error.2 (.inl hassert)

/-- A delegate of somebody who may act on the ready stage of an expense is not
    refused on authorization exactly when the delegate may decide on the expense in
    the delegate's own right. -/
theorem delegate_admitted_iff {d : Decision}
    (hrow : ExpenseMutationSupport.findExpense db expenseReference = .ok row)
    (hactive : getActiveStage (db.withRelations row) db.activeLevels (db.approvalsOf row.id) = some stage)
    (hready : assertReadyForStageApproval stage (db.withRelations row) db.activeLevels
      (db.approvalsOf row.id) = .ok ())
    (hstands : StandsInFor db now delegate delegator row stage) :
    (∀ message, d.perform cfg now delegate expenseReference db ≠ .error (.forbidden message)) ↔
      ApprovalAccessPolicy.canDecideOnExpense delegate (db.withRelations row) = true := by
  constructor
  · intro hadmitted
    by_contra hdecide
    obtain ⟨message, hgate⟩ :=
      resolveExpenseIdForDecision_of_not_canDecide hrow (Bool.eq_false_iff.2 hdecide)
    exact hadmitted message (Decision.perform_of_gate hgate)
  · intro hdecide message h
    have hgate : resolveExpenseIdForDecision db delegate expenseReference = .ok row.id :=
      resolveExpenseIdForDecision_eq_ok.2 ⟨row, hrow, hstands.delegateNotOwner, hdecide, rfl⟩
    have hfind : db.expenses.find? row.id = some row :=
      Table.find?_of_mem (findEntityByReference_eq_ok hrow).1
    rcases Decision.perform_eq_error h with hrefused | ⟨expenseId, hid, hrefused⟩
    · rw [hgate] at hrefused
      cases hrefused
    · obtain rfl : row.id = expenseId := Except.ok.inj (hgate.symm.trans hid)
      rcases hrefused with hstage | hother
      · exact requireActiveStage_ne_forbidden hfind ⟨hstands.delegateNotOwner, hdecide, hactive, hready,
          .inr hstands.canActAsDelegate⟩ hstage
      · exact hother.notForbidden message rfl

end Delegates

end Approval

/-! ## A deputy from elsewhere -/

namespace Sample

/-- A user without a department and without a permission on approvals. -/
def deputy : User :=
  ⟨4, "USR1700000000004AAAAAA", "deputy@expentra.test", none, true, true, none, some employeeRole⟩

def authDeputy : AuthUser := toAuthUser deputy []

def staffed : Db := { db with users := ⟨[owner, manager, finance, deputy], by decide⟩ }

def delegateToDeputy : Operation :=
  .createDelegation now "DEL1700000000001AAAAAA" authManager
    ⟨deputy.reference, now, now + 5 * 86400000⟩

/-- An expense waits for the manager, who has delegated to the deputy. -/
def deputised : Db := runAll config [createExpense, submit, delegateToDeputy] staffed

/-- The expense as submitted. -/
def waiting : Expense where
  id := 1
  reference := expenseReference
  userId := 1
  departmentId := some 1
  title := "Train to Abuja"
  description := none
  amount := ⟨5000, by decide⟩
  category := .TRAVEL
  status := .SUBMITTED
  submittedAt := some now
  approvedAt := none
  rejectedAt := none
  reimbursedAt := none
  incurredAt := none
  reimbursementReference := none

def delegation : ApprovalDelegation :=
  ⟨"DEL1700000000001AAAAAA", 2, 4, now, now + 5 * 86400000, true⟩

theorem waiting_found : ExpenseMutationSupport.findExpense deputised expenseReference = .ok waiting := by
  decide +kernel

theorem waiting_active : getActiveStage (deputised.withRelations waiting) deputised.activeLevels
    (deputised.approvalsOf waiting.id) = some managerLevel := by decide +kernel

theorem waiting_ready : assertReadyForStageApproval managerLevel (deputised.withRelations waiting)
    deputised.activeLevels (deputised.approvalsOf waiting.id) = .ok () := by decide +kernel

theorem deputy_stands_in :
    Approval.StandsInFor deputised now authDeputy manager waiting managerLevel where
  delegateActive := rfl
  delegateNotOwner := by decide
  delegatorStored := by decide +kernel
  delegatorActive := rfl
  delegatorNotOwner := by decide
  delegatorCanAct := by decide +kernel
  inForce := ⟨delegation, by decide +kernel, rfl, by decide +kernel⟩

end Sample

namespace Approval

open Sample

theorem delegate_admitted_iff_sample :
    (∀ message, (Decision.approve ⟨none, false⟩).perform config now authDeputy expenseReference
        deputised ≠ .error (.forbidden message)) ↔
      ApprovalAccessPolicy.canDecideOnExpense authDeputy (deputised.withRelations waiting) = true :=
  delegate_admitted_iff waiting_found waiting_active waiting_ready deputy_stands_in

/-- Both decisions of the deputy are refused on authorization. -/
theorem deputy_refused :
    Reaches (Step config) staffed deputised ∧
      StandsInFor deputised now authDeputy manager waiting managerLevel ∧
      (Decision.approve ⟨none, false⟩).perform config now authDeputy expenseReference deputised =
        .error (.forbidden "You do not have permission to approve or reject this expense") ∧
      (Decision.reject "CMT1700000000001AAAAAA" "No receipt").perform config now authDeputy
        expenseReference deputised =
        .error (.forbidden "You do not have permission to approve or reject this expense") :=
  ⟨reaches_runAll config _ staffed, deputy_stands_in, by decide +kernel, by decide +kernel⟩

end Approval

end Expentra
