-- SUMMARY: Delegation of approval authority: granting, revoking, and acting as a delegate.
import Expentra.Approval.Routing
import Expentra.Budget.Service

/-!
# The delegation service
-/

namespace Expentra.Delegation

open Library

structure CreateDelegationInput where
  delegateReference : String
  startsAt : Instant
  endsAt : Instant
deriving DecidableEq, Repr

def assertDelegationDates (cfg : Config) (now startsAt endsAt : Instant) :
    Except HttpException Unit :=
  let timeZone := cfg.budgetTimeZone
  let currentYear := BudgetPeriod.resolveBudgetYear now timeZone
  if BudgetPeriod.resolveBudgetYear startsAt timeZone < currentYear ||
      BudgetPeriod.resolveBudgetYear endsAt timeZone < currentYear then
    .error (.badRequest "Delegation dates cannot be before the current year")
  else if BudgetPeriod.compareCalendarDates startsAt now timeZone < 0 then
    .error (.badRequest "Delegation start date cannot be in the past")
  else if BudgetPeriod.compareCalendarDates endsAt now timeZone < 0 then
    .error (.badRequest "Delegation end date cannot be in the past")
  else .ok ()

/-- `create`; `reference` is the one `assignReference` draws. -/
def create (cfg : Config) (now : Instant) (reference : String) (delegator : AuthUser)
    (input : CreateDelegationInput) : Tx Unit := do
  Transaction.require (ApprovalAccessPolicy.canDecideOnApproval delegator = true)
    (.forbidden "Only approvers can create approval delegations")
  Transaction.require (input.startsAt < input.endsAt)
    (.badRequest "Delegation end must be after start")
  Transaction.lift (assertDelegationDates cfg now input.startsAt input.endsAt)
  let delegate ← Transaction.query (fun db =>
    findEntityByReference db.users.rows (·.reference) input.delegateReference
      "Delegate user not found")
  Transaction.require (delegate.id ≠ delegator.id)
    (.badRequest "You cannot delegate approval to yourself")
  Transaction.require (delegate.isActive = true) (.badRequest "Delegate user is not active")
  Transaction.write (fun db => { db with delegations := db.delegations ++
    [⟨reference, delegator.id, delegate.id, input.startsAt, input.endsAt, true⟩] })
  publish .delegationCreated none

def revoke (delegatorId : Nat) (reference : String) : Tx Unit := do
  let delegation ← Transaction.query (fun db =>
    findEntityByReference db.delegations (·.reference) reference "Delegation not found")
  Transaction.require (delegation.delegatorId = delegatorId)
    (.forbidden "You can only revoke your own delegations")
  Transaction.write (fun db => { db with delegations := db.delegations.map (fun d =>
    if d.reference = delegation.reference then { d with isActive := false } else d) })
  publish .delegationRevoked none

/-- A delegation is in force for a delegate at a moment. -/
def isActiveFor (delegation : ApprovalDelegation) (delegateId : Nat) (now : Instant) : Bool :=
  delegation.delegateId = delegateId && delegation.isActive && delegation.startsAt ≤ now &&
    now ≤ delegation.endsAt

def findActiveDelegationsForDelegate (db : Db) (delegateId : Nat) (now : Instant) :
    List ApprovalDelegation :=
  db.delegations.filter (isActiveFor · delegateId now)

def delegatorCanActOnStage (db : Db) (delegator : User) (expense : ExpenseEntity)
    (stage : ApprovalLevel) : Bool :=
  ApprovalAccessPolicy.canActOnApprovalStage
    (toAuthUser delegator (db.managedDepartmentIds delegator.id)) expense stage

/-- Some delegation in force comes from a user who can act on the stage. -/
def canActAsDelegate (db : Db) (now : Instant) (authUser : AuthUser) (expense : ExpenseEntity)
    (stage : ApprovalLevel) : Bool :=
  (findActiveDelegationsForDelegate db authUser.id now).any (fun delegation =>
    match db.users.find? delegation.delegatorId with
    | some delegator => delegatorCanActOnStage db delegator expense stage
    | none => false)

section Specs

variable {cfg : Config} {now : Instant} {db db' : Db} {reference : String} {u : Unit}

/-- A granted delegation is active, and its delegate is another user. -/
theorem create_ok {delegator : AuthUser} {input : CreateDelegationInput}
    (h : create cfg now reference delegator input db = .ok (u, db')) :
    ∃ delegate, delegate ∈ db.users ∧ delegate.id ≠ delegator.id ∧ delegate.isActive = true ∧
      ApprovalAccessPolicy.canDecideOnApproval delegator = true ∧
      db' = { db with
        delegations := db.delegations ++
          [⟨reference, delegator.id, delegate.id, input.startsAt, input.endsAt, true⟩]
        outbox := db.outbox ++ [⟨.delegationCreated, none⟩] } := by
  simp only [create, Transaction.require_bind_eq_ok, Transaction.lift_bind_eq_ok,
    Transaction.query_bind_eq_ok, Transaction.write_bind] at h
  obtain ⟨hdecide, -, _, -, delegate, hfind, hother, hactive, h⟩ := h
  obtain ⟨-, rfl⟩ := publish_eq_ok.1 h
  exact ⟨delegate, (findEntityByReference_eq_ok hfind).1, hother, hactive, hdecide, rfl⟩

/-- A revocation clears the flag of delegations, at most. -/
theorem revoke_ok {delegatorId : Nat} (h : revoke delegatorId reference db = .ok (u, db')) :
    ∃ revoked : ApprovalDelegation → Bool, db' = { db with
      delegations := db.delegations.map (fun d => if revoked d then { d with isActive := false } else d)
      outbox := db.outbox ++ [⟨.delegationRevoked, none⟩] } := by
  simp only [revoke, Transaction.require_bind_eq_ok, Transaction.query_bind_eq_ok,
    Transaction.write_bind] at h
  obtain ⟨delegation, -, -, h⟩ := h
  obtain ⟨-, rfl⟩ := publish_eq_ok.1 h
  exact ⟨fun d => d.reference = delegation.reference, by simp⟩

end Specs

theorem canActAsDelegate_eq_true {db : Db} {now : Instant} {authUser : AuthUser}
    {expense : ExpenseEntity} {stage : ApprovalLevel} :
    canActAsDelegate db now authUser expense stage = true ↔
      ∃ delegation ∈ db.delegations, isActiveFor delegation authUser.id now = true ∧
        ∃ delegator, db.users.find? delegation.delegatorId = some delegator ∧
          delegatorCanActOnStage db delegator expense stage = true := by
  simp only [canActAsDelegate, findActiveDelegationsForDelegate, List.any_eq_true, List.mem_filter]
  constructor
  · rintro ⟨delegation, ⟨hmem, hactive⟩, hact⟩
    cases hfind : db.users.find? delegation.delegatorId with
    | none => simp [hfind] at hact
    | some delegator => exact ⟨delegation, hmem, hactive, delegator, hfind, by simpa [hfind] using hact⟩
  · rintro ⟨delegation, hmem, hactive, delegator, hfind, hact⟩
    exact ⟨delegation, ⟨hmem, hactive⟩, by simpa [hfind] using hact⟩

end Expentra.Delegation
