-- SUMMARY: Pending expenses: which of them can still be decided, and which steps leave all of them so.
import Expentra.System.Serials

/-!
# Pending expenses

The status of a pending expense was fixed by an earlier call, while its chain is
computed anew in every call. `Fits` says when the two still fit together; it is
exactly when the expense can be decided at all (`unstuck_iff`). A change of the
catalogue or of a manager can break the fit, and so can an approval that comes
after such a change.
-/

namespace Expentra

open Library ApprovalRouting

/-- The levels an expense needs now. -/
def chain (db : Db) (row : Expense) : List ApprovalLevel :=
  getRequiredLevels (db.withRelations row) db.activeLevels

/-- The decision at a level of the chain. -/
def decisionOf (db : Db) (row : Expense) (level : ApprovalLevel) : Option ExpenseApproval :=
  decisionAt (db.approvalsOf row.id) level

/-- Somebody can decide the expense: it has an active stage that is ready, as long as
    it needs a level at all, everybody with the authority of that stage can decide it,
    and some call of somebody goes through. -/
structure Unstuck (cfg : Config) (db : Db) (row : Expense) : Prop where
  stage : chain db row ≠ [] → ∃ stage,
    getActiveStage (db.withRelations row) db.activeLevels (db.approvalsOf row.id) = some stage ∧
    assertReadyForStageApproval stage (db.withRelations row) db.activeLevels
      (db.approvalsOf row.id) = .ok () ∧
    ∀ authUser : AuthUser, authUser.id ≠ row.userId →
      ApprovalAccessPolicy.canActOnApprovalStage authUser (db.withRelations row) stage = true →
      ∃ (op : Operation) (now : Instant), op.decision? = some (now, authUser, row.id) ∧
        op.Succeeds cfg db
  call : ∃ (op : Operation) (now : Instant) (authUser : AuthUser),
    op.decision? = some (now, authUser, row.id) ∧ op.Succeeds cfg db

/-- No pending expense is stuck. -/
def NoneStuck (cfg : Config) (db : Db) : Prop :=
  ∀ row ∈ db.expenses, row.status.isPending = true → Unstuck cfg db row

/-- The status of the expense fits its chain: a submitted expense starts with its
    department manager; an expense under review has a level to decide, and starts
    with a decision or with finance. -/
structure Fits (db : Db) (row : Expense) : Prop where
  submitted : row.status = .SUBMITTED →
    ∃ first rest, chain db row = first :: rest ∧ first.approverType = .DEPARTMENT_MANAGER
  underReview : row.status = .UNDER_REVIEW →
    (∃ level ∈ chain db row, decisionOf db row level = none) ∧
    ∀ first rest, chain db row = first :: rest →
      decisionOf db row first ≠ none ∨ first.approverType = .FINANCE_MANAGER

def AllFit (db : Db) : Prop := ∀ row ∈ db.expenses, row.status.isPending = true → Fits db row

/-! ## The decisions of an expense -/

/-- What the status of an expense says about its decisions. -/
structure Staged (approvals : Table ExpenseApproval.key) (row : Expense) : Prop where
  undecided : row.status = .DRAFT ∨ row.status = .SUBMITTED →
    ∀ a ∈ approvals, a.expenseId ≠ row.id
  approved : row.status.isPending = true →
    ∀ a ∈ approvals, a.expenseId = row.id → a.decision = .APPROVED
  charged : row.status.isPending = true → row.departmentId ≠ none

def AllStaged (db : Db) : Prop := ∀ row ∈ db.expenses, Staged db.approvals row

section Staged

variable {cfg : Config} {db db' : Db} {op : Operation} {row : Expense} {after : ExpenseEntity}
  {approvals : Table ExpenseApproval.key}

/-- A transition leaves its row staged. -/
theorem Moves.staged (hmoves : Moves db row op after approvals) (h : Staged db.approvals row) :
    Staged approvals (row.save after) := by
  cases hmoves with
  | edit hdraft hedit =>
    have hstatus : (row.save after).status = .DRAFT := by
      rw [hedit]
      exact hdraft
    have hpending : ¬ (row.save after).status.isPending = true := by
      rw [hstatus]
      simp [ExpenseStatus.isPending]
    exact ⟨fun _ => h.undecided (.inl hdraft), fun hp => absurd hp hpending,
      fun hp => absurd hp hpending⟩
  | submit hdraft _ =>
    have hnone := h.undecided (.inl hdraft)
    refine ⟨fun _ => hnone, fun _ a ha hid => absurd hid (hnone a ha), fun _ => ?_⟩
    rw [ExpenseSubmit.submitted_eq]
    simp [Expense.save, ExpenseSubmit.routed]
  | @approve now _ _ _ approval _ nextStatus hpending hid hdecision hins hnext =>
    have hdepartment : (row.save
        (Approval.approved (db.withRelations row) nextStatus now)).departmentId = row.departmentId := by
      simp [Expense.save, Approval.approved, Db.withRelations, Expense.toEntity]
    refine ⟨fun hearly => ?_, fun _ a ha haid => ?_, fun _ => hdepartment ▸ h.charged hpending⟩
    · -- an approval never leads back to a draft or a submitted expense
      have hstatus : (row.save (Approval.approved (db.withRelations row) nextStatus now)).status =
        nextStatus := rfl
      rw [hstatus] at hearly
      rcases hnext with rfl | rfl <;> simp at hearly
    · rcases (Table.mem_insert hins).1 ha with ha | rfl
      · exact h.approved hpending a ha haid
      · exact hdecision
  | reject _ _ _ =>
    refine ⟨fun hearly => ?_, fun hp => ?_, fun hp => ?_⟩
    · rcases hearly with hs | hs <;> cases hs
    · cases hp
    · cases hp
  | reopen _ =>
    refine ⟨fun _ a ha => ?_, fun hp => ?_, fun hp => ?_⟩
    · have hne : a.expenseId ≠ row.id := by simpa using (Table.mem_keep.1 ha).2
      exact hne
    · cases hp
    · cases hp
  | reimburse _ =>
    refine ⟨fun hearly => ?_, fun hp => ?_, fun hp => ?_⟩
    · rcases hearly with hs | hs <;> cases hs
    · cases hp
    · cases hp

/-- Decisions on other expenses do not matter. -/
theorem Staged.of_decided (h : Staged db.approvals row)
    (hdecided : ∀ a ∈ approvals, a.expenseId = row.id → a ∈ db.approvals) : Staged approvals row :=
  ⟨fun hearly a ha hid => h.undecided hearly a (hdecided a ha hid) hid,
    fun hpending a ha hid => h.approved hpending a (hdecided a ha hid) hid, h.charged⟩

theorem allStaged_of_ok (hnumbered : Numbered db) (hstaged : AllStaged db)
    (h : op.perform cfg db = .ok ((), db')) : AllStaged db' := by
  cases hop : op.isTransition with
  | true =>
    obtain ⟨row, _, _, _, _, htransition, hmoves⟩ := transition_of_ok hop h
    intro e he
    rw [htransition.approvals_eq]
    rcases htransition.eq_or_mem he with rfl | ⟨he, hne⟩
    · exact hmoves.staged (hstaged row htransition.mem)
    · refine (hstaged e he).of_decided (fun a ha hid => ?_)
      rcases htransition.decided a ha with ha | hrow
      · exact ha
      · exact absurd (hid.symm.trans hrow) hne
  | false =>
    cases hadds : op.addsOrRemoves with
    | false =>
      obtain ⟨hframe, -⟩ := frame_of_ok hop hadds h
      unfold AllStaged
      rw [hframe.expenses, hframe.approvals]
      exact hstaged
    | true =>
      rcases inserted_or_deleted_of_ok hadds h with
        ⟨row, expenses, hins, hid, ⟨_, _, _, _, _, _, _, _, hrow, -⟩, rfl⟩ | ⟨_, -, -, hdelete⟩
      · intro e he
        rcases (Table.mem_insert hins).1 he with he | rfl
        · exact hstaged e he
        · have hpending : ¬ e.status.isPending = true := by
            rw [hrow]
            simp [ExpenseDraft.newDraft, ExpenseStatus.isPending]
          exact ⟨fun _ a ha => hid ▸ (hnumbered.approval a ha).ne, fun hp => absurd hp hpending,
            fun hp => absurd hp hpending⟩
      · cases Transaction.write_eq_ok.1 hdelete
        intro e he
        exact (hstaged e (Table.mem_keep.1 he).1).of_decided (fun a ha _ => (Table.mem_keep.1 ha).1)

end Staged

/-! ## Fitting is what it takes -/

section Unstuck

variable {cfg : Config} {db : Db} {now : Instant} {authUser : AuthUser} {row : Expense}
  {stage : ApprovalLevel}

/-- What can be decided fits. -/
theorem fits_of_ready (h : Approval.ReadyStage db now authUser row stage) : Fits db row := by
  obtain ⟨before, after, hchain, hnone, hbefore⟩ := h.chain
  have hstatus : row.status = statusForStage before stage :=
    (assertReadyForStageApproval_eq_ok (nodup_activeLevels db) h.active hchain hbefore).1 h.ready
  constructor
  · intro hsubmitted
    rw [hsubmitted, statusForStage] at hstatus
    split at hstatus
    · rename_i hfirst
      obtain ⟨rfl, htype⟩ := hfirst
      exact ⟨stage, after, hchain, htype⟩
    · cases hstatus
  · intro hreview
    refine ⟨⟨stage, ?_, hnone⟩, fun first rest hfirst => ?_⟩
    · rw [chain, hchain]
      exact List.mem_append_right _ List.mem_cons_self
    · rw [chain, hchain] at hfirst
      cases before with
      | nil =>
        obtain ⟨rfl, -⟩ := List.cons.inj hfirst
        refine .inr ?_
        cases htype : stage.approverType with
        | FINANCE_MANAGER => rfl
        | DEPARTMENT_MANAGER =>
          rw [hreview, statusForStage, if_pos ⟨rfl, htype⟩] at hstatus
          cases hstatus
      | cons level before =>
        obtain ⟨rfl, -⟩ := List.cons.inj hfirst
        obtain ⟨d, hd, -⟩ := hbefore level List.mem_cons_self
        refine .inl ?_
        rw [decisionOf, hd]
        exact Option.some_ne_none d

/-- A level of the chain without a decision exists when the expense fits. -/
theorem Fits.exists_undecided (h : Fits db row) (hstaged : Staged db.approvals row)
    (hpending : row.status.isPending = true) :
    ∃ level ∈ chain db row, decisionAt (db.approvalsOf row.id) level = none := by
  rcases ExpenseStatus.isPending_eq_true.1 hpending with hs | hs
  · obtain ⟨first, rest, hchain, -⟩ := h.submitted hs
    refine ⟨first, by rw [hchain]; exact List.mem_cons_self, decisionAt_eq_none.2 (fun a ha _ => ?_)⟩
    obtain ⟨ha, hid⟩ := mem_approvalsOf.1 ha
    exact hstaged.undecided (.inr hs) a ha hid
  · exact (h.underReview hs).1

/-- What fits has a stage that is active and ready. -/
theorem Fits.exists_ready (h : Fits db row) (hstaged : Staged db.approvals row)
    (hpending : row.status.isPending = true) :
    ∃ stage, getActiveStage (db.withRelations row) db.activeLevels (db.approvalsOf row.id) = some stage ∧
      assertReadyForStageApproval stage (db.withRelations row) db.activeLevels
        (db.approvalsOf row.id) = .ok () := by
  have happroved : ∀ a ∈ db.approvalsOf row.id, a.decision = .APPROVED := fun a ha =>
    hstaged.approved hpending a (mem_approvalsOf.1 ha).1 (mem_approvalsOf.1 ha).2
  obtain ⟨stage, hstage⟩ := exists_firstUndecided happroved (h.exists_undecided hstaged hpending)
  have hactive := getActiveStage_eq_some.2 ⟨hpending, hstage⟩
  obtain ⟨before, after, hchain, hnone, hbefore⟩ := firstUndecided_eq_some.1 hstage
  refine ⟨stage, hactive,
    (assertReadyForStageApproval_eq_ok (nodup_activeLevels db) hactive hchain hbefore).2 ?_⟩
  change row.status = statusForStage before stage
  rcases ExpenseStatus.isPending_eq_true.1 hpending with hs | hs
  · -- without decisions the stage is the first of the chain
    have hnil : before = [] := by
      refine List.eq_nil_iff_forall_not_mem.2 (fun level hl => ?_)
      obtain ⟨d, hd, -⟩ := hbefore level hl
      obtain ⟨hd, hid⟩ := mem_approvalsOf.1 (List.mem_of_find?_eq_some hd)
      exact hstaged.undecided (.inr hs) d hd hid
    obtain ⟨first, rest, hfirst, htype⟩ := h.submitted hs
    rw [hnil] at hchain
    obtain ⟨rfl, -⟩ := List.cons.inj (hfirst.symm.trans hchain)
    rw [hs, statusForStage, if_pos ⟨hnil, htype⟩]
  · rw [hs, statusForStage, if_neg]
    rintro ⟨rfl, htype⟩
    rcases (h.underReview hs).2 stage after hchain with hdecided | hfinance
    · exact hdecided hnone
    · rw [htype] at hfinance
      cases hfinance

/-- Whoever has the authority of a ready stage can decide the expense, by rejecting
    it with a fresh comment. -/
theorem exists_decision (hnumbered : Numbered db) (hrow : row ∈ db.expenses)
    (hactive : getActiveStage (db.withRelations row) db.activeLevels (db.approvalsOf row.id) = some stage)
    (hready : assertReadyForStageApproval stage (db.withRelations row) db.activeLevels
      (db.approvalsOf row.id) = .ok ())
    (hother : authUser.id ≠ row.userId)
    (hauthority : ApprovalAccessPolicy.canActOnApprovalStage authUser (db.withRelations row) stage = true) :
    ∃ (op : Operation) (now : Instant), op.decision? = some (now, authUser, row.id) ∧
      op.Succeeds cfg db := by
  obtain ⟨reference, hreference⟩ := db.exists_fresh_comment
  obtain ⟨now, hevent⟩ := db.exists_fresh_moment .expenseRejected row.id
  have hdecide : ApprovalAccessPolicy.canDecideOnExpense authUser (db.withRelations row) = true := by
    cases hd : ApprovalAccessPolicy.canDecideOnExpense authUser (db.withRelations row) with
    | true => rfl
    | false => simp [ApprovalAccessPolicy.canActOnApprovalStage, hd] at hauthority
  have hstage : Approval.ReadyStage db now authUser row stage :=
    ⟨hother.symm, hdecide, hactive, hready, .inl hauthority⟩
  obtain ⟨db', hok⟩ := @Approval.reject_of_ready cfg now db authUser row stage () reference "No"
    (hnumbered.expense row hrow).1 hrow hstage (by decide) hreference hevent
  exact ⟨.reject now authUser row.id reference "No", now, rfl, db', hok⟩

/-- A user with the authority of every stage of an expense of a department. -/
def omnipotent (id departmentId : Nat) : AuthUser where
  id := id
  reference := ""
  email := ""
  role := "super_admin"
  roleId := 0
  isActive := true
  deactivatedAt := none
  isEmailVerified := true
  departmentId := none
  managedDepartmentIds := [departmentId]
  permissions := []

theorem canActOnApprovalStage_omnipotent {expense : ExpenseEntity} {id departmentId : Nat}
    (h : ApprovalAccessPolicy.resolveExpenseDepartmentId expense = some departmentId) :
    ApprovalAccessPolicy.canActOnApprovalStage (omnipotent id departmentId) expense stage = true := by
  have hglobal : ApprovalAccessPolicy.hasGlobalApprovalPermission (omnipotent id departmentId) = true := by
    simp [ApprovalAccessPolicy.hasGlobalApprovalPermission, hasPermission, isSuperAdminUser, omnipotent]
  have hmanages : ApprovalAccessPolicy.isDepartmentManagerForExpense (omnipotent id departmentId)
      expense = true := by
    simp [ApprovalAccessPolicy.isDepartmentManagerForExpense, h, omnipotent]
  cases htype : stage.approverType <;>
    simp [ApprovalAccessPolicy.canActOnApprovalStage, ApprovalAccessPolicy.canDecideOnExpense, hglobal,
      htype, hmanages]

/-- An expense somebody can decide fits. -/
theorem Unstuck.fits (hrow : row ∈ db.expenses) (h : Unstuck cfg db row) : Fits db row := by
  obtain ⟨op, now, authUser, hop, db', hok⟩ := h.call
  obtain ⟨row', stage, _, hfound, hready, -⟩ := decision_of_ok hop hok
  cases (Table.find?_of_mem hrow).symm.trans hfound
  exact fits_of_ready hready

/-- A pending expense can be decided exactly when its status fits its chain. -/
theorem unstuck_iff (hnumbered : Numbered db) (hstaged : Staged db.approvals row)
    (hrow : row ∈ db.expenses) (hpending : row.status.isPending = true) :
    Unstuck cfg db row ↔ Fits db row := by
  constructor
  · exact Unstuck.fits hrow
  · intro hfits
    obtain ⟨stage, hactive, hready⟩ := hfits.exists_ready hstaged hpending
    refine ⟨fun _ => ⟨stage, hactive, hready, fun authUser hother hauthority =>
      exists_decision hnumbered hrow hactive hready hother hauthority⟩, ?_⟩
    obtain ⟨departmentId, hdepartment⟩ := Option.ne_none_iff_exists'.1 (hstaged.charged hpending)
    have hresolve : ApprovalAccessPolicy.resolveExpenseDepartmentId (db.withRelations row) =
        some departmentId := by
      simp [ApprovalAccessPolicy.resolveExpenseDepartmentId, Db.withRelations, Expense.toEntity,
        hdepartment, Property.ofColumn]
    obtain ⟨op, now, hop, hsucceeds⟩ := @exists_decision cfg db (omnipotent (row.userId + 1) departmentId)
      row stage hnumbered hrow hactive hready (Nat.succ_ne_self _)
      (canActOnApprovalStage_omnipotent hresolve)
    exact ⟨op, now, _, hop, hsucceeds⟩

end Unstuck

end Expentra
