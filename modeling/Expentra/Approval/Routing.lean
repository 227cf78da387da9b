-- SUMMARY: The approval chain: required levels, the active stage, the status after a decision, and the stage assertions.
import Mathlib.Data.List.Sort
import Expentra.Authorization.AccessPolicy

/-!
# Approval routing

Which levels an expense needs, which one is active, and whether a decision at a
stage is admissible. Everything here is a function of the expense in memory, the
catalogue and the decisions recorded so far.
-/

namespace Expentra.ApprovalRouting

def shouldSkipDepartmentManagerStage (expense : ExpenseEntity) : Bool :=
  match expense.department.bind (·.managerId) with
  | none => false
  | some departmentManagerId => expense.userId = departmentManagerId

def levelAppliesToExpense (level : ApprovalLevel) (expenseAmount : Int) : Bool :=
  if expenseAmount < level.minimumAmount then false
  else match level.maximumAmount with
    | some maximumAmount => !(maximumAmount < expenseAmount)
    | none => true

/-- The levels a decision is needed at, in chain order. -/
def getRequiredLevels (expense : ExpenseEntity) (approvalLevels : List ApprovalLevel) :
    List ApprovalLevel :=
  (((approvalLevels.filter (·.isActive)).filter
    (levelAppliesToExpense · expense.amount.val)).filter
      (fun level => level.approverType ≠ .DEPARTMENT_MANAGER ||
        !shouldSkipDepartmentManagerStage expense)).insertionSort
          (fun left right => left.level ≤ right.level)

def requiresApprovalChain (expense : ExpenseEntity) (approvalLevels : List ApprovalLevel) : Bool :=
  0 < (getRequiredLevels expense approvalLevels).length

def resolveInitialSubmitStatus (expense : ExpenseEntity) (approvalLevels : List ApprovalLevel) :
    ExpenseStatus :=
  match getRequiredLevels expense approvalLevels with
  | [] => .APPROVED
  | firstStage :: _ =>
    match firstStage.approverType with
    | .FINANCE_MANAGER => .UNDER_REVIEW
    | .DEPARTMENT_MANAGER => .SUBMITTED

/-- The decision recorded at a level, the first in the list. -/
def decisionAt (approvals : List ExpenseApproval) (level : ApprovalLevel) :
    Option ExpenseApproval :=
  approvals.find? (fun approval => approval.approvalLevelId = level.id)

/-- The loop of `getActiveStage`: the first level without a decision, unless a
    level before it was rejected. -/
def firstUndecided (approvals : List ExpenseApproval) :
    List ApprovalLevel → Option ApprovalLevel
  | [] => none
  | level :: rest =>
    match decisionAt approvals level with
    | none => some level
    | some decision =>
      if decision.decision ≠ .APPROVED then none else firstUndecided approvals rest

def getActiveStage (expense : ExpenseEntity) (approvalLevels : List ApprovalLevel)
    (approvals : List ExpenseApproval) : Option ApprovalLevel :=
  if expense.status.isPending then
    firstUndecided approvals (getRequiredLevels expense approvalLevels)
  else none

/-- The position of a stage in the required list, by id. -/
def stageIndex? (expense : ExpenseEntity) (approvalLevels : List ApprovalLevel)
    (stage : ApprovalLevel) : Option Nat :=
  (getRequiredLevels expense approvalLevels).findIdx? (fun level => level.id = stage.id)

def resolveStatusAfterLevelApproval (stage : ApprovalLevel) (expense : ExpenseEntity)
    (approvalLevels : List ApprovalLevel) : ExpenseStatus :=
  match stageIndex? expense approvalLevels stage with
  | none => .APPROVED
  | some index =>
    if (getRequiredLevels expense approvalLevels).length ≤ index + 1 then .APPROVED
    else .UNDER_REVIEW

/-- Some decision approves the level. -/
def isApprovedAt (approvals : List ExpenseApproval) (level : ApprovalLevel) : Bool :=
  approvals.any (fun approval =>
    approval.approvalLevelId = level.id && approval.decision = .APPROVED)

def assertPriorLevelsComplete (stage : ApprovalLevel) (approvals : List ExpenseApproval)
    (approvalLevels : List ApprovalLevel) (expense : ExpenseEntity) :
    Except HttpException Unit :=
  match stageIndex? expense approvalLevels stage with
  | none => .error (.conflict "Approval stage is not part of this workflow")
  | some index =>
    match ((getRequiredLevels expense approvalLevels).take index).find?
        (fun priorLevel => !isApprovedAt approvals priorLevel) with
    | none => .ok ()
    | some priorLevel =>
      .error (.conflict
        ("Approval at level " ++ priorLevel.name ++ " is required before " ++ stage.name))

def assertExpenseStatusForStage (stage : ApprovalLevel) (expense : ExpenseEntity)
    (approvalLevels : List ApprovalLevel) : Except HttpException Unit :=
  match stageIndex? expense approvalLevels stage with
  | none => .ok ()
  | some 0 =>
    match stage.approverType with
    | .DEPARTMENT_MANAGER =>
      if expense.status = .SUBMITTED then .ok ()
      else .error (.conflict "This expense is not awaiting department manager approval")
    | .FINANCE_MANAGER =>
      if expense.status = .UNDER_REVIEW then .ok ()
      else .error (.conflict "This expense is not awaiting finance approval")
  | some (_ + 1) =>
    if expense.status = .UNDER_REVIEW then .ok ()
    else .error (.conflict "Earlier approval stages must be completed before this stage")

def assertReadyForStageApproval (stage : ApprovalLevel) (expense : ExpenseEntity)
    (approvalLevels : List ApprovalLevel) (approvals : List ExpenseApproval) :
    Except HttpException Unit :=
  match getActiveStage expense approvalLevels approvals with
  | none => .error (.conflict "Complete earlier approval stages before acting on this one")
  | some activeStage =>
    if activeStage.id ≠ stage.id then
      .error (.conflict "Complete earlier approval stages before acting on this one")
    else do
      assertPriorLevelsComplete stage approvals approvalLevels expense
      assertExpenseStatusForStage stage expense approvalLevels

/-! ## The required list -/

section RequiredLevels

variable {expense : ExpenseEntity} {approvalLevels : List ApprovalLevel} {level : ApprovalLevel}

theorem mem_getRequiredLevels :
    level ∈ getRequiredLevels expense approvalLevels ↔
      level ∈ approvalLevels ∧ level.isActive = true ∧
        levelAppliesToExpense level expense.amount.val = true ∧
        (level.approverType ≠ .DEPARTMENT_MANAGER ∨
          shouldSkipDepartmentManagerStage expense = false) := by
  rw [getRequiredLevels, List.mem_insertionSort]
  simp only [List.mem_filter, Bool.or_eq_true, decide_eq_true_eq, Bool.not_eq_true']
  tauto

/-- A catalogue with one row for each id yields a chain with one level for each id. -/
theorem nodup_getRequiredLevels (h : (approvalLevels.map (·.id)).Nodup) :
    ((getRequiredLevels expense approvalLevels).map (·.id)).Nodup := by
  have hperm := (List.perm_insertionSort (fun left right : ApprovalLevel => left.level ≤ right.level)
    (((approvalLevels.filter (·.isActive)).filter
      (levelAppliesToExpense · expense.amount.val)).filter
        (fun level => level.approverType ≠ .DEPARTMENT_MANAGER ||
          !shouldSkipDepartmentManagerStage expense))).map (·.id)
  refine hperm.nodup_iff.2 (h.sublist (List.Sublist.map _ ?_))
  exact (List.filter_sublist.trans List.filter_sublist).trans List.filter_sublist

theorem requiresApprovalChain_eq_true :
    requiresApprovalChain expense approvalLevels = true ↔
      getRequiredLevels expense approvalLevels ≠ [] := by
  simp [requiresApprovalChain, List.length_pos_iff]

/-- The owner and the department decide whether the manager's stage is skipped. -/
theorem shouldSkipDepartmentManagerStage_congr {expense' : ExpenseEntity}
    (howner : expense'.userId = expense.userId) (hdepartment : expense'.department = expense.department) :
    shouldSkipDepartmentManagerStage expense' = shouldSkipDepartmentManagerStage expense := by
  rw [shouldSkipDepartmentManagerStage, howner, hdepartment, shouldSkipDepartmentManagerStage]

/-- Only the amount and the manager of the department decide the chain. -/
theorem getRequiredLevels_congr {expense' : ExpenseEntity} (hamount : expense'.amount = expense.amount)
    (hskip : shouldSkipDepartmentManagerStage expense' = shouldSkipDepartmentManagerStage expense) :
    getRequiredLevels expense' approvalLevels = getRequiredLevels expense approvalLevels := by
  simp [getRequiredLevels, hamount, hskip]

end RequiredLevels

/-! ## The active stage -/

section ActiveStage

variable {approvals : List ExpenseApproval} {chain : List ApprovalLevel} {stage : ApprovalLevel}

/-- The loop stops at a level without a decision after approved levels only. -/
theorem firstUndecided_eq_some :
    firstUndecided approvals chain = some stage ↔
      ∃ before after, chain = before ++ stage :: after ∧ decisionAt approvals stage = none ∧
        ∀ level ∈ before, ∃ d, decisionAt approvals level = some d ∧ d.decision = .APPROVED := by
  induction chain with
  | nil => simp [firstUndecided]
  | cons level rest ih =>
    cases hd : decisionAt approvals level with
    | none =>
      simp only [firstUndecided, hd, Option.some.injEq]
      constructor
      · rintro rfl
        exact ⟨[], rest, rfl, hd, by simp⟩
      · rintro ⟨before, after, heq, -, happroved⟩
        cases before with
        | nil => exact (List.cons.inj heq).1
        | cons b before =>
          obtain ⟨rfl, -⟩ := List.cons.inj heq
          obtain ⟨d, hd', -⟩ := happroved level List.mem_cons_self
          rw [hd] at hd'
          cases hd'
    | some d =>
      simp only [firstUndecided, hd]
      by_cases happ : d.decision = .APPROVED
      · rw [if_neg (not_not_intro happ), ih]
        constructor
        · rintro ⟨before, after, rfl, hnone, happroved⟩
          exact ⟨level :: before, after, rfl, hnone,
            List.forall_mem_cons.2 ⟨⟨d, hd, happ⟩, happroved⟩⟩
        · rintro ⟨before, after, heq, hnone, happroved⟩
          cases before with
          | nil =>
            obtain ⟨rfl, -⟩ := List.cons.inj heq
            rw [hd] at hnone
            cases hnone
          | cons b before =>
            obtain ⟨rfl, rfl⟩ := List.cons.inj heq
            exact ⟨before, after, rfl, hnone, (List.forall_mem_cons.1 happroved).2⟩
      · simp only [if_pos happ, reduceCtorEq, false_iff]
        rintro ⟨before, after, heq, hnone, happroved⟩
        cases before with
        | nil =>
          obtain ⟨rfl, -⟩ := List.cons.inj heq
          rw [hd] at hnone
          cases hnone
        | cons b before =>
          obtain ⟨rfl, -⟩ := List.cons.inj heq
          obtain ⟨d', hd', happ'⟩ := happroved level List.mem_cons_self
          rw [hd] at hd'
          exact happ (Option.some.inj hd' ▸ happ')

/-- When no decision is a rejection, the loop finds a stage as soon as one level
    is undecided. -/
theorem exists_firstUndecided (happ : ∀ a ∈ approvals, a.decision = .APPROVED)
    (h : ∃ level ∈ chain, decisionAt approvals level = none) :
    ∃ stage, firstUndecided approvals chain = some stage := by
  induction chain with
  | nil => simp at h
  | cons level rest ih =>
    cases hd : decisionAt approvals level with
    | none => exact ⟨level, by simp [firstUndecided, hd]⟩
    | some d =>
      have hrest : ∃ level ∈ rest, decisionAt approvals level = none := by
        obtain ⟨l, hl, hnone⟩ := h
        rcases List.mem_cons.1 hl with rfl | hl
        · rw [hd] at hnone
          cases hnone
        · exact ⟨l, hl, hnone⟩
      obtain ⟨stage, hstage⟩ := ih hrest
      have hd' : d.decision = .APPROVED := happ d (List.mem_of_find?_eq_some hd)
      exact ⟨stage, by simp [firstUndecided, hd, hd', hstage]⟩

theorem decisionAt_eq_none :
    decisionAt approvals stage = none ↔ ∀ a ∈ approvals, a.approvalLevelId ≠ stage.id := by
  simp [decisionAt, List.find?_eq_none]

theorem getActiveStage_eq_some {expense : ExpenseEntity} {approvalLevels : List ApprovalLevel} :
    getActiveStage expense approvalLevels approvals = some stage ↔
      expense.status.isPending = true ∧
        firstUndecided approvals (getRequiredLevels expense approvalLevels) = some stage := by
  unfold getActiveStage
  split <;> simp_all

/-- The position of the first level with an id, in a chain without repeated ids. -/
theorem findIdx?_append_cons {before after : List ApprovalLevel}
    (h : ((before ++ stage :: after).map (·.id)).Nodup) :
    (before ++ stage :: after).findIdx? (fun level => level.id = stage.id) = some before.length := by
  rw [List.map_append, List.map_cons, List.nodup_append] at h
  have hne : ∀ level ∈ before, level.id ≠ stage.id := fun level hl =>
    h.2.2 _ (List.mem_map_of_mem hl) _ List.mem_cons_self
  have hnone : before.findIdx? (fun level => level.id = stage.id) = none := by
    simpa using hne
  simp [List.findIdx?_append, hnone, List.findIdx?_cons]

/-- In a chain, a stage is found at the position it stands. -/
theorem stageIndex?_of_chain {expense : ExpenseEntity} {approvalLevels before after : List ApprovalLevel}
    (hnd : (approvalLevels.map (·.id)).Nodup)
    (hchain : getRequiredLevels expense approvalLevels = before ++ stage :: after) :
    stageIndex? expense approvalLevels stage = some before.length := by
  have hids : ((getRequiredLevels expense approvalLevels).map (·.id)).Nodup :=
    nodup_getRequiredLevels hnd
  rw [hchain] at hids
  rw [stageIndex?, hchain, findIdx?_append_cons hids]

/-- An approval of the last level approves the expense, any other one leaves it
    under review. -/
theorem resolveStatusAfterLevelApproval_of_chain {expense : ExpenseEntity}
    {approvalLevels before after : List ApprovalLevel} (hnd : (approvalLevels.map (·.id)).Nodup)
    (hchain : getRequiredLevels expense approvalLevels = before ++ stage :: after) :
    resolveStatusAfterLevelApproval stage expense approvalLevels =
      if after = [] then .APPROVED else .UNDER_REVIEW := by
  rw [resolveStatusAfterLevelApproval, stageIndex?_of_chain hnd hchain, hchain]
  cases after with
  | nil => simp
  | cons level rest => simp

/-- A submission is approved at once exactly when no level is required. -/
theorem resolveInitialSubmitStatus_eq_approved {expense : ExpenseEntity}
    {approvalLevels : List ApprovalLevel} :
    resolveInitialSubmitStatus expense approvalLevels = .APPROVED ↔
      getRequiredLevels expense approvalLevels = [] := by
  unfold resolveInitialSubmitStatus
  cases getRequiredLevels expense approvalLevels with
  | nil => simp
  | cons first rest => cases htype : first.approverType <;> simp [htype]

theorem resolveInitialSubmitStatus_eq_submitted {expense : ExpenseEntity}
    {approvalLevels : List ApprovalLevel} :
    resolveInitialSubmitStatus expense approvalLevels = .SUBMITTED ↔
      ∃ first rest, getRequiredLevels expense approvalLevels = first :: rest ∧
        first.approverType = .DEPARTMENT_MANAGER := by
  unfold resolveInitialSubmitStatus
  cases getRequiredLevels expense approvalLevels with
  | nil => simp
  | cons first rest => cases htype : first.approverType <;> simp [htype]

theorem resolveInitialSubmitStatus_eq_underReview {expense : ExpenseEntity}
    {approvalLevels : List ApprovalLevel} :
    resolveInitialSubmitStatus expense approvalLevels = .UNDER_REVIEW ↔
      ∃ first rest, getRequiredLevels expense approvalLevels = first :: rest ∧
        first.approverType = .FINANCE_MANAGER := by
  unfold resolveInitialSubmitStatus
  cases getRequiredLevels expense approvalLevels with
  | nil => simp
  | cons first rest => cases htype : first.approverType <;> simp [htype]

/-- A submission approves, or starts one of the two waiting statuses. -/
theorem resolveInitialSubmitStatus_cases (expense : ExpenseEntity) (approvalLevels : List ApprovalLevel) :
    resolveInitialSubmitStatus expense approvalLevels = .APPROVED ∨
      resolveInitialSubmitStatus expense approvalLevels = .UNDER_REVIEW ∨
      resolveInitialSubmitStatus expense approvalLevels = .SUBMITTED := by
  unfold resolveInitialSubmitStatus
  cases getRequiredLevels expense approvalLevels with
  | nil => simp
  | cons first rest => cases htype : first.approverType <;> simp [htype]

/-- An approval approves the expense or leaves it under review. -/
theorem resolveStatusAfterLevelApproval_cases (stage : ApprovalLevel) (expense : ExpenseEntity)
    (approvalLevels : List ApprovalLevel) :
    resolveStatusAfterLevelApproval stage expense approvalLevels = .APPROVED ∨
      resolveStatusAfterLevelApproval stage expense approvalLevels = .UNDER_REVIEW := by
  unfold resolveStatusAfterLevelApproval
  split
  · exact .inl rfl
  · split
    · exact .inl rfl
    · exact .inr rfl

/-- The status a stage is decided in: a department manager's stage that comes first
    while the expense is submitted, any other one while it is under review. -/
def statusForStage (before : List ApprovalLevel) (stage : ApprovalLevel) : ExpenseStatus :=
  if before = [] ∧ stage.approverType = .DEPARTMENT_MANAGER then .SUBMITTED else .UNDER_REVIEW

/-- At the active stage the levels before are complete, and the status is what is
    left to check. -/
theorem assertReadyForStageApproval_of_active {expense : ExpenseEntity}
    {approvalLevels before after : List ApprovalLevel}
    (hnd : (approvalLevels.map (·.id)).Nodup)
    (hactive : getActiveStage expense approvalLevels approvals = some stage)
    (hchain : getRequiredLevels expense approvalLevels = before ++ stage :: after)
    (hbefore : ∀ level ∈ before, ∃ d, decisionAt approvals level = some d ∧ d.decision = .APPROVED) :
    assertReadyForStageApproval stage expense approvalLevels approvals =
      assertExpenseStatusForStage stage expense approvalLevels := by
  have hindex := stageIndex?_of_chain hnd hchain
  have hprior : assertPriorLevelsComplete stage approvals approvalLevels expense = .ok () := by
    have hnone : (before.find? (fun priorLevel => !isApprovedAt approvals priorLevel)) = none := by
      rw [List.find?_eq_none]
      intro level hl
      obtain ⟨d, hd, happroved⟩ := hbefore level hl
      have hlevel : d.approvalLevelId = level.id := by simpa using List.find?_some hd
      have hsome : isApprovedAt approvals level = true :=
        List.any_eq_true.2 ⟨d, List.mem_of_find?_eq_some hd, by simp [hlevel, happroved]⟩
      simp [hsome]
    simp [assertPriorLevelsComplete, hindex, hchain, hnone]
  simp only [assertReadyForStageApproval, hactive, hprior, ne_eq, not_true_eq_false, if_false]
  rfl

/-- At the active stage, the assertions only ask for the status of the stage. -/
theorem assertReadyForStageApproval_eq_ok {expense : ExpenseEntity}
    {approvalLevels before after : List ApprovalLevel} {u : Unit}
    (hnd : (approvalLevels.map (·.id)).Nodup)
    (hactive : getActiveStage expense approvalLevels approvals = some stage)
    (hchain : getRequiredLevels expense approvalLevels = before ++ stage :: after)
    (hbefore : ∀ level ∈ before, ∃ d, decisionAt approvals level = some d ∧ d.decision = .APPROVED) :
    assertReadyForStageApproval stage expense approvalLevels approvals = .ok u ↔
      expense.status = statusForStage before stage := by
  rw [assertReadyForStageApproval_of_active hnd hactive hchain hbefore, assertExpenseStatusForStage,
    stageIndex?_of_chain hnd hchain]
  cases before with
  | nil =>
    cases htype : stage.approverType <;> simp only [List.length_nil, statusForStage, htype] <;>
      split <;> simp_all
  | cons level rest =>
    simp only [List.length_cons, statusForStage, reduceCtorEq, false_and, if_false]
    split <;> simp_all

end ActiveStage

end Expentra.ApprovalRouting
