-- SUMMARY: The chain of an expense as it is displayed, and that it says what was decided and what is next.
import Expentra.Approval.Routing
import Expentra.Library.Table

/-!
# The displayed chain

`buildApprovalChain` shows each required level as approved, rejected, pending or waiting. It
looks for the decision at a level by itself, and takes the level that is next from
`getActiveStage`, which looks through the levels a second time. The decisions may be of
another catalogue than the levels: what matters is that there is one at most for a level.
-/

namespace Expentra.ApprovalRouting

open Library

inductive ApprovalChainStepStatus where
  | waiting
  | pending
  | approved
  | rejected
deriving DecidableEq, Repr

structure ApprovalChainActor where
  reference : String
  email : String
  firstName : Option String
  lastName : Option String
deriving DecidableEq, Repr

structure ApprovalChainStep where
  level : Int
  name : String
  approverType : ApprovalApproverType
  status : ApprovalChainStepStatus
  decidedAt : Option Instant
  decidedBy : Option ApprovalChainActor
deriving DecidableEq, Repr

/-- A decision with its relation `approver`: what the chain shows of the user, if there is
    one. -/
structure LoadedApproval extends ExpenseApproval where
  approver : Option ApprovalChainActor
deriving DecidableEq, Repr

/-- The step of a level, given the stage that is active. -/
def chainStep (activeStage : Option ApprovalLevel) (approvals : List LoadedApproval)
    (level : ApprovalLevel) : ApprovalChainStep :=
  let step (status : ApprovalChainStepStatus) (decision : Option LoadedApproval) :=
    { level := level.level
      name := level.name
      approverType := level.approverType
      status
      decidedAt := decision.map (·.decidedAt)
      decidedBy := decision.bind (·.approver) : ApprovalChainStep }
  match approvals.find? (fun approval => approval.approvalLevelId = level.id) with
  | some decision =>
    match decision.decision with
    | .APPROVED => step .approved (some decision)
    | .REJECTED => step .rejected (some decision)
  | none =>
    if activeStage.map (·.id) = some level.id then step .pending none else step .waiting none

def buildApprovalChain (expense : ExpenseEntity) (approvalLevels : List ApprovalLevel)
    (approvals : List LoadedApproval) : List ApprovalChainStep :=
  let activeStage := getActiveStage expense approvalLevels (approvals.map (·.toExpenseApproval))
  (getRequiredLevels expense approvalLevels).map (chainStep activeStage approvals)

/-- Decisions of which there is one at most for a level. -/
abbrev Decisions := Table (fun approval : LoadedApproval => approval.approvalLevelId)

/-! ## What a step says -/

section Step

variable {activeStage : Option ApprovalLevel} {approvals : Decisions} {level : ApprovalLevel}
  {decision : ApprovalDecision}

/-- A level has the decision. -/
def Decided (approvals : List LoadedApproval) (level : ApprovalLevel) (decision : ApprovalDecision) :
    Prop :=
  ∃ approval ∈ approvals, approval.approvalLevelId = level.id ∧ approval.decision = decision

theorem decided_iff : Decided approvals.rows level decision ↔
    ∃ approval, approvals.find? level.id = some approval ∧ approval.decision = decision := by
  constructor
  · rintro ⟨approval, hmem, hlevel, hdecision⟩
    exact ⟨approval, Table.find?_eq_some.2 ⟨hmem, hlevel⟩, hdecision⟩
  · rintro ⟨approval, hfound, hdecision⟩
    obtain ⟨hmem, hlevel⟩ := Table.find?_eq_some.1 hfound
    exact ⟨approval, hmem, hlevel, hdecision⟩

/-- The scan of `getActiveStage` finds the decision the step shows. -/
theorem decisionAt_rows : decisionAt (approvals.rows.map (·.toExpenseApproval)) level =
    (approvals.find? level.id).map (·.toExpenseApproval) := by
  rw [decisionAt, List.find?_map]
  rfl

/-- The status of a step that shows a decision. -/
def statusOf : ApprovalDecision → ApprovalChainStepStatus
  | .APPROVED => .approved
  | .REJECTED => .rejected

theorem chainStep_of_decided {approval : LoadedApproval}
    (hfound : approvals.find? level.id = some approval) :
    (chainStep activeStage approvals.rows level).status = statusOf approval.decision := by
  have hfind : approvals.rows.find? (fun approval => approval.approvalLevelId = level.id) =
      some approval := hfound
  rw [chainStep]
  simp only [hfind]
  cases approval.decision <;> rfl

theorem chainStep_of_undecided (hnone : approvals.find? level.id = none) :
    (chainStep activeStage approvals.rows level).status =
      if activeStage.map (·.id) = some level.id then .pending else .waiting := by
  have hfind : approvals.rows.find? (fun approval => approval.approvalLevelId = level.id) = none :=
    hnone
  rw [chainStep]
  simp only [hfind]
  split <;> rfl

theorem chainStep_listed {approvals : List LoadedApproval} :
    ((chainStep activeStage approvals level).level, (chainStep activeStage approvals level).name,
        (chainStep activeStage approvals level).approverType) =
      (level.level, level.name, level.approverType) := by
  unfold chainStep
  dsimp only
  split
  · split <;> rfl
  · split <;> rfl

theorem status_eq_statusOf (decision : ApprovalDecision) :
    (chainStep activeStage approvals.rows level).status = statusOf decision ↔
      Decided approvals.rows level decision := by
  rw [decided_iff]
  cases hfound : approvals.find? level.id with
  | none =>
    rw [chainStep_of_undecided hfound]
    cases decision <;> split <;> simp [statusOf]
  | some approval =>
    rw [chainStep_of_decided hfound]
    cases hdecision : approval.decision <;> cases decision <;> simp [statusOf, hdecision]

theorem status_eq_pending : (chainStep activeStage approvals.rows level).status = .pending ↔
    approvals.find? level.id = none ∧ activeStage.map (·.id) = some level.id := by
  cases hfound : approvals.find? level.id with
  | none =>
    rw [chainStep_of_undecided hfound]
    split <;> simp_all
  | some approval =>
    rw [chainStep_of_decided hfound]
    cases approval.decision <;> simp [statusOf]

end Step

/-! ## The chain and the active stage -/

/-- A level a decision is needed at. -/
def isRequired (expense : ExpenseEntity) (level : ApprovalLevel) : Bool :=
  level.isActive && levelAppliesToExpense level expense.amount.val &&
    (level.approverType ≠ .DEPARTMENT_MANAGER || !shouldSkipDepartmentManagerStage expense)

/-- The displayed chain lists the required levels, and what it says of each is so. -/
structure Truthful (expense : ExpenseEntity) (levels : List ApprovalLevel)
    (approvals : List LoadedApproval) : Prop where
  required : (getRequiredLevels expense levels).Perm (levels.filter (isRequired expense))
  ordered : (getRequiredLevels expense levels).Pairwise (fun left right => left.level ≤ right.level)
  listed : (buildApprovalChain expense levels approvals).map
      (fun step => (step.level, step.name, step.approverType)) =
    (getRequiredLevels expense levels).map (fun level => (level.level, level.name, level.approverType))
  approved : ∀ (i : Nat) (level : ApprovalLevel) (step : ApprovalChainStep),
    (getRequiredLevels expense levels)[i]? = some level →
    (buildApprovalChain expense levels approvals)[i]? = some step →
      (step.status = .approved ↔ Decided approvals level .APPROVED)
  rejected : ∀ (i : Nat) (level : ApprovalLevel) (step : ApprovalChainStep),
    (getRequiredLevels expense levels)[i]? = some level →
    (buildApprovalChain expense levels approvals)[i]? = some step →
      (step.status = .rejected ↔ Decided approvals level .REJECTED)
  pending : ∀ (i : Nat) (level : ApprovalLevel) (step : ApprovalChainStep),
    (getRequiredLevels expense levels)[i]? = some level →
    (buildApprovalChain expense levels approvals)[i]? = some step →
      (step.status = .pending ↔
        getActiveStage expense levels (approvals.map (·.toExpenseApproval)) = some level)
  approvedBefore : ∀ (i j : Nat) (step earlier : ApprovalChainStep),
    (buildApprovalChain expense levels approvals)[i]? = some step → step.status = .pending →
    j < i → (buildApprovalChain expense levels approvals)[j]? = some earlier →
      earlier.status = .approved
  notAfterRejection : ∀ (i j : Nat) (step earlier : ApprovalChainStep),
    (buildApprovalChain expense levels approvals)[i]? = some step →
    j < i → (buildApprovalChain expense levels approvals)[j]? = some earlier →
    earlier.status = .rejected → step.status ≠ .pending
  onlyWhileUndecided : expense.status ≠ .SUBMITTED → expense.status ≠ .UNDER_REVIEW →
    ∀ step ∈ buildApprovalChain expense levels approvals, step.status ≠ .pending

section Chain

variable {expense : ExpenseEntity} {levels : Table ApprovalLevel.id} {approvals : Decisions}
  {level : ApprovalLevel}

theorem getElem?_buildApprovalChain {levels : List ApprovalLevel} {approvals : List LoadedApproval}
    {i : Nat} {step : ApprovalChainStep} :
    (buildApprovalChain expense levels approvals)[i]? = some step ↔
      ∃ level, (getRequiredLevels expense levels)[i]? = some level ∧
        chainStep (getActiveStage expense levels (approvals.map (·.toExpenseApproval))) approvals
          level = step := by
  rw [buildApprovalChain, List.getElem?_map, Option.map_eq_some_iff]

theorem required_perm (expense : ExpenseEntity) (levels : List ApprovalLevel) :
    (getRequiredLevels expense levels).Perm (levels.filter (isRequired expense)) := by
  refine (List.perm_insertionSort _ _).trans (List.Perm.of_eq ?_)
  rw [List.filter_filter, List.filter_filter]
  refine List.filter_congr fun level _ => ?_
  rw [isRequired, Bool.and_comm, Bool.and_assoc, Bool.and_comm (levelAppliesToExpense _ _)]

theorem required_ordered (expense : ExpenseEntity) (levels : List ApprovalLevel) :
    (getRequiredLevels expense levels).Pairwise (fun left right => left.level ≤ right.level) := by
  have htotal : Std.Total (fun left right : ApprovalLevel => left.level ≤ right.level) :=
    ⟨fun left right => Int.le_total left.level right.level⟩
  have htrans : IsTrans ApprovalLevel (fun left right => left.level ≤ right.level) :=
    ⟨fun _ _ _ => Int.le_trans⟩
  exact List.pairwise_insertionSort _ _

/-- A pending step is the active stage. -/
theorem pending_iff (hmem : level ∈ getRequiredLevels expense levels.rows) :
    (chainStep (getActiveStage expense levels.rows (approvals.rows.map (·.toExpenseApproval)))
        approvals.rows level).status = .pending ↔
      getActiveStage expense levels.rows (approvals.rows.map (·.toExpenseApproval)) = some level := by
  rw [status_eq_pending]
  constructor
  · rintro ⟨-, hid⟩
    obtain ⟨stage, hactive, hid⟩ := Option.map_eq_some_iff.1 hid
    obtain ⟨-, hstage⟩ := getActiveStage_eq_some.1 hactive
    obtain ⟨before, after, hchain, -, -⟩ := firstUndecided_eq_some.1 hstage
    have hstage : stage ∈ getRequiredLevels expense levels.rows := by
      rw [hchain]
      exact List.mem_append_right before List.mem_cons_self
    have hnodup : ((getRequiredLevels expense levels.rows).map (·.id)).Nodup :=
      nodup_getRequiredLevels levels.nodup
    rw [hactive, List.inj_on_of_nodup_map hnodup hstage hmem hid]
  · intro hactive
    obtain ⟨-, hstage⟩ := getActiveStage_eq_some.1 hactive
    obtain ⟨before, after, hchain, hnone, -⟩ := firstUndecided_eq_some.1 hstage
    rw [decisionAt_rows, Option.map_eq_none_iff] at hnone
    exact ⟨hnone, by rw [hactive]; rfl⟩

/-- The levels before the active stage are approved. -/
theorem approved_before_active {i j : Nat} {earlier : ApprovalLevel}
    (hactive : getActiveStage expense levels.rows (approvals.rows.map (·.toExpenseApproval)) =
      some level)
    (hi : (getRequiredLevels expense levels.rows)[i]? = some level) (hij : j < i)
    (hj : (getRequiredLevels expense levels.rows)[j]? = some earlier) :
    Decided approvals.rows earlier .APPROVED := by
  obtain ⟨-, hstage⟩ := getActiveStage_eq_some.1 hactive
  obtain ⟨before, after, hchain, -, hbefore⟩ := firstUndecided_eq_some.1 hstage
  have hnodup : (getRequiredLevels expense levels.rows).Nodup :=
    (nodup_getRequiredLevels levels.nodup).of_map
  -- the level stands at one place only
  have hplace : (getRequiredLevels expense levels.rows)[before.length]? = some level := by
    rw [hchain, List.getElem?_append_right (Nat.le_refl _), Nat.sub_self]
    rfl
  have hlength : i < (getRequiredLevels expense levels.rows).length :=
    (List.getElem?_eq_some_iff.1 hi).1
  have hindex : i = before.length :=
    (List.getElem?_inj hlength hnodup).1 (hi.trans hplace.symm)
  rw [hchain, List.getElem?_append_left (hindex ▸ hij)] at hj
  obtain ⟨decision, hdecision, happroved⟩ := hbefore earlier (List.mem_of_getElem? hj)
  rw [decisionAt_rows] at hdecision
  obtain ⟨approval, hfound, rfl⟩ := Option.map_eq_some_iff.1 hdecision
  exact decided_iff.2 ⟨approval, hfound, happroved⟩

theorem approved_before_pending {i j : Nat} {step earlier : ApprovalChainStep}
    (hstep : (buildApprovalChain expense levels.rows approvals.rows)[i]? = some step)
    (hpending : step.status = .pending) (hij : j < i)
    (hearlier : (buildApprovalChain expense levels.rows approvals.rows)[j]? = some earlier) :
    earlier.status = .approved := by
  obtain ⟨level, hlevel, rfl⟩ := getElem?_buildApprovalChain.1 hstep
  obtain ⟨level', hlevel', rfl⟩ := getElem?_buildApprovalChain.1 hearlier
  have hactive := (pending_iff (List.mem_of_getElem? hlevel)).1 hpending
  exact (status_eq_statusOf .APPROVED).2 (approved_before_active hactive hlevel hij hlevel')

end Chain

/-- Whatever catalogue the decisions were taken under, the displayed chain is truthful. -/
theorem buildApprovalChain_truthful (expense : ExpenseEntity) (levels : Table ApprovalLevel.id)
    (approvals : Decisions) : Truthful expense levels.rows approvals.rows where
  required := required_perm expense levels.rows
  ordered := required_ordered expense levels.rows
  listed := by
    rw [buildApprovalChain, List.map_map]
    exact List.map_congr_left fun level _ => chainStep_listed
  approved := by
    intro i level step hlevel hstep
    obtain ⟨_, hlevel', rfl⟩ := getElem?_buildApprovalChain.1 hstep
    obtain rfl := Option.some.inj (hlevel.symm.trans hlevel')
    exact status_eq_statusOf .APPROVED
  rejected := by
    intro i level step hlevel hstep
    obtain ⟨_, hlevel', rfl⟩ := getElem?_buildApprovalChain.1 hstep
    obtain rfl := Option.some.inj (hlevel.symm.trans hlevel')
    exact status_eq_statusOf .REJECTED
  pending := by
    intro i level step hlevel hstep
    obtain ⟨_, hlevel', rfl⟩ := getElem?_buildApprovalChain.1 hstep
    obtain rfl := Option.some.inj (hlevel.symm.trans hlevel')
    exact pending_iff (List.mem_of_getElem? hlevel)
  approvedBefore := fun _ _ _ _ hstep hpending hij hearlier =>
    approved_before_pending hstep hpending hij hearlier
  notAfterRejection := by
    intro i j step earlier hstep hij hearlier hrejected hpending
    have happroved := approved_before_pending hstep hpending hij hearlier
    rw [hrejected] at happroved
    cases happroved
  onlyWhileUndecided := by
    intro hsubmitted hreview step hstep hpending
    obtain ⟨i, hi⟩ := List.getElem?_of_mem hstep
    obtain ⟨level, hlevel, rfl⟩ := getElem?_buildApprovalChain.1 hi
    have hactive := (pending_iff (List.mem_of_getElem? hlevel)).1 hpending
    obtain ⟨hstatus, -⟩ := getActiveStage_eq_some.1 hactive
    exact (ExpenseStatus.isPending_eq_true.1 hstatus).elim hsubmitted hreview

end Expentra.ApprovalRouting
