-- SUMMARY: The steps that leave every pending expense decidable, and the runs in which no expense is ever stuck.
import Expentra.Approval.Pending

/-!
# Stuck expenses

A submission starts an expense in the status that fits its chain. Afterwards the
fit is at the mercy of the catalogue and of the managers: each change has to leave
every pending expense a fit, and where such a change put an open level before
decided ones, the approval of that level has to leave another one open.
-/

namespace Expentra

open Library ApprovalRouting

/-- The chain from its first level without a decision on. -/
def openLevels (db : Db) (row : Expense) : List ApprovalLevel :=
  (chain db row).dropWhile (fun level => (decisionOf db row level).isSome)

/-- After the first open level the chain ends, or another level is open. -/
def StaysOpen (db : Db) (row : Expense) : Prop :=
  ∀ stage after, openLevels db row = stage :: after → after ≠ [] →
    ∃ level ∈ after, decisionOf db row level = none

/-- A change of the catalogue or of a department leaves every pending expense a
    fit, and an approval that goes through is of the last level of the chain or leaves
    an open one. -/
def keepsDecidable (cfg : Config) : Guard Db Operation := fun db op =>
  ∀ db', op.perform cfg db = .ok ((), db') →
    (op.changesRouting = true → AllFit db') ∧
    (∀ now authUser expenseId input, op = .approve now authUser expenseId input →
      ∀ row, db.expenses.find? expenseId = some row → StaysOpen db row)

section Fits

variable {cfg : Config} {db db' : Db} {row row' : Expense} {level : ApprovalLevel}

/-- The chain depends on the catalogue, the department, the amount and the owner. -/
theorem chain_congr (hlevels : db'.levels = db.levels) (hdepartments : db'.departments = db.departments)
    (hamount : row'.amount = row.amount) (hdepartment : row'.departmentId = row.departmentId)
    (howner : row'.userId = row.userId) : chain db' row' = chain db row := by
  have hactive : db'.activeLevels = db.activeLevels := by rw [Db.activeLevels, hlevels, Db.activeLevels]
  have hrelation : db'.departmentRelation row'.departmentId = db.departmentRelation row.departmentId := by
    rw [Db.departmentRelation, hdepartments, hdepartment, Db.departmentRelation]
  have hentity : (db'.withRelations row').amount = (db.withRelations row).amount := hamount
  have hskip : shouldSkipDepartmentManagerStage (db'.withRelations row') =
      shouldSkipDepartmentManagerStage (db.withRelations row) :=
    shouldSkipDepartmentManagerStage_congr howner hrelation
  rw [chain, hactive, getRequiredLevels_congr hentity hskip]
  rfl

theorem decisionOf_eq_none : decisionOf db row level = none ↔
    ∀ a ∈ db.approvals, a.expenseId = row.id → a.approvalLevelId ≠ level.id := by
  rw [decisionOf, decisionAt_eq_none]
  constructor
  · intro h a ha hid
    exact h a (mem_approvalsOf.2 ⟨ha, hid⟩)
  · intro h a ha
    exact h a (mem_approvalsOf.1 ha).1 (mem_approvalsOf.1 ha).2

/-- The same status, chain and open levels fit alike. -/
theorem Fits.congr (h : Fits db row) (hstatus : row'.status = row.status)
    (hchain : chain db' row' = chain db row)
    (hopen : ∀ level, decisionOf db' row' level = none ↔ decisionOf db row level = none) :
    Fits db' row' := by
  constructor
  · intro hsubmitted
    rw [hchain]
    exact h.submitted (hstatus ▸ hsubmitted)
  · intro hreview
    obtain ⟨⟨level, hl, hnone⟩, hfirst⟩ := h.underReview (hstatus ▸ hreview)
    refine ⟨⟨level, hchain ▸ hl, (hopen level).2 hnone⟩, fun first rest heq => ?_⟩
    exact (hfirst first rest (hchain ▸ heq)).imp (fun hne hnone => hne ((hopen first).1 hnone)) id

/-- An expense a transition does not touch fits as before. -/
theorem Transition.fits_other {after : ExpenseEntity} {approvals : Table ExpenseApproval.key}
    {comments : List ExpenseComment} {events : List OutboxEvent} {e : Expense}
    (h : Transition cfg db row after approvals comments events db') (hne : e.id ≠ row.id)
    (hkept : ∀ a ∈ db.approvals, a.expenseId ≠ row.id → a ∈ approvals) (hfits : Fits db e) :
    Fits db' e := by
  refine hfits.congr rfl (chain_congr h.levels_eq h.departments_eq rfl rfl rfl) (fun level => ?_)
  rw [decisionOf_eq_none, decisionOf_eq_none, h.approvals_eq]
  constructor
  · intro hnone a ha hid
    exact hnone a (hkept a ha (hid ▸ hne)) hid
  · intro hnone a ha hid
    rcases h.decided a ha with ha | hrow
    · exact hnone a ha hid
    · exact absurd (hid.symm.trans hrow) hne

/-- A transition keeps the decisions on the other expenses. -/
theorem Moves.kept {op : Operation} {after : ExpenseEntity} {approvals : Table ExpenseApproval.key}
    (h : Moves db row op after approvals) :
    ∀ a ∈ db.approvals, a.expenseId ≠ row.id → a ∈ approvals := by
  intro a ha hne
  cases h with
  | edit _ _ => exact ha
  | submit _ _ => exact ha
  | approve _ _ _ hins _ => exact (Table.mem_insert hins).2 (.inl ha)
  | reject _ _ hins => exact (Table.mem_insert hins).2 (.inl ha)
  | reopen _ => exact Table.mem_keep.2 ⟨ha, by simpa using hne⟩
  | reimburse _ => exact ha

/-! ## Submission -/

/-- Without a department-manager level the department does not matter. -/
theorem getRequiredLevels_of_no_manager {expense expense' : ExpenseEntity}
    {approvalLevels : List ApprovalLevel} (hamount : expense'.amount = expense.amount)
    (hnone : ∀ level ∈ approvalLevels, level.isActive = true →
      level.approverType ≠ .DEPARTMENT_MANAGER) :
    getRequiredLevels expense' approvalLevels = getRequiredLevels expense approvalLevels := by
  unfold getRequiredLevels
  rw [hamount]
  congr 1
  refine List.filter_congr (fun level hl => ?_)
  obtain ⟨hl, -⟩ := List.mem_filter.1 hl
  obtain ⟨hl, hactive⟩ := List.mem_filter.1 hl
  simp [hnone level hl hactive]

/-- The chain a submission routes by is the chain of the row it saves. -/
theorem chain_submitted {departmentId : Nat} (hlevels : db'.levels = db.levels)
    (hdepartments : db'.departments = db.departments) (hamount : row'.amount = row.amount)
    (hdepartment : row'.departmentId = some departmentId) (howner : row'.userId = row.userId)
    (hmanager : ExpenseSubmit.lacksDepartmentManager db (ExpenseSubmit.routed db row departmentId)
      db.activeLevels = false) :
    chain db' row' = getRequiredLevels (ExpenseSubmit.routed db row departmentId) db.activeLevels := by
  have hactive : db'.activeLevels = db.activeLevels := by rw [Db.activeLevels, hlevels, Db.activeLevels]
  have hentity : (db'.withRelations row').amount =
      (ExpenseSubmit.routed db row departmentId).amount := hamount
  have hrelation : db'.departmentRelation row'.departmentId =
      db.departmentRelation (some departmentId) := by
    rw [Db.departmentRelation, hdepartments, hdepartment, Db.departmentRelation]
  rw [chain, hactive]
  cases hfilter : (db.departmentRelation (some departmentId)).filter (·.isActive) with
  | some department =>
    -- the department is active: both expenses carry it
    have hsome : db.departmentRelation (some departmentId) = some department :=
      (Option.filter_eq_some_iff.1 hfilter).1
    have hdepartment' : (db'.withRelations row').department =
        (ExpenseSubmit.routed db row departmentId).department :=
      hrelation.trans (hsome.trans hfilter.symm)
    exact getRequiredLevels_congr hentity (shouldSkipDepartmentManagerStage_congr howner hdepartment')
  | none =>
    -- without an active department the submission was checked to need no manager
    refine getRequiredLevels_of_no_manager hentity (fun level hl hlevel htype => ?_)
    have hskip : shouldSkipDepartmentManagerStage (ExpenseSubmit.routed db row departmentId) = false := by
      simp [shouldSkipDepartmentManagerStage, ExpenseSubmit.routed, hfilter]
    have hnone : ExpenseSubmit.activeDepartment db (ExpenseSubmit.routed db row departmentId) = none := by
      simpa [ExpenseSubmit.activeDepartment, ExpenseSubmit.routed] using hfilter
    have hany : db.activeLevels.any (fun level =>
        level.isActive && level.approverType = .DEPARTMENT_MANAGER) = true :=
      List.any_eq_true.2 ⟨level, hl, by simp [hlevel, htype]⟩
    rw [ExpenseSubmit.lacksDepartmentManager, hany, hskip, hnone] at hmanager
    cases hmanager

/-- A submission starts the expense with a fit. -/
theorem fits_of_commitSubmit {now submitAt : Instant} {authUser : AuthUser} {reference : String}
    (hstaged : AllStaged db) (hfit : AllFit db)
    (h : ExpenseSubmit.commitSubmit cfg now authUser reference submitAt db = .ok ((), db')) :
    AllFit db' := by
  obtain ⟨row, departmentId, _, -, hdraft, -, -, hmanager, htransition⟩ := commitSubmit_effect h
  intro e he hpending
  rcases htransition.eq_or_mem he with rfl | ⟨he, hne⟩
  · rw [ExpenseSubmit.submitted_eq] at hpending ⊢
    have hchain := @chain_submitted db db' row (row.save { ExpenseSubmit.routed db row departmentId with
      status := resolveInitialSubmitStatus (ExpenseSubmit.routed db row departmentId) db.activeLevels
      submittedAt := .value submitAt
      rejectedAt := .undefined
      reimbursedAt := .undefined
      approvedAt := if resolveInitialSubmitStatus (ExpenseSubmit.routed db row departmentId)
        db.activeLevels = .APPROVED then .value submitAt else .undefined }) departmentId
      htransition.levels_eq htransition.departments_eq rfl rfl rfl hmanager
    constructor
    · intro hsubmitted
      obtain ⟨first, rest, hfirst, htype⟩ := resolveInitialSubmitStatus_eq_submitted.1 hsubmitted
      exact ⟨first, rest, hchain.trans hfirst, htype⟩
    · intro hreview
      obtain ⟨first, rest, hfirst, htype⟩ := resolveInitialSubmitStatus_eq_underReview.1 hreview
      refine ⟨⟨first, by rw [hchain, hfirst]; exact List.mem_cons_self, ?_⟩, fun level _ hlevel => ?_⟩
      · rw [decisionOf_eq_none, htransition.approvals_eq]
        intro a ha hid
        exact absurd hid ((hstaged row htransition.mem).undecided (.inl hdraft) a ha)
      · obtain ⟨rfl, -⟩ := List.cons.inj (hlevel.symm.trans (hchain.trans hfirst))
        exact .inr htype
  · exact htransition.fits_other hne (fun _ ha _ => ha) (hfit e he hpending)

/-! ## Approval -/

/-- The open levels start at the ready stage. -/
theorem openLevels_eq {stage : ApprovalLevel} {before after : List ApprovalLevel}
    (hchain : getRequiredLevels (db.withRelations row) db.activeLevels = before ++ stage :: after)
    (hnone : decisionAt (db.approvalsOf row.id) stage = none)
    (hbefore : ∀ level ∈ before, ∃ d, decisionAt (db.approvalsOf row.id) level = some d ∧
      d.decision = .APPROVED) :
    openLevels db row = stage :: after := by
  have hskip : ∀ level ∈ before, (decisionOf db row level).isSome = true := by
    intro level hl
    obtain ⟨d, hd, -⟩ := hbefore level hl
    rw [decisionOf, hd]
    rfl
  rw [openLevels, chain, hchain, List.dropWhile_append_of_pos hskip, List.dropWhile_cons_of_neg]
  rw [decisionOf, hnone]
  simp

theorem staysOpen_iff {stage : ApprovalLevel} {after : List ApprovalLevel}
    (hopen : openLevels db row = stage :: after) :
    StaysOpen db row ↔ (after ≠ [] → ∃ level ∈ after, decisionOf db row level = none) := by
  constructor
  · exact fun h => h stage after hopen
  · intro h stage' after' heq hafter
    obtain ⟨rfl, rfl⟩ := List.cons.inj (hopen.symm.trans heq)
    exact h hafter

/-- A decision that is inserted decides its stage, and leaves every other level as before. -/
theorem decisionOf_insert {stage : ApprovalLevel} {approval : ExpenseApproval}
    {approvals : Table ExpenseApproval.key} (hins : db.approvals.insert? approval = some approvals)
    (hexpense : approval.expenseId = row.id) (hlevel : approval.approvalLevelId = stage.id)
    (happrovals : db'.approvals = approvals) (hid : row'.id = row.id) :
    decisionOf db' row' level = none ↔ decisionOf db row level = none ∧ level.id ≠ stage.id := by
  rw [decisionOf_eq_none, decisionOf_eq_none, happrovals, hid]
  constructor
  · intro hopen
    refine ⟨fun a ha hid => hopen a ((Table.mem_insert hins).2 (.inl ha)) hid, fun heq => ?_⟩
    exact hopen approval ((Table.mem_insert hins).2 (.inr rfl)) hexpense (hlevel.trans heq.symm)
  · rintro ⟨hopen, hne⟩ a ha hid
    rcases (Table.mem_insert hins).1 ha with ha | rfl
    · exact hopen a ha hid
    · exact fun heq => hne (heq.symm.trans hlevel)

/-- Under review behind a stage that has just been decided, an expense fits if and only if a
    level after the stage is open. -/
theorem fits_iff_open {stage : ApprovalLevel} {before after : List ApprovalLevel}
    (hchain : chain db row = before ++ stage :: after) (hids : ((chain db row).map (·.id)).Nodup)
    (hbefore : ∀ level ∈ before, decisionOf db row level ≠ none)
    (hchain' : chain db' row' = chain db row)
    (hopen : ∀ level, decisionOf db' row' level = none ↔
      decisionOf db row level = none ∧ level.id ≠ stage.id)
    (hstatus : row'.status = .UNDER_REVIEW) :
    Fits db' row' ↔ ∃ level ∈ after, decisionOf db row level = none := by
  constructor
  · intro hfits
    obtain ⟨⟨level, hl, hlnone⟩, -⟩ := hfits.underReview hstatus
    obtain ⟨hlopen, hlne⟩ := (hopen level).1 hlnone
    rw [hchain', hchain, List.mem_append, List.mem_cons] at hl
    rcases hl with hl | rfl | hl
    · exact absurd hlopen (hbefore level hl)
    · exact absurd rfl hlne
    · exact ⟨level, hl, hlopen⟩
  · rintro ⟨level, hl, hlopen⟩
    constructor
    · intro hsubmitted
      rw [hstatus] at hsubmitted
      cases hsubmitted
    · intro _
      have hlne : level.id ≠ stage.id := by
        rw [hchain, List.map_append, List.map_cons, List.nodup_append, List.nodup_cons] at hids
        exact fun heq => hids.2.1.1 (heq ▸ List.mem_map_of_mem hl)
      refine ⟨⟨level, ?_, (hopen level).2 ⟨hlopen, hlne⟩⟩, fun first rest hfirst => .inl ?_⟩
      · rw [hchain', hchain]
        exact List.mem_append_right _ (List.mem_cons_of_mem _ hl)
      · -- the first level is the stage just decided, or was decided before it
        rw [hchain', hchain] at hfirst
        rw [ne_eq, hopen]
        rintro ⟨hfirstOpen, hfirstNe⟩
        cases before with
        | nil =>
          obtain ⟨rfl, -⟩ := List.cons.inj hfirst
          exact hfirstNe rfl
        | cons b before =>
          obtain ⟨rfl, -⟩ := List.cons.inj hfirst
          exact hbefore b List.mem_cons_self hfirstOpen

/-- An approval leaves fits behind exactly when it is of the last level or leaves
    another level open. -/
theorem fits_of_approve {now : Instant} {authUser : AuthUser} {expenseId : Nat}
    {input : Approval.ApproveExpenseInput} (hfit : AllFit db)
    (h : Approval.approve cfg now authUser expenseId input db = .ok ((), db')) :
    AllFit db' ↔ ∀ row, db.expenses.find? expenseId = some row → StaysOpen db row := by
  obtain ⟨row, stage, approval, approvals, nextStatus, hfound, hready, hexpense, hlevel, -, -, hins,
    hnext, htransition⟩ := approve_effect h
  obtain ⟨before, after, hchain, hnone, hbefore⟩ := hready.chain
  rw [resolveStatusAfterLevelApproval_of_chain (nodup_activeLevels db) hchain] at hnext
  have hstays : (∀ row, db.expenses.find? expenseId = some row → StaysOpen db row) ↔
      (after ≠ [] → ∃ level ∈ after, decisionOf db row level = none) := by
    simp only [hfound, Option.some.injEq, forall_eq']
    exact staysOpen_iff (openLevels_eq hchain hnone hbefore)
  have hchain' : chain db' (row.save (Approval.approved (db.withRelations row) nextStatus now)) =
      chain db row := by
    refine chain_congr htransition.levels_eq htransition.departments_eq rfl ?_ rfl
    simp [Expense.save, Approval.approved, Db.withRelations, Expense.toEntity]
  have hmem' : row.save (Approval.approved (db.withRelations row) nextStatus now) ∈ db'.expenses :=
    Table.mem_of_find? htransition.find?_self
  have hreview : after ≠ [] → nextStatus = .UNDER_REVIEW := fun hafter => by
    rw [hnext, if_neg hafter]
  have hfits : after ≠ [] →
      (Fits db' (row.save (Approval.approved (db.withRelations row) nextStatus now)) ↔
        ∃ level ∈ after, decisionOf db row level = none) := by
    intro hafter
    refine fits_iff_open hchain (nodup_getRequiredLevels (nodup_activeLevels db))
      (fun level hl hopen => ?_) hchain'
      (fun level => decisionOf_insert hins hexpense hlevel htransition.approvals_eq rfl)
      (hreview hafter)
    obtain ⟨d, hd, -⟩ := hbefore level hl
    rw [decisionOf, hd] at hopen
    cases hopen
  rw [hstays]
  constructor
  · intro hfit' hafter
    exact (hfits hafter).1 (hfit' _ hmem' (by rw [hreview hafter]; rfl))
  · intro hafterOpen e he hpending
    rcases htransition.eq_or_mem he with rfl | ⟨he, hne⟩
    · have hafter : after ≠ [] := by
        rintro rfl
        rw [if_pos rfl] at hnext
        rw [hnext] at hpending
        cases hpending
      exact (hfits hafter).2 (hafterOpen hafter)
    · exact htransition.fits_other hne (fun a ha _ => (Table.mem_insert hins).2 (.inl ha))
        (hfit e he hpending)

end Fits

/-! ## Runs -/

section Runs

variable {cfg : Config} {db db' : Db} {op : Operation}

/-- A transition other than a submission or an approval leaves its row waiting for
    nobody. -/
theorem Moves.isPending_eq_false {row : Expense} {after : ExpenseEntity}
    {approvals : Table ExpenseApproval.key} (h : Moves db row op after approvals)
    (hsubmit : ∀ policies now authUser reference justifications,
      op ≠ .submit policies now authUser reference justifications)
    (happrove : ∀ now authUser expenseId input, op ≠ .approve now authUser expenseId input) :
    (row.save after).status.isPending = false := by
  cases h with
  | edit hdraft hedit =>
    rw [hedit]
    change row.status.isPending = false
    rw [hdraft]
    rfl
  | submit _ _ => exact absurd rfl (hsubmit _ _ _ _ _)
  | approve _ _ _ _ _ => exact absurd rfl (happrove _ _ _ _)
  | reject _ _ _ => rfl
  | reopen _ => rfl
  | reimburse _ => rfl

/-- Every operation but an approval or a change of the routing leaves fits behind. -/
theorem allFit_of_ok (hstaged : AllStaged db) (hfit : AllFit db) (hrouting : op.changesRouting = false)
    (happrove : ∀ now authUser expenseId input, op ≠ .approve now authUser expenseId input)
    (h : op.perform cfg db = .ok ((), db')) : AllFit db' := by
  cases hop : op.isTransition with
  | true =>
    by_cases hsubmit : ∃ policies now authUser reference justifications,
        op = .submit policies now authUser reference justifications
    · obtain ⟨policies, now, authUser, reference, justifications, rfl⟩ := hsubmit
      rw [Operation.perform] at h
      obtain ⟨_, _, -, -, -, -, hcommit⟩ := ExpenseSubmit.submit_eq_ok.1 h
      exact fits_of_commitSubmit hstaged hfit hcommit
    · obtain ⟨row, after, _, _, _, htransition, hmoves⟩ := transition_of_ok hop h
      intro e he hpending
      rcases htransition.eq_or_mem he with rfl | ⟨he, hne⟩
      · have hdone := hmoves.isPending_eq_false
          (fun policies now authUser reference justifications heq =>
            hsubmit ⟨policies, now, authUser, reference, justifications, heq⟩) happrove
        rw [hdone] at hpending
        cases hpending
      · exact htransition.fits_other hne hmoves.kept (hfit e he hpending)
  | false =>
    cases hadds : op.addsOrRemoves with
    | false =>
      obtain ⟨hframe, -, hrouted, -⟩ := frame_of_ok hop hadds h
      obtain ⟨hlevels, hdepartments⟩ := hrouted hrouting
      intro e he hpending
      rw [hframe.expenses] at he
      refine (hfit e he hpending).congr rfl (chain_congr hlevels hdepartments rfl rfl rfl) (fun level => ?_)
      rw [decisionOf_eq_none, decisionOf_eq_none, hframe.approvals]
    | true =>
      rcases inserted_or_deleted_of_ok hadds h with
        ⟨row, expenses, hins, -, ⟨_, _, _, _, _, _, _, _, hrow, -⟩, rfl⟩ | ⟨row, -, -, hdelete⟩
      · intro e he hpending
        rcases (Table.mem_insert hins).1 he with he | rfl
        · exact (hfit e he hpending).congr rfl (chain_congr rfl rfl rfl rfl rfl) (fun _ => Iff.rfl)
        · rw [hrow] at hpending
          cases hpending
      · cases Transaction.write_eq_ok.1 hdelete
        intro e he hpending
        obtain ⟨he, hkept⟩ := Table.mem_keep.1 he
        have hne : e.id ≠ row.id := by simpa using hkept
        refine (hfit e he hpending).congr rfl (chain_congr rfl rfl rfl rfl rfl) (fun level => ?_)
        rw [decisionOf_eq_none, decisionOf_eq_none]
        constructor
        · intro hnone a ha hid
          exact hnone a (Table.mem_keep.2 ⟨ha, by simpa [hid] using hne⟩) hid
        · intro hnone a ha hid
          exact hnone a (Table.mem_keep.1 ha).1 hid

/-- One step leaves fits behind exactly when it keeps the expenses decidable. -/
theorem allFit_step (hstaged : AllStaged db) (hfit : AllFit db) (hstep : Step cfg db op db') :
    AllFit db' ↔ keepsDecidable cfg db op := by
  by_cases hsucceeds : op.Succeeds cfg db
  · have hok := hstep.of_succeeds hsucceeds
    have hresult : keepsDecidable cfg db op ↔ (op.changesRouting = true → AllFit db') ∧
        (∀ now authUser expenseId input, op = .approve now authUser expenseId input →
          ∀ row, db.expenses.find? expenseId = some row → StaysOpen db row) := by
      constructor
      · intro hkeeps
        exact hkeeps db' hok
      · intro hcondition db₁ hok₁
        obtain ⟨-, rfl⟩ := Prod.mk.inj (Except.ok.inj (hok₁.symm.trans hok))
        exact hcondition
    rw [hresult]
    by_cases happrove : ∃ now authUser expenseId input, op = .approve now authUser expenseId input
    · obtain ⟨now, authUser, expenseId, input, rfl⟩ := happrove
      rw [Operation.perform] at hok
      rw [fits_of_approve hfit hok]
      constructor
      · intro hopen
        refine ⟨fun hrouting => (by cases hrouting), fun _ _ _ _ heq => ?_⟩
        cases heq
        exact hopen
      · intro hcondition
        exact hcondition.2 now authUser expenseId input rfl
    · have hne : ∀ now authUser expenseId input, op ≠ .approve now authUser expenseId input :=
        fun now authUser expenseId input heq => happrove ⟨now, authUser, expenseId, input, heq⟩
      constructor
      · intro hfit'
        exact ⟨fun _ => hfit', fun now authUser expenseId input heq =>
          absurd heq (hne now authUser expenseId input)⟩
      · intro hcondition
        cases hrouting : op.changesRouting with
        | true => exact hcondition.1 hrouting
        | false => exact allFit_of_ok hstaged hfit hrouting hne hok
  · rcases hstep.cases with hok | rfl
    · exact absurd ⟨db', hok⟩ hsucceeds
    · exact iff_of_true hfit (fun db₁ hok => absurd ⟨db₁, hok⟩ hsucceeds)

/-- Numbered and staged, a state has no stuck expense exactly when all fit. -/
theorem noneStuck_iff (hnumbered : Numbered db) (hstaged : AllStaged db) :
    NoneStuck cfg db ↔ AllFit db := by
  refine forall₂_congr (fun row hrow => ?_)
  exact forall_congr' (fun hpending => unstuck_iff hnumbered (hstaged row hrow) hrow hpending)

/-- From a system without expenses, no pending expense is stuck in any state of a run
    exactly when each step of the run keeps the pending expenses decidable. -/
theorem noneStuck_run {db₀ : Db} {tr : List (Operation × Db)} (hfresh : Fresh db₀)
    (hrun : Run (Step cfg) db₀ tr) :
    (∀ db ∈ Run.states db₀ tr, NoneStuck cfg db) ↔
      ∀ step ∈ Run.steps db₀ tr, keepsDecidable cfg step.1 step.2 := by
  have hinvariant : ∀ db op db', Numbered db ∧ AllStaged db → Step cfg db op db' →
      Numbered db' ∧ AllStaged db' := by
    rintro db op db' ⟨hnumbered, hstaged⟩ hstep
    exact ⟨numbered_step hnumbered hstep,
      hstep.preserves (fun _ hok => allStaged_of_ok hnumbered hstaged hok) hstaged⟩
  have hnone : ∀ row ∈ db₀.expenses, False := by
    intro row hrow
    rw [hfresh.expenses] at hrow
    cases hrow
  have hinit : Numbered db₀ ∧ AllStaged db₀ :=
    ⟨hfresh.numbered, fun row hrow => (hnone row hrow).elim⟩
  have hstates : (∀ db ∈ Run.states db₀ tr, NoneStuck cfg db) ↔ ∀ db ∈ Run.states db₀ tr, AllFit db := by
    refine forall₂_congr (fun db hdb => ?_)
    obtain ⟨hnumbered, hstaged⟩ := (hrun.reaches hdb).invariant
      (P := fun db => Numbered db ∧ AllStaged db) hinvariant hinit
    exact noneStuck_iff hnumbered hstaged
  rw [hstates]
  exact hrun.forall_states_iff (I := fun db => Numbered db ∧ AllStaged db) hinvariant
    (fun _ _ _ hI hfit hstep => allFit_step hI.2 hfit hstep) hinit
    (fun row hrow => (hnone row hrow).elim)

end Runs

/-- The lifecycle of an expense while nobody touches the catalogue. -/
theorem noneStuck_run_sample :
    (∀ db ∈ Run.states Sample.db (trace Sample.config Sample.lifecycle Sample.db),
        NoneStuck Sample.config db) ↔
      ∀ step ∈ Run.steps Sample.db (trace Sample.config Sample.lifecycle Sample.db),
        keepsDecidable Sample.config step.1 step.2 :=
  noneStuck_run Sample.fresh (run_trace Sample.config Sample.lifecycle Sample.db)

/-- While an expense waits for the department manager, the level of the manager is
    deactivated. -/
def Sample.deactivateManagerLevel : List Operation :=
  [Sample.createExpense, Sample.submit, .updateLevel Sample.managerLevel.reference
    ⟨none, none, none, none, none, .undefined, some false, .undefined⟩]

/-- The submitted expense now starts with finance, where a submitted expense is
    refused. -/
theorem deactivated_level_sticks :
    Fresh Sample.db ∧
      ¬ NoneStuck Sample.config (runAll Sample.config Sample.deactivateManagerLevel Sample.db) := by
  refine ⟨Sample.fresh, fun h => ?_⟩
  have hrows : ∃ row ∈ (runAll Sample.config Sample.deactivateManagerLevel Sample.db).expenses,
      row.status = .SUBMITTED ∧
        ∀ level ∈ chain (runAll Sample.config Sample.deactivateManagerLevel Sample.db) row,
          level.approverType = .FINANCE_MANAGER := by decide +kernel
  obtain ⟨row, hrow, hstatus, hfinance⟩ := hrows
  obtain ⟨first, rest, hchain, htype⟩ :=
    ((h row hrow (by rw [hstatus]; rfl)).fits hrow).submitted hstatus
  rw [hfinance first (by rw [hchain]; exact List.mem_cons_self)] at htype
  cases htype

end Expentra
