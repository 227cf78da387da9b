-- SUMMARY: When every expense that a list or the export shows to a user is one the user may read.
import Expentra.Expense.Query
import Expentra.Report.Spending

/-!
# Listing and reading

`canReadExpense` decides about one expense; the lists and the export decide by SQL
filters. The filters let more through than the policy: own expenses without a
permission to read, departments of the owner that are not the expense's, and in the
report the pending expenses of every department.
-/

namespace Expentra

namespace ExpenseListing

open Library ApprovalAccessPolicy ExpenseAccessPolicy ExpenseQueryService ReportService

/-- An expense is shown to a user, on a page of a list or in an export. -/
inductive Shows (t : ExpenseTable) (authUser : AuthUser) (expense : ExpenseEntity) : Prop
  | all {query : ListExpensesQuery} {result : PaginatedExpensesResult}
      (h : findAllExpenses t authUser query = .ok result) (hmem : expense ∈ result.data)
  | forApproval {now : Instant} {query : ListExpensesQuery} {result : PaginatedExpensesResult}
      (h : findForApprovalExpenses t now authUser query = .ok result) (hmem : expense ∈ result.data)
  | report {query : SpendingReportQuery} {expenses : List ExpenseEntity}
      (h : scopedExpenses t.db authUser query = .ok expenses) (hmem : expense ∈ expenses)

def ListingRespectsReading (t : ExpenseTable) (authUser : AuthUser) : Prop :=
  ∀ expense, Shows t authUser expense → canReadExpense authUser expense = true

/-! ## Reading -/

def ReadsAll (authUser : AuthUser) : Prop := hasPermission authUser .READ .EXPENSE (some .GLOBAL) = true

def ReadsOwn (authUser : AuthUser) : Prop :=
  hasPermission authUser .READ .EXPENSE (some .SELF) = true ∨ ReadsAll authUser

/-- Finance reads what is under review. -/
def ReviewsFinance (authUser : AuthUser) (row : Expense) : Prop :=
  row.status = .UNDER_REVIEW ∧ hasPermission authUser .REIMBURSE .EXPENSE (some .GLOBAL) = true

/-- Pending and within the user's decision rights, or under finance review. -/
def Reviews (db : Db) (authUser : AuthUser) (row : Expense) : Prop :=
  (row.status.isPending = true ∧ canDecideOnExpense authUser (db.withRelations row) = true) ∨
    ReviewsFinance authUser row

/-- A filter lets through only what the user may read. -/
structure ListsReadable (t : ExpenseTable) (authUser : AuthUser) : Prop where
  /-- `manage` on everything opens the list of all, without the global scope not the expenses. -/
  all : canManageAll authUser = true → ¬ ReadsAll authUser → ∀ row ∈ t.db.expenses.rows,
    row.userId ≠ authUser.id → row.status ≠ .DRAFT → Reviews t.db authUser row
  ownQueued : canDecideOnApproval authUser = true → ∀ row ∈ t.db.expenses.rows,
    row.userId = authUser.id → ReadsOwn authUser
  /-- The owner moved into a managed department, and the expense belongs to another. -/
  moved : hasGlobalApprovalPermission authUser = false → ¬ ReadsAll authUser →
    ∀ row ∈ t.db.expenses.rows, row.userId ≠ authUser.id → row.status.isPending = true →
      ∀ departmentId, row.departmentId = some departmentId →
        departmentId ∉ authUser.managedDepartmentIds →
        (∃ id ∈ authUser.managedDepartmentIds, ownerDepartmentId t.db row = some id) →
        ReviewsFinance authUser row
  ownReported : ∀ query departmentId, resolveDepartmentFilter t.db query = .ok departmentId →
    ∀ row ∈ t.db.expenses.rows, isSelected t.db query departmentId row = true →
      row.userId = authUser.id → ReadsOwn authUser
  /-- A manager of some department exports what is pending in every department. -/
  reported : isManagerApprover authUser = true → hasGlobalApprovalPermission authUser = false →
    ¬ ReadsAll authUser → ∀ query departmentId,
      resolveDepartmentFilter t.db query = .ok departmentId → ∀ row ∈ t.db.expenses.rows,
        isSelected t.db query departmentId row = true → row.userId ≠ authUser.id →
        row.status.isPending = true →
        isDepartmentManagerForExpense authUser (t.db.withRelations row) = true ∨
          ReviewsFinance authUser row

section Reading

variable {t : ExpenseTable} {db : Db} {authUser : AuthUser} {row : Expense}

theorem permissionGrants_manageAll {permission : AuthUserPermission}
    (h : permissionGrants permission .MANAGE .ALL none = true) :
    permission.action = .MANAGE ∧ permission.resource = .ALL := by
  obtain ⟨action, resource, scope⟩ := permission
  cases action <;> cases resource <;>
    simp [permissionGrants, actionAndResourceMatch] at h ⊢

/-- Who manages everything reads at least what is the user's own. -/
theorem readsOwn_of_canManageAll (h : canManageAll authUser = true) : ReadsOwn authUser := by
  rw [canManageAll, hasPermission, Bool.or_self_left, Bool.or_eq_true] at h
  rcases h with hadmin | hany
  · exact .inr (by rw [ReadsAll, hasPermission, hadmin, Bool.true_or])
  · obtain ⟨permission, hmem, hgrants⟩ := List.any_eq_true.1 hany
    obtain ⟨haction, hresource⟩ := permissionGrants_manageAll hgrants
    have hreads : hasPermission authUser .READ .EXPENSE (some permission.scope) = true := by
      rw [hasPermission, Bool.or_eq_true]
      refine .inr (List.any_eq_true.2 ⟨permission, hmem, ?_⟩)
      simp [permissionGrants, haction, hresource]
    cases hscope : permission.scope with
    | GLOBAL =>
      rw [hscope] at hreads
      exact .inr hreads
    | SELF =>
      rw [hscope] at hreads
      exact .inl hreads

theorem canReadExpense_own (hown : row.userId = authUser.id) :
    canReadExpense authUser (db.withRelations row) = true ↔ ReadsOwn authUser := by
  have huser : (db.withRelations row).userId = authUser.id := hown
  by_cases hdraft : (db.withRelations row).status = .DRAFT
  · rw [canReadExpense, if_pos hdraft, if_neg (not_not_intro huser), Bool.or_eq_true, Bool.or_eq_true]
    exact ⟨fun h => h.elim id readsOwn_of_canManageAll, .inl⟩
  · rw [canReadExpense, if_neg hdraft, if_pos huser]
    split
    · rename_i hall
      exact ⟨fun _ => .inr hall, fun _ => rfl⟩
    · rename_i hall
      exact ⟨.inl, fun h => h.resolve_right hall⟩

theorem canReadExpense_other (hother : row.userId ≠ authUser.id) :
    canReadExpense authUser (db.withRelations row) = true ↔
      row.status ≠ .DRAFT ∧ (ReadsAll authUser ∨ Reviews db authUser row) := by
  have huser : ¬ (db.withRelations row).userId = authUser.id := hother
  have hstatus : (db.withRelations row).status = row.status := rfl
  by_cases hdraft : row.status = .DRAFT
  · rw [canReadExpense, hstatus, if_pos hdraft, if_pos huser]
    exact ⟨fun h => (by cases h), fun h => absurd hdraft h.1⟩
  · rw [canReadExpense, hstatus, if_neg hdraft, if_neg huser]
    simp only [ReadsAll, Reviews, ReviewsFinance, ExpenseStatus.isPending_eq_true, ne_eq, hdraft,
      not_false_eq_true, true_and]
    split
    · rename_i hall
      simp [hall]
    · rename_i hall
      split
      · rename_i hpending
        simp_all
      · rename_i hpending
        simp_all

end Reading

/-! ## What each list shows -/

section Lists

variable {t : ExpenseTable} {db : Db} {now : Instant} {authUser : AuthUser} {row : Expense}
  {rows : List Expense} {expense : ExpenseEntity}

theorem mem_data {pagination : Pagination}
    (h : expense ∈ (executePaginatedQuery db pagination rows).data) :
    ∃ row ∈ rows, db.withRelations row = expense := by
  obtain ⟨row, hmem, hrow⟩ := List.mem_map.1 h
  exact ⟨row, List.mem_of_mem_drop (List.mem_of_mem_take hmem), hrow⟩

/-- The request for a page of everything a list has. -/
def pageOf (page : Nat) : ListExpensesQuery :=
  ⟨some false, false, false, none, none, none, some (page + 1), none⟩

theorem resolvePagination_pageOf {page : Nat} :
    resolvePagination (pageOf page) = ⟨page + 1, 20, page * 20⟩ := by
  have hdefault : orDefault (some ((page : Int) + 1)) 1 = page + 1 := by
    simp only [orDefault]
    exact if_neg (by omega)
  have hpage : (max 1 ((page : Int) + 1)).toNat = page + 1 := by omega
  rw [resolvePagination, show (pageOf page).page = some ((page : Int) + 1) from rfl, hdefault, hpage]
  rfl

/-- Every row of a list is on one of its pages. -/
theorem exists_page (db : Db) (h : row ∈ rows) : ∃ page,
    db.withRelations row ∈ (executePaginatedQuery db (resolvePagination (pageOf page)) rows).data := by
  obtain ⟨i, hi, rfl⟩ := List.getElem_of_mem h
  refine ⟨i / 20, List.mem_map_of_mem (List.mem_iff_getElem?.2 ⟨i % 20, ?_⟩)⟩
  have hlt : i % 20 < 20 := Nat.mod_lt i (by decide)
  rw [resolvePagination_pageOf]
  dsimp only
  rw [List.getElem?_take_of_lt hlt, List.getElem?_drop, Nat.div_add_mod' i 20,
    List.getElem?_eq_getElem hi]

theorem mem_applyListSort (t : ExpenseTable) (query : ListExpensesQuery) :
    row ∈ applyListSort t query rows ↔ row ∈ rows := List.mem_insertionSort _

theorem shows_all (hlist : assertCanListAllExpenses authUser = .ok ())
    (hrow : row ∈ t.db.expenses.rows) (hscope : excludeOthersDrafts authUser.id row = true) :
    Shows t authUser (t.db.withRelations row) := by
  have hkept : row ∈ t.db.expenses.rows.filter (fun row =>
      excludeOthersDrafts authUser.id row && applyListFilters (pageOf 0) row) :=
    List.mem_filter.2 ⟨hrow, Bool.and_eq_true_iff.2 ⟨hscope, rfl⟩⟩
  obtain ⟨page, hpage⟩ := exists_page t.db ((mem_applyListSort t (pageOf 0)).2 hkept)
  have hlisted : findAllExpenses t authUser (pageOf page) = .ok _ :=
    Except.bind_eq_ok.2 ⟨(), hlist, rfl⟩
  exact .all hlisted hpage

theorem all_scope {query : ListExpensesQuery} {result : PaginatedExpensesResult}
    (h : findAllExpenses t authUser query = .ok result) (hmem : expense ∈ result.data) :
    (ReadsAll authUser ∨ canManageAll authUser = true) ∧ ∃ row ∈ t.db.expenses.rows,
      t.db.withRelations row = expense ∧ (row.status = .DRAFT → row.userId = authUser.id) := by
  obtain ⟨_, hlist, h⟩ := Except.bind_eq_ok.1 h
  cases h
  obtain ⟨row, hrow, rfl⟩ := mem_data hmem
  obtain ⟨hrow, hfilters⟩ := List.mem_filter.1 ((mem_applyListSort _ _).1 hrow)
  refine ⟨?_, row, hrow, rfl, fun hdraft => ?_⟩
  · unfold assertCanListAllExpenses at hlist
    split at hlist
    · rename_i hallowed
      exact Bool.or_eq_true_iff.1 hallowed
    · cases hlist
  · have hscope := (Bool.and_eq_true_iff.1 hfilters).1
    simpa [excludeOthersDrafts, hdraft] using hscope

/-- What the list for approval asks of a row, for either kind of approver. -/
def ApprovalScope (db : Db) (authUser : AuthUser) (row : Expense) : Prop :=
  row.userId = authUser.id ∨ (row.status.isPending = true ∧
    (hasGlobalApprovalPermission authUser = true ∨
      (∃ id ∈ authUser.managedDepartmentIds, row.departmentId = some id) ∨
      ∃ id ∈ authUser.managedDepartmentIds, ownerDepartmentId db row = some id))

theorem any_contains {departmentId : Option Nat} {ids : List Nat} :
    departmentId.any ids.contains = true ↔ ∃ id ∈ ids, departmentId = some id := by
  cases departmentId <;> simp

theorem managerScope_iff (hglobal : hasGlobalApprovalPermission authUser = false) :
    managerScope db authUser row = true ↔ ApprovalScope db authUser row := by
  simp only [managerScope, ApprovalScope, Bool.or_eq_true, Bool.and_eq_true, decide_eq_true_eq,
    any_contains, hglobal, Bool.false_eq_true, false_or]

theorem globalScope_iff (hglobal : hasGlobalApprovalPermission authUser = true) :
    globalScope authUser row = true ↔ ApprovalScope db authUser row := by
  simp only [globalScope, ApprovalScope, Bool.or_eq_true, decide_eq_true_eq, hglobal, true_or,
    and_true, or_comm]

theorem isManagerApprover_of_mem {id : Nat} (h : id ∈ authUser.managedDepartmentIds) :
    isManagerApprover authUser = true := decide_eq_true (List.length_pos_of_mem h)

/-- Either filter is the scope of an approver. -/
theorem approvalScope_iff (hdecides : canDecideOnApproval authUser = true) :
    (if (isManagerApprover authUser && !hasGlobalApprovalPermission authUser) = true
      then managerScope db authUser row else globalScope authUser row) = true ↔
      ApprovalScope db authUser row := by
  cases hglobal : hasGlobalApprovalPermission authUser with
  | true =>
    rw [Bool.not_true, Bool.and_false, if_neg Bool.false_ne_true]
    exact globalScope_iff hglobal
  | false =>
    rw [canDecideOnApproval, hglobal, Bool.false_or] at hdecides
    rw [hdecides, Bool.not_false, Bool.and_self, if_pos rfl]
    exact managerScope_iff hglobal

theorem forApproval_scope {query : ListExpensesQuery} {result : PaginatedExpensesResult}
    (h : findForApprovalExpenses t now authUser query = .ok result) (hmem : expense ∈ result.data) :
    canDecideOnApproval authUser = true ∧ ∃ row ∈ t.db.expenses.rows,
      t.db.withRelations row = expense ∧ ApprovalScope t.db authUser row := by
  obtain ⟨_, hlist, h⟩ := Except.bind_eq_ok.1 h
  have hdecides : canDecideOnApproval authUser = true := by
    unfold assertCanListForApprovalExpenses at hlist
    split at hlist
    · assumption
    · cases hlist
  refine ⟨hdecides, ?_⟩
  dsimp only at h
  split at h
  · cases h
    exact absurd hmem List.not_mem_nil
  · cases h
    obtain ⟨row, hrow, rfl⟩ := mem_data hmem
    obtain ⟨hrow, hfilters⟩ := List.mem_filter.1 ((mem_applyListSort _ _).1 hrow)
    refine ⟨row, hrow, rfl, ?_⟩
    have hscope := (Bool.and_eq_true_iff.1 (Bool.and_eq_true_iff.1 (Bool.and_eq_true_iff.1 hfilters).1).1).1
    exact (approvalScope_iff hdecides).1 hscope

theorem shows_forApproval (hdecides : canDecideOnApproval authUser = true)
    (hrow : row ∈ t.db.expenses.rows) (hscope : ApprovalScope t.db authUser row) :
    Shows t authUser (t.db.withRelations row) := by
  have hlist : assertCanListForApprovalExpenses authUser = .ok () := if_pos hdecides
  have hsome : ¬ (isManagerApprover authUser && !hasGlobalApprovalPermission authUser &&
      authUser.managedDepartmentIds.length = 0) = true := by
    simp only [isManagerApprover, Bool.and_eq_true, decide_eq_true_eq]
    omega
  have hkept : row ∈ t.db.expenses.rows.filter (fun row =>
      (if isManagerApprover authUser && !hasGlobalApprovalPermission authUser then
        managerScope t.db authUser row else globalScope authUser row) &&
        applyListFilters (pageOf 0) row &&
        ((pageOf 0).actionableOnly = some false || isActionable t.db 0 authUser row) &&
        (!(pageOf 0).agingOnly || isAging 0 row)) := by
    refine List.mem_filter.2 ⟨hrow, Bool.and_eq_true_iff.2 ⟨Bool.and_eq_true_iff.2
      ⟨Bool.and_eq_true_iff.2 ⟨?_, rfl⟩, rfl⟩, rfl⟩⟩
    exact (approvalScope_iff hdecides).2 hscope
  obtain ⟨page, hpage⟩ := exists_page t.db ((mem_applyListSort t (pageOf 0)).2 hkept)
  have hlisted : findForApprovalExpenses t 0 authUser (pageOf page) = .ok _ :=
    Except.bind_eq_ok.2 ⟨(), hlist, if_neg hsome⟩
  exact .forApproval hlisted hpage

theorem report_scope {query : SpendingReportQuery} {expenses : List ExpenseEntity}
    (h : scopedExpenses t.db authUser query = .ok expenses) (hmem : expense ∈ expenses) :
    ∃ departmentId, resolveDepartmentFilter t.db query = .ok departmentId ∧
      ∃ row ∈ t.db.expenses.rows, t.db.withRelations row = expense ∧
        isSelected t.db query departmentId row = true ∧ isVisible authUser row = true := by
  obtain ⟨departmentId, hdepartment, h⟩ := Except.bind_eq_ok.1 h
  cases h
  obtain ⟨row, hrow, rfl⟩ := List.mem_map.1 hmem
  obtain ⟨hrow, hkept⟩ := List.mem_filter.1 ((List.mem_insertionSort _).1 hrow)
  obtain ⟨hselected, hvisible⟩ := Bool.and_eq_true_iff.1 hkept
  exact ⟨departmentId, hdepartment, row, hrow, rfl, hselected, hvisible⟩

theorem shows_report {query : SpendingReportQuery} {departmentId : Option Nat}
    (hdepartment : resolveDepartmentFilter t.db query = .ok departmentId)
    (hrow : row ∈ t.db.expenses.rows) (hselected : isSelected t.db query departmentId row = true)
    (hvisible : isVisible authUser row = true) : Shows t authUser (t.db.withRelations row) :=
  .report (Except.bind_eq_ok.2 ⟨departmentId, hdepartment, rfl⟩)
    (List.mem_map_of_mem ((List.mem_insertionSort _).2
      (List.mem_filter.2 ⟨hrow, Bool.and_eq_true_iff.2 ⟨hselected, hvisible⟩⟩)))

end Lists

/-! ## Listing against reading -/

section Reports

variable {t : ExpenseTable} {authUser : AuthUser} {row : Expense} {query : SpendingReportQuery}
  {departmentId : Option Nat}

theorem ne_draft_of_isSelected (h : isSelected t.db query departmentId row = true) :
    row.status ≠ .DRAFT := by
  simp only [isSelected, Bool.and_eq_true] at h
  exact ne_draft_of_mem_resolveReportStatuses (List.contains_iff_mem.1 h.1.1.2)

theorem isVisible_own (hown : row.userId = authUser.id) : isVisible authUser row = true := by
  unfold isVisible
  split <;> simp [hown]

/-- What others have submitted is visible to those who read or decide. -/
theorem isVisible_other (hother : row.userId ≠ authUser.id) :
    isVisible authUser row = true ↔ ReadsAll authUser ∨
      (canDecideOnApproval authUser = true ∧ row.status.isPending = true) := by
  unfold isVisible expenseListVisibility
  split
  · rename_i hvisibility
    split at hvisibility
    · rename_i hall
      exact ⟨fun _ => .inl hall, fun _ => rfl⟩
    · split at hvisibility <;> cases hvisibility
  · rename_i hvisibility
    split at hvisibility
    · cases hvisibility
    · rename_i hall
      split at hvisibility
      · rename_i hdecides
        simp [hother, ReadsAll, hall, hdecides]
      · cases hvisibility
  · rename_i hvisibility
    split at hvisibility
    · cases hvisibility
    · rename_i hall
      split at hvisibility
      · cases hvisibility
      · rename_i hdecides
        simp [hother, ReadsAll, hall, hdecides]

end Reports

section Main

variable {t : ExpenseTable} {authUser : AuthUser} {row : Expense}

/-- Without a global permission a decision right is the management of the department. -/
theorem canDecideOnExpense_of_not_global {expense : ExpenseEntity}
    (hglobal : hasGlobalApprovalPermission authUser = false) :
    canDecideOnExpense authUser expense = true ↔
      isDepartmentManagerForExpense authUser expense = true := by
  rw [canDecideOnExpense, hglobal, if_neg Bool.false_ne_true]
  split
  · rename_i hmanages
    have hnone : authUser.managedDepartmentIds = [] := by
      simpa [isManagerApprover, List.length_pos_iff] using hmanages
    unfold isDepartmentManagerForExpense
    split <;> simp [hnone]
  · rfl

theorem isDepartmentManager_withRelations :
    isDepartmentManagerForExpense authUser (t.db.withRelations row) = true ↔
      ∃ id ∈ authUser.managedDepartmentIds, row.departmentId = some id ∨
        (row.departmentId = none ∧ ownerDepartmentId t.db row = some id) := by
  have hcolumn : (t.db.withRelations row).departmentId.toOption = row.departmentId :=
    Property.toOption_ofColumn row.departmentId
  have hresolved : resolveExpenseDepartmentId (t.db.withRelations row) =
      row.departmentId.or (ownerDepartmentId t.db row) := by
    rw [resolveExpenseDepartmentId, hcolumn]
    cases row.departmentId <;> rfl
  rw [isDepartmentManagerForExpense, hresolved]
  cases row.departmentId with
  | some departmentId => simp
  | none => cases ownerDepartmentId t.db row <;> simp

theorem canReadExpense_forApproval (hlists : ListsReadable t authUser)
    (hdecides : canDecideOnApproval authUser = true) (hrow : row ∈ t.db.expenses.rows)
    (hscope : ApprovalScope t.db authUser row) :
    canReadExpense authUser (t.db.withRelations row) = true := by
  by_cases hown : row.userId = authUser.id
  · exact (canReadExpense_own hown).2 (hlists.ownQueued hdecides row hrow hown)
  · obtain ⟨hpending, hscope⟩ := hscope.resolve_left hown
    refine (canReadExpense_other hown).2 ⟨fun hdraft => by simp [hdraft, ExpenseStatus.isPending] at hpending, ?_⟩
    by_cases hall : ReadsAll authUser
    · exact .inl hall
    · refine .inr ?_
      cases hglobal : hasGlobalApprovalPermission authUser with
      | true => exact .inl ⟨hpending, by rw [canDecideOnExpense, hglobal]; rfl⟩
      | false =>
        rw [hglobal] at hscope
        by_cases hmanages : isDepartmentManagerForExpense authUser (t.db.withRelations row) = true
        · exact .inl ⟨hpending, (canDecideOnExpense_of_not_global hglobal).2 hmanages⟩
        · rw [isDepartmentManager_withRelations] at hmanages
          obtain ⟨id, hid, hrecorded⟩ | ⟨id, hid, howner⟩ := hscope.resolve_left Bool.false_ne_true
          · exact absurd ⟨id, hid, .inl hrecorded⟩ hmanages
          · cases hdepartment : row.departmentId with
            | none => exact absurd ⟨id, hid, .inr ⟨hdepartment, howner⟩⟩ hmanages
            | some departmentId =>
              exact .inr (hlists.moved hglobal hall row hrow hown hpending departmentId hdepartment
                (fun hmem => hmanages ⟨departmentId, hmem, .inl hdepartment⟩) ⟨id, hid, howner⟩)

theorem canReadExpense_report {query : SpendingReportQuery} {departmentId : Option Nat}
    (hlists : ListsReadable t authUser)
    (hdepartment : resolveDepartmentFilter t.db query = .ok departmentId)
    (hrow : row ∈ t.db.expenses.rows) (hselected : isSelected t.db query departmentId row = true)
    (hvisible : isVisible authUser row = true) :
    canReadExpense authUser (t.db.withRelations row) = true := by
  by_cases hown : row.userId = authUser.id
  · exact (canReadExpense_own hown).2
      (hlists.ownReported query departmentId hdepartment row hrow hselected hown)
  · refine (canReadExpense_other hown).2 ⟨ne_draft_of_isSelected hselected, ?_⟩
    by_cases hall : ReadsAll authUser
    · exact .inl hall
    · obtain ⟨hdecides, hpending⟩ := ((isVisible_other hown).1 hvisible).resolve_left hall
      refine .inr ?_
      cases hglobal : hasGlobalApprovalPermission authUser with
      | true => exact .inl ⟨hpending, by rw [canDecideOnExpense, hglobal]; rfl⟩
      | false =>
        have hmanager : isManagerApprover authUser = true := by
          simpa [canDecideOnApproval, hglobal] using hdecides
        refine (hlists.reported hmanager hglobal hall query departmentId hdepartment row hrow
          hselected hown hpending).imp_left (fun hmanages => ⟨hpending, ?_⟩)
        exact (canDecideOnExpense_of_not_global hglobal).2 hmanages

theorem listing_of_listsReadable (hlists : ListsReadable t authUser) :
    ListingRespectsReading t authUser := by
  intro expense hshows
  cases hshows with
  | all h hmem =>
    obtain ⟨hallowed, row, hrow, rfl, hdraft⟩ := all_scope h hmem
    by_cases hown : row.userId = authUser.id
    · exact (canReadExpense_own hown).2 (hallowed.elim .inr readsOwn_of_canManageAll)
    · have hsubmitted : row.status ≠ .DRAFT := fun h => hown (hdraft h)
      refine (canReadExpense_other hown).2 ⟨hsubmitted, ?_⟩
      by_cases hall : ReadsAll authUser
      · exact .inl hall
      · exact .inr (hlists.all (hallowed.resolve_left hall) hall row hrow hown hsubmitted)
  | forApproval h hmem =>
    obtain ⟨hdecides, row, hrow, rfl, hscope⟩ := forApproval_scope h hmem
    exact canReadExpense_forApproval hlists hdecides hrow hscope
  | report h hmem =>
    obtain ⟨departmentId, hdepartment, row, hrow, rfl, hselected, hvisible⟩ := report_scope h hmem
    exact canReadExpense_report hlists hdepartment hrow hselected hvisible

/-- What is shown of another's pending expense is read by a decision right or for finance. -/
theorem manages_or_reviewsFinance (hglobal : hasGlobalApprovalPermission authUser = false)
    (hall : ¬ ReadsAll authUser) (hother : row.userId ≠ authUser.id)
    (hread : canReadExpense authUser (t.db.withRelations row) = true) :
    isDepartmentManagerForExpense authUser (t.db.withRelations row) = true ∨
      ReviewsFinance authUser row := by
  obtain ⟨-, h⟩ := (canReadExpense_other hother).1 hread
  exact (h.resolve_left hall).imp_left (fun h => (canDecideOnExpense_of_not_global hglobal).1 h.2)

theorem listsReadable_of_listing (h : ListingRespectsReading t authUser) :
    ListsReadable t authUser where
  all := by
    intro hmanage hall row hrow hother hsubmitted
    have hlist : assertCanListAllExpenses authUser = .ok () := if_pos (by rw [hmanage, Bool.or_true])
    have hread := h _ (shows_all hlist hrow (by simp [excludeOthersDrafts, hsubmitted]))
    exact ((canReadExpense_other hother).1 hread).2.resolve_left hall
  ownQueued := fun hdecides row hrow hown =>
    (canReadExpense_own hown).1 (h _ (shows_forApproval hdecides hrow (.inl hown)))
  moved := by
    intro hglobal hall row hrow hother hpending departmentId hdepartment hunmanaged howner
    have hdecides : canDecideOnApproval authUser = true := by
      obtain ⟨id, hid, -⟩ := howner
      rw [canDecideOnApproval, isManagerApprover_of_mem hid, Bool.or_true]
    have hread := h _ (shows_forApproval hdecides hrow (.inr ⟨hpending, .inr (.inr howner)⟩))
    refine (manages_or_reviewsFinance hglobal hall hother hread).resolve_left ?_
    rw [isDepartmentManager_withRelations]
    rintro ⟨id, hid, hrecorded | ⟨hnone, -⟩⟩
    · cases hdepartment.symm.trans hrecorded
      exact hunmanaged hid
    · cases hdepartment.symm.trans hnone
  ownReported := fun query departmentId hdepartment row hrow hselected hown =>
    (canReadExpense_own hown).1
      (h _ (shows_report hdepartment hrow hselected (isVisible_own hown)))
  reported := by
    intro hmanager hglobal hall query departmentId hdepartment row hrow hselected hother hpending
    have hdecides : canDecideOnApproval authUser = true := by
      rw [canDecideOnApproval, hmanager, Bool.or_true]
    have hvisible := (isVisible_other hother).2 (.inr ⟨hdecides, hpending⟩)
    exact manages_or_reviewsFinance hglobal hall hother
      (h _ (shows_report hdepartment hrow hselected hvisible))

end Main

/-- Every expense shown to a user is one the user may read, if and only if each filter
    lets through only what the user may read. -/
theorem listing_respects_reading_iff (t : ExpenseTable) (authUser : AuthUser) :
    ListingRespectsReading t authUser ↔ ListsReadable t authUser :=
  ⟨listsReadable_of_listing, listing_of_listsReadable⟩

/-! ## An owner who changed departments -/

end ExpenseListing

namespace Sample

/-- The manager of the department the owner moves to. -/
def newManager : User :=
  ⟨5, "USR1700000000005AAAAAA", "new@expentra.test", some 2, true, true, none, some employeeRole⟩

/-- A submitted expense of the first department, after its owner moved to the second. -/
def transferred : Db :=
  { runAll config [createExpense, submit] db with
    users := ⟨[{ owner with departmentId := some 2 }, manager, finance, newManager], by decide⟩
    departments := ⟨[⟨1, "DPT1700000000001AAAAAA", some 2, true, none⟩,
      ⟨2, "DPT1700000000003AAAAAA", some 5, true, none⟩], by decide⟩ }

end Sample

namespace ExpenseListing

open Sample ExpenseQueryService ExpenseAccessPolicy

/-- The list for approval, without the filter of the queue, shows the expense to the new
    manager, who may not read it. -/
theorem transferred_not_readable :
    ¬ ListingRespectsReading ⟨transferred, fun _ => 0, fun _ => 0⟩
      (toAuthUser newManager (transferred.managedDepartmentIds newManager.id)) := by
  intro hrespects
  have hshown : (findForApprovalExpenses ⟨transferred, fun _ => 0, fun _ => 0⟩ 0
      (toAuthUser newManager (transferred.managedDepartmentIds newManager.id)) (pageOf 0)).toOption.any
        (fun result => result.data.any (fun expense => !canReadExpense
          (toAuthUser newManager (transferred.managedDepartmentIds newManager.id)) expense)) = true := by
    decide +kernel
  cases hresult : findForApprovalExpenses ⟨transferred, fun _ => 0, fun _ => 0⟩ 0
      (toAuthUser newManager (transferred.managedDepartmentIds newManager.id)) (pageOf 0) with
  | error e =>
    rw [hresult] at hshown
    cases hshown
  | ok result =>
    rw [hresult] at hshown
    obtain ⟨expense, hmem, hunreadable⟩ := List.any_eq_true.1 hshown
    rw [hrespects expense (.forApproval hresult hmem)] at hunreadable
    cases hunreadable

end ExpenseListing

end Expentra
