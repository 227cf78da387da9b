-- SUMMARY: The lists of expenses, their counts by status and their exports, and that each says what the others say.
import Expentra.Export.Amounts
import Expentra.Export.Csv
import Expentra.Expense.Listing
import Expentra.Library.Paging
import Expentra.Report.Summary
import Mathlib.Data.Prod.Lex

/-!
# Lists, counts and exports

A list of expenses is asked for in three ways: by pages, as counts by status and as a file.
Each is a query of its own. For the list of a user and for that of the company they agree: the
pages are the list, the counts are its lengths and the file is read back to its rows.
-/

namespace Expentra

open Library Text Csv

/-- The table, with the columns that only the exports print. -/
structure ExpenseExportTable extends ExpenseTable where
  currency : Nat → String
  departmentColumns : Nat → DepartmentColumns
  userNames : Nat → UserNames

structure ExpenseStatusCount where
  status : ExpenseStatus
  count : Nat
deriving DecidableEq

structure ExpenseStatusCounts where
  byStatus : List ExpenseStatusCount
  needsAction : Nat
deriving DecidableEq

def ExpenseStatus.name : ExpenseStatus → String
  | .DRAFT => "DRAFT"
  | .SUBMITTED => "SUBMITTED"
  | .UNDER_REVIEW => "UNDER_REVIEW"
  | .APPROVED => "APPROVED"
  | .REJECTED => "REJECTED"
  | .REIMBURSED => "REIMBURSED"

def assertCanListPersonalExpenses (authUser : AuthUser) : Except HttpException Unit :=
  if hasPermission authUser .READ .EXPENSE (some .SELF) ||
      hasPermission authUser .READ .EXPENSE (some .GLOBAL) || canManageAll authUser then .ok ()
  else .error (.forbidden "You do not have permission to list your expenses")

/-! ## The file -/

namespace ExpenseListExport

def EXPORT_HEADERS : List Text :=
  [ascii "Reference", ascii "Title", ascii "Amount", ascii "Currency", ascii "Category",
    ascii "Status", ascii "Employee Email", ascii "Department", ascii "Incurred Date",
    ascii "Submitted", ascii "Updated", ascii "Approved", ascii "Reimbursed",
    ascii "Reimbursement Reference"]

/-- A date that may be missing. -/
def dateCell (date : Option Instant) : CsvCellValue := .string ((date.map Date.toISOString).getD [])

/-- `expense.department?.name ?? ''` -/
def departmentName (t : ExpenseExportTable) (expense : ExpenseEntity) : Text :=
  ofString ((expense.department.map (fun d => (t.departmentColumns d.id).name)).getD "")

def exportCells (t : ExpenseExportTable) (row : Expense) : List CsvCellValue :=
  let expense := t.db.withRelations row
  [.string (ofString row.reference), .string (ofString row.title),
    .string (formatAmountMajor row.amount.val.toNat), .string (ofString (t.currency row.id)),
    .string (ofString row.category.name), .string (ofString row.status.name),
    .string (ofString ((expense.user.map (·.email)).getD "")), .string (departmentName t expense),
    dateCell row.incurredAt, dateCell row.submittedAt, dateCell (some (t.updatedAt row.id)),
    dateCell row.approvedAt, dateCell row.reimbursedAt,
    .string (ofString (row.reimbursementReference.getD ""))]

def buildExpenseListExportCsv (t : ExpenseExportTable) (expenses : List Expense) : Text :=
  buildCsv EXPORT_HEADERS (expenses.map (exportCells t))

end ExpenseListExport

/-! ## The queries -/

namespace ExpenseQueryService

open ExpenseListExport

def EXPORT_ROW_LIMIT : Nat := 5000

def isOwn (userId : Nat) (row : Expense) : Bool := row.userId = userId

/-- The rows of a query, in their order: what is in scope and passes the filters. -/
def listRows (scope : Expense → Bool) (t : ExpenseTable) (query : ListExpensesQuery) : List Expense :=
  applyListSort t query (t.db.expenses.rows.filter (fun row => scope row && applyListFilters query row))

def findPersonalExpenses (t : ExpenseTable) (authUser : AuthUser) (query : ListExpensesQuery) :
    Except HttpException PaginatedExpensesResult := do
  assertCanListPersonalExpenses authUser
  pure (executePaginatedQuery t.db (resolvePagination query) (listRows (isOwn authUser.id) t query))

def needsActionStatus (status : ExpenseStatus) : Bool := status = .DRAFT || status = .REJECTED

/-- The `WHERE` of the counts: a user with the id zero is no user. -/
def countScope (userId viewerUserId : Option Nat) (row : Expense) : Bool :=
  match userId.filter (· ≠ 0), viewerUserId with
  | some userId, _ => isOwn userId row
  | none, some viewerUserId => excludeOthersDrafts viewerUserId row
  | none, none => true

/-- `SELECT status, COUNT(*) … GROUP BY status`: the groups have no sums. -/
def statusGroups (rows : List Expense) : List (GroupRow ExpenseStatus) :=
  groupBy (·.status) (fun _ => 0) rows

def toStatusCount (g : GroupRow ExpenseStatus) : ExpenseStatusCount := ⟨g.key, g.count⟩

def getExpenseStatusCounts (db : Db) (userId viewerUserId : Option Nat) : ExpenseStatusCounts :=
  let byStatus :=
    (statusGroups (db.expenses.rows.filter (countScope userId viewerUserId))).map toStatusCount
  { byStatus
    needsAction := ((byStatus.filter (fun row => needsActionStatus row.status)).map
      (·.count)).foldl (· + ·) 0 }

def getPersonalExpenseStatusCounts (db : Db) (authUser : AuthUser) :
    Except HttpException ExpenseStatusCounts := do
  assertCanListPersonalExpenses authUser
  pure (getExpenseStatusCounts db (some authUser.id) none)

def getAllExpenseStatusCounts (db : Db) (authUser : AuthUser) :
    Except HttpException ExpenseStatusCounts := do
  assertCanListAllExpenses authUser
  pure (getExpenseStatusCounts db none (some authUser.id))

def buildPersonalExpensesExportCsv (t : ExpenseExportTable) (authUser : AuthUser)
    (query : ListExpensesQuery) : Except HttpException Text := do
  assertCanListPersonalExpenses authUser
  pure (buildExpenseListExportCsv t
    ((listRows (isOwn authUser.id) t.toExpenseTable query).take EXPORT_ROW_LIMIT))

def buildAllExpensesExportCsv (t : ExpenseExportTable) (authUser : AuthUser)
    (query : ListExpensesQuery) : Except HttpException Text := do
  assertCanListAllExpenses authUser
  pure (buildExpenseListExportCsv t
    ((listRows (excludeOthersDrafts authUser.id) t.toExpenseTable query).take EXPORT_ROW_LIMIT))

/-! ## Order -/

section Order

variable {t : ExpenseTable} {query : ListExpensesQuery} {left right row : Expense}

/-- A column as a place: what is missing comes last. -/
def columnKey (sortOrder : ExpenseListSortOrder) : Option Int → Int ×ₗ Int
  | some value => match sortOrder with
    | .ASC => toLex (0, value)
    | .DESC => toLex (0, -value)
  | none => toLex (1, 0)

/-- The place of a row in a list. -/
def rowKey (t : ExpenseTable) (query : ListExpensesQuery) (row : Expense) : (Int ×ₗ Int) ×ₗ Int :=
  toLex (columnKey (query.sortOrder.getD .DESC) (sortColumn t (query.sortBy.getD .UPDATED_AT) row),
    if query.sortBy.getD .UPDATED_AT = .UPDATED_AT then 0 else -t.updatedAt row.id)

theorem compare_neg_neg (a b : Int) : compare (-a) (-b) = compare b a := by
  rcases Int.lt_trichotomy a b with h | rfl | h
  · rw [compare_gt_iff_gt.2 h, compare_gt_iff_gt.2 (Int.neg_lt_neg h)]
  · rw [compare_eq_iff_eq.2 rfl, compare_eq_iff_eq.2 rfl]
  · rw [compare_lt_iff_lt.2 h, compare_lt_iff_lt.2 (Int.neg_lt_neg h)]

theorem compareColumn_eq (sortOrder : ExpenseListSortOrder) (left right : Option Int) :
    compareColumn sortOrder left right =
      compare (columnKey sortOrder left) (columnKey sortOrder right) := by
  cases left with
  | none => cases right <;> cases sortOrder <;> rfl
  | some l =>
    cases right with
    | none => cases sortOrder <;> rfl
    | some r =>
      cases sortOrder with
      | ASC => rfl
      | DESC => exact (compare_neg_neg l r).symm

/-- Rows are compared by their places. -/
theorem compareRows_eq : compareRows t query left right =
    compare (rowKey t query left) (rowKey t query right) := by
  have hlex : ∀ a b : (Int ×ₗ Int) ×ₗ Int, compare a b =
      (compare (ofLex a).1 (ofLex b).1).then (compare (ofLex a).2 (ofLex b).2) := fun _ _ => rfl
  rw [hlex]
  simp only [compareRows, rowKey, compareColumn_eq, ofLex_toLex]
  split
  · exact Ordering.then_eq.symm
  · rw [compare_neg_neg]

theorem sorted_listRows (scope : Expense → Bool) : (listRows scope t query).Pairwise
    (fun left right => compareRows t query left right ≠ .gt) := by
  have hle : ∀ left right, compareRows t query left right ≠ .gt ↔
      rowKey t query left ≤ rowKey t query right := fun left right => by
    rw [compareRows_eq]
    exact compare_le_iff_le
  have : Std.Total (fun left right => compareRows t query left right ≠ .gt) :=
    ⟨fun left right => by simpa only [hle] using le_total (rowKey t query left) _⟩
  have : IsTrans Expense (fun left right => compareRows t query left right ≠ .gt) :=
    ⟨fun a b c hab hbc => (hle a c).2 (le_trans ((hle a b).1 hab) ((hle b c).1 hbc))⟩
  exact List.pairwise_insertionSort _ _

theorem perm_listRows (scope : Expense → Bool) : (listRows scope t query).Perm
    (t.db.expenses.rows.filter (fun row => scope row && applyListFilters query row)) :=
  List.perm_insertionSort _ _

theorem mem_listRows {scope : Expense → Bool} : row ∈ listRows scope t query ↔
    row ∈ t.db.expenses ∧ scope row = true ∧ applyListFilters query row = true := by
  rw [(perm_listRows scope).mem_iff, List.mem_filter, Bool.and_eq_true]
  rfl

theorem nodup_listRows (scope : Expense → Bool) : (listRows scope t query).Nodup :=
  (perm_listRows scope).nodup_iff.2 ((List.Nodup.of_map _ t.db.expenses.nodup).filter _)

/-- Where no two rows tie, the order leaves no choice. -/
theorem eq_listRows {scope : Expense → Bool} {rows : List Expense}
    (hperm : rows.Perm (listRows scope t query))
    (hsorted : rows.Pairwise (fun left right => compareRows t query left right ≠ .gt))
    (hdistinct : ∀ left ∈ rows, ∀ right ∈ rows, compareRows t query left right = .eq → left = right) :
    rows = listRows scope t query := by
  refine hperm.eq_of_pairwise (fun left right hleft hright hle hge => ?_) hsorted (sorted_listRows scope)
  rw [compareRows_eq, Ne, ← Ne, compare_le_iff_le] at hle hge
  refine hdistinct left hleft right (hperm.mem_iff.2 hright) ?_
  rw [compareRows_eq, compare_eq_iff_eq]
  exact le_antisymm hle hge

end Order

/-! ## Pages -/

section Pages

variable {t : ExpenseTable} {query : ListExpensesQuery} {scope : Expense → Bool}

/-- The request for another page. -/
def onPage (query : ListExpensesQuery) (page : Nat) : ListExpensesQuery :=
  { query with page := some (page + 1) }

theorem limit_pos (query : ListExpensesQuery) :
    0 < (resolvePagination query).limit ∧ (resolvePagination query).limit ≤ 100 := by
  have hlimit : (resolvePagination query).limit =
      (min 100 (max 1 (orDefault query.limit 20))).toNat := rfl
  rw [hlimit]
  omega

theorem resolvePagination_onPage (query : ListExpensesQuery) (page : Nat) :
    resolvePagination (onPage query page) =
      ⟨page + 1, (resolvePagination query).limit, page * (resolvePagination query).limit⟩ := by
  have hdefault : orDefault (some ((page : Int) + 1)) 1 = page + 1 := by
    simp only [orDefault]
    exact if_neg (by omega)
  have hpage : (max 1 ((page : Int) + 1)).toNat = page + 1 := by omega
  rw [resolvePagination, show (onPage query page).page = some ((page : Int) + 1) from rfl, hdefault,
    hpage]
  rfl

/-- All pages of a list, one after the other, are the list. -/
theorem flatMap_executePaginatedQuery (db : Db) (query : ListExpensesQuery) (rows : List Expense) :
    (List.range (executePaginatedQuery db (resolvePagination (onPage query 0)) rows).totalPages).flatMap
      (fun page => (executePaginatedQuery db (resolvePagination (onPage query page)) rows).data) =
        rows.map db.withRelations := by
  have hpage : ∀ page, (executePaginatedQuery db (resolvePagination (onPage query page)) rows).data =
      (pageAt (resolvePagination query).limit rows page).map db.withRelations := fun page => by
    rw [resolvePagination_onPage]
    rfl
  have hcount : (executePaginatedQuery db (resolvePagination (onPage query 0)) rows).totalPages =
      pageCount (resolvePagination query).limit rows.length := by
    rw [resolvePagination_onPage]
    rfl
  simp only [hpage]
  rw [hcount, ← List.map_flatMap, flatMap_pages (limit_pos query).1]

end Pages

/-! ## Counts -/

section Counts

/-- The count of a status: none where it is missing. -/
def countOf (counts : ExpenseStatusCounts) (status : ExpenseStatus) : Nat :=
  ((counts.byStatus.find? (fun row => row.status = status)).map (·.count)).getD 0

/-- How many expenses the counts promise for the filters of a request. -/
def promised (counts : ExpenseStatusCounts) (query : ListExpensesQuery) : Nat :=
  if query.needsAction then counts.needsAction
  else match query.status with
    | some status => countOf counts status
    | none => (counts.byStatus.map (·.count)).sum

variable {db : Db} {userId viewerUserId : Option Nat}

theorem sum_counts (groups : List (GroupRow ExpenseStatus)) :
    ((groups.map toStatusCount).map (·.count)).sum =
      (groups.map GroupRow.toTotals).sum.count := by
  induction groups with
  | nil => rfl
  | cons g rest ih =>
    rw [List.map_cons, List.map_cons, List.sum_cons, ih, List.map_cons, List.sum_cons]
    rfl

theorem countOf_map (groups : List (GroupRow ExpenseStatus)) (needsAction : Nat)
    (status : ExpenseStatus) : countOf ⟨groups.map toStatusCount, needsAction⟩ status =
      (groupAt groups status).count := by
  unfold countOf groupAt
  rw [List.find?_map, Option.map_map]
  change ((groups.find? (fun g => g.key = status)).map (·.count)).getD 0 = _
  cases groups.find? (fun g => g.key = status) <;> rfl

theorem length_filter_scope (scope : Expense → Bool) (p : Expense → Bool) (rows : List Expense) :
    (Totals.of (fun _ => 0) ((rows.filter scope).filter p)).count =
      (rows.filter (fun row => scope row && p row)).length := by
  rw [List.filter_filter]
  exact congrArg List.length (List.filter_congr fun row _ => Bool.and_comm _ _)

/-- The counts are those of the lists with the same scope. -/
theorem promised_getExpenseStatusCounts (query : ListExpensesQuery) :
    promised (getExpenseStatusCounts db userId viewerUserId) query =
      (db.expenses.rows.filter (fun row =>
        countScope userId viewerUserId row && applyListFilters query row)).length := by
  unfold promised applyListFilters
  cases query.needsAction with
  | true =>
    rw [if_pos rfl]
    change ((((statusGroups _).map toStatusCount).filter
      (fun row => needsActionStatus row.status)).map (·.count)).foldl (· + ·) 0 = _
    rw [← List.sum_eq_foldl, List.filter_map, sum_counts]
    exact (congrArg Totals.count (sum_groupBy_filter needsActionStatus)).trans
      (length_filter_scope _ _ _)
  | false =>
    rw [if_neg Bool.false_ne_true]
    cases query.status with
    | some status =>
      change countOf ⟨(statusGroups _).map toStatusCount, _⟩ status = _
      rw [countOf_map]
      exact (congrArg Totals.count (groupAt_groupBy status)).trans (length_filter_scope _ _ _)
    | none =>
      change (((statusGroups _).map toStatusCount).map (·.count)).sum = _
      rw [sum_counts, statusGroups, sum_groupBy]
      simp [Totals.of]

end Counts

/-! ## The three agree -/

open ExpenseListExport

/-- A list for a request: the rows in scope that pass the filters, each once and in order. -/
structure Listed (t : ExpenseTable) (scope : Expense → Bool) (query : ListExpensesQuery)
    (rows : List Expense) : Prop where
  nodup : rows.Nodup
  mem : ∀ row, row ∈ rows ↔ row ∈ t.db.expenses ∧ scope row = true ∧ applyListFilters query row = true
  sorted : rows.Pairwise (fun left right => compareRows t query left right ≠ .gt)
  determined : ∀ rows' : List Expense, rows'.Perm rows →
    rows'.Pairwise (fun left right => compareRows t query left right ≠ .gt) →
    (∀ left ∈ rows', ∀ right ∈ rows', compareRows t query left right = .eq → left = right) →
    rows' = rows

/-- A file has the first rows of a list, and the amounts can be read from it. -/
structure FileOf (t : ExpenseExportTable) (rows : List Expense) (file : Text) : Prop where
  parsed : parseCsv file = EXPORT_HEADERS ::
    (rows.take EXPORT_ROW_LIMIT).map (fun row => (exportCells t row).map CsvCellValue.text)
  amounts : (∀ row ∈ rows, row.amount.val.toNat < 2 ^ 52) →
    (parseCsv file).tail.map (fun cells => readAmountMajor (cells.getD 2 [])) =
      (rows.take EXPORT_ROW_LIMIT).map (·.amount.val.toNat)

/-- The pages, the counts and the file of a list say the same. -/
structure ListAgrees (t : ExpenseExportTable) (scope : Expense → Bool)
    (list : ListExpensesQuery → Except HttpException PaginatedExpensesResult)
    (counts : Except HttpException ExpenseStatusCounts)
    (file : ListExpensesQuery → Except HttpException Text) : Prop where
  refused : ∀ query e, (list query = .error e ↔ counts = .error e) ∧
    (list query = .error e ↔ file query = .error e)
  pages : ∀ query (results : Nat → PaginatedExpensesResult) text, (∀ page, list (onPage query page) = .ok (results page)) →
    file query = .ok text → ∃ rows, Listed t.toExpenseTable scope query rows ∧
      (List.range (results 0).totalPages).flatMap (fun page => (results page).data) =
        rows.map t.db.withRelations ∧ FileOf t rows text
  counted : ∀ c query result, counts = .ok c → list query = .ok result →
    result.total = promised c query

section Agree

variable {t : ExpenseExportTable} {authUser : AuthUser} {scope : Expense → Bool}
  {userId viewerUserId : Option Nat}

theorem listed_listRows (t : ExpenseTable) (scope : Expense → Bool) (query : ListExpensesQuery) :
    Listed t scope query (listRows scope t query) where
  nodup := nodup_listRows scope
  mem _ := mem_listRows
  sorted := sorted_listRows scope
  determined _ := eq_listRows

/-- What the writer of the reports has written is read back. -/
theorem parse_file {headers : List Text} {rows : List (List CsvCellValue)}
    (hheaders : 2 ≤ headers.length) (hrows : ∀ row ∈ rows, 2 ≤ row.length) :
    parseCsv (buildCsv headers rows) = table headers rows := by
  have htabular := Tabular.of_two_le hheaders hrows
  rw [buildCsv_eq]
  exact parse_writeLines separating_reportSpecials htabular.ne_nil (List.cons_ne_nil _ _)
    htabular.getLast?_ne

theorem parse_buildExpenseListExportCsv (t : ExpenseExportTable) (rows : List Expense) :
    parseCsv (buildExpenseListExportCsv t rows) =
      EXPORT_HEADERS :: rows.map (fun row => (exportCells t row).map CsvCellValue.text) := by
  rw [buildExpenseListExportCsv, parse_file (by decide) (List.forall_mem_map.2 fun row _ => by
    simp [exportCells]), table, List.map_map]
  rfl

theorem amount_exportCells (t : ExpenseExportTable) (row : Expense) :
    ((exportCells t row).map CsvCellValue.text).getD 2 [] = formatAmountMajor row.amount.val.toNat := by
  simp only [exportCells, List.map_cons, List.getD_cons_succ, List.getD_cons_zero, CsvCellValue.text]

theorem fileOf_buildExpenseListExportCsv (t : ExpenseExportTable) (rows : List Expense) :
    FileOf t rows (buildExpenseListExportCsv t (rows.take EXPORT_ROW_LIMIT)) := by
  have hparsed := parse_buildExpenseListExportCsv t (rows.take EXPORT_ROW_LIMIT)
  refine ⟨hparsed, fun hbound => ?_⟩
  rw [hparsed, List.tail_cons, List.map_map]
  refine List.map_congr_left fun row hrow => ?_
  rw [Function.comp_apply, amount_exportCells]
  exact readAmountMajor_formatAmountMajor (hbound row (List.mem_of_mem_take hrow))

/-- The three queries of a list check the same permission and select the same rows. -/
theorem listAgrees (check : Except HttpException Unit)
    (hscope : ∀ row, countScope userId viewerUserId row = scope row) :
    ListAgrees t scope
      (fun query => check >>= fun _ => pure (executePaginatedQuery t.db (resolvePagination query)
        (listRows scope t.toExpenseTable query)))
      (check >>= fun _ => pure (getExpenseStatusCounts t.db userId viewerUserId))
      (fun query => check >>= fun _ => pure (buildExpenseListExportCsv t
        ((listRows scope t.toExpenseTable query).take EXPORT_ROW_LIMIT))) := by
  constructor
  · intro query e
    cases check with
    | error e' =>
      simp only [Except.bind_eq_error, reduceCtorEq, false_and, exists_false, or_false]
      exact ⟨trivial, trivial⟩
    | ok _ => constructor <;> constructor <;> intro h <;> cases h
  · intro query results text hpages hfile
    cases check with
    | error e => cases hfile
    | ok _ =>
      cases hfile
      have hresults : ∀ page, results page = executePaginatedQuery t.db
          (resolvePagination (onPage query page)) (listRows scope t.toExpenseTable query) :=
        fun page => (Except.ok.inj (hpages page)).symm
      refine ⟨_, listed_listRows t.toExpenseTable scope query, ?_,
        fileOf_buildExpenseListExportCsv t _⟩
      simp only [hresults]
      exact flatMap_executePaginatedQuery t.db query _
  · intro c query result hcounts hlist
    cases check with
    | error e => cases hlist
    | ok _ =>
      cases hcounts
      cases hlist
      rw [promised_getExpenseStatusCounts]
      simp only [hscope]
      exact (perm_listRows scope).length_eq

end Agree

/-- Of the expenses of a user, and of those of the company, the pages, the counts by status and
    the file agree, for every request and whatever the tables hold. -/
theorem lists_agree (t : ExpenseExportTable) {authUser : AuthUser} (hid : authUser.id ≠ 0) :
    ListAgrees t (isOwn authUser.id) (findPersonalExpenses t.toExpenseTable authUser)
        (getPersonalExpenseStatusCounts t.db authUser) (buildPersonalExpensesExportCsv t authUser) ∧
      ListAgrees t (excludeOthersDrafts authUser.id) (findAllExpenses t.toExpenseTable authUser)
        (getAllExpenseStatusCounts t.db authUser) (buildAllExpensesExportCsv t authUser) := by
  have hown : (some authUser.id).filter (· ≠ 0) = some authUser.id :=
    Option.filter_some_pos (decide_eq_true hid)
  have hscope : ∀ row, countScope (some authUser.id) none row = isOwn authUser.id row := by
    intro row
    unfold countScope
    rw [hown]
  exact ⟨listAgrees (assertCanListPersonalExpenses authUser) hscope,
    listAgrees (assertCanListAllExpenses authUser) fun row => rfl⟩

end ExpenseQueryService

namespace Sample

/-- The database after an expense was submitted, with the columns of the lists. -/
def exportTable : ExpenseExportTable where
  db := runAll config [createExpense, submit] db
  createdAt _ := now
  updatedAt _ := now
  currency _ := "NGN"
  departmentColumns _ := ⟨⟨now, now⟩, "Operations", "OPS"⟩
  userNames _ := ⟨some "Ada", none⟩

end Sample

open ExpenseQueryService in
theorem lists_agree_sample :
    (ListAgrees Sample.exportTable (isOwn Sample.authOwner.id)
        (findPersonalExpenses Sample.exportTable.toExpenseTable Sample.authOwner)
        (getPersonalExpenseStatusCounts Sample.exportTable.db Sample.authOwner)
        (buildPersonalExpensesExportCsv Sample.exportTable Sample.authOwner) ∧
      ListAgrees Sample.exportTable (excludeOthersDrafts Sample.authOwner.id)
        (findAllExpenses Sample.exportTable.toExpenseTable Sample.authOwner)
        (getAllExpenseStatusCounts Sample.exportTable.db Sample.authOwner)
        (buildAllExpensesExportCsv Sample.exportTable Sample.authOwner)) ∧
      getPersonalExpenseStatusCounts Sample.exportTable.db Sample.authOwner =
        .ok ⟨[⟨.SUBMITTED, 1⟩], 0⟩ :=
  ⟨lists_agree Sample.exportTable (by decide), by decide +kernel⟩

end Expentra
