-- SUMMARY: The list of departments with its counts and budgets, and its export.
import Expentra.Budget.Service
import Expentra.Department.PendingCounts
import Expentra.Export.Listings

/-!
# Export of departments

The query adds to a department the number of its members, of its pending expenses, and the
budget of the year. The export takes the first page of the list, like that of the levels.
-/

namespace Expentra.DepartmentQuery

open Library Text Csv

inductive DepartmentListSortField where
  | name | createdAt | headcount | utilizationPercent | pendingApprovals
deriving DecidableEq, Repr

inductive DepartmentListSortOrder where
  | ASC | DESC
deriving DecidableEq, Repr

inductive DepartmentHealthFilter where
  | over_budget | near_limit | within_limit
deriving DecidableEq, Repr

structure ListDepartmentsQuery where
  page : Option Int
  limit : Option Int
  search : Option String
  isActive : Option Bool
  missingManager : Option Bool
  year : Option Int
  sortBy : Option DepartmentListSortField
  sortOrder : Option DepartmentListSortOrder
  healthFilter : Option DepartmentHealthFilter
deriving DecidableEq

/-- A department with the manager the query joins. -/
structure ListedDepartment extends Department, DepartmentColumns where
  manager : Option User
deriving DecidableEq

/-- The columns the query adds to a department. -/
structure RawColumns where
  headcount : Nat
  pendingApprovalCount : Nat
  /-- `budget_id`, `utilization_percent` and `is_over_budget` are of this row. -/
  budget : Option DepartmentBudget
deriving DecidableEq

structure DepartmentListExtras where
  headcount : Nat
  pendingApprovalCount : Nat
  hasBudget : Bool
  /-- In hundredths. -/
  utilizationPercent : Option Nat
  isOverBudget : Bool
  isNearLimit : Bool
deriving DecidableEq

/-- `Map<number, DepartmentListExtras>` -/
abbrev ExtrasById := Table (Prod.fst : Nat × DepartmentListExtras → Nat)

structure PaginatedDepartmentsResult where
  data : List ListedDepartment
  extrasByDepartmentId : ExtrasById
  page : Nat
  limit : Nat
  total : Nat
  totalPages : Nat

/-- 80 percent, in hundredths. -/
def NEAR_LIMIT_THRESHOLD_PERCENT : Nat := 8000

def EXPORT_ROW_LIMIT : Int := 5000

/-! ## The query -/

/-- `DEPARTMENT_HEADCOUNT_SQL` -/
def headcount (db : Db) (departmentId : Nat) : Nat :=
  db.users.rows.countP (·.departmentId = some departmentId)

/-- `DEPARTMENT_PENDING_APPROVAL_COUNT_SQL` -/
def pendingApprovalCount (db : Db) (departmentId : Nat) : Nat :=
  (pendingWithOwners db).countP (fun row =>
    row.1.departmentId = some departmentId || row.2.bind (·.departmentId) = some departmentId)

def utilizationPercent (budget : DepartmentBudget) : Nat :=
  utilizationHundredths budget.committedAmount budget.amountLimit

def loadDepartment (l : Listings) (department : Department) : ListedDepartment :=
  { department with
    toDepartmentColumns := l.departmentColumns department.id
    manager := department.managerId.bind l.db.users.find? }

def loadRaw (l : Listings) (year : Int) (department : Department) : RawColumns where
  headcount := headcount l.db department.id
  pendingApprovalCount := pendingApprovalCount l.db department.id
  budget := BudgetService.liveBudget l.db department.id year

/-- The condition on the joined budget; a comparison with `NULL` does not hold. -/
def isHealthy (filter : DepartmentHealthFilter) (budget : Option DepartmentBudget) : Bool :=
  match filter with
  | .over_budget => budget.any (·.isOverBudget)
  | .near_limit => budget.any (fun budget =>
      !budget.isOverBudget && NEAR_LIMIT_THRESHOLD_PERCENT ≤ utilizationPercent budget)
  | .within_limit => budget.any (fun budget =>
      !budget.isOverBudget && utilizationPercent budget < NEAR_LIMIT_THRESHOLD_PERCENT)

def isListed (locale : Locale) (query : ListDepartmentsQuery) (department : ListedDepartment)
    (raw : RawColumns) : Bool :=
  department.deletedAt.isNone &&
    query.isActive.all (department.isActive = ·) &&
    matchesSearch locale query.search
      [some department.reference, some department.name, some department.code] &&
    (query.missingManager ≠ some true || department.managerId.isNone) &&
    query.healthFilter.all (isHealthy · raw.budget)

/-- `left <= right` in the direction of the query. -/
def ordered {α : Type} (query : ListDepartmentsQuery) (le : α → α → Bool) (left right : α) : Bool :=
  if query.sortOrder = some .DESC then le right left else le left right

/-- `ORDER BY` -/
def precedes (locale : Locale) (query : ListDepartmentsQuery)
    (left right : ListedDepartment × RawColumns) : Bool :=
  match query.sortBy with
  | some .createdAt =>
    ordered query (fun (left right : Instant) => left ≤ right) left.1.createdAt right.1.createdAt
  | some .headcount =>
    ordered query (fun (left right : Nat) => left ≤ right) left.2.headcount right.2.headcount
  | some .utilizationPercent =>
    -- `NULLS LAST` in either direction
    match left.2.budget, right.2.budget with
    | some left, some right =>
      ordered query (fun (left right : Nat) => left ≤ right) (utilizationPercent left)
        (utilizationPercent right)
    | none, some _ => false
    | _, none => true
  | some .pendingApprovals =>
    ordered query (fun (left right : Nat) => left ≤ right) left.2.pendingApprovalCount
      right.2.pendingApprovalCount
  | some .name | none => ordered query locale.le left.1.name right.1.name

/-- The rows that match a query, in the order of the list. -/
def matchingDepartments (locale : Locale) (l : Listings) (now : Instant)
    (query : ListDepartmentsQuery) : List (ListedDepartment × RawColumns) :=
  let year := query.year.getD (Date.getUTCFullYear now)
  let rows := l.db.departments.rows.map (fun department =>
    (loadDepartment l department, loadRaw l year department))
  (rows.filter (fun row => isListed locale query row.1 row.2)).insertionSort
    (fun left right => precedes locale query left right = true)

/-! ## The list -/

def toExtras (raw : RawColumns) : DepartmentListExtras where
  headcount := raw.headcount
  pendingApprovalCount := raw.pendingApprovalCount
  hasBudget := raw.budget.isSome
  utilizationPercent := raw.budget.map utilizationPercent
  isOverBudget := raw.budget.any (·.isOverBudget)
  isNearLimit := raw.budget.any (fun budget =>
    !budget.isOverBudget && NEAR_LIMIT_THRESHOLD_PERCENT ≤ utilizationPercent budget)

/-- A row without the columns of the query. -/
def RawColumns.empty : RawColumns := ⟨0, 0, none⟩

def mapDepartmentListExtras (entities : List ListedDepartment) (raw : List RawColumns) :
    ExtrasById :=
  (entities.mapIdx (fun index department =>
    (department.id, toExtras (raw[index]?.getD .empty)))).foldl Table.upsert ∅

def findAllDepartments (locale : Locale) (l : Listings) (now : Instant)
    (query : ListDepartmentsQuery) : PaginatedDepartmentsResult :=
  let pagination := paginate query.page query.limit
  let matching := matchingDepartments locale l now query
  let rows := (matching.drop pagination.skip).take pagination.limit
  { data := rows.map Prod.fst
    extrasByDepartmentId := mapDepartmentListExtras (rows.map Prod.fst) (rows.map Prod.snd)
    page := pagination.page
    limit := pagination.limit
    total := matching.length
    totalPages := totalPages matching.length pagination.limit }

/-! ## The export -/

def formatBudgetHealth (extras : DepartmentListExtras) : Text :=
  if !extras.hasBudget then ascii "No budget"
  else if extras.isOverBudget then ascii "Over budget"
  else if extras.isNearLimit then ascii "Near limit"
  else ascii "Within limit"

/-- `toFixed(1)` of the parsed column, if there is a budget. -/
def formatUtilization : Option Nat → Text
  | some hundredths => Js.toFixedOne (Js.parseHundredths hundredths)
  | none => []

def exportHeaders : List Text :=
  [ascii "Reference", ascii "Name", ascii "Code", ascii "Manager Email", ascii "Headcount",
    ascii "Pending Approvals", ascii "Budget Health", ascii "Utilization %", ascii "Active",
    ascii "Created At", ascii "Updated At"]

/-- The cells of a department. -/
def exportRow (department : ListedDepartment) (extras : DepartmentListExtras) : List Text :=
  [ofString department.reference,
    ofString department.name,
    ofString department.code,
    ofString ((department.manager.map (·.email)).getD ""),
    natural extras.headcount,
    natural extras.pendingApprovalCount,
    formatBudgetHealth extras,
    formatUtilization extras.utilizationPercent,
    if department.isActive then ascii "Yes" else ascii "No",
    Date.toISOString department.createdAt,
    Date.toISOString department.updatedAt]

def buildDepartmentListExportCsv (departments : List ListedDepartment) (extrasById : ExtrasById) :
    Text :=
  exportCsv (exportHeaders :: departments.map (fun department =>
    exportRow department (((extrasById.find? department.id).map Prod.snd).getD
      ⟨0, 0, false, none, false, false⟩)))

def buildDepartmentsExportCsv (locale : Locale) (l : Listings) (now : Instant)
    (query : ListDepartmentsQuery) : Text :=
  let result := findAllDepartments locale l now
    { query with page := some 1, limit := some EXPORT_ROW_LIMIT }
  buildDepartmentListExportCsv result.data result.extrasByDepartmentId

/-! ## What the export has -/

/-- The texts of a department that are not of its own making. -/
def ListedDepartment.texts (department : ListedDepartment) : List String :=
  [department.reference, department.name, department.code,
    (department.manager.map (·.email)).getD ""]

theorem two_le_length_exportRow (department : ListedDepartment) (extras : DepartmentListExtras) :
    2 ≤ (exportRow department extras).length := by
  simp [exportRow]

theorem recoverable_exportHeaders : ∀ text ∈ exportHeaders, Recoverable exportSpecials text :=
  fun text htext => .inr ((by decide : ∀ text ∈ exportHeaders, carriageReturn ∉ text) text htext)

theorem recoverable_formatBudgetHealth (extras : DepartmentListExtras) :
    Recoverable exportSpecials (formatBudgetHealth extras) := by
  have hnone : carriageReturn ∉ ascii "No budget" := by decide
  have hover : carriageReturn ∉ ascii "Over budget" := by decide
  have hnear : carriageReturn ∉ ascii "Near limit" := by decide
  have hwithin : carriageReturn ∉ ascii "Within limit" := by decide
  unfold formatBudgetHealth
  split_ifs
  · exact .inr hnone
  · exact .inr hover
  · exact .inr hnear
  · exact .inr hwithin

theorem recoverable_formatUtilization (utilization : Option Nat) :
    Recoverable exportSpecials (formatUtilization utilization) := by
  cases utilization with
  | none => exact .inr List.not_mem_nil
  | some hundredths =>
    rw [formatUtilization]
    exact recoverable_printed isPrinted_toFixedOne

/-- The cells that the code prints itself always come back. -/
theorem recoverable_exportRow {department : ListedDepartment} {extras : DepartmentListExtras} :
    (∀ text ∈ exportRow department extras, Recoverable exportSpecials text) ↔
      ∀ text ∈ department.texts, Readable text := by
  have hcount (n : Nat) : Recoverable exportSpecials (natural n) :=
    recoverable_printed isPrinted_natural
  simp only [exportRow, ListedDepartment.texts, List.forall_mem_cons, List.not_mem_nil,
    false_implies, implies_true, recoverable_ofString, hcount, recoverable_formatBudgetHealth,
    recoverable_formatUtilization, recoverable_yesNo, recoverable_toISOString, and_true]

section Rows

variable {rows : List (ListedDepartment × RawColumns)} {row : ListedDepartment × RawColumns}

/-- The raw rows are those of the entities, one for each. -/
theorem mapDepartmentListExtras_eq (rows : List (ListedDepartment × RawColumns)) :
    mapDepartmentListExtras (rows.map Prod.fst) (rows.map Prod.snd) =
      (rows.map (fun row => (row.1.id, toExtras row.2))).foldl Table.upsert ∅ := by
  rw [mapDepartmentListExtras]
  congr 1
  refine List.ext_getElem? fun i => ?_
  simp only [List.getElem?_mapIdx, List.getElem?_map, Option.map_map]
  cases rows[i]? <;> rfl

theorem find?_mapDepartmentListExtras (hids : (rows.map (·.1.id)).Nodup) (hrow : row ∈ rows) :
    (mapDepartmentListExtras (rows.map Prod.fst) (rows.map Prod.snd)).find? row.1.id =
      some (row.1.id, toExtras row.2) := by
  rw [mapDepartmentListExtras_eq]
  refine Table.find?_foldl_upsert (List.mem_map.2 ⟨row, hrow, rfl⟩) ?_ ∅
  intro entry hentry hkey
  obtain ⟨other, hother, rfl⟩ := List.mem_map.1 hentry
  rw [List.inj_on_of_nodup_map hids hother hrow hkey]

/-- A department is exported with the columns of its own row. -/
theorem buildDepartmentListExportCsv_eq (hids : (rows.map (·.1.id)).Nodup) :
    buildDepartmentListExportCsv (rows.map Prod.fst)
        (mapDepartmentListExtras (rows.map Prod.fst) (rows.map Prod.snd)) =
      exportCsv (exportHeaders :: rows.map (fun row => exportRow row.1 (toExtras row.2))) := by
  rw [buildDepartmentListExportCsv, List.map_map]
  congr 2
  refine List.map_congr_left fun row hrow => ?_
  rw [Function.comp_apply, find?_mapDepartmentListExtras hids hrow]
  rfl

end Rows

theorem nodup_matchingDepartments (locale : Locale) (l : Listings) (now : Instant)
    (query : ListDepartmentsQuery) :
    ((matchingDepartments locale l now query).map (·.1.id)).Nodup := by
  rw [matchingDepartments, ((List.perm_insertionSort _ _).map _).nodup_iff]
  refine List.Nodup.sublist (List.filter_sublist.map _) ?_
  rw [List.map_map]
  exact l.db.departments.nodup

/-- The limit the export asks for is cut to that of a page. -/
theorem buildDepartmentsExportCsv_eq (locale : Locale) (l : Listings) (now : Instant)
    (query : ListDepartmentsQuery) : buildDepartmentsExportCsv locale l now query =
      exportCsv (exportHeaders :: ((matchingDepartments locale l now query).map
        (fun row => exportRow row.1 (toExtras row.2))).take 100) := by
  have hpage : paginate (some 1) (some EXPORT_ROW_LIMIT) = ⟨1, 100, 0⟩ :=
    paginate_first (by decide)
  have hids : (((matchingDepartments locale l now query).take 100).map (·.1.id)).Nodup :=
    (nodup_matchingDepartments locale l now query).sublist ((List.take_sublist 100 _).map _)
  rw [← List.map_take, ← buildDepartmentListExportCsv_eq hids]
  rw [buildDepartmentsExportCsv, findAllDepartments, hpage]
  rfl

/-- The file has one record for each department that matches the query, in the order of the
    list. -/
def ExportsEveryDepartment (locale : Locale) (l : Listings) (now : Instant)
    (query : ListDepartmentsQuery) : Prop :=
  parseCsv (buildDepartmentsExportCsv locale l now query) =
    exportHeaders :: (matchingDepartments locale l now query).map
      (fun row => exportRow row.1 (toExtras row.2))

theorem exportsEveryDepartment_iff (locale : Locale) (l : Listings) (now : Instant)
    (query : ListDepartmentsQuery) : ExportsEveryDepartment locale l now query ↔
      (matchingDepartments locale l now query).length ≤ 100 ∧
        ∀ row ∈ matchingDepartments locale l now query, ∀ text ∈ row.1.texts, Readable text := by
  have htwo : ∀ row : ListedDepartment × RawColumns, 2 ≤ (exportRow row.1 (toExtras row.2)).length :=
    fun row => two_le_length_exportRow row.1 (toExtras row.2)
  rw [ExportsEveryDepartment, buildDepartmentsExportCsv_eq,
    parse_exportCsv_take (by decide) recoverable_exportHeaders htwo]
  simp only [recoverable_exportRow]

end Expentra.DepartmentQuery
