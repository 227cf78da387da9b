-- SUMMARY: The list of approval levels, and its export.
import Expentra.Approval.Levels
import Expentra.Export.Listings

/-!
# Export of approval levels

The export asks the list for its first page with a limit of 5000, and the list gives it
100 rows of them.
-/

namespace Expentra.ApprovalLevels

open Text Csv

structure ListApprovalLevelsQuery where
  page : Option Int
  limit : Option Int
  search : Option String
  isActive : Option Bool
  roleReference : Option String
  approverType : Option ApprovalApproverType
deriving DecidableEq

/-- A level with the role the query joins. -/
structure ListedLevel extends ApprovalLevel, Timestamps where
  role : Option Role
deriving DecidableEq

structure PaginatedApprovalLevelsResult where
  data : List ListedLevel
  page : Nat
  limit : Nat
  total : Nat
  totalPages : Nat
deriving DecidableEq

def EXPORT_ROW_LIMIT : Int := 5000

/-! ## The list -/

def loadLevel (l : Listings) (level : ApprovalLevel) : ListedLevel :=
  { level with
    toTimestamps := l.levelTimes level.id
    role := level.roleId.bind (fun id => l.db.roles.find? (fun role => role.id = id)) }

/-- The id of the role to filter by; an empty reference is none. -/
def resolveRoleFilter (db : Db) (roleReference : Option String) :
    Except HttpException (Option Nat) :=
  match roleReference with
  | none => .ok none
  | some reference =>
    if reference = "" then .ok none
    else (findEntityByReference db.roles (·.reference) reference "Role not found").map
      (fun role => some role.id)

def isListed (locale : Locale) (query : ListApprovalLevelsQuery) (roleId : Option Nat)
    (level : ListedLevel) : Bool :=
  query.isActive.all (level.isActive = ·) &&
    query.approverType.all (level.approverType = ·) &&
    roleId.all (level.roleId = some ·) &&
    matchesSearch locale query.search
      [some level.reference, some level.name, level.role.map (·.name), level.description]

/-- The rows that match a query, in the order of the list. -/
def matchingLevels (locale : Locale) (l : Listings) (query : ListApprovalLevelsQuery) :
    Except HttpException (List ListedLevel) := do
  let roleId ← resolveRoleFilter l.db query.roleReference
  let levels := (l.db.levels.rows.map (loadLevel l)).filter (isListed locale query roleId)
  pure (levels.insertionSort (fun left right => left.level ≤ right.level))

def findAllApprovalLevels (locale : Locale) (l : Listings) (query : ListApprovalLevelsQuery) :
    Except HttpException PaginatedApprovalLevelsResult := do
  let pagination := paginate query.page query.limit
  let levels ← matchingLevels locale l query
  pure {
    data := (levels.drop pagination.skip).take pagination.limit
    page := pagination.page
    limit := pagination.limit
    total := levels.length
    totalPages := totalPages levels.length pagination.limit }

/-! ## The export -/

def formatAmountRange (minimumAmount : Int) (maximumAmount : Option Int) : Text :=
  if minimumAmount ≤ 0 && maximumAmount.all (· ≤ 0) then ascii "All amounts"
  else match maximumAmount with
    | none => ascii ">= " ++ ofInt minimumAmount
    | some maximumAmount => ofInt minimumAmount ++ ascii " - " ++ ofInt maximumAmount

def approverTypeText : ApprovalApproverType → Text
  | .DEPARTMENT_MANAGER => ascii "department_manager"
  | .FINANCE_MANAGER => ascii "finance_manager"

def exportHeaders : List Text :=
  [ascii "Reference", ascii "Name", ascii "Level Order", ascii "Approver Type", ascii "Role",
    ascii "Minimum Amount (kobo)", ascii "Maximum Amount (kobo)", ascii "Amount Range",
    ascii "Active", ascii "Description", ascii "Created At", ascii "Updated At"]

/-- The cells of a level. -/
def exportRow (level : ListedLevel) : List Text :=
  [ofString level.reference,
    ofString level.name,
    ofInt level.level,
    approverTypeText level.approverType,
    ofString ((level.role.map (·.name)).getD ""),
    ofInt level.minimumAmount,
    (level.maximumAmount.map ofInt).getD [],
    formatAmountRange level.minimumAmount level.maximumAmount,
    if level.isActive then ascii "Yes" else ascii "No",
    ofString (level.description.getD ""),
    Date.toISOString level.createdAt,
    Date.toISOString level.updatedAt]

def buildApprovalLevelExportCsv (levels : List ListedLevel) : Text :=
  exportCsv (exportHeaders :: levels.map exportRow)

def buildApprovalLevelsExportCsv (locale : Locale) (l : Listings) (query : ListApprovalLevelsQuery) :
    Except HttpException Text := do
  let result ← findAllApprovalLevels locale l
    { query with page := some 1, limit := some EXPORT_ROW_LIMIT }
  pure (buildApprovalLevelExportCsv result.data)

/-! ## What the export has -/

/-- The texts of a level that are not of its own making. -/
def ListedLevel.texts (level : ListedLevel) : List String :=
  [level.reference, level.name, (level.role.map (·.name)).getD "", level.description.getD ""]

theorem two_le_length_exportRow (level : ListedLevel) : 2 ≤ (exportRow level).length := by
  simp [exportRow]

theorem recoverable_exportHeaders : ∀ text ∈ exportHeaders, Recoverable exportSpecials text :=
  fun text htext => .inr ((by decide : ∀ text ∈ exportHeaders, carriageReturn ∉ text) text htext)

theorem recoverable_approverTypeText (approverType : ApprovalApproverType) :
    Recoverable exportSpecials (approverTypeText approverType) := by
  cases approverType
  · exact .inr (by decide)
  · exact .inr (by decide)

theorem recoverable_maximumAmount (maximumAmount : Option Int) :
    Recoverable exportSpecials ((maximumAmount.map ofInt).getD []) := by
  cases maximumAmount with
  | none => exact .inr List.not_mem_nil
  | some maximumAmount => exact recoverable_ofInt maximumAmount

theorem recoverable_formatAmountRange (minimumAmount : Int) (maximumAmount : Option Int) :
    Recoverable exportSpecials (formatAmountRange minimumAmount maximumAmount) := by
  have hamount (n : Int) : carriageReturn ∉ ofInt n := no_return_of_printed isPrinted_ofInt
  have hleast : carriageReturn ∉ ascii ">= " := by decide
  have hdash : carriageReturn ∉ ascii " - " := by decide
  refine .inr ?_
  unfold formatAmountRange
  split
  · decide
  · cases maximumAmount with
    | none => exact List.not_mem_append hleast (hamount minimumAmount)
    | some maximumAmount =>
      exact List.not_mem_append (List.not_mem_append (hamount minimumAmount) hdash)
        (hamount maximumAmount)

/-- The cells that the code prints itself always come back. -/
theorem recoverable_exportRow {level : ListedLevel} :
    (∀ text ∈ exportRow level, Recoverable exportSpecials text) ↔
      ∀ text ∈ level.texts, Readable text := by
  simp only [exportRow, ListedLevel.texts, List.forall_mem_cons, List.not_mem_nil, false_implies,
    implies_true, recoverable_ofString, recoverable_ofInt, recoverable_approverTypeText,
    recoverable_maximumAmount, recoverable_formatAmountRange, recoverable_yesNo,
    recoverable_toISOString, true_and, and_true]

/-- The limit the export asks for is cut to that of a page. -/
theorem buildApprovalLevelsExportCsv_eq (locale : Locale) (l : Listings)
    (query : ListApprovalLevelsQuery) : buildApprovalLevelsExportCsv locale l query =
      (matchingLevels locale l query).map
        (fun levels => exportCsv (exportHeaders :: (levels.map exportRow).take 100)) := by
  have hpage : paginate (some 1) (some EXPORT_ROW_LIMIT) = ⟨1, 100, 0⟩ :=
    paginate_first (by decide)
  rw [buildApprovalLevelsExportCsv, findAllApprovalLevels, hpage]
  change Except.bind (Except.bind (matchingLevels locale l query) _) _ = _
  cases matchingLevels locale l query with
  | error e => rfl
  | ok levels =>
    refine congrArg (fun rows => Except.ok (exportCsv (exportHeaders :: rows))) ?_
    rw [List.map_take]
    rfl

/-- The file has one record for each level that matches the query, in the order of the
    list. -/
def ExportsEveryLevel (locale : Locale) (l : Listings) (query : ListApprovalLevelsQuery) : Prop :=
  (buildApprovalLevelsExportCsv locale l query).map parseCsv =
    (matchingLevels locale l query).map (fun levels => exportHeaders :: levels.map exportRow)

theorem exportsEveryLevel_iff (locale : Locale) (l : Listings) (query : ListApprovalLevelsQuery) :
    ExportsEveryLevel locale l query ↔ ∀ levels, matchingLevels locale l query = .ok levels →
      levels.length ≤ 100 ∧ ∀ level ∈ levels, ∀ text ∈ level.texts, Readable text := by
  rw [ExportsEveryLevel, buildApprovalLevelsExportCsv_eq]
  cases matchingLevels locale l query with
  | error e =>
    refine iff_of_true rfl fun levels hmatching => ?_
    cases hmatching
  | ok levels =>
    change Except.ok (parseCsv _) = Except.ok _ ↔ _
    rw [Except.ok.injEq, parse_exportCsv_take (by decide) recoverable_exportHeaders
      two_le_length_exportRow]
    simp only [recoverable_exportRow, Except.ok.injEq, forall_eq']

end Expentra.ApprovalLevels
