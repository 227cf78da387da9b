-- SUMMARY: The summary, the breakdowns and the export of one spending report tell the same spend.
import Expentra.Report.Summary

/-!
# The views of a report

Summary, categories, departments and export select the expenses by four queries. Every line
of a breakdown has the count and the sum of its rows of the export, and the lines of a
breakdown together are the whole report.
-/

namespace Expentra

open Library

/-- The unique columns the report groups by. -/
structure UniqueReferences (db : Db) : Prop where
  users : (db.users.rows.map (·.reference)).Nodup
  departments : (db.departments.rows.map (·.reference)).Nodup

namespace ReportService

section Rows

variable {db : Db} {authUser : AuthUser} {query : SpendingReportQuery} {departmentId : Option Nat}
  {rows : List ExpenseExportRow}

/-- The exported row of an expense. -/
def exportOf (db : Db) (row : Expense) : ExpenseExportRow := toExportRow db (db.withRelations row)

theorem getExpenseExportRows_eq_ok : getExpenseExportRows db authUser query = .ok rows ↔
    ∃ departmentId, resolveDepartmentFilter db query = .ok departmentId ∧
      rows = ((scopedRows db authUser query departmentId).insertionSort bySubmittedAt).map
        (exportOf db) := by
  unfold getExpenseExportRows scopedExpenses
  cases resolveDepartmentFilter db query with
  | error e =>
    constructor
    · intro h
      cases h
    · rintro ⟨_, h, -⟩
      cases h
  | ok departmentId =>
    have hmap : ∀ l : List Expense, (l.map db.withRelations).map (toExportRow db) =
        l.map (exportOf db) := fun l => List.map_map
    constructor
    · intro h
      cases h
      exact ⟨departmentId, rfl, hmap _⟩
    · rintro ⟨_, h, rfl⟩
      cases h
      exact congrArg Except.ok (hmap _)

/-- The rows of the export that satisfy a condition, in totals of the expenses in scope. -/
theorem totals_export (p : ExpenseExportRow → Bool) :
    Totals.of (·.amount) ((((scopedRows db authUser query departmentId).insertionSort
        bySubmittedAt).map (exportOf db)).filter p) =
      Totals.of amountOf ((scopedRows db authUser query departmentId).filter (fun row =>
        p (exportOf db row))) := by
  rw [List.filter_map, Totals.of_map]
  exact Totals.of_perm ((List.perm_insertionSort bySubmittedAt _).filter _)

/-- An expense in scope has its owner. -/
theorem owner_of_mem_scopedRows {row : Expense}
    (h : row ∈ scopedRows db authUser query departmentId) :
    ∃ owner, db.users.find? row.userId = some owner ∧
      departmentId.all (owner.departmentId = some ·) = true := by
  have hselected := (Bool.and_eq_true_iff.1 (List.mem_filter.1 h).2).1
  unfold isSelected at hselected
  simp only [Bool.and_eq_true] at hselected
  exact (Option.any_eq_true _ _).1 hselected.1.1.1

/-- The filter by a department is one more condition on the owners. -/
theorem scopedRows_some (id : Nat) : scopedRows db authUser query (some id) =
    (scopedRows db authUser query none).filter (fun row =>
      (db.users.find? row.userId).any (·.departmentId = some id)) := by
  unfold scopedRows
  rw [List.filter_filter]
  refine List.filter_congr fun row _ => ?_
  unfold isSelected
  cases db.users.find? row.userId with
  | none => rfl
  | some owner =>
    simp only [Option.any_some, Option.all_some, Option.all_none, Bool.true_and]
    cases decide (owner.departmentId = some id) <;> simp

/-- The join keeps every expense in scope, with its owner. -/
theorem totals_withOwners (p : Expense × User → Bool) {rows : List Expense}
    (howners : ∀ row ∈ rows, (db.users.find? row.userId).isSome = true) :
    Totals.of (fun row => amountOf row.1) ((withOwners db rows).filter p) =
      Totals.of amountOf (rows.filter (fun row =>
        (db.users.find? row.userId).any (fun owner => p (row, owner)))) := by
  induction rows with
  | nil => rfl
  | cons row rest ih =>
    obtain ⟨owner, howner⟩ := Option.isSome_iff_exists.1 (howners row List.mem_cons_self)
    have hrest := ih fun r hr => howners r (List.mem_cons_of_mem _ hr)
    rw [withOwners, List.filterMap_cons, howner, Option.map_some, List.filter_cons, List.filter_cons,
      howner, Option.any_some, ← withOwners]
    cases p (row, owner) with
    | false => exact hrest
    | true => simp only [if_true, Totals.of_cons, hrest]

theorem mem_withOwners {rows : List Expense} {pair : Expense × User} : pair ∈ withOwners db rows ↔
    pair.1 ∈ rows ∧ db.users.find? pair.1.userId = some pair.2 := by
  obtain ⟨row, owner⟩ := pair
  simp only [withOwners, List.mem_filterMap, Option.map_eq_some_iff]
  constructor
  · rintro ⟨row', hrow, owner', howner, heq⟩
    cases heq
    exact ⟨hrow, howner⟩
  · rintro ⟨hrow, howner⟩
    exact ⟨row, hrow, owner, howner, rfl⟩

/-! ## Departments and owners -/

theorem departmentRelation_mem {departmentId : Option Nat} {department : Department}
    (h : db.departmentRelation departmentId = some department) :
    department ∈ db.departments.rows ∧ departmentId = some department.id := by
  obtain ⟨hbind, -⟩ := Option.filter_eq_some_iff.1 h
  obtain ⟨id, hid, hfind⟩ := Option.bind_eq_some_iff.1 hbind
  exact ⟨Table.mem_of_find? hfind, hid.trans (congrArg some (Table.key_of_find? hfind).symm)⟩

/-- A department is told by its reference. -/
theorem departmentRelation_eq_of_reference (hunique : UniqueReferences db)
    {id id' : Option Nat} {department department' : Department}
    (h : db.departmentRelation id = some department)
    (h' : db.departmentRelation id' = some department')
    (hreference : department.reference = department'.reference) : department = department' :=
  List.inj_on_of_nodup_map hunique.departments (departmentRelation_mem h).1
    (departmentRelation_mem h').1 hreference

variable {r : Reporting}

/-- A row is in the group of a department if and only if the department has its reference. -/
theorem departmentGroup_eq_iff (hunique : UniqueReferences r.db) {first row : Expense × User}
    {group : DepartmentGroup} (hfirst : departmentGroup r first = some group) :
    departmentGroup r row = some group ↔
      (r.db.departmentRelation row.2.departmentId).map (·.reference) = some group.reference := by
  obtain ⟨department, hdepartment, rfl⟩ := Option.map_eq_some_iff.1 hfirst
  unfold departmentGroup
  constructor
  · intro h
    obtain ⟨other, hother, hgroup⟩ := Option.map_eq_some_iff.1 h
    rw [hother]
    exact congrArg some (congrArg DepartmentGroup.reference hgroup)
  · intro h
    obtain ⟨other, hother, hreference⟩ := Option.map_eq_some_iff.1 h
    rw [hother, departmentRelation_eq_of_reference hunique hother hdepartment hreference]
    rfl

/-- A row is in the group of an owner if and only if its owner has the reference. -/
theorem spenderGroup_eq_iff (hunique : UniqueReferences r.db) {first row : Expense × User}
    (hfirst : first.2 ∈ r.db.users) (hrow : row.2 ∈ r.db.users) :
    spenderGroup r row = spenderGroup r first ↔ row.2.reference = first.2.reference := by
  constructor
  · exact congrArg SpenderGroup.reference
  · intro h
    have howner : row.2 = first.2 := List.inj_on_of_nodup_map hunique.users hrow hfirst h
    rw [spenderGroup, spenderGroup, howner]

end Rows

/-! ## The lines of a breakdown -/

section Lines

variable {r : Reporting} {authUser : AuthUser} {query : SpendingReportQuery}
  {departmentId : Option Nat} {rows : List Expense}

theorem byStatus_line {line : StatusSpendingRow} (h : line ∈ byStatus rows) :
    line.toTotals = Totals.of amountOf (rows.filter (·.status = line.status)) := by
  obtain ⟨g, hg, rfl⟩ := List.mem_map.1 h
  exact (mem_groupBy.1 ((List.mem_insertionSort _).1 hg)).2

theorem byCategory_line {line : CategorySpendingRow} (h : line ∈ byCategory rows) :
    line.toTotals = Totals.of amountOf (rows.filter (·.category = line.category)) := by
  obtain ⟨g, hg, rfl⟩ := List.mem_map.1 h
  exact (mem_groupBy.1 ((List.mem_insertionSort _).1 hg)).2

/-- However its groups are sorted, a breakdown adds up to the rows. -/
theorem sum_sorted_groups {κ : Type} [DecidableEq κ] {α : Type} {key : α → κ} {amount : α → Int}
    (le : GroupRow κ → GroupRow κ → Prop) [DecidableRel le] (items : List α) :
    (((groupBy key amount items).insertionSort le).map (·.toTotals)).sum = Totals.of amount items :=
  (((List.perm_insertionSort le _).map _).sum_eq).trans sum_groupBy

theorem sum_byStatus : ((byStatus rows).map (·.toTotals)).sum = Totals.of amountOf rows := by
  rw [byStatus, List.map_map]
  exact sum_sorted_groups _ rows

theorem sum_byCategory : ((byCategory rows).map (·.toTotals)).sum = Totals.of amountOf rows := by
  rw [byCategory, List.map_map]
  exact sum_sorted_groups _ rows

theorem nodup_sorted_groups {κ : Type} [DecidableEq κ] {α : Type} {key : α → κ} {amount : α → Int}
    (le : GroupRow κ → GroupRow κ → Prop) [DecidableRel le] (items : List α) :
    (((groupBy key amount items).insertionSort le).map (·.key)).Nodup :=
  ((List.perm_insertionSort le _).map _).nodup_iff.2 nodup_groupBy

theorem nodup_byStatus : ((byStatus rows).map (·.status)).Nodup := by
  rw [byStatus, List.map_map]
  exact nodup_sorted_groups _ rows

theorem nodup_byCategory : ((byCategory rows).map (·.category)).Nodup := by
  rw [byCategory, List.map_map]
  exact nodup_sorted_groups _ rows

/-- A line of a department is that of a group with the department's columns. -/
theorem mem_byDepartment {pairs : List (Expense × User)} {line : DepartmentSpendingRow} :
    line ∈ byDepartment r pairs ↔
      ∃ g ∈ groupBy (departmentGroup r) (fun row => amountOf row.1) pairs,
        ∃ group, g.key = some group ∧ group.reference ≠ "" ∧
          line = ⟨g.toTotals, group.reference, group.name, group.code⟩ := by
  simp only [byDepartment, List.mem_filterMap, List.mem_insertionSort, Option.map_eq_some_iff,
    Option.filter_eq_some_iff, decide_eq_true_eq]
  constructor
  · rintro ⟨g, hg, group, ⟨hkey, hreference⟩, rfl⟩
    exact ⟨g, hg, group, hkey, hreference, rfl⟩
  · rintro ⟨g, hg, group, hkey, hreference, rfl⟩
    exact ⟨g, hg, group, ⟨hkey, hreference⟩, rfl⟩

/-- The rows of a department with a reference. -/
def hasDepartment (group : Option DepartmentGroup) : Bool := group.any (·.reference ≠ "")

theorem sum_byDepartment (pairs : List (Expense × User)) :
    ((byDepartment r pairs).map (·.toTotals)).sum =
      Totals.of (fun row => amountOf row.1)
        (pairs.filter (fun row => hasDepartment (departmentGroup r row))) := by
  rw [← sum_groupBy_filter]
  have hlines : ∀ groups : List (GroupRow (Option DepartmentGroup)),
      ((groups.filterMap (fun g => (g.key.filter (·.reference ≠ "")).map (fun department =>
        (⟨g.toTotals, department.reference, department.name, department.code⟩ :
          DepartmentSpendingRow)))).map (·.toTotals)) =
        (groups.filter (fun g => hasDepartment g.key)).map (·.toTotals) := by
    intro groups
    induction groups with
    | nil => rfl
    | cons g rest ih =>
      rw [List.filterMap_cons, List.filter_cons]
      cases hkey : g.key with
      | none => simpa [hasDepartment, hkey] using ih
      | some department =>
        by_cases hreference : department.reference = ""
        · simpa [hasDepartment, hkey, hreference, Option.filter] using ih
        · simpa [hasDepartment, hkey, hreference, Option.filter] using ih
  rw [byDepartment, hlines]
  exact (((List.perm_insertionSort byTotal _).filter _).map _).sum_eq

end Lines

/-! ## The lines and the export -/

section Views

variable {r : Reporting} {authUser : AuthUser} {query : SpendingReportQuery}
  {departmentId own : Option Nat} {row : Expense} {owner : User}

theorem departmentReference_exportOf {db : Db} (howner : db.users.find? row.userId = some owner) :
    (exportOf db row).departmentReference =
      (db.departmentRelation owner.departmentId).map (·.reference) := by
  simp [exportOf, toExportRow, Db.withRelations, Expense.toEntity, howner]

theorem userReference_exportOf {db : Db} (howner : db.users.find? row.userId = some owner) :
    (exportOf db row).userReference = owner.reference := by
  simp [exportOf, toExportRow, Db.withRelations, Expense.toEntity, howner]

theorem isSome_owner {db : Db} : ∀ row ∈ scopedRows db authUser query departmentId,
    (db.users.find? row.userId).isSome = true := by
  intro row hrow
  obtain ⟨owner, howner, -⟩ := owner_of_mem_scopedRows hrow
  rw [howner]
  rfl

/-- The department the breakdown is restricted to: of a caller who does not see every expense,
    and asks for no department, it is the caller's own. -/
def ownDepartment? (r : Reporting) (authUser : AuthUser) (query : SpendingReportQuery) : Option Nat :=
  if query.departmentReference.any (· ≠ "") ||
      ExpenseAccessPolicy.expenseListVisibility authUser = .all then none
  else (r.db.users.find? authUser.id).bind (·.departmentId)

/-- The filter by one's own department is used without a filter by a reference only. -/
theorem resolveFilters_cases (hown : resolveOwnDepartmentFilter r.db authUser query = .ok own)
    (hdepartment : resolveDepartmentFilter r.db query = .ok departmentId) :
    (own = departmentId ∧ ownDepartment? r authUser query = none) ∨
      (departmentId = none ∧ own = ownDepartment? r authUser query) := by
  unfold resolveOwnDepartmentFilter at hown
  unfold ownDepartment?
  split at hown
  · next hreference =>
    rw [hdepartment] at hown
    cases hown
    exact .inl ⟨rfl, by rw [hreference, Bool.true_or, if_pos rfl]⟩
  · next hreference =>
    have hnone : departmentId = none := by
      unfold resolveDepartmentFilter at hdepartment
      split at hdepartment
      · cases hdepartment
        rfl
      · next reference hsome =>
        rw [hsome] at hreference
        have hempty : reference = "" := by simpa using hreference
        rw [if_pos hempty] at hdepartment
        cases hdepartment
        rfl
    refine .inr ⟨hnone, ?_⟩
    rw [Bool.not_eq_true] at hreference
    rw [hreference, Bool.false_or]
    split at hown
    · next hvisibility =>
      cases hown
      rw [if_neg (by simpa using hvisibility)]
    · next hvisibility =>
      cases hown
      rw [if_pos (by simpa using hvisibility)]

/-- The expenses of a group are those of the report whose owners are in the department. -/
theorem totals_departmentGroup (hunique : UniqueReferences r.db) {group : DepartmentGroup}
    (hcases : own = departmentId ∨ departmentId = none) {first : Expense × User}
    (hfirst : first ∈ withOwners r.db (scopedRows r.db authUser query own))
    (hgroup : departmentGroup r first = some group) :
    Totals.of (fun row => amountOf row.1) ((withOwners r.db (scopedRows r.db authUser query own)).filter
        (fun row => departmentGroup r row = some group)) =
      Totals.of amountOf ((scopedRows r.db authUser query departmentId).filter (fun row =>
        (exportOf r.db row).departmentReference = some group.reference)) := by
  rw [totals_withOwners _ isSome_owner]
  have hline : ∀ row ∈ scopedRows r.db authUser query departmentId,
      (r.db.users.find? row.userId).any (fun owner => departmentGroup r (row, owner) = some group) =
        decide ((exportOf r.db row).departmentReference = some group.reference) := by
    intro row hrow
    obtain ⟨owner, howner, -⟩ := owner_of_mem_scopedRows hrow
    rw [howner, Option.any_some, departmentReference_exportOf howner]
    exact decide_eq_decide.2 (departmentGroup_eq_iff hunique hgroup)
  rw [← List.filter_congr hline]
  rcases hcases with rfl | rfl
  · rfl
  · cases own with
    | none => rfl
    | some id =>
      rw [scopedRows_some, List.filter_filter]
      refine congrArg (Totals.of amountOf) (List.filter_congr fun row hrow => ?_)
      obtain ⟨owner, howner, -⟩ := owner_of_mem_scopedRows hrow
      rw [howner, Option.any_some, Option.any_some]
      by_cases hsame : departmentGroup r (row, owner) = some group
      · -- the first row of the group is of the user's own department, so is this one
        obtain ⟨hmem, hfound⟩ := mem_withOwners.1 hfirst
        obtain ⟨firstOwner, hfirstOwner, hid⟩ := owner_of_mem_scopedRows hmem
        cases hfound.symm.trans hfirstOwner
        obtain ⟨department, hdepartment, rfl⟩ := Option.map_eq_some_iff.1 hgroup
        obtain ⟨other, hother, hreference⟩ :=
          Option.map_eq_some_iff.1 ((departmentGroup_eq_iff hunique hgroup).1 hsame)
        have hother' := departmentRelation_eq_of_reference hunique hother hdepartment hreference
        have hownId : owner.departmentId = some id := by
          rw [(departmentRelation_mem hother).2, hother', ← (departmentRelation_mem hdepartment).2]
          simpa using hid
        simp [hsame, hownId]
      · simp [hsame]

theorem hasDepartment_departmentGroup (row : Expense × User) :
    hasDepartment (departmentGroup r row) =
      ((r.db.departmentRelation row.2.departmentId).map (·.reference)).any (· ≠ "") := by
  unfold hasDepartment departmentGroup
  cases r.db.departmentRelation row.2.departmentId <;> rfl

/-- The rows the breakdown by departments is about: those with a department, and of these the
    ones of the caller's own department where it is restricted to that. -/
def isInBreakdown (r : Reporting) (authUser : AuthUser) (query : SpendingReportQuery)
    (row : ExpenseExportRow) : Bool :=
  row.departmentReference.any (· ≠ "") && (ownDepartment? r authUser query).all (fun id =>
    row.departmentReference = (r.db.departmentRelation (some id)).map (·.reference))

/-- Owners whose departments have one reference are in one department. -/
theorem departmentId_eq_of_reference (hunique : UniqueReferences r.db) {id id' : Option Nat}
    (hreference : ((r.db.departmentRelation id).map (·.reference)).any (· ≠ "") = true)
    (heq : (r.db.departmentRelation id).map (·.reference) =
      (r.db.departmentRelation id').map (·.reference)) : id = id' := by
  cases hdepartment : r.db.departmentRelation id with
  | none =>
    rw [hdepartment] at hreference
    cases hreference
  | some department =>
    rw [hdepartment, Option.map_some] at heq
    obtain ⟨department', hdepartment', href⟩ := Option.map_eq_some_iff.1 heq.symm
    have hsame := departmentRelation_eq_of_reference hunique hdepartment' hdepartment href
    rw [(departmentRelation_mem hdepartment).2, (departmentRelation_mem hdepartment').2, hsame]

/-- The departments of the report are the rows the breakdown is about. -/
theorem sum_departments (hunique : UniqueReferences r.db)
    (hcases : (own = departmentId ∧ ownDepartment? r authUser query = none) ∨
      (departmentId = none ∧ own = ownDepartment? r authUser query)) :
    ((byDepartment r (withOwners r.db (scopedRows r.db authUser query own))).map (·.toTotals)).sum =
      Totals.of amountOf ((scopedRows r.db authUser query departmentId).filter (fun row =>
        isInBreakdown r authUser query (exportOf r.db row))) := by
  have hline : ∀ row ∈ scopedRows r.db authUser query own,
      (r.db.users.find? row.userId).any (fun owner => hasDepartment (departmentGroup r (row, owner))) =
        (exportOf r.db row).departmentReference.any (· ≠ "") := by
    intro row hrow
    obtain ⟨owner, howner, -⟩ := owner_of_mem_scopedRows hrow
    rw [howner, Option.any_some, hasDepartment_departmentGroup, departmentReference_exportOf howner]
  rw [sum_byDepartment, totals_withOwners _ isSome_owner, List.filter_congr hline]
  refine congrArg (Totals.of amountOf) ?_
  rcases hcases with ⟨rfl, hnone⟩ | ⟨rfl, rfl⟩
  · refine List.filter_congr fun row _ => ?_
    rw [isInBreakdown, hnone, Option.all_none, Bool.and_true]
  · cases hid : ownDepartment? r authUser query with
    | none =>
      refine List.filter_congr fun row _ => ?_
      rw [isInBreakdown, hid, Option.all_none, Bool.and_true]
    | some id =>
      rw [scopedRows_some, List.filter_filter]
      refine List.filter_congr fun row hrow => ?_
      obtain ⟨owner, howner, -⟩ := owner_of_mem_scopedRows hrow
      rw [isInBreakdown, hid, Option.all_some, howner, Option.any_some,
        departmentReference_exportOf howner, Bool.eq_iff_iff, Bool.and_eq_true, Bool.and_eq_true,
        decide_eq_true_eq, decide_eq_true_eq]
      refine and_congr_right fun hreference => ⟨fun hown => by rw [hown], ?_⟩
      exact departmentId_eq_of_reference hunique hreference

/-- No department has two lines. -/
theorem nodup_byDepartment (hunique : UniqueReferences r.db) (pairs : List (Expense × User)) :
    ((byDepartment r pairs).map (·.departmentReference)).Nodup := by
  have hkeys : (((groupBy (departmentGroup r) (fun row => amountOf row.1) pairs).insertionSort
      byTotal).map (·.key)).Nodup := nodup_sorted_groups byTotal pairs
  rw [List.Nodup, List.pairwise_map] at hkeys
  rw [List.Nodup, List.pairwise_map, byDepartment, List.pairwise_filterMap]
  refine hkeys.imp_of_mem ?_
  intro g g' hg hg' hne line hline line' hline' href
  obtain ⟨group, hgroup, rfl⟩ := Option.map_eq_some_iff.1 hline
  obtain ⟨group', hgroup', rfl⟩ := Option.map_eq_some_iff.1 hline'
  have hkey := (Option.filter_eq_some_iff.1 hgroup).1
  have hkey' := (Option.filter_eq_some_iff.1 hgroup').1
  obtain ⟨⟨first, -, hfirst⟩, -⟩ := mem_groupBy.1 ((List.mem_insertionSort _).1 hg)
  obtain ⟨⟨first', -, hfirst'⟩, -⟩ := mem_groupBy.1 ((List.mem_insertionSort _).1 hg')
  -- two groups with one reference have one key
  have hgroup' := hfirst'.trans hkey'
  have hreference := (departmentGroup_eq_iff hunique hgroup').1 hgroup'
  have hsame : departmentGroup r first' = some group :=
    (departmentGroup_eq_iff hunique (hfirst.trans hkey)).2 (hreference.trans (congrArg some href.symm))
  exact hne (hkey.trans (hsame.symm.trans hfirst'))

/-- A line of the greatest spenders is that of a group. -/
theorem mem_topSpenders {pairs : List (Expense × User)} {line : TopSpenderRow}
    (h : line ∈ topSpenders r pairs) :
    ∃ g ∈ ((groupBy (spenderGroup r) (fun row => amountOf row.1) pairs).insertionSort byTotal).take
        TOP_SPENDERS_LIMIT, line.toTotals = g.toTotals ∧ line.userReference = g.key.reference := by
  obtain ⟨g, hg, rfl⟩ := List.mem_map.1 h
  exact ⟨g, hg, rfl, rfl⟩

/-- No owner has two lines. -/
theorem nodup_topSpenders (hunique : UniqueReferences r.db) (rows : List Expense) :
    ((topSpenders r (withOwners r.db rows)).map (·.userReference)).Nodup := by
  have hkeys : (((groupBy (spenderGroup r) (fun row => amountOf row.1)
      (withOwners r.db rows)).insertionSort byTotal).map (·.key)).Nodup :=
    nodup_sorted_groups byTotal (withOwners r.db rows)
  rw [List.Nodup, List.pairwise_map] at hkeys
  rw [List.Nodup, List.pairwise_map, topSpenders, List.pairwise_map]
  refine (hkeys.sublist (List.take_sublist _ _)).imp_of_mem ?_
  intro g g' hg hg' hne href
  obtain ⟨⟨first, hfirst, hkey⟩, -⟩ :=
    mem_groupBy.1 ((List.mem_insertionSort _).1 (List.mem_of_mem_take hg))
  obtain ⟨⟨first', hfirst', hkey'⟩, -⟩ :=
    mem_groupBy.1 ((List.mem_insertionSort _).1 (List.mem_of_mem_take hg'))
  dsimp only at href
  rw [← hkey, ← hkey'] at hne href
  exact hne ((spenderGroup_eq_iff hunique (Table.mem_of_find? (mem_withOwners.1 hfirst').2)
    (Table.mem_of_find? (mem_withOwners.1 hfirst).2)).2 href)

/-- The greatest spenders are listed from the greatest on. -/
theorem pairwise_topSpenders (pairs : List (Expense × User)) :
    (topSpenders r pairs).Pairwise (fun line line' => line'.total ≤ line.total) := by
  rw [topSpenders, List.pairwise_map]
  exact (List.pairwise_insertionSort byTotal _).sublist (List.take_sublist _ _)

/-- The expenses of a group are those of the report with one owner. -/
theorem totals_spenderGroup (hunique : UniqueReferences r.db) {first : Expense × User}
    (hfirst : first ∈ withOwners r.db (scopedRows r.db authUser query departmentId)) :
    Totals.of (fun row => amountOf row.1)
        ((withOwners r.db (scopedRows r.db authUser query departmentId)).filter
          (fun row => spenderGroup r row = spenderGroup r first)) =
      Totals.of amountOf ((scopedRows r.db authUser query departmentId).filter (fun row =>
        (exportOf r.db row).userReference = first.2.reference)) := by
  rw [totals_withOwners _ isSome_owner]
  refine congrArg (Totals.of amountOf) (List.filter_congr fun row hrow => ?_)
  obtain ⟨owner, howner, -⟩ := owner_of_mem_scopedRows hrow
  rw [howner, Option.any_some, userReference_exportOf howner]
  exact decide_eq_decide.2 (spenderGroup_eq_iff hunique
    (Table.mem_of_find? (mem_withOwners.1 hfirst).2) (Table.mem_of_find? howner))

end Views

section Parts

variable {cfg : Config} {now : Instant} {r : Reporting} {authUser : AuthUser}
  {query : SpendingReportQuery} {departmentId : Option Nat}

/-- The parts of the summary, over the expenses in scope. -/
theorem getSpendingSummary_ok {summary : SpendingSummaryReport}
    (h : getSpendingSummary cfg now r authUser query = .ok summary)
    (hfilter : resolveDepartmentFilter r.db query = .ok departmentId) :
    summary.toTotals = Totals.of amountOf (scopedRows r.db authUser query departmentId) ∧
      summary.byStatus = byStatus (scopedRows r.db authUser query departmentId) ∧
      summary.topSpenders =
        topSpenders r (withOwners r.db (scopedRows r.db authUser query departmentId)) ∧
      summary.comparison = getSpendComparison r.db authUser query departmentId summary.toTotals := by
  obtain ⟨_, hid, h⟩ := Except.bind_eq_ok.1 h
  cases hfilter.symm.trans hid
  obtain ⟨_, -, h⟩ := Except.bind_eq_ok.1 h
  cases h
  exact ⟨rfl, rfl, rfl, rfl⟩

theorem totals_all_export : Totals.of (·.amount) (((scopedRows r.db authUser query
      departmentId).insertionSort bySubmittedAt).map (exportOf r.db)) =
    Totals.of amountOf (scopedRows r.db authUser query departmentId) := by
  rw [Totals.of_map]
  exact Totals.of_perm (List.perm_insertionSort bySubmittedAt _)

/-- A point of the comparison has the totals of the report of its period. -/
theorem comparisonPoint_export {current : Totals} {period : ReportPeriod}
    {rows : List ExpenseExportRow}
    (hfilter : resolveDepartmentFilter r.db query = .ok departmentId)
    (hrows : getExpenseExportRows r.db authUser (query.withPeriod period) = .ok rows) :
    (comparisonPoint r.db authUser query departmentId current period).toTotals =
      Totals.of (·.amount) rows := by
  obtain ⟨_, hid, rfl⟩ := getExpenseExportRows_eq_ok.1 hrows
  -- the filter reads the reference of the department, which the period leaves alone
  have hsame : resolveDepartmentFilter r.db (query.withPeriod period) =
      resolveDepartmentFilter r.db query := rfl
  cases hfilter.symm.trans (hsame.symm.trans hid)
  exact totals_all_export.symm

/-- Every line of a department has its rows of the export. -/
theorem byDepartment_line (hunique : UniqueReferences r.db) {own : Option Nat}
    (hcases : (own = departmentId ∧ ownDepartment? r authUser query = none) ∨
      (departmentId = none ∧ own = ownDepartment? r authUser query)) {line : DepartmentSpendingRow}
    (hline : line ∈ byDepartment r (withOwners r.db (scopedRows r.db authUser query own))) :
    line.toTotals = Totals.of amountOf ((scopedRows r.db authUser query departmentId).filter
      (fun row => (exportOf r.db row).departmentReference = some line.departmentReference)) := by
  obtain ⟨g, hg, group, hkey, -, rfl⟩ := mem_byDepartment.1 hline
  obtain ⟨⟨first, hfirst, hfirstKey⟩, htotals⟩ := mem_groupBy.1 hg
  rw [htotals, hkey]
  exact totals_departmentGroup hunique (hcases.imp And.left And.left) hfirst (hfirstKey.trans hkey)

/-- Every line of a spender has the owner's rows of the export. -/
theorem topSpenders_line (hunique : UniqueReferences r.db)
    {g : GroupRow SpenderGroup} (hg : g ∈ groupBy (spenderGroup r) (fun row => amountOf row.1)
      (withOwners r.db (scopedRows r.db authUser query departmentId))) :
    g.toTotals = Totals.of amountOf ((scopedRows r.db authUser query departmentId).filter
      (fun row => (exportOf r.db row).userReference = g.key.reference)) := by
  obtain ⟨⟨first, hfirst, hkey⟩, htotals⟩ := mem_groupBy.1 hg
  rw [htotals, ← hkey]
  exact totals_spenderGroup hunique hfirst

/-- A group of the spenders has a row of the export. -/
theorem mem_export_of_group {g : GroupRow SpenderGroup} (hg : g ∈ groupBy (spenderGroup r)
      (fun row => amountOf row.1) (withOwners r.db (scopedRows r.db authUser query departmentId))) :
    g.key.reference ∈ (((scopedRows r.db authUser query departmentId).insertionSort
      bySubmittedAt).map (exportOf r.db)).map (·.userReference) := by
  obtain ⟨⟨first, hfirst, hkey⟩, -⟩ := mem_groupBy.1 hg
  obtain ⟨hmem, howner⟩ := mem_withOwners.1 hfirst
  rw [← hkey, List.map_map]
  exact List.mem_map.2 ⟨first.1, (List.mem_insertionSort _).2 hmem, userReference_exportOf howner⟩

/-- An owner is listed, or ten others are, who spent no less. -/
theorem total_le_of_not_listed (hunique : UniqueReferences r.db) {row : Expense}
    (hrow : row ∈ scopedRows r.db authUser query departmentId) :
    (exportOf r.db row).userReference ∈ (topSpenders r (withOwners r.db
        (scopedRows r.db authUser query departmentId))).map (·.userReference) ∨
      ((topSpenders r (withOwners r.db (scopedRows r.db authUser query departmentId))).length =
          TOP_SPENDERS_LIMIT ∧
        ∀ line ∈ topSpenders r (withOwners r.db (scopedRows r.db authUser query departmentId)),
          (Totals.of amountOf ((scopedRows r.db authUser query departmentId).filter (fun other =>
            (exportOf r.db other).userReference = (exportOf r.db row).userReference))).total ≤
              line.total) := by
  obtain ⟨owner, howner, -⟩ := owner_of_mem_scopedRows hrow
  obtain ⟨pairs, hpairs⟩ : ∃ pairs,
      withOwners r.db (scopedRows r.db authUser query departmentId) = pairs := ⟨_, rfl⟩
  have hpair : (row, owner) ∈ pairs := hpairs ▸ mem_withOwners.2 ⟨hrow, howner⟩
  have hgroup : (⟨Totals.of (fun row => amountOf row.1) (pairs.filter (fun other =>
      spenderGroup r other = spenderGroup r (row, owner))), spenderGroup r (row, owner)⟩ :
        GroupRow SpenderGroup) ∈ groupBy (spenderGroup r) (fun row => amountOf row.1) pairs :=
    mem_groupBy.2 ⟨⟨_, hpair, rfl⟩, rfl⟩
  have htotals := hpairs ▸ totals_spenderGroup hunique (hpairs.symm ▸ hpair)
  rw [hpairs, userReference_exportOf howner]
  rw [← List.mem_insertionSort byTotal, ← List.take_append_drop TOP_SPENDERS_LIMIT
    ((groupBy (spenderGroup r) (fun row => amountOf row.1) pairs).insertionSort byTotal),
    List.mem_append] at hgroup
  rcases hgroup with htake | hdrop
  · exact .inl (List.mem_map.2 ⟨_, List.mem_map_of_mem htake, rfl⟩)
  · refine .inr ⟨?_, fun line hline => ?_⟩
    · -- somebody is left out, so the list is full
      have hlong := List.length_pos_of_mem hdrop
      rw [List.length_drop] at hlong
      rw [topSpenders, List.length_map, List.length_take]
      omega
    · obtain ⟨g, hg, hlineTotals, -⟩ := mem_topSpenders hline
      have hle := total_le_of_take_byTotal _ _ hg hdrop
      rw [hlineTotals]
      rw [htotals] at hle
      exact hle

end Parts

/-- What the parts of a report say of the rows of its export. -/
structure ViewsAgree (r : Reporting) (authUser : AuthUser) (query : SpendingReportQuery)
    (summary : SpendingSummaryReport) (categories : List CategorySpendingRow)
    (departments : List DepartmentSpendingRow) (rows : List ExpenseExportRow) : Prop where
  totals : summary.toTotals = Totals.of (·.amount) rows
  status : ∀ line ∈ summary.byStatus,
    line.toTotals = Totals.of (·.amount) (rows.filter (·.status = line.status))
  statuses : (summary.byStatus.map (·.status)).Nodup ∧
    (summary.byStatus.map (·.toTotals)).sum = summary.toTotals
  category : ∀ line ∈ categories,
    line.toTotals = Totals.of (·.amount) (rows.filter (·.category = line.category))
  categories : (categories.map (·.category)).Nodup ∧
    (categories.map (·.toTotals)).sum = summary.toTotals
  department : ∀ line ∈ departments, line.toTotals =
    Totals.of (·.amount) (rows.filter (·.departmentReference = some line.departmentReference))
  departments : (departments.map (·.departmentReference)).Nodup ∧
    (departments.map (·.toTotals)).sum =
      Totals.of (·.amount) (rows.filter (isInBreakdown r authUser query))
  spender : ∀ line ∈ summary.topSpenders, line.userReference ∈ rows.map (·.userReference) ∧
    line.toTotals = Totals.of (·.amount) (rows.filter (·.userReference = line.userReference))
  spenders : (summary.topSpenders.map (·.userReference)).Nodup ∧
    summary.topSpenders.Pairwise (fun line line' => line'.total ≤ line.total)
  /-- Nobody is left out but by ten who spent no less. -/
  listed : summary.topSpenders.length ≤ TOP_SPENDERS_LIMIT ∧
    ∀ row ∈ rows, row.userReference ∈ summary.topSpenders.map (·.userReference) ∨
      (summary.topSpenders.length = TOP_SPENDERS_LIMIT ∧ ∀ line ∈ summary.topSpenders,
        (Totals.of (·.amount) (rows.filter (·.userReference = row.userReference))).total ≤ line.total)
  /-- The comparison has the totals the reports of the other periods have. -/
  comparison : ∀ rows',
    (getExpenseExportRows r.db authUser (query.withPeriod (previousReportPeriod query.period)) =
        .ok rows' → summary.comparison.monthOverMonth.toTotals = Totals.of (·.amount) rows') ∧
    (getExpenseExportRows r.db authUser (query.withPeriod (yearAgoReportPeriod query.period)) =
        .ok rows' → summary.comparison.yearOverYear.toTotals = Totals.of (·.amount) rows')

/-- Whoever asks for whatever report, and whatever the database holds. -/
theorem report_views_agree {cfg : Config} {now : Instant} {r : Reporting} {authUser : AuthUser}
    {query : SpendingReportQuery} {summary : SpendingSummaryReport}
    {categories : List CategorySpendingRow} {departments : List DepartmentSpendingRow}
    {rows : List ExpenseExportRow} (hunique : UniqueReferences r.db)
    (hsummary : getSpendingSummary cfg now r authUser query = .ok summary)
    (hcategories : getSpendingByCategory r authUser query = .ok categories)
    (hdepartments : getSpendingByDepartment r authUser query = .ok departments)
    (hrows : getExpenseExportRows r.db authUser query = .ok rows) :
    ViewsAgree r authUser query summary categories departments rows := by
  obtain ⟨departmentId, hfilter, rfl⟩ := getExpenseExportRows_eq_ok.1 hrows
  obtain ⟨htotals, hstatus, hspenders, hcomparison⟩ := getSpendingSummary_ok hsummary hfilter
  obtain ⟨_, hid, hcategories⟩ := Except.bind_eq_ok.1 hcategories
  cases hfilter.symm.trans hid
  cases hcategories
  obtain ⟨own, hown, hdepartments⟩ := Except.bind_eq_ok.1 hdepartments
  cases hdepartments
  have hcases := resolveFilters_cases hown hfilter
  constructor
  · rw [htotals, totals_all_export]
  · rw [hstatus]
    intro line hline
    rw [byStatus_line hline, totals_export]
    rfl
  · rw [hstatus, htotals]
    exact ⟨nodup_byStatus, sum_byStatus⟩
  · intro line hline
    rw [byCategory_line hline, totals_export]
    rfl
  · rw [htotals]
    exact ⟨nodup_byCategory, sum_byCategory⟩
  · intro line hline
    rw [totals_export]
    exact byDepartment_line hunique hcases hline
  · rw [totals_export]
    exact ⟨nodup_byDepartment hunique _, sum_departments hunique hcases⟩
  · rw [hspenders]
    intro line hline
    obtain ⟨g, hg, hlineTotals, hreference⟩ := mem_topSpenders hline
    have hgroup := (List.mem_insertionSort _).1 (List.mem_of_mem_take hg)
    rw [totals_export, hlineTotals, hreference]
    exact ⟨mem_export_of_group hgroup, topSpenders_line hunique hgroup⟩
  · rw [hspenders]
    exact ⟨nodup_topSpenders hunique _, pairwise_topSpenders _⟩
  · rw [hspenders]
    refine ⟨?_, fun row hrow => ?_⟩
    · rw [topSpenders, List.length_map]
      exact List.length_take_le _ _
    · obtain ⟨expense, hexpense, rfl⟩ := List.mem_map.1 hrow
      rw [totals_export]
      exact total_le_of_not_listed hunique ((List.mem_insertionSort _).1 hexpense)
  · rw [hcomparison]
    exact fun rows' => ⟨comparisonPoint_export hfilter, comparisonPoint_export hfilter⟩

end ReportService

namespace Sample

open ReportService

/-- The lifecycle of an expense, up to its payment. -/
def reporting : Reporting where
  db := runAll config lifecycle db
  departmentColumns := fun _ => ⟨⟨now, now⟩, "Operations", "OPS"⟩
  userNames := fun _ => ⟨some "Ada", none⟩
  audits := []
  policies := []

def march : SpendingReportQuery := ⟨2025, none, some 3, none, none, none, false, none⟩

theorem uniqueReferences : UniqueReferences reporting.db :=
  ⟨by decide +kernel, by decide +kernel⟩

end Sample

open ReportService in
/-- The report of the owner of the expense, of the month it was submitted in. -/
theorem report_views_agree_march :
    ∃ summary categories departments rows,
      ViewsAgree Sample.reporting Sample.authOwner Sample.march summary categories departments rows ∧
        summary.total = 5000 ∧ rows.length = 1 :=
  ⟨_, _, _, _, @report_views_agree Sample.config Sample.now Sample.reporting Sample.authOwner
    Sample.march _ _ _ _ Sample.uniqueReferences rfl rfl rfl rfl, by decide +kernel, by decide +kernel⟩

end Expentra
