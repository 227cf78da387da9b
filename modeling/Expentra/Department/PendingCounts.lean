-- SUMMARY: The pending expenses of one department, and of several in one query.
import Expentra.Department.Manager
import Expentra.Library.Query
import Expentra.System.Operations

/-!
# Pending counts of departments

One department counts the expenses charged to it or owned by one of its members. The query
for several departments counts each expense once: for the department it is charged to, or
else for that of its owner.
-/

namespace Expentra.DepartmentQuery

open Library

/-- `leftJoin('expense.user', 'expenseOwner')`, for the pending expenses. -/
def pendingWithOwners (db : Db) : List (Expense × Option User) :=
  (leftJoin (fun (expense : Expense) (owner : User) => owner.id = expense.userId)
    db.expenses.rows db.users.rows).filter (·.1.status.isPending)

def countPendingApprovals (db : Db) (departmentId : Nat) : Nat :=
  (((pendingWithOwners db).filter (fun row =>
    row.1.departmentId = some departmentId ||
      row.2.bind (·.departmentId) = some departmentId)).map (·.1.id)).dedup.length

/-- `Number(expenseDepartmentId ?? ownerDepartmentId)`, where `Number(null)` is 0. -/
def attributedDepartment (row : Expense × Option User) : Nat :=
  (row.1.departmentId <|> row.2.bind (·.departmentId)).getD 0

/-- The counts by department id. -/
abbrev Counts := Table (Prod.fst : Nat × Nat → Nat)

def countPendingApprovalsForDepartments (db : Db) (departmentIds : List Nat) : Counts :=
  let counts := departmentIds.foldl (fun counts departmentId => counts.upsert (departmentId, 0)) ∅
  let rows := (pendingWithOwners db).filter (fun row =>
    row.1.departmentId.any departmentIds.contains ||
      (row.2.bind (·.departmentId)).any departmentIds.contains)
  (rows.map attributedDepartment).foldl tally counts

/-- `counts.get(departmentId)` -/
def Counts.get (counts : Counts) (departmentId : Nat) : Option Nat :=
  (counts.find? departmentId).map Prod.snd

section Specs

variable {db : Db} {departmentIds : List Nat} {departmentId : Nat}

/-- The department of the owner of an expense now. -/
def ownerDepartment (db : Db) (row : Expense) : Option Nat :=
  (db.users.find? row.userId).bind (·.departmentId)

theorem pendingWithOwners_eq : pendingWithOwners db =
    (db.expenses.rows.filter (·.status.isPending)).map
      (fun row => (row, db.users.find? row.userId)) := by
  rw [pendingWithOwners, leftJoin_of_unique fun row _ => db.users.filter_key_eq row.userId,
    List.filter_map]
  rfl

theorem countPendingApprovals_eq : countPendingApprovals db departmentId =
    db.expenses.rows.countP (fun row => row.status.isPending &&
      (row.departmentId = some departmentId || ownerDepartment db row = some departmentId)) := by
  have hids : ((db.expenses.rows.filter (fun row => row.status.isPending &&
      (row.departmentId = some departmentId || ownerDepartment db row = some departmentId))).map
        (·.id)).Nodup := db.expenses.nodup.sublist (List.filter_sublist.map _)
  rw [countPendingApprovals, pendingWithOwners_eq, List.filter_map, List.map_map, List.filter_filter]
  simp only [Function.comp_def, Bool.and_comm _ (ExpenseStatus.isPending _)]
  exact (congrArg List.length hids.dedup).trans
    ((List.length_map _).trans List.countP_eq_length_filter.symm)

/-- Before the loop, each of the departments has the count 0. -/
theorem find?_zeros (hmem : departmentId ∈ departmentIds) (counts : Counts) :
    Table.find? (departmentIds.foldl (fun (counts : Counts) departmentId =>
      counts.upsert (departmentId, 0)) counts) departmentId = some (departmentId, 0) := by
  rw [← List.foldl_map]
  refine Table.find?_foldl_upsert (List.mem_map_of_mem hmem) ?_ counts
  intro entry hentry hkey
  obtain ⟨id, -, rfl⟩ := List.mem_map.1 hentry
  exact Prod.ext hkey rfl

/-- An expense in scope is attributed to a department of the list exactly when that is the
    first department it has. -/
theorem attributed_iff {charged owned : Option Nat} (hmem : departmentId ∈ departmentIds) :
    (charged <|> owned).getD 0 = departmentId ∧
        (charged.any departmentIds.contains || owned.any departmentIds.contains) = true ↔
      (charged <|> owned) = some departmentId := by
  cases charged with
  | some id =>
    change id = departmentId ∧ (departmentIds.contains id || owned.any departmentIds.contains) = true ↔
      some id = some departmentId
    rw [Option.some.injEq]
    refine and_iff_left_of_imp ?_
    rintro rfl
    rw [List.contains_iff_mem.2 hmem, Bool.true_or]
  | none =>
    cases owned with
    | none =>
      refine iff_of_false ?_ (Option.some_ne_none departmentId).symm
      rintro ⟨-, hscope⟩
      cases hscope
    | some id =>
      change id = departmentId ∧ (false || departmentIds.contains id) = true ↔
        some id = some departmentId
      rw [Option.some.injEq]
      refine and_iff_left_of_imp ?_
      rintro rfl
      rw [List.contains_iff_mem.2 hmem, Bool.or_true]

/-- The batch attributes an expense to the department it is charged to, else to its owner's. -/
theorem get_countPendingApprovalsForDepartments (hmem : departmentId ∈ departmentIds) :
    (countPendingApprovalsForDepartments db departmentIds).get departmentId =
      some (db.expenses.rows.countP (fun row => row.status.isPending &&
        (row.departmentId <|> ownerDepartment db row) = some departmentId)) := by
  rw [Counts.get, countPendingApprovalsForDepartments, find?_foldl_tally (find?_zeros hmem ∅),
    Option.map_some, Nat.zero_add, pendingWithOwners_eq]
  simp only [List.filter_map, List.map_map, List.filter_filter, List.count, List.countP_map,
    List.countP_filter]
  refine congrArg some (List.countP_congr fun row _ => ?_)
  have hselects : (row.departmentId <|> ownerDepartment db row).getD 0 = departmentId ∧ _ ↔ _ :=
    attributed_iff hmem
  simp only [Function.comp_apply, Bool.and_eq_true, beq_iff_eq, decide_eq_true_eq, ← hselects]
  constructor
  · rintro ⟨hattributed, hscope, hpending⟩
    exact ⟨hpending, hattributed, hscope⟩
  · rintro ⟨hpending, hattributed, hscope⟩
    exact ⟨hattributed, hscope, hpending⟩

/-- The batch and the single count agree for a department exactly when no pending expense
    charged to another department is owned by one of its members. -/
theorem counts_agree_iff (db : Db) (departmentIds : List Nat) (departmentId : Nat)
    (hmem : departmentId ∈ departmentIds) :
    (countPendingApprovalsForDepartments db departmentIds).get departmentId =
        some (countPendingApprovals db departmentId) ↔
      ∀ row ∈ db.expenses, row.status.isPending = true →
        ∀ charged, row.departmentId = some charged → charged ≠ departmentId →
          ownerDepartment db row ≠ some departmentId := by
  have hattributed : db.expenses.rows.countP (fun row => row.status.isPending &&
      (row.departmentId = some departmentId || ownerDepartment db row = some departmentId) &&
        (row.departmentId <|> ownerDepartment db row) = some departmentId) =
      db.expenses.rows.countP (fun row => row.status.isPending &&
        (row.departmentId <|> ownerDepartment db row) = some departmentId) := by
    refine List.countP_congr fun row _ => ?_
    simp only [Bool.and_eq_true, Bool.or_eq_true, decide_eq_true_eq, and_assoc]
    refine and_congr_right fun _ => and_iff_right_of_imp fun hfirst => ?_
    exact ((Option.orElse_eq_some _ _ _).1 hfirst).imp_right And.right
  rw [get_countPendingApprovalsForDepartments hmem, countPendingApprovals_eq, Option.some.injEq,
    countP_eq_add (fun row => row.status.isPending && (row.departmentId = some departmentId ||
      ownerDepartment db row = some departmentId))
      (fun row => (row.departmentId <|> ownerDepartment db row) = some departmentId),
    hattributed, left_eq_add, List.countP_eq_zero]
  refine forall₂_congr fun row _ => ?_
  simp only [Bool.and_eq_true, Bool.or_eq_true, decide_eq_true_eq, Bool.not_eq_true',
    decide_eq_false_iff_not, not_and, not_not]
  cases hcharged : row.departmentId with
  | none =>
    -- the owner's department is the one attributed
    refine iff_of_true ?_ (fun _ charged hnone => ?_)
    · rintro ⟨-, hnone | howner⟩
      · cases hnone
      · exact (Option.orElse_eq_some _ _ _).2 (.inr ⟨rfl, howner⟩)
    · cases hnone
  | some charged =>
    have hfirst : (some charged <|> ownerDepartment db row) = some charged := rfl
    simp only [hfirst, Option.some.injEq, forall_eq']
    constructor
    · intro h hpending hne howner
      exact hne (h ⟨hpending, .inr howner⟩)
    · rintro h ⟨hpending, hsame | howner⟩
      · exact hsame
      · by_contra hne
        exact h hpending hne howner

end Specs

/-! ## An owner who has moved -/

section Sample

open Sample

/-- The owner of a submitted expense is moved to a second department. -/
def moved : Db :=
  let submitted := runAll config [createExpense, submit] db
  { submitted with
    departments := submitted.departments.upsert ⟨2, "DPT1700000000002AAAAAA", none, true, none⟩
    users := submitted.users.upsert { owner with departmentId := some 2 } }

/-- The first department is counted alike. -/
theorem counts_agree_first :
    (countPendingApprovalsForDepartments moved [1, 2]).get 1 =
      some (countPendingApprovals moved 1) :=
  (counts_agree_iff moved [1, 2] 1 (by decide)).2 (by decide +kernel)

/-- The second is not: the single count has the expense of its new member. -/
theorem counts_differ_second :
    ¬(countPendingApprovalsForDepartments moved [1, 2]).get 2 =
      some (countPendingApprovals moved 2) := by
  decide +kernel

end Sample

end Expentra.DepartmentQuery
