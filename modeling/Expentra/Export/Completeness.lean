-- SUMMARY: The exports of approval levels and departments, and the rows they leave out.
import Expentra.Approval.LevelExport
import Expentra.Department.ListExport
import Expentra.Export.Search
import Expentra.System.Operations

/-!
# Completeness of the exports

Both exports ask a list for 5000 rows and get 100. Up to there a file has a record for each
row that matches, unless a text breaks a row with a carriage return of its own.
-/

namespace Expentra

open ApprovalLevels DepartmentQuery

/-- A file has one record for each row of its list, in the order of the list, exactly when no
    more than 100 rows match and their texts are not broken by carriage returns. -/
theorem exports_complete_iff (locale : Locale) (l : Listings) (now : Instant)
    (levelsQuery : ListApprovalLevelsQuery) (departmentsQuery : ListDepartmentsQuery) :
    (ExportsEveryLevel locale l levelsQuery ↔
      ∀ levels, matchingLevels locale l levelsQuery = .ok levels →
        levels.length ≤ 100 ∧ ∀ level ∈ levels, ∀ text ∈ level.texts, Readable text) ∧
    (ExportsEveryDepartment locale l now departmentsQuery ↔
      (matchingDepartments locale l now departmentsQuery).length ≤ 100 ∧
        ∀ row ∈ matchingDepartments locale l now departmentsQuery,
          ∀ text ∈ row.1.texts, Readable text) :=
  ⟨exportsEveryLevel_iff locale l levelsQuery,
    exportsEveryDepartment_iff locale l now departmentsQuery⟩

/-! ## A hundred and one rows -/

namespace Sample

def crowdedLevels : List ApprovalLevel :=
  (List.range 101).map (fun n =>
    ⟨n, "APL1700000000" ++ Date.padded 3 n ++ "AAAAAA", none, .DEPARTMENT_MANAGER, "Manager",
      n + 1, 0, none, true, none⟩)

def crowdedDepartments : List Department :=
  (List.range 101).map (fun n =>
    ⟨n, "DPT1700000000" ++ Date.padded 3 n ++ "AAAAAA", none, true, none⟩)

/-- A hundred and one levels, and as many departments. -/
def crowded : Listings where
  db := { db with
    levels := ⟨crowdedLevels, by decide +kernel⟩
    departments := ⟨crowdedDepartments, by decide +kernel⟩ }
  levelTimes _ := ⟨now, now⟩
  departmentColumns n := ⟨⟨now, now⟩, "Department " ++ n.repr, "D" ++ n.repr⟩

def allLevels : ListApprovalLevelsQuery := ⟨none, none, none, none, none, none⟩

def allDepartments : ListDepartmentsQuery := ⟨none, none, none, none, none, none, none, none, none⟩

theorem length_matchingLevels :
    (matchingLevels .c crowded allLevels).map List.length = .ok 101 := by
  change Except.ok (List.length (List.insertionSort _ _)) = _
  rw [List.length_insertionSort]
  decide +kernel

theorem length_matchingDepartments :
    (matchingDepartments .c crowded now allDepartments).length = 101 := by
  rw [matchingDepartments, List.length_insertionSort]
  decide +kernel

/-- Neither file has the last row. -/
theorem crowded_exports_incomplete :
    ((matchingLevels .c crowded allLevels).map List.length = .ok 101 ∧
      ¬ExportsEveryLevel .c crowded allLevels) ∧
    ((matchingDepartments .c crowded now allDepartments).length = 101 ∧
      ¬ExportsEveryDepartment .c crowded now allDepartments) := by
  refine ⟨⟨length_matchingLevels, ?_⟩, length_matchingDepartments, ?_⟩
  · rw [exportsEveryLevel_iff]
    intro hcomplete
    have hlength := length_matchingLevels
    cases hmatching : matchingLevels .c crowded allLevels with
    | error e =>
      rw [hmatching] at hlength
      cases hlength
    | ok levels =>
      rw [hmatching] at hlength
      have hbound := (hcomplete levels hmatching).1
      have hlength : levels.length = 101 := Except.ok.inj hlength
      omega
  · rw [exportsEveryDepartment_iff, length_matchingDepartments]
    rintro ⟨hbound, -⟩
    omega

end Sample

end Expentra
