-- SUMMARY: The spending of a year by month: it adds up to the report of the year, and to those of its quarters and months.
import Expentra.Report.Agreement
import Expentra.Report.Months

/-!
# The year by month

The database groups the expenses of a year by the month of their submission, as the clock of
its session has it, and the service fills the twelve months. Whatever that clock says, no
expense of the year is lost; when it is that of UTC, every month is the report of that month.
-/

namespace Expentra

open Library

structure YearlySpendingQuery where
  year : Int
  departmentReference : Option String
  category : Option ExpenseCategory
  includePipeline : Bool
  mode : Option ReportSpendMode
deriving DecidableEq

/-- `Partial<Record<ExpenseCategory, number>>` -/
abbrev CategoryAmounts := List (ExpenseCategory × Int)

structure MonthlySpendingRow extends Totals where
  month : Int
  categoryAmounts : CategoryAmounts
deriving DecidableEq

structure YearlyMonthlySpendingReport where
  year : Int
  months : List MonthlySpendingRow

/-- The filters of a query, for the report of the whole year. -/
def YearlySpendingQuery.filters (query : YearlySpendingQuery) : SpendingReportQuery :=
  ⟨query.year, some .YEAR, none, none, query.departmentReference, query.category,
    query.includePipeline, query.mode⟩

/-- The query of a report with the filters of a yearly one. -/
def YearlySpendingQuery.during (query : YearlySpendingQuery) (mode : ReportPeriodMode)
    (month quarter : Option Int) : SpendingReportQuery :=
  query.filters.withPeriod ⟨query.year, some mode, month, quarter⟩

namespace ReportService

/-- `Object.values(ExpenseCategory)` -/
def expenseCategories : List ExpenseCategory := [.TRAVEL, .MEALS, .SUPPLIES, .OTHERS]

/-- `SUM(CASE WHEN category = … THEN amount ELSE 0 END)` -/
def categorySum (rows : List Expense) (category : ExpenseCategory) : Int :=
  (rows.map (fun e => if e.category = category then amountOf e else 0)).sum

/-- `parseCategoryAmountsFromRaw`: the categories with something spent. -/
def categoryAmounts (rows : List Expense) : CategoryAmounts :=
  expenseCategories.filterMap (fun category =>
    if 0 < categorySum rows category then some (category, categorySum rows category) else none)

/-- `EXTRACT(MONTH FROM …)`; `session` is what the clock of the session shows. -/
def extractMonth (session : Instant → Instant) (date : Option Instant) : Int :=
  (date.map (fun t => Date.getUTCMonth (session t) + 1)).getD 0

/-- The row of one month among the groups of a query. -/
def monthRow (monthOf : Expense → Int) (rows : List Expense) (month : Int) : MonthlySpendingRow :=
  match (groupBy monthOf amountOf rows).find? (fun g => g.key = month) with
  | some g => ⟨g.toTotals, month, categoryAmounts (rows.filter (fun e => monthOf e = g.key))⟩
  | none => ⟨0, month, []⟩

/-- `scopedYearExpenseQuery` -/
def scopedYearRows (db : Db) (authUser : AuthUser) (query : YearlySpendingQuery)
    (departmentId : Option Nat) : List Expense :=
  let (start, end_) := BudgetPeriod.budgetYearRange query.year
  db.expenses.rows.filter (fun row =>
    (db.users.find? row.userId).any (fun expenseOwner =>
      departmentId.all (expenseOwner.departmentId = some ·)) &&
    (resolveReportStatuses query.mode query.includePipeline).contains row.status &&
    row.submittedAt.any (fun submittedAt => start ≤ submittedAt && submittedAt < end_) &&
    query.category.all (row.category = ·) && isVisible authUser row)

/-- `Array.from({ length: 12 }, (_, index) => index + 1)` -/
def twelveMonths : List Int := (List.range 12).map (fun index : Nat => (index : Int) + 1)

def getSpendingByMonth (session : Instant → Instant) (db : Db) (authUser : AuthUser)
    (query : YearlySpendingQuery) : Except HttpException YearlyMonthlySpendingReport := do
  let departmentId ← resolveDepartmentFilter db query.filters
  let rows := scopedYearRows db authUser query departmentId
  pure {
    year := query.year
    months := twelveMonths.map (monthRow (fun e => extractMonth session e.submittedAt) rows) }

/-! ## Rows of months -/

section MonthRows

variable {monthOf : Expense → Int} {rows : List Expense} {month : Int}

/-- A month without a group has no expenses, so the row is that of its expenses either way. -/
theorem monthRow_eq : monthRow monthOf rows month =
    ⟨Totals.of amountOf (rows.filter (fun e => monthOf e = month)), month,
      categoryAmounts (rows.filter (fun e => monthOf e = month))⟩ := by
  have hat := @groupAt_groupBy _ _ _ monthOf amountOf rows month
  unfold groupAt at hat
  unfold monthRow
  cases hfind : (groupBy monthOf amountOf rows).find? (fun g => g.key = month) with
  | some g =>
    have hkey : g.key = month := by simpa using List.find?_some hfind
    rw [hfind] at hat
    dsimp only
    rw [hkey, ← hat]
    rfl
  | none =>
    rw [hfind] at hat
    have hnone : rows.filter (fun e => monthOf e = month) = [] :=
      List.eq_nil_of_length_eq_zero (congrArg Totals.count hat).symm
    rw [hnone]
    rfl

theorem categorySum_eq (category : ExpenseCategory) :
    categorySum rows category = (Totals.of amountOf (rows.filter (·.category = category))).total := by
  induction rows with
  | nil => rfl
  | cons e rest ih =>
    rw [categorySum, List.map_cons, List.sum_cons, ← categorySum, ih, List.filter_cons]
    by_cases hcategory : e.category = category
    · simp only [hcategory, if_true, decide_true, Totals.of_cons, Totals.total_add]
    · simp only [hcategory, if_false, decide_false, Bool.false_eq_true, Int.zero_add]

theorem mem_categoryAmounts {entry : ExpenseCategory × Int} : entry ∈ categoryAmounts rows ↔
    entry.2 = (Totals.of amountOf (rows.filter (·.category = entry.1))).total ∧ 0 < entry.2 := by
  obtain ⟨category, amount⟩ := entry
  simp only [categoryAmounts, List.mem_filterMap, categorySum_eq]
  constructor
  · rintro ⟨c, -, hc⟩
    split at hc
    · next hpos =>
      cases hc
      exact ⟨rfl, hpos⟩
    · cases hc
  · rintro ⟨hamount, hpos⟩
    refine ⟨category, by cases category <;> decide, ?_⟩
    rw [← hamount]
    exact if_pos hpos

theorem nodup_categoryAmounts : ((categoryAmounts rows).map Prod.fst).Nodup := by
  have hsub : ((categoryAmounts rows).map Prod.fst).Sublist expenseCategories := by
    unfold categoryAmounts
    generalize expenseCategories = categories
    induction categories with
    | nil => exact List.Sublist.slnil
    | cons c rest ih =>
      rw [List.filterMap_cons]
      split
      · exact ih.cons c
      · next hsome =>
        split at hsome
        · cases hsome
          exact ih.cons_cons c
        · cases hsome
  exact List.Nodup.sublist hsub (by decide)

/-- What is left out of the categories is nothing: amounts are positive. -/
theorem sum_categoryAmounts : ((categoryAmounts rows).map Prod.snd).sum =
    (Totals.of amountOf rows).total := by
  have hall : (expenseCategories.map (fun category =>
      Totals.of amountOf (rows.filter (fun e => e.category = category)))).sum = Totals.of amountOf rows :=
    Totals.sum_fibers (by decide) fun row _ => by cases row.category <;> decide
  have hnonneg : ∀ category, 0 ≤ (Totals.of amountOf (rows.filter (·.category = category))).total :=
    fun category => Totals.total_nonneg fun e _ => amountOf_pos e
  have hsum : ∀ categories : List ExpenseCategory,
      ((categories.filterMap (fun category => if 0 < categorySum rows category then
        some (category, categorySum rows category) else none)).map Prod.snd).sum =
      ((categories.map (fun category =>
        Totals.of amountOf (rows.filter (fun e => e.category = category)))).sum).total := by
    intro categories
    induction categories with
    | nil => rfl
    | cons c rest ih =>
      rw [List.filterMap_cons, List.map_cons, List.sum_cons, Totals.total_add, ← ih, categorySum_eq]
      have hc := hnonneg c
      split
      · next hnone =>
        split at hnone
        · cases hnone
        · omega
      · next hsome =>
        split at hsome
        · cases hsome
          rw [List.map_cons, List.sum_cons]
        · cases hsome
  rw [categoryAmounts, hsum, hall]

end MonthRows

/-! ## The year and its parts -/

section Parts

variable {db : Db} {authUser : AuthUser} {departmentId : Option Nat} {query : SpendingReportQuery}

/-- What a query of a report asks of an expense besides the date of its submission. -/
def isScoped (db : Db) (authUser : AuthUser) (query : SpendingReportQuery)
    (departmentId : Option Nat) (row : Expense) : Bool :=
  (db.users.find? row.userId).any (fun expenseOwner =>
    departmentId.all (expenseOwner.departmentId = some ·)) &&
  (resolveReportStatuses query.mode query.includePipeline).contains row.status &&
  query.category.all (row.category = ·) && isVisible authUser row

/-- The expense was submitted in one of the months from `first` up to `last`. -/
def submittedIn (first last : Int) (row : Expense) : Bool :=
  row.submittedAt.any (fun t => first ≤ monthIndex t && monthIndex t < last)

/-- The expenses of a report are those in scope that were submitted in its months. -/
theorem scopedRows_eq : scopedRows db authUser query departmentId =
    db.expenses.rows.filter (fun row => isScoped db authUser query departmentId row &&
      submittedIn (number query.period * months (resolveReportPeriodMode query.period))
        ((number query.period + 1) * months (resolveReportPeriodMode query.period)) row) := by
  have hrange : resolveReportPeriodRange query = periodRange query.period := rfl
  unfold scopedRows
  refine List.filter_congr fun row _ => ?_
  unfold isSelected isScoped submittedIn
  rw [hrange, periodRange_eq]
  cases row.submittedAt with
  | none => simp
  | some t =>
    simp only [Option.any_some, ← Bool.decide_and, mem_months_iff]
    simp only [Bool.and_assoc]
    congr 1
    congr 1
    rw [Bool.and_left_comm, Bool.and_comm (isVisible authUser row), Bool.and_left_comm]

/-- The query of the year selects what the report of the year selects. -/
theorem scopedYearRows_eq (query : YearlySpendingQuery) : scopedYearRows db authUser query departmentId =
    scopedRows db authUser query.filters departmentId := rfl

variable {session : Instant → Instant} {yearly : YearlySpendingQuery}

/-- The month of an expense of the year, for a session on the clock of UTC. -/
theorem extractMonth_eq (hsession : ∀ t, session t = t) {row : Expense} {t : Instant}
    (hsubmitted : row.submittedAt = some t) :
    extractMonth session row.submittedAt = monthIndex t % 12 + 1 := by
  rw [hsubmitted, extractMonth, Option.map_some, Option.getD_some, hsession, (getUTCMonth_eq t).1]

theorem extractMonth_range {row : Expense} (hsubmitted : row.submittedAt.isSome = true) :
    extractMonth session row.submittedAt ∈ twelveMonths := by
  obtain ⟨t, ht⟩ := Option.isSome_iff_exists.1 hsubmitted
  have hmonth := (getUTCMonth_eq (session t)).1
  rw [ht, extractMonth, Option.map_some, Option.getD_some, hmonth]
  have hcast : (((monthIndex (session t) % 12).toNat : Nat) : Int) + 1 =
      monthIndex (session t) % 12 + 1 := by
    omega
  have hlt : (monthIndex (session t) % 12).toNat < 12 := by omega
  exact List.mem_map.2 ⟨_, List.mem_range.2 hlt, hcast⟩

theorem submitted_of_mem_scopedRows {row : Expense}
    (h : row ∈ scopedRows db authUser query departmentId) : row.submittedAt.isSome = true := by
  rw [scopedRows_eq] at h
  have hsubmitted := (Bool.and_eq_true_iff.1 (List.mem_filter.1 h).2).2
  unfold submittedIn at hsubmitted
  obtain ⟨t, ht, -⟩ := (Option.any_eq_true _ _).1 hsubmitted
  rw [ht]
  rfl

/-- The expenses of the year with certain months are those of a report about these months. -/
theorem filter_month {mode : ReportPeriodMode} {month quarter : Option Int} (p : Int → Bool)
    (hp : ∀ index : Int, yearly.year * 12 ≤ index → index < (yearly.year + 1) * 12 →
      (p (index % 12 + 1) = true ↔
        number ⟨yearly.year, some mode, month, quarter⟩ * months mode ≤ index ∧
          index < (number ⟨yearly.year, some mode, month, quarter⟩ + 1) * months mode))
    (hpart : yearly.year * 12 ≤ number ⟨yearly.year, some mode, month, quarter⟩ * months mode ∧
      (number ⟨yearly.year, some mode, month, quarter⟩ + 1) * months mode ≤ (yearly.year + 1) * 12)
    (hsession : ∀ t, session t = t) :
    (scopedYearRows db authUser yearly departmentId).filter
        (fun row => p (extractMonth session row.submittedAt)) =
      scopedRows db authUser (yearly.during mode month quarter) departmentId := by
  rw [scopedYearRows_eq, scopedRows_eq, scopedRows_eq, List.filter_filter]
  refine List.filter_congr fun row _ => ?_
  have hscope : isScoped db authUser (yearly.during mode month quarter) departmentId
      row = isScoped db authUser (yearly.filters) departmentId row := rfl
  rw [hscope, Bool.and_left_comm]
  congr 1
  unfold submittedIn
  cases hsubmitted : row.submittedAt with
  | none => simp
  | some t =>
    have hmonth := extractMonth_eq hsession hsubmitted
    rw [hsubmitted] at hmonth
    rw [hmonth, Option.any_some, Option.any_some, Bool.eq_iff_iff]
    simp only [Bool.and_eq_true, decide_eq_true_eq]
    change _ ∧ (yearly.year * 12 ≤ monthIndex t ∧ monthIndex t < (yearly.year + 1) * 12) ↔
      number ⟨yearly.year, some mode, month, quarter⟩ * months mode ≤ monthIndex t ∧
        monthIndex t < (number ⟨yearly.year, some mode, month, quarter⟩ + 1) * months mode
    constructor
    · rintro ⟨hpt, hge, hlt⟩
      exact (hp _ hge hlt).1 hpt
    · intro hin
      have hyear : yearly.year * 12 ≤ monthIndex t ∧ monthIndex t < (yearly.year + 1) * 12 := by
        omega
      exact ⟨(hp _ hyear.1 hyear.2).2 hin, hyear⟩

/-- The months of a quarter. -/
def isInQuarter (quarter month : Int) : Bool := (month - 1) / 3 + 1 = quarter

theorem filter_of_month {month : Int} (hmonth : 1 ≤ month ∧ month ≤ 12) (hsession : ∀ t, session t = t) :
    (scopedYearRows db authUser yearly departmentId).filter
        (fun row => extractMonth session row.submittedAt = month) =
      scopedRows db authUser (yearly.during .MONTH (some month) none) departmentId := by
  have hnumber : number ⟨yearly.year, some .MONTH, some month, none⟩ * months .MONTH =
      12 * yearly.year + (month - 1) := Int.mul_one _
  have hnext : (number ⟨yearly.year, some .MONTH, some month, none⟩ + 1) * months .MONTH =
      12 * yearly.year + (month - 1) + 1 := Int.mul_one _
  refine filter_month (fun m => m = month) ?_ ?_ hsession
  · intro index hge hlt
    rw [hnumber, hnext, decide_eq_true_eq]
    omega
  · rw [hnumber, hnext]
    omega

theorem filter_of_quarter {quarter : Int} (hquarter : 1 ≤ quarter ∧ quarter ≤ 4)
    (hsession : ∀ t, session t = t) :
    (scopedYearRows db authUser yearly departmentId).filter
        (fun row => isInQuarter quarter (extractMonth session row.submittedAt)) =
      scopedRows db authUser (yearly.during .QUARTER none (some quarter)) departmentId := by
  have hnumber : number ⟨yearly.year, some .QUARTER, none, some quarter⟩ =
      4 * yearly.year + (quarter - 1) := rfl
  have hmonths : months .QUARTER = 3 := rfl
  refine filter_month (isInQuarter quarter) ?_ ?_ hsession
  · intro index hge hlt
    rw [hnumber, hmonths, isInQuarter, decide_eq_true_eq]
    omega
  · rw [hnumber, hmonths]
    omega

end Parts

/-- What the twelve months say together, and what each of them says. -/
structure YearAddsUp (session : Instant → Instant) (r : Reporting) (authUser : AuthUser)
    (query : YearlySpendingQuery) (report : YearlyMonthlySpendingReport) : Prop where
  months : report.months.map (·.month) = twelveMonths
  /-- Whatever the clock of the session. -/
  year : ∀ rows, getExpenseExportRows r.db authUser query.filters = .ok rows →
    (report.months.map (·.toTotals)).sum = Totals.of (·.amount) rows
  categories : ∀ line ∈ report.months, (line.categoryAmounts.map Prod.fst).Nodup ∧
    (∀ entry ∈ line.categoryAmounts, 0 < entry.2) ∧
    (line.categoryAmounts.map Prod.snd).sum = line.total
  quarter : (∀ t, session t = t) → ∀ quarter : Int, 1 ≤ quarter ∧ quarter ≤ 4 →
    ∀ rows, getExpenseExportRows r.db authUser (query.during .QUARTER none (some quarter)) = .ok rows →
      ((report.months.filter (fun line => isInQuarter quarter line.month)).map (·.toTotals)).sum =
        Totals.of (·.amount) rows
  month : (∀ t, session t = t) → ∀ line ∈ report.months,
    ∀ rows, getExpenseExportRows r.db authUser (query.during .MONTH (some line.month) none) = .ok rows →
      line.toTotals = Totals.of (·.amount) rows
  monthCategories : (∀ t, session t = t) → ∀ line ∈ report.months,
    ∀ categories, getSpendingByCategory r authUser (query.during .MONTH (some line.month) none) =
        .ok categories →
      ∀ entry, entry ∈ line.categoryAmounts ↔
        ∃ row ∈ categories, (row.category, row.total) = entry

theorem mem_twelveMonths {month : Int} : month ∈ twelveMonths ↔ 1 ≤ month ∧ month ≤ 12 := by
  constructor
  · intro h
    obtain ⟨index, hindex, rfl⟩ := List.mem_map.1 h
    have hlt := List.mem_range.1 hindex
    omega
  · intro h
    have hlt : (month - 1).toNat < 12 := by omega
    have hcast : (((month - 1).toNat : Nat) : Int) + 1 = month := by omega
    exact List.mem_map.2 ⟨_, List.mem_range.2 hlt, hcast⟩

theorem nodup_twelveMonths : twelveMonths.Nodup := by decide

/-- The categories of a report are those with something spent. -/
theorem mem_byCategory_iff {rows : List Expense} {entry : ExpenseCategory × Int} :
    (∃ line ∈ byCategory rows, (line.category, line.total) = entry) ↔
      entry ∈ categoryAmounts rows := by
  obtain ⟨category, amount⟩ := entry
  rw [mem_categoryAmounts]
  constructor
  · rintro ⟨line, hline, heq⟩
    cases heq
    obtain ⟨g, hg, rfl⟩ := List.mem_map.1 hline
    have hmem := (List.mem_insertionSort _).1 hg
    exact ⟨congrArg Totals.total (byCategory_line hline),
      (total_pos_of_mem_groupBy (fun e _ => amountOf_pos e) hmem).2⟩
  · rintro ⟨hamount, hpos⟩
    dsimp only at hamount hpos
    have hne : rows.filter (·.category = category) ≠ [] := by
      intro hnil
      rw [hnil] at hamount
      exact absurd hamount (Int.ne_of_gt hpos)
    obtain ⟨e, he⟩ := List.exists_mem_of_ne_nil _ hne
    obtain ⟨hmem, hcategory⟩ := List.mem_filter.1 he
    have hgroup : (⟨Totals.of amountOf (rows.filter (·.category = category)), category⟩ :
        GroupRow ExpenseCategory) ∈ groupBy (·.category) amountOf rows :=
      mem_groupBy.2 ⟨⟨e, hmem, of_decide_eq_true hcategory⟩, rfl⟩
    exact ⟨_, List.mem_map_of_mem ((List.mem_insertionSort _).2 hgroup), by rw [hamount]⟩

/-- Whatever the clock of the database says, and whoever asks. -/
theorem year_adds_up {session : Instant → Instant} {r : Reporting} {authUser : AuthUser}
    {query : YearlySpendingQuery} {report : YearlyMonthlySpendingReport}
    (h : getSpendingByMonth session r.db authUser query = .ok report) :
    YearAddsUp session r authUser query report := by
  obtain ⟨departmentId, hfilter, h⟩ := Except.bind_eq_ok.1 h
  cases h
  obtain ⟨year, hyear⟩ : ∃ year, scopedYearRows r.db authUser query departmentId = year := ⟨_, rfl⟩
  have hcover : ∀ e ∈ year, extractMonth session e.submittedAt ∈ twelveMonths := by
    intro e he
    rw [← hyear, scopedYearRows_eq] at he
    exact extractMonth_range (submitted_of_mem_scopedRows he)
  -- the filter by a department does not depend on the period
  have hexport : ∀ mode month quarter rows,
      getExpenseExportRows r.db authUser (query.during mode month quarter) = .ok rows →
        Totals.of (·.amount) rows =
          Totals.of amountOf (scopedRows r.db authUser (query.during mode month quarter)
            departmentId) := by
    intro mode month quarter rows hrows
    obtain ⟨_, hid, rfl⟩ := getExpenseExportRows_eq_ok.1 hrows
    cases hfilter.symm.trans hid
    exact totals_all_export
  rw [hyear]
  have hlines : ∀ months : List Int,
      (months.map (monthRow (fun e => extractMonth session e.submittedAt) year)).map (·.toTotals) =
        months.map (fun month =>
          Totals.of amountOf (year.filter (fun e => extractMonth session e.submittedAt = month))) := by
    intro months
    rw [List.map_map]
    exact List.map_congr_left fun month _ => by rw [Function.comp_apply, monthRow_eq]
  constructor
  · dsimp only
    rw [List.map_map]
    refine (List.map_congr_left fun month _ => ?_).trans (List.map_id _)
    rw [Function.comp_apply, monthRow_eq]
    rfl
  · intro rows hrows
    rw [hlines, Totals.sum_fibers nodup_twelveMonths hcover, hexport .YEAR none none rows hrows, ← hyear]
    rfl
  · intro line hline
    obtain ⟨month, -, rfl⟩ := List.mem_map.1 hline
    rw [monthRow_eq]
    exact ⟨nodup_categoryAmounts, fun entry hentry => (mem_categoryAmounts.1 hentry).2,
      sum_categoryAmounts⟩
  · intro hsession quarter hquarter rows hrows
    have hselect : (twelveMonths.map (monthRow (fun e => extractMonth session e.submittedAt) year)).filter
        (fun line => isInQuarter quarter line.month) =
      (twelveMonths.filter (isInQuarter quarter)).map
        (monthRow (fun e => extractMonth session e.submittedAt) year) := by
      rw [List.filter_map]
      congr 1
      refine List.filter_congr fun month _ => ?_
      rw [Function.comp_apply, monthRow_eq]
    rw [hselect, hlines, Totals.sum_fibers_filter nodup_twelveMonths hcover (isInQuarter quarter),
      hexport .QUARTER none (some quarter) rows hrows, ← filter_of_quarter hquarter hsession, hyear]
  · intro hsession line hline rows hrows
    obtain ⟨month, hmonth, rfl⟩ := List.mem_map.1 hline
    rw [monthRow_eq] at hrows ⊢
    rw [hexport .MONTH (some month) none rows hrows,
      ← filter_of_month (mem_twelveMonths.1 hmonth) hsession, hyear]
  · intro hsession line hline categories hcategories entry
    obtain ⟨month, hmonth, rfl⟩ := List.mem_map.1 hline
    rw [monthRow_eq] at hcategories ⊢
    obtain ⟨_, hid, hcategories⟩ := Except.bind_eq_ok.1 hcategories
    cases hfilter.symm.trans hid
    cases hcategories
    rw [mem_byCategory_iff, ← filter_of_month (mem_twelveMonths.1 hmonth) hsession, hyear]

/-! ## Over time -/

/-- The report of all expenses of a period, in progress or settled. -/
def everything (period : ReportPeriod) : SpendingReportQuery :=
  ⟨period.year, period.periodMode, period.month, period.quarter, none, none, false, some .PIPELINE⟩

/-- An exported row of a period tells the period by the date of the submission. -/
theorem number_of_exported {db : Db} {authUser : AuthUser} {mode : ReportPeriodMode} {n : Int}
    {rows : List ExpenseExportRow} {t : Instant}
    (hrows : getExpenseExportRows db authUser (everything (ofNumber mode n)) = .ok rows)
    {line : ExpenseExportRow} (hline : line ∈ rows) (hsubmitted : line.submittedAt = some t) :
    n * months mode ≤ monthIndex t ∧ monthIndex t < (n + 1) * months mode := by
  obtain ⟨departmentId, -, rfl⟩ := getExpenseExportRows_eq_ok.1 hrows
  obtain ⟨row, hrow, rfl⟩ := List.mem_map.1 hline
  have hrow := (List.mem_insertionSort _).1 hrow
  rw [scopedRows_eq] at hrow
  have hin := (Bool.and_eq_true_iff.1 (List.mem_filter.1 hrow).2).2
  have hdate : row.submittedAt = some t := by
    simpa [exportOf, toExportRow, Db.withRelations, Expense.toEntity] using hsubmitted
  unfold submittedIn at hin
  rw [hdate, Option.any_some, Bool.and_eq_true, decide_eq_true_eq, decide_eq_true_eq] at hin
  have hperiod : (everything (ofNumber mode n)).period = ofNumber mode n := by
    cases mode <;> rfl
  rwa [hperiod, resolveReportPeriodMode_ofNumber, number_ofNumber] at hin

/-- In every run, an expense that is in progress or settled is in the report of exactly one
    month, one quarter and one year. -/
theorem reported_once {cfg : Config} {db₀ db : Db} (hdated : AllDated db₀)
    (howners : BudgetSummaries.OwnersExist db₀) (hreach : Reaches (Step cfg) db₀ db)
    {authUser : AuthUser} (hall : ExpenseAccessPolicy.expenseListVisibility authUser = .all)
    (mode : ReportPeriodMode) {e : Expense} (he : e ∈ db.expenses)
    (hstatus : e.status ∈ REPORT_PIPELINE_STATUSES) :
    ∃! n : Int, ∃ rows,
      getExpenseExportRows db authUser (everything (ofNumber mode n)) = .ok rows ∧
        exportOf db e ∈ rows := by
  have hdraft : e.status ≠ .DRAFT :=
    @ne_draft_of_mem_resolveReportStatuses (some .PIPELINE) false _ hstatus
  obtain ⟨t, ht⟩ := Option.isSome_iff_exists.1
    ((allDated_of_reaches hdated hreach e he).submitted hdraft)
  obtain ⟨owner, howner⟩ := Option.isSome_iff_exists.1 (ownersExist_of_reaches howners hreach e he)
  have hmonths : 0 < months mode := by cases mode <;> decide
  have hsubmitted : (exportOf db e).submittedAt = some t := by
    simp [exportOf, toExportRow, Db.withRelations, Expense.toEntity, ht]
  refine ⟨monthIndex t / months mode, ⟨_, getExpenseExportRows_eq_ok.2 ⟨none, rfl, rfl⟩, ?_⟩, ?_⟩
  · refine List.mem_map_of_mem ((List.mem_insertionSort _).2 ?_)
    rw [scopedRows_eq]
    have hperiod : (everything (ofNumber mode (monthIndex t / months mode))).period =
        ofNumber mode (monthIndex t / months mode) := by
      cases mode <;> rfl
    refine List.mem_filter.2 ⟨he, Bool.and_eq_true_iff.2 ⟨?_, ?_⟩⟩
    · simp only [isScoped, everything, howner, isVisible, hall, Option.any_some, Option.all_none,
        Bool.and_true, Bool.true_and]
      exact List.contains_iff_mem.2 hstatus
    · rw [hperiod, resolveReportPeriodMode_ofNumber, number_ofNumber, submittedIn, ht,
        Option.any_some, Bool.and_eq_true, decide_eq_true_eq, decide_eq_true_eq]
      exact ⟨Int.ediv_mul_le _ (Int.ne_of_gt hmonths), Int.lt_ediv_add_one_mul_self _ hmonths⟩
  · rintro n ⟨rows, hrows, hmem⟩
    obtain ⟨hge, hlt⟩ := number_of_exported hrows hmem hsubmitted
    have hle : n ≤ monthIndex t / months mode := (Int.le_ediv_iff_mul_le hmonths).2 hge
    have hlt' : monthIndex t / months mode < n + 1 := (Int.ediv_lt_iff_lt_mul hmonths).2 hlt
    omega

end ReportService

namespace Sample

def year : YearlySpendingQuery := ⟨2025, none, none, false, none⟩

def auditorRole : Role :=
  ⟨4, "ROL1700000000004AAAAAA", "auditor", [⟨.READ, .EXPENSE, .GLOBAL, true⟩]⟩

def authAuditor : AuthUser :=
  toAuthUser ⟨4, "USR1700000000004AAAAAA", "auditor@expentra.test", none, true, true, none,
    some auditorRole⟩ []

theorem owners : BudgetSummaries.OwnersExist db := by
  intro e he
  cases he

end Sample

open ReportService in
/-- The paid expense is in the third month, on whatever clock it is counted. -/
theorem year_adds_up_march :
    ∃ report, YearAddsUp (fun t => t) Sample.reporting Sample.authOwner Sample.year report ∧
      report.months.map (·.total) = [0, 0, 5000, 0, 0, 0, 0, 0, 0, 0, 0, 0] :=
  ⟨_, year_adds_up (show getSpendingByMonth (fun t => t) Sample.reporting.db Sample.authOwner
    Sample.year = .ok _ from rfl), by decide +kernel⟩

open ReportService in
theorem reported_once_march : ∃ e ∈ Sample.reporting.db.expenses, ∃! n : Int, ∃ rows,
    getExpenseExportRows Sample.reporting.db Sample.authAuditor (everything (ofNumber .MONTH n)) =
      .ok rows ∧ exportOf Sample.reporting.db e ∈ rows := by
  obtain ⟨e, he, hstatus⟩ : ∃ e ∈ Sample.reporting.db.expenses,
      e.status ∈ REPORT_PIPELINE_STATUSES := by
    decide +kernel
  exact ⟨e, he, reported_once Sample.fresh.allDated Sample.owners
    (reaches_runAll Sample.config Sample.lifecycle Sample.db) rfl .MONTH he hstatus⟩

end Expentra
