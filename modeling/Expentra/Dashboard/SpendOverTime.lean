-- SUMMARY: The spend a dashboard shows over time adds up to the totals of its period.
import Expentra.Dashboard.Dashboards
import Mathlib.Tactic.Abel

/-!
# Spend over time

Weeks and months of a year are numbered alike on every clock, so no expense of a month or a
year is lost. The months of a quarter are those of the quarter on the clock of UTC only.
-/

namespace Expentra

open Library

namespace DashboardService

open ReportService (amountOf amountOf_pos monthRow_eq twelveMonths nodup_twelveMonths
  mem_twelveMonths mem_categoryAmounts nodup_categoryAmounts sum_categoryAmounts categoryAmounts)

variable {session : Instant → Instant} {d : Dashboards} {query : DashboardPeriodQuery}
  {timeZone : TimeZone} {now : Instant}

/-! ## Periods -/

/-- `Date.UTC` of the first day of a month, whatever the year is. -/
theorem dateUTC_first (year : Int) : ∃ first : Int, first % 12 = 0 ∧
    ∀ month : Int, dateUTC year month = firstOfMonth (first + month) := by
  by_cases hshort : 0 ≤ year ∧ year ≤ 99
  · refine ⟨12 * (1900 + year), by omega, fun month => ?_⟩
    rw [dateUTC, if_pos hshort, utc_eq_firstOfMonth]
  · refine ⟨12 * year, by omega, fun month => ?_⟩
    rw [dateUTC, if_neg hshort, utc_eq_firstOfMonth]

/-- An expense of a quarter was created in one of its months. -/
theorem month_of_quarter (hsession : ∀ t, session t = t) (hmonth : truthy query.month = none)
    {quarter : Int} (hquarter : truthy query.quarter = some quarter) (hrange : 1 ≤ quarter ∧ quarter ≤ 4)
    {e : Expense} (he : isCreatedIn d (resolvePeriod timeZone now query).start
      (resolvePeriod timeZone now query).end_ e = true) :
    monthOf session d e ∈ resolveMonthsInPeriod query := by
  obtain ⟨year, hyear⟩ : ∃ year, query.year.getD (BudgetPeriod.resolveBudgetYear now timeZone) = year :=
    ⟨_, rfl⟩
  obtain ⟨first, hfirst, hdate⟩ := dateUTC_first year
  simp only [resolvePeriod, hmonth, hquarter, hyear, isCreatedIn, hdate, Bool.and_eq_true,
    decide_eq_true_eq] at he
  obtain ⟨hge, hlt⟩ := (mem_months_iff _).1 he
  rw [monthOf, hsession, (getUTCMonth_eq _).1, resolveMonthsInPeriod, hquarter]
  simp only [List.mem_cons, List.not_mem_nil, or_false]
  omega

theorem month_of_year (e : Expense) : monthOf session d e ∈ twelveMonths := by
  rw [monthOf, (getUTCMonth_eq _).1, mem_twelveMonths]
  omega

theorem week_of_month (e : Expense) : weekOf session d e ∈ ([1, 2, 3, 4, 5] : List Int) := by
  have hrange := getUTCDate_range (session (d.createdAt e.id))
  simp only [weekOf, List.mem_cons, List.not_mem_nil, or_false]
  omega

/-! ## Sums -/

section Sums

variable {periodOf : Expense → Int} {label : Int → String} {rows : List Expense}

theorem sum_spendRows {periods : List Int} (hnodup : periods.Nodup)
    (hcover : ∀ e ∈ rows, periodOf e ∈ periods) :
    ((periods.map (spendRow periodOf label rows)).map (·.toTotals)).sum = Totals.of amountOf rows := by
  rw [List.map_map, ← Totals.sum_fibers hnodup hcover]
  congr 1
  exact List.map_congr_left fun period _ => by
    rw [Function.comp_apply, spendRow, monthRow_eq]

/-- The categories of a row are those with something spent, and all of its spend. -/
theorem spendRow_categories (period : Int) :
    ((spendRow periodOf label rows period).categoryAmounts.map Prod.fst).Nodup ∧
      (∀ entry ∈ (spendRow periodOf label rows period).categoryAmounts, 0 < entry.2) ∧
      ((spendRow periodOf label rows period).categoryAmounts.map Prod.snd).sum =
        (spendRow periodOf label rows period).total := by
  rw [spendRow, monthRow_eq]
  exact ⟨nodup_categoryAmounts, fun entry hentry => (mem_categoryAmounts.1 hentry).2,
    sum_categoryAmounts⟩

theorem nodup_resolveMonthsInPeriod : (resolveMonthsInPeriod query).Nodup := by
  unfold resolveMonthsInPeriod
  split
  · simp
  · exact nodup_twelveMonths

/-- The clocks on which the months of a period are where the service looks for them. -/
def ShowsWhole (session : Instant → Instant) (query : DashboardPeriodQuery) : Prop :=
  (truthy query.month).isSome = true ∨ truthy query.quarter = none ∨ ∀ t, session t = t

/-- The rows of a period are spread over its weeks or months. -/
theorem sum_getSpendOverTime (hvalid : query.Valid) (hwhole : ShowsWhole session query)
    (hrows : ∀ e ∈ rows, isCreatedIn d (resolvePeriod timeZone now query).start
      (resolvePeriod timeZone now query).end_ e = true) :
    ((getSpendOverTime session d query rows).map (·.toTotals)).sum = Totals.of amountOf rows := by
  unfold getSpendOverTime
  split
  · exact sum_spendRows (by decide) fun e _ => week_of_month e
  · next hmonth =>
    have hnone : truthy query.month = none := by simpa using hmonth
    refine sum_spendRows nodup_resolveMonthsInPeriod fun e he => ?_
    cases hquarter : truthy query.quarter with
    | none =>
      rw [resolveMonthsInPeriod, hquarter]
      exact month_of_year e
    | some quarter =>
      rcases hwhole with hmonth' | hnone' | hsession
      · exact absurd hmonth' hmonth
      · rw [hnone'] at hquarter
        cases hquarter
      · have hrange := hvalid.quarter quarter (Option.filter_eq_some_iff.1 hquarter).1
        exact month_of_quarter hsession hnone hquarter hrange (hrows e he)

theorem getSpendOverTime_categories {line : DashboardSpendPeriodRow}
    (hline : line ∈ getSpendOverTime session d query rows) :
    (line.categoryAmounts.map Prod.fst).Nodup ∧ (∀ entry ∈ line.categoryAmounts, 0 < entry.2) ∧
      (line.categoryAmounts.map Prod.snd).sum = line.total := by
  unfold getSpendOverTime at hline
  split at hline
  · obtain ⟨week, -, rfl⟩ := List.mem_map.1 hline
    exact spendRow_categories week
  · obtain ⟨month, -, rfl⟩ := List.mem_map.1 hline
    exact spendRow_categories month

end Sums

/-! ## The personal dashboard -/

/-- The query of the period before, as `resolvePreviousPeriod` asks for it. -/
def previousQuery (query : DashboardPeriodQuery) (year : Int) : DashboardPeriodQuery :=
  match truthy query.month with
  | some month =>
    if month - 1 < 1 then ⟨some (year - 1), some 12, none⟩ else ⟨some year, some (month - 1), none⟩
  | none =>
    match truthy query.quarter with
    | some quarter =>
      if quarter - 1 < 1 then ⟨some (year - 1), none, some 4⟩
      else ⟨some year, none, some (quarter - 1)⟩
    | none => ⟨some (year - 1), none, none⟩

theorem resolvePreviousPeriod_eq (current : ResolvedPeriod) :
    resolvePreviousPeriod timeZone now query current =
      resolvePeriod timeZone now (previousQuery query current.year) := by
  unfold resolvePreviousPeriod previousQuery
  cases truthy query.month with
  | some month =>
    dsimp only
    split <;> rfl
  | none =>
    dsimp only
    cases truthy query.quarter with
    | some quarter =>
      dsimp only
      split <;> rfl
    | none => rfl

/-- The period before ends where the period starts. -/
theorem previousQuery_end (hvalid : query.Valid) (hyear : 100 < (resolvePeriod timeZone now query).year) :
    (resolvePeriod timeZone now (previousQuery query (resolvePeriod timeZone now query).year)).end_ =
      (resolvePeriod timeZone now query).start := by
  obtain ⟨year, hgiven⟩ : ∃ year, query.year.getD (BudgetPeriod.resolveBudgetYear now timeZone) = year :=
    ⟨_, rfl⟩
  have hnone : truthy none = none := rfl
  cases hmonth : truthy query.month with
  | some month =>
    obtain ⟨hquery, -⟩ := Option.filter_eq_some_iff.1 hmonth
    have hrange := hvalid.month month hquery
    simp only [resolvePeriod, hmonth, hgiven] at hyear
    by_cases hfirst : month - 1 < 1
    · simp only [resolvePeriod, previousQuery, hmonth, hgiven, if_pos hfirst, Option.getD_some,
        truthy_some (show (12 : Int) ≠ 0 by decide)]
      rw [dateUTC_eq_firstOfMonth (by omega), dateUTC_eq_firstOfMonth (by omega)]
      have hindex : 12 * (year - 1) + 12 = 12 * year + (month - 1) := by omega
      rw [hindex]
    · simp only [resolvePeriod, previousQuery, hmonth, hgiven, if_neg hfirst, Option.getD_some,
        truthy_some (show month - 1 ≠ 0 by omega)]
  | none =>
    cases hquarter : truthy query.quarter with
    | some quarter =>
      obtain ⟨hquery, -⟩ := Option.filter_eq_some_iff.1 hquarter
      have hrange := hvalid.quarter quarter hquery
      simp only [resolvePeriod, hmonth, hquarter, hgiven] at hyear
      by_cases hfirst : quarter - 1 < 1
      · simp only [resolvePeriod, previousQuery, hmonth, hquarter, hgiven, if_pos hfirst,
          Option.getD_some, hnone, truthy_some (show (4 : Int) ≠ 0 by decide)]
        rw [dateUTC_eq_firstOfMonth (by omega),
          dateUTC_eq_firstOfMonth (by omega)]
        have hindex : 12 * (year - 1) + ((4 - 1) * 3 + 3) = 12 * year + (quarter - 1) * 3 := by omega
        rw [hindex]
      · simp only [resolvePeriod, previousQuery, hmonth, hquarter, hgiven, if_neg hfirst,
          Option.getD_some, hnone, truthy_some (show quarter - 1 ≠ 0 by omega)]
        have hmonths : (quarter - 1 - 1) * 3 + 3 = (quarter - 1) * 3 := by omega
        rw [hmonths]
    | none =>
      simp only [resolvePeriod, previousQuery, hmonth, hquarter, hgiven, Option.getD_some, hnone]
      have hnext : year - 1 + 1 = year := by omega
      rw [hnext]

/-- A period with a year of its own does not depend on the time of the call. -/
theorem resolvePeriod_of_year {year : Int} (hyear : query.year = some year) (now' : Instant) :
    resolvePeriod timeZone now' query = resolvePeriod timeZone now query := by
  simp only [resolvePeriod, hyear, Option.getD_some]

theorem previousQuery_year (year : Int) : ∃ year', (previousQuery query year).year = some year' := by
  unfold previousQuery
  split
  · split <;> exact ⟨_, rfl⟩
  · split
    · split <;> exact ⟨_, rfl⟩
    · exact ⟨_, rfl⟩

/-- What the parts of a personal dashboard say of one another. -/
structure PersonalAddsUp (timeZone : TimeZone) (now : Instant) (session : Instant → Instant)
    (d : Dashboards) (authUser : AuthUser) (query : DashboardPeriodQuery) : Prop where
  spend : ShowsWhole session query →
    ((getPersonalDashboard timeZone now session d authUser query).spendOverTime.map
        (·.toTotals)).sum =
      (getPersonalDashboard timeZone now session d authUser query).toTotals
  categories : ∀ line ∈ (getPersonalDashboard timeZone now session d authUser query).spendOverTime,
    (line.categoryAmounts.map Prod.fst).Nodup ∧ (∀ entry ∈ line.categoryAmounts, 0 < entry.2) ∧
      (line.categoryAmounts.map Prod.snd).sum = line.total
  /-- The trend has the totals of the dashboard of the period before, asked for at any time. -/
  trend : ∀ now' session',
    (getPersonalDashboard timeZone now' session' d authUser
          (previousQuery query (resolvePeriod timeZone now query).year)).toTotals =
        (getPersonalDashboard timeZone now session d authUser query).trend.previous ∧
      (getPersonalDashboard timeZone now' session' d authUser
          (previousQuery query (resolvePeriod timeZone now query).year)).periodLabel =
        (getPersonalDashboard timeZone now session d authUser query).trend.label
  /-- That period ends where the one of the dashboard starts. -/
  adjacent : 100 < (resolvePeriod timeZone now query).year →
    (resolvePeriod timeZone now (previousQuery query (resolvePeriod timeZone now query).year)).end_ =
      (resolvePeriod timeZone now query).start
  /-- Whatever the period, every expense of the user is in one of the buckets or paid. -/
  buckets : (getPersonalDashboard timeZone now session d authUser query).drafts +
      (getPersonalDashboard timeZone now session d authUser query).rejected +
      (getPersonalDashboard timeZone now session d authUser query).inApproval +
      (getPersonalDashboard timeZone now session d authUser query).pendingReimbursement +
      getActionBucket d authUser.id .REIMBURSED =
    Totals.of amountOf (ownExpenses d authUser.id)

def statuses : List ExpenseStatus :=
  [.DRAFT, .REJECTED, .SUBMITTED, .UNDER_REVIEW, .APPROVED, .REIMBURSED]

theorem sum_buckets (rows : List Expense) :
    Totals.of amountOf (rows.filter (·.status = .DRAFT)) +
      Totals.of amountOf (rows.filter (·.status = .REJECTED)) +
      Totals.of amountOf (rows.filter (fun e => IN_APPROVAL_STATUSES.contains e.status)) +
      Totals.of amountOf (rows.filter (·.status = .APPROVED)) +
      Totals.of amountOf (rows.filter (·.status = .REIMBURSED)) = Totals.of amountOf rows := by
  have hcover : ∀ e ∈ rows, e.status ∈ statuses := fun e _ => by cases e.status <;> decide
  have hall : (statuses.map (fun status =>
      Totals.of amountOf (rows.filter (·.status = status)))).sum = Totals.of amountOf rows :=
    Totals.sum_fibers (by decide) hcover
  -- what is in approval is in one of two statuses
  have hpending : ((statuses.filter IN_APPROVAL_STATUSES.contains).map (fun status =>
      Totals.of amountOf (rows.filter (·.status = status)))).sum =
        Totals.of amountOf (rows.filter (fun e => IN_APPROVAL_STATUSES.contains e.status)) :=
    Totals.sum_fibers_filter (by decide) hcover _
  rw [← hpending, ← hall]
  have htwo : statuses.filter IN_APPROVAL_STATUSES.contains = [.SUBMITTED, .UNDER_REVIEW] := by
    decide
  rw [htwo]
  simp only [statuses, List.map_cons, List.map_nil, List.sum_cons, List.sum_nil, add_zero]
  abel

/-- For every user and every period that can be asked for. -/
theorem personal_dashboard_adds_up (timeZone : TimeZone) (now : Instant)
    (session : Instant → Instant) (d : Dashboards) (authUser : AuthUser)
    {query : DashboardPeriodQuery} (hvalid : query.Valid) :
    PersonalAddsUp timeZone now session d authUser query := by
  constructor
  · intro hwhole
    exact sum_getSpendOverTime hvalid hwhole fun e he => (List.mem_filter.1 he).2
  · exact fun line hline => getSpendOverTime_categories hline
  · obtain ⟨year, hyear⟩ := @previousQuery_year query (resolvePeriod timeZone now query).year
    intro now' session'
    simp only [getPersonalDashboard, getPeriodTrend, getPeriodTotals, resolvePreviousPeriod_eq,
      @resolvePeriod_of_year _ timeZone now year hyear now', and_self]
  · exact previousQuery_end hvalid
  · exact sum_buckets _

/-! ## Everybody -/

/-- The expenses of all users are all expenses. -/
theorem sum_over_users {db : Db} (howners : BudgetSummaries.OwnersExist db) (p : Expense → Bool) :
    (db.users.rows.map (fun user =>
        Totals.of amountOf ((db.expenses.rows.filter (·.userId = user.id)).filter p))).sum =
      Totals.of amountOf (db.expenses.rows.filter p) := by
  have hcover : ∀ e ∈ db.expenses.rows.filter p, e.userId ∈ db.users.rows.map (·.id) := by
    intro e he
    obtain ⟨user, huser⟩ := Option.isSome_iff_exists.1 (howners e (List.mem_filter.1 he).1)
    exact List.mem_map.2 ⟨user, Table.mem_of_find? huser, Table.key_of_find? huser⟩
  rw [← Totals.sum_fibers db.users.nodup hcover, List.map_map]
  congr 1
  refine List.map_congr_left fun user _ => congrArg (Totals.of amountOf) ?_
  rw [List.filter_filter, List.filter_filter]
  exact List.filter_congr fun e _ => Bool.and_comm _ _

open ReportService in
/-- In every run, what the users are shown to be waiting for is what the report says is to be
    paid: every approved expense is on the dashboard of one user and in one bucket of the report. -/
theorem dashboards_match_payouts {cfg : Config} {db₀ : Db} (hdated : AllDated db₀)
    (howners : BudgetSummaries.OwnersExist db₀) (hreach : Reaches (Step cfg) db₀ d.db)
    {authOf : User → AuthUser} (hauth : ∀ user ∈ d.db.users, (authOf user).id = user.id) :
    (d.db.users.rows.map (fun user => (getPersonalDashboard timeZone now session d (authOf user)
        query).pendingReimbursement)).sum = (getPendingPayoutSummary d.db now).toTotals := by
  rw [(payouts_complete hdated hreach now).totals, approvedExpenses,
    ← sum_over_users (ownersExist_of_reaches howners hreach)]
  congr 1
  refine List.map_congr_left fun user huser => ?_
  change getActionBucket d (authOf user).id .APPROVED = _
  rw [hauth user huser]
  rfl

/-! ## The dashboard of a team -/

/-- What the parts of a team's dashboard say of one another and of the page of the department. -/
structure TeamAddsUp (session : Instant → Instant) (db : Db) (departmentId : Nat) (now : Instant)
    (query : DashboardPeriodQuery) (dashboard : TeamDashboard) : Prop where
  spend : ShowsWhole session query →
    (dashboard.spendOverTime.map (·.toTotals)).sum = dashboard.toTotals
  categories : ∀ line ∈ dashboard.spendOverTime,
    (line.categoryAmounts.map Prod.fst).Nodup ∧ (∀ entry ∈ line.categoryAmounts, 0 < entry.2) ∧
      (line.categoryAmounts.map Prod.snd).sum = line.total
  pending : dashboard.pendingApprovals = DepartmentQuery.countPendingApprovals db departmentId
  aging : dashboard.agingApprovals ≤ dashboard.pendingApprovals ∧
    (dashboard.agingApprovals = 0 ↔ ∀ e ∈ db.expenses, isOfTeam db departmentId e = true →
      e.status.isPending = true → ∀ t, e.submittedAt = some t → now - AGING_DAYS * Date.msPerDay ≤ t)
  remaining : ∀ remaining committed, dashboard.remainingAmount = some remaining →
    dashboard.committedAmount = some committed → (committed : Int) ≤ dashboard.budgetLimit →
      remaining + committed = dashboard.budgetLimit

theorem inApproval_eq_isPending (status : ExpenseStatus) :
    IN_APPROVAL_STATUSES.contains status = status.isPending := by
  cases status <;> decide

theorem pending_eq_count (departmentId : Nat) :
    ((teamExpenses d departmentId).filter (fun e => IN_APPROVAL_STATUSES.contains e.status)).length =
      DepartmentQuery.countPendingApprovals d.db departmentId := by
  rw [DepartmentQuery.countPendingApprovals_eq, List.countP_eq_length_filter, teamExpenses,
    List.filter_filter]
  refine congrArg List.length (List.filter_congr fun e _ => ?_)
  rw [inApproval_eq_isPending]
  rfl

/-- For every department and every period that can be asked for. -/
theorem team_dashboard_adds_up {cfg : Config} {department : Department} {dashboard : TeamDashboard}
    (hvalid : query.Valid)
    (h : getTeamDashboardForDepartment cfg now session d department query = .ok dashboard) :
    TeamAddsUp session d.db department.id now query dashboard := by
  obtain ⟨budgetSummary, -, h⟩ := Except.bind_eq_ok.1 h
  cases h
  constructor
  · intro hwhole
    exact sum_getSpendOverTime hvalid hwhole fun e he =>
      (Bool.and_eq_true_iff.1 (List.mem_filter.1 he).2).2
  · exact fun line hline => getSpendOverTime_categories hline
  · exact pending_eq_count department.id
  · refine ⟨List.length_filter_le _ _, ?_⟩
    dsimp only
    rw [List.length_eq_zero_iff, List.filter_eq_nil_iff]
    constructor
    · intro hnone e he hteam hpending t ht
      have hmem : e ∈ (teamExpenses d department.id).filter (fun e =>
          IN_APPROVAL_STATUSES.contains e.status) :=
        List.mem_filter.2 ⟨List.mem_filter.2 ⟨he, hteam⟩,
          (inApproval_eq_isPending e.status).trans hpending⟩
      have hlate := hnone e hmem
      rw [ht, Option.any_some, decide_eq_true_eq] at hlate
      exact Int.not_lt.1 hlate
    · intro hall e he hlate
      obtain ⟨he, hpending⟩ := List.mem_filter.1 he
      obtain ⟨he, hteam⟩ := List.mem_filter.1 he
      obtain ⟨t, ht, hlt⟩ := (Option.any_eq_true _ _).1 hlate
      have hle := hall e he hteam ((inApproval_eq_isPending e.status).symm.trans hpending) t ht
      exact absurd (of_decide_eq_true hlt) (Int.not_lt.2 hle)
  · intro remaining committed hremaining hcommitted hle
    dsimp only at hremaining hcommitted hle ⊢
    rw [hcommitted, Option.map_some] at hremaining
    have hmax := Option.some.inj hremaining
    omega

end DashboardService

namespace Sample

/-- The expense of the lifecycle, approved and not yet paid. -/
def dashboards : Dashboards :=
  ⟨runAll config (lifecycle.take 4) db, fun _ => now, fun _ => now⟩

def firstQuarter : DashboardPeriodQuery := ⟨some 2025, none, some 1⟩

theorem firstQuarter_valid : firstQuarter.Valid := by
  constructor
  · rintro year ⟨⟩
    decide
  · rintro month ⟨⟩
  · rintro quarter ⟨⟩
    decide

def operations : Department := ⟨1, "DPT1700000000001AAAAAA", some 2, true, none⟩

end Sample

open DashboardService

theorem personal_dashboard_adds_up_march :
    PersonalAddsUp BudgetPeriod.utcZone Sample.now (fun t => t) Sample.dashboards Sample.authOwner
        Sample.firstQuarter ∧
      (getPersonalDashboard BudgetPeriod.utcZone Sample.now (fun t => t) Sample.dashboards
        Sample.authOwner Sample.firstQuarter).spendOverTime.map (·.total) = [0, 0, 5000] :=
  ⟨personal_dashboard_adds_up _ _ _ _ _ Sample.firstQuarter_valid, by decide +kernel⟩

/-- The approved expense is what the owner waits for and what is to be paid. -/
theorem dashboards_match_payouts_march :
    (Sample.dashboards.db.users.rows.map (fun user => (getPersonalDashboard BudgetPeriod.utcZone
        Sample.now (fun t => t) Sample.dashboards (toAuthUser user []) Sample.firstQuarter)
          |>.pendingReimbursement)).sum =
      (ReportService.getPendingPayoutSummary Sample.dashboards.db Sample.now).toTotals :=
  dashboards_match_payouts Sample.fresh.allDated Sample.owners
    (reaches_runAll Sample.config _ Sample.db) (fun _ _ => rfl)

theorem team_dashboard_adds_up_march : ∃ dashboard,
    TeamAddsUp (fun t => t) Sample.dashboards.db 1 Sample.now Sample.firstQuarter dashboard ∧
      dashboard.total = 5000 :=
  ⟨_, @team_dashboard_adds_up (fun t => t) Sample.dashboards Sample.firstQuarter Sample.now
    Sample.config Sample.operations _ Sample.firstQuarter_valid rfl, by decide +kernel⟩

end Expentra
