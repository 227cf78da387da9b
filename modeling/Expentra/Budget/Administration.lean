-- SUMMARY: Budget administration and the ledger: which created and reactivated rows have true counters.
import Expentra.Budget.Counters

/-!
# Budget administration

A created row starts at zero, and an inactive row misses every delta. The
counters of all live rows stay true in exactly the runs in which rows are created
before there is spend to count, and reactivated only when they missed nothing.
-/

namespace Expentra

open Library

/-- The counters of every live row equal the ledger. -/
def CountersTrue (timeZone : TimeZone) (db : Db) : Prop :=
  ∀ b ∈ db.budgets, b.isLive = true → MatchesLedger timeZone db b

/-- Nothing is charged to a department and year. -/
def NoSpend (timeZone : TimeZone) (db : Db) (k : Nat × Int) : Prop :=
  ledger timeZone db isCommitted k = 0 ∧ ledger timeZone db isReimbursed k = 0

/-- A budget is created for a department and year without spend, and an inactive
    one is activated when its counters missed nothing. -/
def missesNothing (cfg : Config) : Guard Db Operation := fun db op =>
  op.Succeeds cfg db →
    match op with
    | .createBudget _ _ input =>
      ∀ department, BudgetService.findDepartment db input.departmentReference = .ok department →
        NoSpend cfg.budgetTimeZone db (department.id, input.year)
    | .updateBudget reference input =>
      ∀ b, BudgetService.findOne db reference = .ok b → b.isActive = false →
        input.isActive = some true → MatchesLedger cfg.budgetTimeZone db b
    | _ => True

section Administration

variable {cfg : Config} {db db' : Db} {op : Operation}

theorem MatchesLedger.congr {timeZone : TimeZone} {b b' : DepartmentBudget}
    (hexpenses : db'.expenses = db.expenses) (husers : db'.users = db.users) (hkey : b'.key = b.key)
    (hc : b'.committedAmount = b.committedAmount) (hr : b'.reimbursedAmount = b.reimbursedAmount) :
    MatchesLedger timeZone db' b' ↔ MatchesLedger timeZone db b := by
  have hledger : ∀ statuses, ledger timeZone db' statuses b'.key = ledger timeZone db statuses b.key :=
    fun statuses => by
      rw [ledger_of_users_eq husers, hexpenses, hkey]
      rfl
  constructor
  · rintro ⟨hcommitted, hreimbursed⟩
    exact ⟨by rw [← hc, hcommitted, hledger], by rw [← hr, hreimbursed, hledger]⟩
  · rintro ⟨hcommitted, hreimbursed⟩
    exact ⟨by rw [hc, hcommitted, hledger], by rw [hr, hreimbursed, hledger]⟩

/-- A transition keeps the counters of every live row true. -/
theorem countersTrue_of_transition (hop : op.isTransition = true)
    (h : op.perform cfg db = .ok ((), db')) (htrue : CountersTrue cfg.budgetTimeZone db) :
    CountersTrue cfg.budgetTimeZone db' := by
  intro b' hb' hlive'
  obtain ⟨row, after, _, _, _, htransition, -⟩ := transition_of_ok hop h
  have hrel := htransition.budgets_shifted b'.key
  rw [Table.find?_of_mem hb'] at hrel
  cases hfind : db.budgets.find? b'.key with
  | none =>
    rw [hfind] at hrel
    cases hrel
  | some b =>
    rw [hfind] at hrel
    obtain ⟨hshift⟩ := hrel
    have hkey : b.key = b'.key := Table.key_of_find? hfind
    have hlive : b.isLive = true := by
      unfold ShiftedRow at hshift
      split at hshift
      · assumption
      · rwa [hshift] at hlive'
    rw [← hkey] at hfind
    obtain ⟨_, _, _, _, _, b'', -, hfind', -, -, -, hmatch⟩ :=
      unclamped_of_transition hop h hfind hlive (htrue b (Table.mem_of_find? hfind) hlive)
    rw [hkey, Table.find?_of_mem hb'] at hfind'
    exact Option.some.inj hfind' ▸ hmatch

/-- A created budget has true counters exactly when there was nothing to count. -/
theorem countersTrue_createBudget {now : Instant} {reference : String}
    {input : BudgetService.CreateDepartmentBudgetInput}
    (h : BudgetService.create cfg now reference input db = .ok ((), db'))
    (htrue : CountersTrue cfg.budgetTimeZone db) :
    CountersTrue cfg.budgetTimeZone db' ↔
      ∀ department, BudgetService.findDepartment db input.departmentReference = .ok department →
        NoSpend cfg.budgetTimeZone db (department.id, input.year) := by
  obtain ⟨department, budget, budgets, hdept, hins, rfl, hkey, hlive, hc, hr⟩ :=
    BudgetService.create_ok h
  have hsame : ∀ b, MatchesLedger cfg.budgetTimeZone { db with budgets := budgets } b ↔
      MatchesLedger cfg.budgetTimeZone db b := fun b => MatchesLedger.congr rfl rfl rfl rfl rfl
  have hnew : MatchesLedger cfg.budgetTimeZone db budget ↔
      NoSpend cfg.budgetTimeZone db (department.id, input.year) := by
    rw [← hkey]
    constructor
    · rintro ⟨hcommitted, hreimbursed⟩
      exact ⟨by rw [← hcommitted, hc]; rfl, by rw [← hreimbursed, hr]; rfl⟩
    · rintro ⟨hcommitted, hreimbursed⟩
      exact ⟨by rw [hcommitted, hc]; rfl, by rw [hreimbursed, hr]; rfl⟩
  constructor
  · intro htrue' department' hdept'
    cases hdept.symm.trans hdept'
    exact hnew.1 ((hsame budget).1 (htrue' budget ((Table.mem_insert hins).2 (.inr rfl)) hlive))
  · intro hnospend b hb hblive
    rw [hsame]
    rcases (Table.mem_insert hins).1 hb with hb | rfl
    · exact htrue b hb hblive
    · exact hnew.2 (hnospend department hdept)

/-- An update leaves true counters unless it activates a row whose counters are
    not true. -/
theorem countersTrue_updateBudget {reference : String}
    {input : BudgetService.UpdateDepartmentBudgetInput}
    (h : BudgetService.update reference input db = .ok ((), db'))
    (htrue : CountersTrue cfg.budgetTimeZone db) :
    CountersTrue cfg.budgetTimeZone db' ↔
      ∀ b, BudgetService.findOne db reference = .ok b → b.isActive = false →
        input.isActive = some true → MatchesLedger cfg.budgetTimeZone db b := by
  obtain ⟨budget, hmem, updated, hone, rfl, hdeleted, hkey, hdeleted', hactive, hc, hr⟩ :=
    BudgetService.update_ok h
  have hfind : db.budgets.find? updated.key = some budget := hkey ▸ Table.find?_of_mem hmem
  have hsame : ∀ b, MatchesLedger cfg.budgetTimeZone
      { db with budgets := db.budgets.replace updated } b ↔
        MatchesLedger cfg.budgetTimeZone db b := fun b => MatchesLedger.congr rfl rfl rfl rfl rfl
  have hupdated : MatchesLedger cfg.budgetTimeZone
      { db with budgets := db.budgets.replace updated } updated ↔
        MatchesLedger cfg.budgetTimeZone db budget := MatchesLedger.congr rfl rfl hkey hc hr
  have hlive : updated.isLive = updated.isActive := by
    simp [DepartmentBudget.isLive, hdeleted', hdeleted]
  constructor
  · intro htrue' b hb hinactive hactivate
    cases hone.symm.trans hb
    have hlive' : updated.isLive = true := by
      rw [hlive, hactive, hactivate]
      rfl
    exact hupdated.1 (htrue' updated (Table.mem_replace_self hfind) hlive')
  · intro hactivated b hb hblive
    rcases Table.eq_or_mem_of_mem_replace hb with rfl | ⟨hb, -⟩
    · rw [hupdated]
      rw [hlive, hactive] at hblive
      cases hwas : budget.isActive with
      | true =>
        have hbudgetLive : budget.isLive = true := by
          simp [DepartmentBudget.isLive, hwas, hdeleted]
        exact htrue budget hmem hbudgetLive
      | false =>
        refine hactivated budget hone hwas ?_
        cases hinput : input.isActive with
        | none => simp [hinput, hwas] at hblive
        | some flag => simpa [hinput] using hblive
    · exact (hsame b).2 (htrue b hb hblive)

/-- One step keeps all counters true exactly when it misses nothing. -/
theorem countersTrue_step (htrue : CountersTrue cfg.budgetTimeZone db) (hstep : Step cfg db op db') :
    CountersTrue cfg.budgetTimeZone db' ↔ missesNothing cfg db op := by
  by_cases hsucceeds : op.Succeeds cfg db
  · have hok := hstep.of_succeeds hsucceeds
    simp only [missesNothing, hsucceeds, forall_const]
    cases hop : op.isTransition with
    | true =>
      have htrue' := countersTrue_of_transition hop hok htrue
      cases op <;> first | exact iff_of_true htrue' trivial | cases hop
    | false =>
      cases hadmin : op.isBudgetAdmin with
      | true =>
        cases op with
        | createBudget now reference input =>
          rw [Operation.perform] at hok
          exact countersTrue_createBudget hok htrue
        | updateBudget reference input =>
          rw [Operation.perform] at hok
          exact countersTrue_updateBudget hok htrue
        | _ => cases hadmin
      | false =>
        have htrue' : CountersTrue cfg.budgetTimeZone db' := by
          obtain ⟨hbudgets, hledger⟩ := ledger_of_other hop hadmin hok
          intro b hb hlive
          have hmatch := htrue b (hbudgets ▸ hb) hlive
          exact ⟨by rw [hledger _ rfl]; exact hmatch.committed,
            by rw [hledger _ rfl]; exact hmatch.reimbursed⟩
        cases op <;> first | exact iff_of_true htrue' trivial | cases hadmin
  · rcases hstep.cases with hok | rfl
    · exact absurd ⟨db', hok⟩ hsucceeds
    · exact iff_of_true htrue (fun h => absurd h hsucceeds)

/-- From true counters, the counters of all live rows are true in every state of a
    run exactly when the run creates budgets without spend only, and activates
    budgets that missed nothing only. -/
theorem countersTrue_run {db₀ : Db} {tr : List (Operation × Db)}
    (htrue : CountersTrue cfg.budgetTimeZone db₀) (hrun : Run (Step cfg) db₀ tr) :
    (∀ db ∈ Run.states db₀ tr, CountersTrue cfg.budgetTimeZone db) ↔
      ∀ step ∈ Run.steps db₀ tr, missesNothing cfg step.1 step.2 :=
  hrun.forall_states_iff (I := fun _ => True) (fun _ _ _ _ _ => trivial)
    (fun _ _ _ _ htrue hstep => countersTrue_step htrue hstep) trivial htrue

end Administration

/-- The department has a draft, submits it, and only then gets a budget. -/
def Sample.lateBudget : List Operation :=
  [Sample.createExpense, Sample.submit,
    .createBudget Sample.now "BUD1700000000002AAAAAA" ⟨"DPT1700000000001AAAAAA", 2025, 100000⟩]

/-- The late budget is created with counters at zero beside 5000 committed. -/
theorem lateBudget_counters_false :
    CountersTrue Sample.config.budgetTimeZone Sample.db ∧
      ¬ CountersTrue Sample.config.budgetTimeZone
        (runAll Sample.config Sample.lateBudget Sample.db) := by
  refine ⟨fun b hb => by simp [Sample.db, Table.mem_iff] at hb, fun h => ?_⟩
  have hrows : ∃ b ∈ (runAll Sample.config Sample.lateBudget Sample.db).budgets.rows,
      b.isLive = true ∧ (b.committedAmount : Int) ≠ ledger Sample.config.budgetTimeZone
        (runAll Sample.config Sample.lateBudget Sample.db) isCommitted b.key := by decide +kernel
  obtain ⟨b, hb, hlive, hne⟩ := hrows
  exact hne (h b hb hlive).committed

/-- The lifecycle of an expense beside a budget that was there before it. -/
theorem countersTrue_run_sample :
    (∀ db ∈ Run.states Sample.dbWithBudget (trace Sample.config Sample.lifecycle Sample.dbWithBudget),
        CountersTrue Sample.config.budgetTimeZone db) ↔
      ∀ step ∈ Run.steps Sample.dbWithBudget
          (trace Sample.config Sample.lifecycle Sample.dbWithBudget),
        missesNothing Sample.config step.1 step.2 :=
  countersTrue_run (fun b hb _ => by
      obtain rfl : b = Sample.budget := List.mem_singleton.1 hb
      exact ⟨by decide, by decide⟩)
    (run_trace Sample.config Sample.lifecycle Sample.dbWithBudget)

end Expentra
