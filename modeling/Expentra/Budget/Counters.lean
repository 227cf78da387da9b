-- SUMMARY: The counters of a budget row equal the ledger in every run, as long as nobody edits the row.
import Expentra.Budget.Ledger

/-!
# Counters

Every transition shifts the counters of a live row by deltas that are computed
from two snapshots of one expense, and clamps them at zero. Starting from
counters that equal the ledger, the clamp never acts: the row of the transition
is part of the sum, so that no delta takes away more than there is.
-/

namespace Expentra

open Library

section Counters

variable {cfg : Config} {db db' : Db} {row : Expense} {after : ExpenseEntity}
  {approvals : Table ExpenseApproval.key} {comments : List ExpenseComment}
  {events : List OutboxEvent} {k : Nat × Int} {b : DepartmentBudget}

/-- A transition moves both ledgers by its deltas. -/
theorem Transition.ledger_eq (h : Transition cfg db row after approvals comments events db')
    (haccounts : Accounts cfg.budgetTimeZone db k row after) :
    ledger cfg.budgetTimeZone db' isCommitted k = ledger cfg.budgetTimeZone db isCommitted k +
        committedDelta cfg.budgetTimeZone db (some row.snapshot) (some (toExpenseBudgetSnapshot after)) k ∧
      ledger cfg.budgetTimeZone db' isReimbursed k = ledger cfg.budgetTimeZone db isReimbursed k +
        reimbursedDelta cfg.budgetTimeZone db (some row.snapshot)
          (some (toExpenseBudgetSnapshot after)) k := by
  have hfound : db.expenses.find? (row.save after).id = some row := h.found
  have hsum : ∀ statuses, ledger cfg.budgetTimeZone db' statuses k =
      ledger cfg.budgetTimeZone db statuses k - ledgerWeight cfg.budgetTimeZone db statuses k row +
        ledgerWeight cfg.budgetTimeZone db statuses k (row.save after) := fun statuses => by
    rw [ledger_of_users_eq h.users_eq, h.expenses_eq, Table.sum_replace _ hfound]
    rfl
  rw [hsum, hsum, haccounts.committed, haccounts.reimbursed]
  constructor <;> ring

/-- The rows of the budget table are shifted by the deltas of the transition. -/
theorem Transition.budgets_shifted (h : Transition cfg db row after approvals comments events db') :
    Shifted
      (committedDelta cfg.budgetTimeZone db (some row.snapshot) (some (toExpenseBudgetSnapshot after)))
      (reimbursedDelta cfg.budgetTimeZone db (some row.snapshot) (some (toExpenseBudgetSnapshot after)))
      db.budgets db'.budgets := by
  obtain ⟨budgets, rfl, hshift⟩ := h.effect
  exact hshift

/-- The counters of a live row that equals the ledger are moved by the deltas
    themselves: the clamp at zero changes nothing. -/
theorem ShiftedRow.unclamped {b' : DepartmentBudget} {before after : ExpenseBudgetSnapshot}
    (hrow : row ∈ db.expenses) (hbefore : before = row.snapshot) (hafter : 0 ≤ after.amount)
    (hmatch : MatchesLedger cfg.budgetTimeZone db b) (hlive : b.isLive = true)
    (h : ShiftedRow (committedDelta cfg.budgetTimeZone db (some before) (some after) b.key)
      (reimbursedDelta cfg.budgetTimeZone db (some before) (some after) b.key) b b') :
    b'.isLive = true ∧
      (b'.committedAmount : Int) = b.committedAmount +
        committedDelta cfg.budgetTimeZone db (some before) (some after) b.key ∧
      (b'.reimbursedAmount : Int) = b.reimbursedAmount +
        reimbursedDelta cfg.budgetTimeZone db (some before) (some after) b.key := by
  subst hbefore
  rw [ShiftedRow, if_pos hlive] at h
  obtain ⟨_, rfl⟩ := h
  have hcommitted : 0 ≤ (b.committedAmount : Int) +
      committedDelta cfg.budgetTimeZone db (some row.snapshot) (some after) b.key := by
    rw [hmatch.committed]
    exact ledger_add_committedDelta_nonneg hrow after hafter
  have hreimbursed : 0 ≤ reimbursedDelta cfg.budgetTimeZone db (some row.snapshot) (some after) b.key :=
    reimbursedDelta_nonneg _ _ hafter
  exact ⟨hlive, Int.toNat_of_nonneg hcommitted, Int.toNat_of_nonneg (by omega)⟩

/-- The row of a key after a transition: its counters are the old ones plus the
    deltas of the transition, without a clamp. -/
def Unclamped (cfg : Config) (db db' : Db) (b : DepartmentBudget) : Prop :=
  ∃ row after approvals comments events b',
    Transition cfg db row after approvals comments events db' ∧
    db'.budgets.find? b.key = some b' ∧ b'.isLive = true ∧
    (b'.committedAmount : Int) = b.committedAmount + committedDelta cfg.budgetTimeZone db
      (some row.snapshot) (some (toExpenseBudgetSnapshot after)) b.key ∧
    (b'.reimbursedAmount : Int) = b.reimbursedAmount + reimbursedDelta cfg.budgetTimeZone db
      (some row.snapshot) (some (toExpenseBudgetSnapshot after)) b.key ∧
    MatchesLedger cfg.budgetTimeZone db' b'

/-- A successful transition moves a live row that equals the ledger without
    clamping it, and the row equals the ledger again. -/
theorem unclamped_of_transition {op : Operation} (hop : op.isTransition = true)
    (h : op.perform cfg db = .ok ((), db')) (hfind : db.budgets.find? b.key = some b)
    (hlive : b.isLive = true) (hmatch : MatchesLedger cfg.budgetTimeZone db b) :
    Unclamped cfg db db' b := by
  obtain ⟨row, after, approvals, comments, events, htransition, hmoves⟩ := transition_of_ok hop h
  have hrel := htransition.budgets_shifted b.key
  rw [hfind] at hrel
  cases hfind' : db'.budgets.find? b.key with
  | none =>
    rw [hfind'] at hrel
    cases hrel
  | some b' =>
    rw [hfind'] at hrel
    obtain ⟨hshift⟩ := hrel
    have hkey : b'.key = b.key := hshift.key_eq
    obtain ⟨hlive', hc, hr⟩ := hshift.unclamped htransition.mem rfl after.amount.property.le hmatch hlive
    obtain ⟨hledgerC, hledgerR⟩ := htransition.ledger_eq (hmoves.accounts _ b.key)
    refine ⟨row, after, approvals, comments, events, b', htransition, hfind', hlive', hc, hr, ?_⟩
    constructor
    · rw [hc, hkey, hledgerC, hmatch.committed]
    · rw [hr, hkey, hledgerR, hmatch.reimbursed]

/-- No administration of the budget row of a key: a call of `update` is about
    another row. -/
def leavesBudget (k : Nat × Int) : Guard Db Operation := fun db op =>
  ∀ reference input, op = .updateBudget reference input →
    ∀ b, BudgetService.findOne db reference = .ok b → b.key ≠ k

/-- One step keeps a live row equal to the ledger, unless it edits the row. -/
theorem matchesLedger_step {op : Operation} (hguard : leavesBudget k db op) (hstep : Step cfg db op db')
    (hinv : ∃ b, db.budgets.find? k = some b ∧ b.isLive = true ∧
      MatchesLedger cfg.budgetTimeZone db b) :
    ∃ b, db'.budgets.find? k = some b ∧ b.isLive = true ∧ MatchesLedger cfg.budgetTimeZone db' b := by
  obtain ⟨b, hfind, hlive, hmatch⟩ := hinv
  obtain rfl : b.key = k := Table.key_of_find? hfind
  rcases hstep.cases with hok | rfl
  · cases hop : op.isTransition with
    | true =>
      obtain ⟨_, _, _, _, _, b', -, hfind', hlive', -, -, hmatch'⟩ :=
        unclamped_of_transition hop hok hfind hlive hmatch
      exact ⟨b', hfind', hlive', hmatch'⟩
    | false =>
      cases hadmin : op.isBudgetAdmin with
      | false =>
        obtain ⟨hbudgets, hledger⟩ := ledger_of_other hop hadmin hok
        exact ⟨b, by rw [hbudgets, hfind], hlive,
          by rw [hledger _ rfl]; exact hmatch.committed,
          by rw [hledger _ rfl]; exact hmatch.reimbursed⟩
      | true =>
        -- the expenses stay, and the row is another one than the edited or created one
        suffices hfind' : db'.budgets.find? b.key = some b ∧ db'.expenses = db.expenses ∧
            db'.users = db.users by
          obtain ⟨hfind', hexpenses, husers⟩ := hfind'
          refine ⟨b, hfind', hlive, ?_, ?_⟩
          · rw [ledger_of_users_eq husers, hexpenses]
            exact hmatch.committed
          · rw [ledger_of_users_eq husers, hexpenses]
            exact hmatch.reimbursed
        cases op with
        | createBudget now reference input =>
          rw [Operation.perform] at hok
          obtain ⟨_, budget, budgets, -, hins, rfl, -⟩ := BudgetService.create_ok hok
          have hne : b.key ≠ budget.key :=
            (Table.insert?_eq_some.1 hins).1 b (Table.mem_of_find? hfind)
          exact ⟨(Table.find?_insert_ne hins hne).trans hfind, rfl, rfl⟩
        | updateBudget reference input =>
          rw [Operation.perform] at hok
          obtain ⟨budget, -, updated, hone, rfl, -, hkey, -⟩ := BudgetService.update_ok hok
          have hne : b.key ≠ updated.key := fun heq =>
            hguard reference input rfl budget hone (hkey.symm.trans heq.symm)
          exact ⟨(Table.find?_replace_ne hne).trans hfind, rfl, rfl⟩
        | _ => cases hadmin
  · exact ⟨b, hfind, hlive, hmatch⟩

/-- In every run without an edit of the budget row of a key, a live row that
    equals the ledger at the start is live and equals the ledger in every state,
    and no transition from there clamps its counters. -/
theorem counters_equal_ledger {db₀ : Db} {b₀ : DepartmentBudget}
    (hrun : Reaches (Guarded (leavesBudget k) (Step cfg)) db₀ db)
    (hfind : db₀.budgets.find? k = some b₀) (hlive : b₀.isLive = true)
    (hmatch : MatchesLedger cfg.budgetTimeZone db₀ b₀) :
    ∃ b, db.budgets.find? k = some b ∧ b.isLive = true ∧ MatchesLedger cfg.budgetTimeZone db b ∧
      ∀ (op : Operation) db', op.isTransition = true → op.perform cfg db = .ok ((), db') →
        Unclamped cfg db db' b := by
  obtain ⟨b, hfind', hlive', hmatch'⟩ := hrun.invariant
    (P := fun db => ∃ b, db.budgets.find? k = some b ∧ b.isLive = true ∧
      MatchesLedger cfg.budgetTimeZone db b)
    (fun _ _ _ hinv ⟨hguard, hstep⟩ => matchesLedger_step hguard hstep hinv) ⟨b₀, hfind, hlive, hmatch⟩
  refine ⟨b, hfind', hlive', hmatch', fun op db' hop hok => ?_⟩
  obtain rfl : b.key = k := Table.key_of_find? hfind'
  exact unclamped_of_transition hop hok hfind' hlive' hmatch'

end Counters

/-- The budget of the department, after an expense was approved and reimbursed. -/
theorem counters_equal_ledger_sample :
    let db := runAll Sample.config Sample.lifecycle Sample.dbWithBudget
    ∃ b, db.budgets.find? (1, 2025) = some b ∧ b.isLive = true ∧
      MatchesLedger Sample.config.budgetTimeZone db b ∧
      ∀ (op : Operation) db', op.isTransition = true → op.perform Sample.config db = .ok ((), db') →
        Unclamped Sample.config db db' b :=
  counters_equal_ledger (reaches_runAll_guarded Sample.config (by
      simp only [Sample.lifecycle, List.forall_mem_cons, List.not_mem_nil, false_implies, implies_true,
        and_true]
      refine ⟨?_, ?_, ?_, ?_, ?_⟩ <;> exact fun _ _ _ h => nomatch h) Sample.dbWithBudget)
    (by decide : Sample.dbWithBudget.budgets.find? (1, 2025) = some Sample.budget) (by decide)
    ⟨by decide, by decide⟩

example : ((runAll Sample.config Sample.lifecycle Sample.dbWithBudget).budgets.find? (1, 2025)).map
    (fun b => (b.committedAmount, b.reimbursedAmount)) = some (5000, 5000) := by decide +kernel

end Expentra
