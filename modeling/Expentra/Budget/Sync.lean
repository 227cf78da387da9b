-- SUMMARY: How a transition of an expense moves the counters of the department budgets.
import Expentra.Budget.Period
import Expentra.Database.Store

/-!
# Budget synchronisation

Every transition of an expense hands the snapshots before and after it to
`syncCommittedAmountForExpenseTransition`, which turns them into deltas of the
counters of the live budget rows. `sync_ok` says what the deltas are: the weight
of the snapshot after, less the weight of the snapshot before.
-/

namespace Expentra

open Library

structure ExpenseBudgetSnapshot where
  userId : Nat
  departmentId : Property Nat
  submittedAt : Property Instant
  status : ExpenseStatus
  amount : Int
deriving DecidableEq, Repr

def toExpenseBudgetSnapshot (expense : ExpenseEntity) : ExpenseBudgetSnapshot where
  userId := expense.userId
  departmentId := expense.departmentId
  submittedAt := expense.submittedAt
  status := expense.status
  amount := expense.amount.val

/-- The snapshot of a stored expense. -/
def Expense.snapshot (row : Expense) : ExpenseBudgetSnapshot :=
  toExpenseBudgetSnapshot (row.toEntity none none)

/-- `BUDGET_COMMITTED_STATUSES.includes` -/
def countsTowardCommittedBudget : ExpenseStatus → Bool
  | .SUBMITTED | .UNDER_REVIEW | .APPROVED => true
  | _ => false

/-- Approved expense marked as reimbursed: tracked separately from committed. -/
def isReimbursementTransition (before after : Option ExpenseBudgetSnapshot) : Bool :=
  before.map (·.status) = some .APPROVED && after.map (·.status) = some .REIMBURSED

/-- True when a change can alter department budget committed totals. -/
def expenseBudgetAttributionChanged (before after : Option ExpenseBudgetSnapshot) : Bool :=
  match before, after with
  | some before, some after =>
    let beforeCommitted := countsTowardCommittedBudget before.status
    let afterCommitted := countsTowardCommittedBudget after.status
    if !beforeCommitted && !afterCommitted then false
    else if beforeCommitted ≠ afterCommitted then true
    else match before.submittedAt.toOption, after.submittedAt.toOption with
      | some beforeAt, some afterAt =>
        before.amount ≠ after.amount || before.departmentId ≠ after.departmentId ||
          before.userId ≠ after.userId || beforeAt ≠ afterAt
      | _, _ => true
  | none, none => false
  | _, _ => true

/-- The department an expense is charged to: its own, else its owner's. -/
def Db.resolveDepartmentForSubmit (db : Db) (userId : Nat) (departmentId : Option Nat) :
    Option Nat :=
  match departmentId with
  | some departmentId => some departmentId
  | none => (db.users.find? userId).bind (·.departmentId)

theorem Db.resolveDepartmentForSubmit_congr {db db₁ : Db} (husers : db₁.users = db.users) :
    db₁.resolveDepartmentForSubmit = db.resolveDepartmentForSubmit := by
  funext userId departmentId
  unfold Db.resolveDepartmentForSubmit
  rw [husers]

/-- Department and year of the budget a snapshot counts in. -/
def ExpenseBudgetSnapshot.budgetKey (snapshot : ExpenseBudgetSnapshot) (timeZone : TimeZone)
    (db : Db) : Option (Nat × Int) :=
  match snapshot.submittedAt.toOption,
      db.resolveDepartmentForSubmit snapshot.userId snapshot.departmentId.toOption with
  | some submittedAt, some departmentId =>
    some (departmentId, BudgetPeriod.resolveBudgetYear submittedAt timeZone)
  | _, _ => none

/-! ## Writing a counter -/

/-- `UPDATE … WHERE department_id = … AND year = … AND is_active = TRUE AND
    deleted_at IS NULL`, with new counters computed from the old row. -/
def updateLiveBudget (key : Nat × Int) (committed reimbursed : DepartmentBudget → Nat) : Tx Unit := do
  let row ← Transaction.read (fun db => (db.budgets.find? key).filter (·.isLive))
  match row with
  | none => pure ()
  | some budget =>
    let updated ← Transaction.getOrThrow
      (budget.withCounters (committed budget) (reimbursed budget)) (.queryFailed "22003")
    Transaction.write (fun db => { db with budgets := db.budgets.replace updated })

/-- `GREATEST(0, committed_amount + delta)` on the live row. -/
def applyCommittedAmountDelta (key : Nat × Int) (deltaAmount : Int) : Tx Unit :=
  if deltaAmount = 0 then pure ()
  else updateLiveBudget key (fun b => (b.committedAmount + deltaAmount).toNat) (·.reimbursedAmount)

/-- `GREATEST(0, reimbursed_amount + delta)` on the live row. -/
def applyReimbursedAmountDelta (key : Nat × Int) (deltaAmount : Int) : Tx Unit :=
  if deltaAmount = 0 then pure ()
  else updateLiveBudget key (·.committedAmount) (fun b => (b.reimbursedAmount + deltaAmount).toNat)

def syncReimbursedAmountForExpense (timeZone : TimeZone) (snapshot : ExpenseBudgetSnapshot) :
    Tx Unit := do
  let key ← Transaction.read (snapshot.budgetKey timeZone)
  match key with
  | none => pure ()
  | some key => applyReimbursedAmountDelta key snapshot.amount

/-- The map of deltas by department and year. -/
abbrev BudgetDeltas := Table (Prod.fst : (Nat × Int) × Int → Nat × Int)

/-- One call of `accumulate`. -/
def accumulate (timeZone : TimeZone) (db : Db) (deltas : BudgetDeltas)
    (snapshot : Option ExpenseBudgetSnapshot) (sign : Int) : BudgetDeltas :=
  match snapshot with
  | none => deltas
  | some snapshot =>
    if !countsTowardCommittedBudget snapshot.status then deltas
    else match snapshot.budgetKey timeZone db with
      | none => deltas
      | some key =>
        let deltaAmount := ((deltas.find? key).map Prod.snd).getD 0
        deltas.upsert (key, deltaAmount + sign * snapshot.amount)

/-- The last loop of the synchronisation. -/
def applyDeltas : List ((Nat × Int) × Int) → Tx Unit
  | [] => pure ()
  | (key, deltaAmount) :: rest => do
    applyCommittedAmountDelta key deltaAmount
    applyDeltas rest

def syncCommittedAmountForExpenseTransition (timeZone : TimeZone)
    (before after : Option ExpenseBudgetSnapshot) : Tx Unit :=
  if isReimbursementTransition before after then
    match after with
    | some snapshot => syncReimbursedAmountForExpense timeZone snapshot
    | none => pure ()
  else if !expenseBudgetAttributionChanged before after then pure ()
  else do
    let deltas ← Transaction.read (fun db =>
      accumulate timeZone db (accumulate timeZone db ∅ before (-1)) after 1)
    applyDeltas deltas.rows

/-! ## Shifted counters -/

/-- A row after its counters moved by two deltas; only live rows move. -/
def ShiftedRow (committedDelta reimbursedDelta : Int) (b b' : DepartmentBudget) : Prop :=
  if b.isLive then ∃ h, b' = { b with
    committedAmount := (b.committedAmount + committedDelta).toNat
    reimbursedAmount := (b.reimbursedAmount + reimbursedDelta).toNat
    representable := h }
  else b' = b

/-- The budget table after the counters of every key moved by that key's deltas. -/
def Shifted (committedDelta reimbursedDelta : Nat × Int → Int)
    (budgets budgets' : Table DepartmentBudget.key) : Prop :=
  ∀ k, Option.Rel (ShiftedRow (committedDelta k) (reimbursedDelta k))
    (budgets.find? k) (budgets'.find? k)

theorem shiftedRow_zero {b b' : DepartmentBudget} : ShiftedRow 0 0 b b' ↔ b' = b := by
  unfold ShiftedRow
  split
  · simp only [add_zero, Int.toNat_natCast]
    constructor
    · rintro ⟨_, h⟩
      exact h
    · intro h
      exact ⟨b.representable, h⟩
  · rfl

theorem ShiftedRow.key_eq {c r : Int} {b b' : DepartmentBudget} (h : ShiftedRow c r b b') :
    b'.key = b.key := by
  unfold ShiftedRow at h
  split at h
  · obtain ⟨_, rfl⟩ := h
    rfl
  · rw [h]

private theorem optionRel_refl (o : Option DepartmentBudget) : Option.Rel (ShiftedRow 0 0) o o := by
  cases o with
  | none => exact .none
  | some b => exact .some (shiftedRow_zero.2 rfl)

private theorem eq_of_optionRel_zero {o o' : Option DepartmentBudget}
    (h : Option.Rel (ShiftedRow 0 0) o o') : o' = o := by
  cases h with
  | none => rfl
  | some h => rw [shiftedRow_zero.1 h]

theorem Shifted.refl (budgets : Table DepartmentBudget.key) :
    Shifted (fun _ => 0) (fun _ => 0) budgets budgets :=
  fun k => optionRel_refl (budgets.find? k)

/-- Two shifts that never move one key twice add up. -/
theorem Shifted.trans {c₁ c₂ r₁ r₂ : Nat × Int → Int}
    {budgets budgets₁ budgets₂ : Table DepartmentBudget.key}
    (h₁ : Shifted c₁ r₁ budgets budgets₁) (h₂ : Shifted c₂ r₂ budgets₁ budgets₂)
    (hdisjoint : ∀ k, (c₁ k = 0 ∧ r₁ k = 0) ∨ (c₂ k = 0 ∧ r₂ k = 0)) :
    Shifted (fun k => c₁ k + c₂ k) (fun k => r₁ k + r₂ k) budgets budgets₂ := by
  intro k
  have hk₁ := h₁ k
  have hk₂ := h₂ k
  rcases hdisjoint k with ⟨hc, hr⟩ | ⟨hc, hr⟩
  · rw [hc, hr] at hk₁
    rw [eq_of_optionRel_zero hk₁] at hk₂
    simpa only [hc, hr, zero_add] using hk₂
  · rw [hc, hr] at hk₂
    rw [← eq_of_optionRel_zero hk₂] at hk₁
    simpa only [hc, hr, add_zero] using hk₁

/-- Moving one live row is a shift of its key alone. -/
theorem shifted_replace {budgets : Table DepartmentBudget.key} {key : Nat × Int}
    {b b' : DepartmentBudget} {c r : Int} (hb : budgets.find? key = some b)
    (hrow : ShiftedRow c r b b') :
    Shifted (fun k => if k = key then c else 0) (fun k => if k = key then r else 0)
      budgets (budgets.replace b') := by
  have hkey : b'.key = key := by rw [hrow.key_eq, Table.key_of_find? hb]
  subst hkey
  intro k
  by_cases hk : k = b'.key
  · subst hk
    simp only [if_true, hb, Table.find?_replace_self hb]
    exact .some hrow
  · simp only [hk, if_false, Table.find?_replace_ne hk]
    exact optionRel_refl _

/-- A key without a live row is shifted by anything. -/
theorem shifted_of_not_live {budgets : Table DepartmentBudget.key} {key : Nat × Int} {c r : Int}
    (h : (budgets.find? key).filter (·.isLive) = none) :
    Shifted (fun k => if k = key then c else 0) (fun k => if k = key then r else 0)
      budgets budgets := by
  intro k
  by_cases hk : k = key
  · subst hk
    cases hb : budgets.find? k with
    | none => exact .none
    | some b =>
      have hlive : b.isLive = false := by simpa [hb, Option.filter] using h
      exact .some (by simp [ShiftedRow, hlive])
  · simp only [hk, if_false]
    exact optionRel_refl _

section Specs

variable {timeZone : TimeZone} {key : Nat × Int} {delta : Int} {db db' : Db} {u : Unit}

theorem updateLiveBudget_eq_ok {committed reimbursed : DepartmentBudget → Nat} :
    updateLiveBudget key committed reimbursed db = .ok (u, db') ↔
      ((db.budgets.find? key).filter (·.isLive) = none ∧ db' = db) ∨
      ∃ b b', (db.budgets.find? key).filter (·.isLive) = some b ∧
        b.withCounters (committed b) (reimbursed b) = some b' ∧
        db' = { db with budgets := db.budgets.replace b' } := by
  simp only [updateLiveBudget, Transaction.read_bind]
  cases hrow : (db.budgets.find? key).filter (·.isLive) with
  | none => simp [eq_comm (a := db)]
  | some b => simp [Transaction.getOrThrow_bind_eq_ok, eq_comm (b := db')]

private theorem shiftedRow_of_withCounters {b b' : DepartmentBudget} {c r : Int}
    (hlive : b.isLive = true)
    (h : b.withCounters (b.committedAmount + c).toNat (b.reimbursedAmount + r).toNat = some b') :
    ShiftedRow c r b b' := by
  obtain ⟨hrep, rfl⟩ := DepartmentBudget.withCounters_eq_some.1 h
  unfold ShiftedRow
  rw [if_pos hlive]
  exact ⟨hrep, rfl⟩

private theorem updateLiveBudget_ok {committed reimbursed : DepartmentBudget → Nat} {c r : Int}
    (hc : ∀ b : DepartmentBudget, committed b = (b.committedAmount + c).toNat)
    (hr : ∀ b : DepartmentBudget, reimbursed b = (b.reimbursedAmount + r).toNat)
    (h : updateLiveBudget key committed reimbursed db = .ok (u, db')) :
    ∃ budgets, db' = { db with budgets := budgets } ∧
      Shifted (fun k => if k = key then c else 0) (fun k => if k = key then r else 0)
        db.budgets budgets := by
  rcases updateLiveBudget_eq_ok.1 h with ⟨hnone, rfl⟩ | ⟨b, b', hb, hb', rfl⟩
  · exact ⟨db'.budgets, rfl, shifted_of_not_live hnone⟩
  · obtain ⟨hfind, hlive⟩ := Option.filter_eq_some_iff.1 hb
    rw [hc, hr] at hb'
    exact ⟨_, rfl, shifted_replace hfind (shiftedRow_of_withCounters hlive hb')⟩

theorem applyCommittedAmountDelta_ok (h : applyCommittedAmountDelta key delta db = .ok (u, db')) :
    ∃ budgets, db' = { db with budgets := budgets } ∧
      Shifted (fun k => if k = key then delta else 0) (fun _ => 0) db.budgets budgets := by
  unfold applyCommittedAmountDelta at h
  split at h
  · rename_i hdelta
    obtain ⟨-, rfl⟩ := Transaction.pure_eq_ok.1 h
    exact ⟨db.budgets, rfl, by simpa [hdelta] using Shifted.refl db.budgets⟩
  · obtain ⟨budgets, rfl, hshift⟩ := updateLiveBudget_ok (c := delta) (r := 0)
      (fun _ => rfl) (fun _ => by simp) h
    exact ⟨budgets, rfl, by simpa using hshift⟩

theorem applyReimbursedAmountDelta_ok (h : applyReimbursedAmountDelta key delta db = .ok (u, db')) :
    ∃ budgets, db' = { db with budgets := budgets } ∧
      Shifted (fun _ => 0) (fun k => if k = key then delta else 0) db.budgets budgets := by
  unfold applyReimbursedAmountDelta at h
  split at h
  · rename_i hdelta
    obtain ⟨-, rfl⟩ := Transaction.pure_eq_ok.1 h
    exact ⟨db.budgets, rfl, by simpa [hdelta] using Shifted.refl db.budgets⟩
  · obtain ⟨budgets, rfl, hshift⟩ := updateLiveBudget_ok (c := 0) (r := delta)
      (fun _ => by simp) (fun _ => rfl) h
    exact ⟨budgets, rfl, by simpa using hshift⟩

/-- The delta a map of deltas holds for a key. -/
def deltaAt (deltas : List ((Nat × Int) × Int)) (k : Nat × Int) : Int :=
  (deltas.map (fun e => if e.1 = k then e.2 else 0)).sum

private theorem deltaAt_eq_zero {deltas : List ((Nat × Int) × Int)} {k : Nat × Int}
    (h : k ∉ deltas.map Prod.fst) : deltaAt deltas k = 0 := by
  refine List.sum_eq_zero (fun d hd => ?_)
  obtain ⟨e, he, rfl⟩ := List.mem_map.1 hd
  have hne : e.1 ≠ k := fun heq => h (List.mem_map.2 ⟨e, he, heq⟩)
  rw [if_neg hne]

theorem applyDeltas_ok {deltas : List ((Nat × Int) × Int)} (hnd : (deltas.map Prod.fst).Nodup)
    (h : applyDeltas deltas db = .ok (u, db')) :
    ∃ budgets, db' = { db with budgets := budgets } ∧
      Shifted (deltaAt deltas) (fun _ => 0) db.budgets budgets := by
  induction deltas generalizing db with
  | nil =>
    obtain ⟨-, rfl⟩ := Transaction.pure_eq_ok.1 h
    exact ⟨db.budgets, rfl, Shifted.refl _⟩
  | cons e rest ih =>
    rw [List.map_cons, List.nodup_cons] at hnd
    obtain ⟨_, db₁, hhead, hrest⟩ := Transaction.bind_eq_ok.1 h
    obtain ⟨budgets₁, rfl, hshift₁⟩ := applyCommittedAmountDelta_ok hhead
    obtain ⟨budgets₂, rfl, hshift₂⟩ := ih hnd.2 hrest
    refine ⟨budgets₂, rfl, ?_⟩
    -- the keys are distinct: the rest leaves the key of the head alone
    have htrans := hshift₁.trans hshift₂ (fun k => by
      by_cases hk : k = e.1
      · exact .inr ⟨deltaAt_eq_zero (hk ▸ hnd.1), rfl⟩
      · exact .inl ⟨if_neg hk, rfl⟩)
    have hsum : deltaAt (e :: rest) = fun k => (if k = e.1 then e.2 else 0) + deltaAt rest k := by
      funext k
      simp [deltaAt, eq_comm]
    rw [hsum]
    simpa only [add_zero] using htrans

/-! ## The deltas of a transition -/

/-- What a snapshot adds to the budget of a key. -/
def ExpenseBudgetSnapshot.weight (snapshot : ExpenseBudgetSnapshot) (timeZone : TimeZone) (db : Db)
    (k : Nat × Int) : Int :=
  if snapshot.budgetKey timeZone db = some k then snapshot.amount else 0

/-- What a snapshot adds to the committed amount of a key. -/
def committedWeight (timeZone : TimeZone) (db : Db) (snapshot : Option ExpenseBudgetSnapshot)
    (k : Nat × Int) : Int :=
  match snapshot with
  | none => 0
  | some snapshot =>
    if countsTowardCommittedBudget snapshot.status then snapshot.weight timeZone db k else 0

/-- What a transition adds to the committed amount of a key. -/
def committedDelta (timeZone : TimeZone) (db : Db) (before after : Option ExpenseBudgetSnapshot)
    (k : Nat × Int) : Int :=
  if isReimbursementTransition before after then 0
  else committedWeight timeZone db after k - committedWeight timeZone db before k

/-- What a transition adds to the reimbursed amount of a key. -/
def reimbursedDelta (timeZone : TimeZone) (db : Db) (before after : Option ExpenseBudgetSnapshot)
    (k : Nat × Int) : Int :=
  if isReimbursementTransition before after then
    (after.map (fun snapshot => snapshot.weight timeZone db k)).getD 0
  else 0

theorem deltaAt_accumulate {deltas : BudgetDeltas} {snapshot : Option ExpenseBudgetSnapshot}
    {sign : Int} (k : Nat × Int) :
    deltaAt (accumulate timeZone db deltas snapshot sign).rows k =
      deltaAt deltas.rows k + sign * committedWeight timeZone db snapshot k := by
  cases snapshot with
  | none => simp [accumulate, committedWeight]
  | some snapshot =>
    cases hstatus : countsTowardCommittedBudget snapshot.status with
    | false => simp [accumulate, committedWeight, hstatus]
    | true =>
      cases hkey : snapshot.budgetKey timeZone db with
      | none =>
        simp [accumulate, committedWeight, ExpenseBudgetSnapshot.weight, hstatus, hkey]
      | some key' =>
        have hsum := Table.sum_upsert (t := deltas)
          (r := (key', ((deltas.find? key').map Prod.snd).getD 0 + sign * snapshot.amount))
          (fun e => if e.1 = k then e.2 else 0)
        have haccumulate : accumulate timeZone db deltas (some snapshot) sign = deltas.upsert
            (key', ((deltas.find? key').map Prod.snd).getD 0 + sign * snapshot.amount) := by
          simp [accumulate, hstatus, hkey]
        rw [haccumulate]
        simp only [committedWeight, hstatus, if_true, ExpenseBudgetSnapshot.weight, hkey,
          Option.some.injEq]
        refine hsum.trans ?_
        change deltaAt deltas.rows k - _ + _ = _
        cases hfind : deltas.find? key' with
        | none =>
          by_cases hk : key' = k <;> simp [hk]
        | some e =>
          have he : e.1 = key' := Table.key_of_find? hfind
          by_cases hk : key' = k
          · simp [he, hk]
            ring
          · simp [he, hk]

/-- When the attribution did not change, neither did the weight. -/
theorem committedWeight_eq_of_not_changed {before after : Option ExpenseBudgetSnapshot}
    (h : expenseBudgetAttributionChanged before after = false) (k : Nat × Int) :
    committedWeight timeZone db before k = committedWeight timeZone db after k := by
  cases before with
  | none =>
    cases after with
    | none => rfl
    | some after => simp [expenseBudgetAttributionChanged] at h
  | some before =>
    cases after with
    | none => simp [expenseBudgetAttributionChanged] at h
    | some after =>
      simp only [expenseBudgetAttributionChanged] at h
      by_cases hnone : countsTowardCommittedBudget before.status = false ∧
          countsTowardCommittedBudget after.status = false
      · simp [committedWeight, hnone]
      · cases hb : before.submittedAt.toOption with
        | none =>
          cases hc : countsTowardCommittedBudget before.status <;>
            cases hc' : countsTowardCommittedBudget after.status <;> simp_all
        | some beforeAt =>
          cases ha : after.submittedAt.toOption with
          | none =>
            cases hc : countsTowardCommittedBudget before.status <;>
              cases hc' : countsTowardCommittedBudget after.status <;> simp_all
          | some afterAt =>
            have hkey : before.budgetKey timeZone db = after.budgetKey timeZone db ∧
                before.amount = after.amount ∧
                countsTowardCommittedBudget before.status =
                  countsTowardCommittedBudget after.status := by
              cases hc : countsTowardCommittedBudget before.status <;>
                cases hc' : countsTowardCommittedBudget after.status <;>
                  simp_all [ExpenseBudgetSnapshot.budgetKey]
            simp [committedWeight, ExpenseBudgetSnapshot.weight, hkey]

/-- A synchronised transition shifts every budget by the weight of the snapshot
    after, less the weight of the snapshot before, and touches nothing else. -/
theorem syncCommittedAmountForExpenseTransition_ok {before after : Option ExpenseBudgetSnapshot}
    (h : syncCommittedAmountForExpenseTransition timeZone before after db = .ok (u, db')) :
    ∃ budgets, db' = { db with budgets := budgets } ∧
      Shifted (committedDelta timeZone db before after) (reimbursedDelta timeZone db before after)
        db.budgets budgets := by
  unfold syncCommittedAmountForExpenseTransition at h
  split at h
  · rename_i hreimb
    have hc : committedDelta timeZone db before after = fun _ => 0 := by
      funext k
      simp [committedDelta, hreimb]
    cases after with
    | none => simp [isReimbursementTransition] at hreimb
    | some snapshot =>
      simp only [syncReimbursedAmountForExpense, Transaction.read_bind] at h
      cases hkey : snapshot.budgetKey timeZone db with
      | none =>
        rw [hkey] at h
        obtain ⟨-, rfl⟩ := Transaction.pure_eq_ok.1 h
        have hr : reimbursedDelta timeZone db before (some snapshot) = fun _ => 0 := by
          funext k
          simp [reimbursedDelta, hreimb, ExpenseBudgetSnapshot.weight, hkey]
        exact ⟨db.budgets, rfl, by simpa only [hc, hr] using Shifted.refl _⟩
      | some key' =>
        rw [hkey] at h
        obtain ⟨budgets, rfl, hshift⟩ := applyReimbursedAmountDelta_ok h
        have hr : reimbursedDelta timeZone db before (some snapshot) =
            fun k => if k = key' then snapshot.amount else 0 := by
          funext k
          simp [reimbursedDelta, hreimb, ExpenseBudgetSnapshot.weight, hkey, eq_comm]
        exact ⟨budgets, rfl, by simpa only [hc, hr] using hshift⟩
  · rename_i hreimb
    have hr : reimbursedDelta timeZone db before after = fun _ => 0 := by
      funext k
      simp [reimbursedDelta, hreimb]
    split at h
    · rename_i hchanged
      obtain ⟨-, rfl⟩ := Transaction.pure_eq_ok.1 h
      have hc : committedDelta timeZone db before after = fun _ => 0 := by
        funext k
        rw [Bool.not_eq_true'] at hchanged
        simp [committedDelta, hreimb, committedWeight_eq_of_not_changed hchanged k]
      exact ⟨db.budgets, rfl, by simpa only [hc, hr] using Shifted.refl _⟩
    · rw [Transaction.read_bind] at h
      obtain ⟨budgets, rfl, hshift⟩ := applyDeltas_ok (Table.nodup _) h
      have hc : committedDelta timeZone db before after = deltaAt
          (accumulate timeZone db (accumulate timeZone db ∅ before (-1)) after 1).rows := by
        funext k
        rw [deltaAt_accumulate, deltaAt_accumulate]
        simp [committedDelta, hreimb, deltaAt]
        ring
      exact ⟨budgets, rfl, by simpa only [hc, hr] using hshift⟩

/-! ## What a synchronisation reads

It reads the owners and the budgets, and nothing else of the database. -/

theorem ExpenseBudgetSnapshot.budgetKey_congr {db₁ : Db} (husers : db₁.users = db.users)
    (snapshot : ExpenseBudgetSnapshot) :
    snapshot.budgetKey timeZone db₁ = snapshot.budgetKey timeZone db := by
  unfold ExpenseBudgetSnapshot.budgetKey
  rw [Db.resolveDepartmentForSubmit_congr husers]

theorem updateLiveBudget_congr {db₁ : Db} {committed reimbursed : DepartmentBudget → Nat}
    (hbudgets : db₁.budgets = db.budgets)
    (h : updateLiveBudget key committed reimbursed db = .ok (u, db')) :
    updateLiveBudget key committed reimbursed db₁ = .ok (u, { db₁ with budgets := db'.budgets }) := by
  rw [updateLiveBudget_eq_ok] at h ⊢
  rw [hbudgets]
  rcases h with ⟨hnone, rfl⟩ | ⟨b, b', hb, hb', rfl⟩
  · exact .inl ⟨hnone, by rw [← hbudgets]⟩
  · exact .inr ⟨b, b', hb, hb', rfl⟩

theorem applyCommittedAmountDelta_congr {db₁ : Db} (hbudgets : db₁.budgets = db.budgets)
    (h : applyCommittedAmountDelta key delta db = .ok (u, db')) :
    applyCommittedAmountDelta key delta db₁ = .ok (u, { db₁ with budgets := db'.budgets }) := by
  unfold applyCommittedAmountDelta at h ⊢
  split
  · rename_i hzero
    rw [if_pos hzero, Transaction.pure_eq_ok] at h
    rw [Transaction.pure_eq_ok, ← h.2, ← hbudgets]
    exact ⟨rfl, rfl⟩
  · rename_i hnonzero
    rw [if_neg hnonzero] at h
    exact updateLiveBudget_congr hbudgets h

theorem applyReimbursedAmountDelta_congr {db₁ : Db} (hbudgets : db₁.budgets = db.budgets)
    (h : applyReimbursedAmountDelta key delta db = .ok (u, db')) :
    applyReimbursedAmountDelta key delta db₁ = .ok (u, { db₁ with budgets := db'.budgets }) := by
  unfold applyReimbursedAmountDelta at h ⊢
  split
  · rename_i hzero
    rw [if_pos hzero, Transaction.pure_eq_ok] at h
    rw [Transaction.pure_eq_ok, ← h.2, ← hbudgets]
    exact ⟨rfl, rfl⟩
  · rename_i hnonzero
    rw [if_neg hnonzero] at h
    exact updateLiveBudget_congr hbudgets h

theorem applyDeltas_congr {db₁ : Db} {deltas : List ((Nat × Int) × Int)}
    (hbudgets : db₁.budgets = db.budgets) (h : applyDeltas deltas db = .ok (u, db')) :
    applyDeltas deltas db₁ = .ok (u, { db₁ with budgets := db'.budgets }) := by
  induction deltas generalizing db db₁ with
  | nil =>
    obtain ⟨-, rfl⟩ := Transaction.pure_eq_ok.1 h
    exact Transaction.pure_eq_ok.2 ⟨rfl, by rw [← hbudgets]⟩
  | cons e rest ih =>
    obtain ⟨_, db₂, hhead, hrest⟩ := Transaction.bind_eq_ok.1 h
    have hbudgets' : ({ db₁ with budgets := db₂.budgets } : Db).budgets = db₂.budgets := rfl
    exact Transaction.bind_eq_ok.2
      ⟨(), _, applyCommittedAmountDelta_congr hbudgets hhead, ih hbudgets' hrest⟩

theorem accumulate_congr {db₁ : Db} (husers : db₁.users = db.users) (deltas : BudgetDeltas)
    (snapshot : Option ExpenseBudgetSnapshot) (sign : Int) :
    accumulate timeZone db₁ deltas snapshot sign = accumulate timeZone db deltas snapshot sign := by
  cases snapshot with
  | none => rfl
  | some snapshot => simp only [accumulate, snapshot.budgetKey_congr husers]

theorem syncCommittedAmountForExpenseTransition_congr {db₁ : Db}
    {before after : Option ExpenseBudgetSnapshot} (husers : db₁.users = db.users)
    (hbudgets : db₁.budgets = db.budgets)
    (h : syncCommittedAmountForExpenseTransition timeZone before after db = .ok (u, db')) :
    syncCommittedAmountForExpenseTransition timeZone before after db₁ =
      .ok (u, { db₁ with budgets := db'.budgets }) := by
  have hpure : ∀ {db' : Db}, (pure () : Tx Unit) db = .ok (u, db') →
      (pure () : Tx Unit) db₁ = .ok (u, { db₁ with budgets := db'.budgets }) := by
    intro db' h
    obtain ⟨-, rfl⟩ := Transaction.pure_eq_ok.1 h
    exact Transaction.pure_eq_ok.2 ⟨rfl, by rw [← hbudgets]⟩
  unfold syncCommittedAmountForExpenseTransition at h ⊢
  split
  · rename_i hreimb
    rw [if_pos hreimb] at h
    cases after with
    | none => exact hpure h
    | some snapshot =>
      simp only [syncReimbursedAmountForExpense, Transaction.read_bind] at h ⊢
      rw [snapshot.budgetKey_congr husers]
      cases hkey : snapshot.budgetKey timeZone db with
      | none =>
        rw [hkey] at h
        exact hpure h
      | some key =>
        rw [hkey] at h
        exact applyReimbursedAmountDelta_congr hbudgets h
  · rename_i hreimb
    rw [if_neg hreimb] at h
    split
    · rename_i hchanged
      rw [if_pos hchanged] at h
      exact hpure h
    · rename_i hchanged
      rw [if_neg hchanged, Transaction.read_bind] at h
      rw [Transaction.read_bind, accumulate_congr husers, accumulate_congr husers]
      exact applyDeltas_congr hbudgets h

/-! ## Releasing an amount

The columns can hold whatever a release leaves, so that a synchronisation that
only takes amounts away never fails. -/

theorem updateLiveBudget_of_le {committed : DepartmentBudget → Nat}
    (hle : ∀ b : DepartmentBudget, committed b ≤ b.committedAmount) :
    ∃ db', updateLiveBudget key committed (·.reimbursedAmount) db = .ok (u, db') := by
  cases hrow : (db.budgets.find? key).filter (·.isLive) with
  | none => exact ⟨db, updateLiveBudget_eq_ok.2 (.inl ⟨hrow, rfl⟩)⟩
  | some b =>
    have hrep := budgetRepresentable_of_le b.representable (hle b)
    exact ⟨_, updateLiveBudget_eq_ok.2 (.inr ⟨b, _, hrow,
      DepartmentBudget.withCounters_eq_some.2 ⟨hrep, rfl⟩, rfl⟩)⟩

theorem applyDeltas_of_nonpos {deltas : List ((Nat × Int) × Int)} (hnonpos : ∀ e ∈ deltas, e.2 ≤ 0) :
    ∃ db', applyDeltas deltas db = .ok (u, db') := by
  induction deltas generalizing db with
  | nil => exact ⟨db, rfl⟩
  | cons e rest ih =>
    obtain ⟨hhead, hrest⟩ := List.forall_mem_cons.1 hnonpos
    have happly : ∃ db₁, applyCommittedAmountDelta e.1 e.2 db = .ok ((), db₁) := by
      unfold applyCommittedAmountDelta
      split
      · exact ⟨db, rfl⟩
      · exact updateLiveBudget_of_le (fun b => by omega)
    obtain ⟨db₁, happly⟩ := happly
    obtain ⟨db₂, hafter⟩ := @ih db₁ hrest
    exact ⟨db₂, Transaction.bind_eq_ok.2 ⟨(), db₁, happly, hafter⟩⟩

/-- The synchronisation of a rejection goes through. -/
theorem syncCommittedAmountForExpenseTransition_of_rejected {before after : ExpenseBudgetSnapshot}
    (hamount : 0 ≤ before.amount) (hrejected : after.status = .REJECTED) :
    ∃ db', syncCommittedAmountForExpenseTransition timeZone (some before) (some after) db =
      .ok (u, db') := by
  have hreimb : isReimbursementTransition (some before) (some after) = false := by
    simp [isReimbursementTransition, hrejected]
  have hcounts : countsTowardCommittedBudget after.status = false := by
    rw [hrejected]
    rfl
  simp only [syncCommittedAmountForExpenseTransition, hreimb, Bool.false_eq_true, if_false]
  split
  · exact ⟨db, rfl⟩
  · rw [Transaction.read_bind]
    refine applyDeltas_of_nonpos ?_
    -- the snapshot after does not count: the map holds the amount of the one before, at most
    simp only [accumulate, hcounts, Bool.not_false, if_true]
    split
    · simp
    · split
      · simp
      · intro e he
        have hrows : e = (_, 0 + -1 * before.amount) := List.mem_singleton.1 he
        simp only [hrows]
        omega

/-- A transition between counting statuses that keeps user, department, year and
    amount changes nothing. -/
theorem syncCommittedAmountForExpenseTransition_of_counting {before : ExpenseBudgetSnapshot}
    {status : ExpenseStatus} (hbefore : countsTowardCommittedBudget before.status = true)
    (hafter : countsTowardCommittedBudget status = true) :
    syncCommittedAmountForExpenseTransition timeZone (some before) (some { before with status := status })
      db = .ok (u, db) := by
  have hreimb : isReimbursementTransition (some before) (some { before with status := status }) = false := by
    have hne : status ≠ .REIMBURSED := by
      rintro rfl
      cases hafter
    simp [isReimbursementTransition, hne]
  simp only [syncCommittedAmountForExpenseTransition, hreimb, Bool.false_eq_true, if_false]
  cases hsubmitted : before.submittedAt.toOption with
  | some submittedAt =>
    have hsame : expenseBudgetAttributionChanged (some before)
        (some { before with status := status }) = false := by
      simp [expenseBudgetAttributionChanged, hbefore, hafter, hsubmitted]
    rw [hsame]
    rfl
  | none =>
    -- without a submission there is no budget to charge
    have hkey : ∀ status, ExpenseBudgetSnapshot.budgetKey { before with status := status } timeZone db =
        none := fun status => by simp [ExpenseBudgetSnapshot.budgetKey, hsubmitted]
    split
    · rfl
    · rw [Transaction.read_bind]
      simp only [accumulate, hbefore, hafter, hkey, Bool.not_true, Bool.false_eq_true, if_false]
      rfl

/-- A snapshot that does not count enters the deltas with its status only. -/
theorem deltas_congr {before before' after : ExpenseBudgetSnapshot}
    (hstatus : before.status = before'.status)
    (hcounts : countsTowardCommittedBudget before.status = false) :
    committedDelta timeZone db (some before) (some after) =
        committedDelta timeZone db (some before') (some after) ∧
      reimbursedDelta timeZone db (some before) (some after) =
        reimbursedDelta timeZone db (some before') (some after) := by
  have hcounts' : countsTowardCommittedBudget before'.status = false := hstatus ▸ hcounts
  constructor
  · funext k
    simp [committedDelta, committedWeight, isReimbursementTransition, hcounts', hstatus]
  · funext k
    simp [reimbursedDelta, isReimbursementTransition, hstatus]

end Specs

end Expentra
