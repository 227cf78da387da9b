-- SUMMARY: Drafts: creation, edits, deletion, and the reopening of rejected expenses.
import Expentra.Expense.Support

/-!
# The draft service

What an owner does with an expense before it is submitted and after it was
rejected.
-/

namespace Expentra.ExpenseDraft

open Library ExpenseMutationSupport

structure CreateExpenseInput where
  title : String
  description : Option String
  amount : Int
  category : ExpenseCategory
  incurredAt : Option Instant
deriving DecidableEq, Repr

/-- Every field may be left out. A date may also be sent empty, which is `null`
    here. -/
structure UpdateExpenseInput where
  title : Option String
  description : Option String
  amount : Option Int
  category : Option ExpenseCategory
  incurredAt : Property Instant
deriving DecidableEq, Repr

/-- The row an insertion stores for a new draft. -/
def newDraft (id : Nat) (reference : String) (userId departmentId : Nat) (title : String)
    (description : Option String) (amount : Amount) (category : ExpenseCategory)
    (incurredAt : Option Instant) : Expense where
  id := id
  reference := reference
  userId := userId
  departmentId := some departmentId
  title := title
  description := description
  amount := amount
  category := category
  status := .DRAFT
  submittedAt := none
  approvedAt := none
  rejectedAt := none
  reimbursedAt := none
  incurredAt := incurredAt
  reimbursementReference := none

/-- Insert an expense under the next serial id. -/
def insertExpense (row : Nat → Expense) : Tx Unit := do
  let expenses ← Transaction.read (fun db => db.expenses.insert? (row db.nextExpenseId))
  let expenses ← Transaction.getOrThrow expenses (.queryFailed "23505")
  Transaction.write (fun db =>
    { db with expenses := expenses, nextExpenseId := db.nextExpenseId + 1 })

/-- `create`; `reference` is the one `assignReference` draws. -/
def create (cfg : Config) (now : Instant) (reference : String) (userId : Nat)
    (input : CreateExpenseInput) : Tx Unit := do
  let user ← Transaction.read (fun db => db.users.find? userId)
  let user ← Transaction.getOrThrow user (.notFound "User not found")
  let departmentId ← Transaction.getOrThrow user.departmentId
    (.badRequest "You must be assigned to a department before creating expenses")
  let title := Js.trim input.title
  Transaction.lift (assertNonEmptyTitle title)
  let amount ← Transaction.lift (assertPositiveAmount input.amount)
  Transaction.lift (assertIncurredAt cfg now input.incurredAt)
  let taken ← Transaction.read (fun db =>
    db.expenses.rows.any (fun e => e.reference = reference))
  Transaction.require (taken = false) (.queryFailed "23505")
  insertExpense (fun id => newDraft id reference userId departmentId title
    (Js.trimmedOrUndefined input.description) amount input.category input.incurredAt)

def hasUpdateFields (input : UpdateExpenseInput) : Bool :=
  input.title.isSome || input.description.isSome || input.amount.isSome || input.category.isSome ||
    input.incurredAt ≠ .undefined

def updateTitle (title : Option String) (expense : ExpenseEntity) :
    Except HttpException ExpenseEntity :=
  match title with
  | none => .ok expense
  | some title => do
    assertNonEmptyTitle (Js.trim title)
    pure { expense with title := Js.trim title }

/-- A blank description assigns `undefined`. -/
def updateDescription (description : Option String) (expense : ExpenseEntity) : ExpenseEntity :=
  match description with
  | none => expense
  | some description =>
    { expense with description := .ofOptional (Js.trimmedOrUndefined (some description)) }

def updateAmount (amount : Option Int) (expense : ExpenseEntity) :
    Except HttpException ExpenseEntity :=
  match amount with
  | none => .ok expense
  | some amount => do
    let amount ← assertPositiveAmount amount
    pure { expense with amount := amount }

/-- An empty date assigns `undefined`. -/
def updateIncurredAt (cfg : Config) (now : Instant) (incurredAt : Property Instant)
    (expense : ExpenseEntity) : Except HttpException ExpenseEntity :=
  match incurredAt with
  | .undefined => .ok expense
  | .null => .ok { expense with incurredAt := .undefined }
  | .value incurredAt => do
    assertIncurredAt cfg now (some incurredAt)
    pure { expense with incurredAt := .value incurredAt }

/-- The assignments `update` makes to the loaded expense. -/
def applyUpdate (cfg : Config) (now : Instant) (input : UpdateExpenseInput)
    (expense : ExpenseEntity) : Except HttpException ExpenseEntity := do
  let expense ← updateTitle input.title expense
  let expense := updateDescription input.description expense
  let expense ← updateAmount input.amount expense
  let expense := { expense with category := input.category.getD expense.category }
  updateIncurredAt cfg now input.incurredAt expense

def update (cfg : Config) (now : Instant) (authUser : AuthUser) (reference : String)
    (input : UpdateExpenseInput) : Tx Unit := do
  Transaction.require (hasUpdateFields input = true)
    (.badRequest "At least one field must be provided to update an expense")
  let _ ← Transaction.query (findReadableExpense · authUser reference)
  let expense ← Transaction.query (loadExpenseForMutation · reference)
  Transaction.lift (assertCanMutateExpenseDraft authUser expense .modify false)
  Transaction.lift (assertDraftStatus expense.status .modify)
  let updated ← Transaction.lift (applyUpdate cfg now input expense)
  persistTransition cfg.budgetTimeZone (toExpenseBudgetSnapshot expense) updated

/-- Delete an expense; its decisions, comments and receipts are deleted with it. -/
def deleteExpense (id : Nat) : Tx Unit :=
  Transaction.write (fun db => { db with
    expenses := db.expenses.keep (fun e => e.id ≠ id)
    approvals := db.approvals.keep (fun a => a.expenseId ≠ id)
    comments := db.comments.filter (fun c => c.expenseId ≠ id)
    attachments := db.attachments.filter (fun a => a.expenseId ≠ id) })

def remove (authUser : AuthUser) (reference : String) : Tx Unit := do
  let _ ← Transaction.query (findReadableExpense · authUser reference)
  let expense ← Transaction.query (loadExpenseForMutation · reference)
  Transaction.lift (assertCanMutateExpenseDraft authUser expense .delete false)
  Transaction.lift (assertDraftStatus expense.status .delete)
  deleteExpense expense.id

/-- The assignments of `reopenRejected`: the dates are set to `undefined`. -/
def reopened (locked : ExpenseEntity) : ExpenseEntity :=
  { locked with
    status := .DRAFT
    submittedAt := .undefined
    rejectedAt := .undefined
    approvedAt := .undefined
    reimbursedAt := .undefined }

/-- The event is published without an idempotency key. -/
def reopenRejected (authUser : AuthUser) (reference : String) : Tx Unit := do
  let expense ← Transaction.query (findReadableExpense · authUser reference)
  Transaction.require (expense.userId = authUser.id)
    (.forbidden "You can only reopen your own expenses")
  Transaction.require (expense.status = .REJECTED)
    (.badRequest "Only rejected expenses can be reopened")
  let locked ← Transaction.query (loadExpenseForMutation · reference)
  Transaction.require (locked.status = .REJECTED)
    (.badRequest "Only rejected expenses can be reopened")
  Transaction.write (fun db =>
    { db with approvals := db.approvals.keep (fun a => a.expenseId ≠ locked.id) })
  saveExpense (reopened locked)
  publish .expenseReopened none

/-! ## Specs -/

section Specs

variable {cfg : Config} {now : Instant} {db db' : Db} {authUser : AuthUser} {reference : String}
  {u : Unit}

/-- A created expense is a new draft without dates, under a fresh id. -/
theorem create_ok {userId : Nat} {input : CreateExpenseInput}
    (h : create cfg now reference userId input db = .ok (u, db')) :
    ∃ row expenses, db.expenses.insert? row = some expenses ∧ row.id = db.nextExpenseId ∧
      (∃ departmentId title description amount, row = newDraft db.nextExpenseId reference userId
        departmentId title description amount input.category input.incurredAt ∧
        (∃ user, db.users.find? userId = some user ∧ user.departmentId = some departmentId) ∧
        Js.trim input.title = title ∧ assertPositiveAmount input.amount = .ok amount) ∧
      db' = { db with expenses := expenses, nextExpenseId := db.nextExpenseId + 1 } := by
  simp only [create, insertExpense, Transaction.read_bind, Transaction.getOrThrow_bind_eq_ok,
    Transaction.lift_bind_eq_ok, Transaction.require_bind_eq_ok, Transaction.write_eq_ok] at h
  obtain ⟨user, huser, departmentId, hdept, _, -, amount, hamount, _, -, -, expenses, hins, rfl⟩ := h
  exact ⟨_, expenses, hins, rfl,
    ⟨departmentId, _, _, amount, rfl, ⟨user, huser, hdept⟩, rfl, hamount⟩, rfl⟩

/-- A new expense takes a reference that no expense has. -/
theorem create_unused {userId : Nat} {input : CreateExpenseInput}
    (h : create cfg now reference userId input db = .ok (u, db')) :
    ∀ e ∈ db.expenses, e.reference ≠ reference := by
  simp only [create, Transaction.read_bind, Transaction.getOrThrow_bind_eq_ok,
    Transaction.lift_bind_eq_ok, Transaction.require_bind_eq_ok] at h
  obtain ⟨_, -, _, -, _, -, _, -, _, -, htaken, -⟩ := h
  intro e he heq
  have hne : (e.reference = reference) = false := by
    simpa using List.any_eq_false.1 htaken e he
  simp [heq] at hne

/-- `updated` differs from `expense` in the fields an edit may set, at most. -/
def IsEditOf (expense updated : ExpenseEntity) : Prop :=
  updated = { expense with
    title := updated.title
    description := updated.description
    amount := updated.amount
    category := updated.category
    incurredAt := updated.incurredAt }

theorem IsEditOf.trans {e₁ e₂ e₃ : ExpenseEntity} (h₁ : IsEditOf e₁ e₂) (h₂ : IsEditOf e₂ e₃) :
    IsEditOf e₁ e₃ := by
  unfold IsEditOf at *
  rw [h₂, h₁]

theorem updateTitle_ok {title : Option String} {expense updated : ExpenseEntity}
    (h : updateTitle title expense = .ok updated) : IsEditOf expense updated := by
  cases title with
  | none =>
    cases h
    rfl
  | some title =>
    obtain ⟨_, -, h⟩ := Except.bind_eq_ok.1 h
    cases h
    rfl

theorem updateAmount_ok {amount : Option Int} {expense updated : ExpenseEntity}
    (h : updateAmount amount expense = .ok updated) : IsEditOf expense updated := by
  cases amount with
  | none =>
    cases h
    rfl
  | some amount =>
    obtain ⟨_, -, h⟩ := Except.bind_eq_ok.1 h
    cases h
    rfl

theorem updateIncurredAt_ok {incurredAt : Property Instant} {expense updated : ExpenseEntity}
    (h : updateIncurredAt cfg now incurredAt expense = .ok updated) :
    IsEditOf expense updated := by
  cases incurredAt with
  | undefined =>
    cases h
    rfl
  | null =>
    cases h
    rfl
  | value incurredAt =>
    obtain ⟨_, -, h⟩ := Except.bind_eq_ok.1 h
    cases h
    rfl

theorem applyUpdate_ok {input : UpdateExpenseInput} {expense updated : ExpenseEntity}
    (h : applyUpdate cfg now input expense = .ok updated) : IsEditOf expense updated := by
  obtain ⟨e₁, htitle, h⟩ := Except.bind_eq_ok.1 h
  obtain ⟨e₂, hamount, h⟩ := Except.bind_eq_ok.1 h
  have hdescription : IsEditOf e₁ (updateDescription input.description e₁) := by
    cases input.description <;> rfl
  have hcategory : IsEditOf e₂ { e₂ with category := input.category.getD e₂.category } := rfl
  exact (updateTitle_ok htitle).trans (hdescription.trans ((updateAmount_ok hamount).trans
    (hcategory.trans (updateIncurredAt_ok h))))

/-- An edit replaces the row of a draft by an edit of it. -/
theorem update_ok {input : UpdateExpenseInput}
    (h : update cfg now authUser reference input db = .ok (u, db')) :
    ∃ row updated, row ∈ db.expenses ∧ row.status = .DRAFT ∧
      IsEditOf (row.toEntity none none) updated ∧
      persistTransition cfg.budgetTimeZone (toExpenseBudgetSnapshot (row.toEntity none none)) updated
        db = .ok (u, db') := by
  simp only [update, Transaction.require_bind_eq_ok, Transaction.query_bind_eq_ok,
    Transaction.lift_bind_eq_ok] at h
  obtain ⟨-, _, -, expense, hload, _, -, _, hdraft, updated, happly, hpersist⟩ := h
  obtain ⟨row, -, hmem, rfl⟩ := loadExpenseForMutation_eq_ok hload
  exact ⟨row, updated, hmem, assertDraftStatus_eq_ok.1 hdraft, applyUpdate_ok happly, hpersist⟩

/-- Only a draft is removed. -/
theorem remove_ok (h : remove authUser reference db = .ok (u, db')) :
    ∃ row, row ∈ db.expenses ∧ row.status = .DRAFT ∧ deleteExpense row.id db = .ok (u, db') := by
  simp only [remove, Transaction.query_bind_eq_ok, Transaction.lift_bind_eq_ok] at h
  obtain ⟨_, -, expense, hload, _, -, _, hdraft, hdelete⟩ := h
  obtain ⟨row, -, hmem, rfl⟩ := loadExpenseForMutation_eq_ok hload
  exact ⟨row, hmem, assertDraftStatus_eq_ok.1 hdraft, hdelete⟩

/-- The row `reopenRejected` leaves: a draft that keeps every date it had. -/
theorem save_reopened (row : Expense) :
    row.save (reopened (row.toEntity none none)) = { row with status := .DRAFT } := by
  cases row
  simp [Expense.save, reopened, Expense.toEntity]

/-- A reopened expense was rejected and belongs to the caller. -/
theorem reopenRejected_eq_ok :
    reopenRejected authUser reference db = .ok (u, db') ↔
      ∃ row, findExpense db reference = .ok row ∧
        ExpenseAccessPolicy.canReadExpense authUser (db.withRelations row) = true ∧
        row.userId = authUser.id ∧ row.status = .REJECTED ∧
        (∃ stored, db.expenses.find? row.id = some stored ∧
          db' = { db with
            expenses := db.expenses.replace (stored.save (reopened (row.toEntity none none)))
            approvals := db.approvals.keep (fun a => a.expenseId ≠ row.id)
            outbox := db.outbox ++ [⟨.expenseReopened, none⟩] }) := by
  simp only [reopenRejected, Transaction.require_bind_eq_ok, Transaction.query_bind_eq_ok,
    Transaction.write_bind, findReadableExpense_eq_ok]
  constructor
  · rintro ⟨_, ⟨row, hrow, rfl, hread⟩, howner, hrejected, locked, hload, hlocked, h⟩
    obtain ⟨row', hrow', -, rfl⟩ := loadExpenseForMutation_eq_ok hload
    cases hrow.symm.trans hrow'
    obtain ⟨_, db₁, hsave, hpublish⟩ := Transaction.bind_eq_ok.1 h
    obtain ⟨stored, hstored, rfl⟩ := saveExpense_eq_ok.1 hsave
    obtain ⟨-, rfl⟩ := publish_eq_ok.1 hpublish
    exact ⟨row, hrow, hread, howner, hrejected, stored, hstored, rfl⟩
  · rintro ⟨row, hrow, hread, howner, hrejected, stored, hstored, rfl⟩
    refine ⟨_, ⟨row, hrow, rfl, hread⟩, howner, hrejected, row.toEntity none none, ?_, hrejected, ?_⟩
    · simp [loadExpenseForMutation, hrow, Except.map, Db.withoutRelations]
    · exact Transaction.bind_eq_ok.2 ⟨(), _, saveExpense_eq_ok.2 ⟨stored, hstored, rfl⟩,
        publish_eq_ok.2 ⟨rfl, rfl⟩⟩

end Specs

end Expentra.ExpenseDraft
