-- SUMMARY: Receipts of a draft: upload and removal.
import Expentra.Expense.Support

/-!
# The receipt service

The storage of the files is outside the database; the rows are what the policies
count.
-/

namespace Expentra.Receipts

open Library ExpenseMutationSupport

def assertDraftReceiptAccess (authUser : AuthUser) (expense : ExpenseEntity) :
    Except HttpException Unit :=
  if expense.status ≠ .DRAFT then
    .error (.badRequest "Receipts can only be added or removed on draft expenses")
  else if ExpenseAccessPolicy.canManageReceiptOnExpense authUser expense then .ok ()
  else .error (.forbidden "You can only manage receipts on your own draft expenses")

/-- The checks of an upload or a removal. They hold no lock: the row is written
    after them. -/
def loadExpenseForReceipt (db : Db) (authUser : AuthUser) (reference : String) :
    Except HttpException ExpenseEntity := do
  let expense ← findReadableExpense db authUser reference
  assertDraftReceiptAccess authUser expense
  pure expense

/-- The row of an uploaded file: its reference is unique and its expense exists. -/
def insertAttachment (expenseId : Nat) (attachmentReference : String) : Tx Unit := do
  let taken ← Transaction.read (fun db => db.attachments.any (·.reference = attachmentReference))
  Transaction.require (taken = false) (.queryFailed "23505")
  let referenced ← Transaction.read (fun db => (db.expenses.find? expenseId).isSome)
  Transaction.require (referenced = true) (.queryFailed "23503")
  Transaction.write (fun db =>
    { db with attachments := db.attachments ++ [⟨attachmentReference, expenseId⟩] })

/-- `uploadReceipt`, for a file that passed `validateUploadFile`. -/
def upload (authUser : AuthUser) (reference attachmentReference : String) : Tx Unit := do
  let expense ← Transaction.query (loadExpenseForReceipt · authUser reference)
  insertAttachment expense.id attachmentReference

def findAttachment (db : Db) (expenseId : Nat) (receiptReference : String) :
    Except HttpException ExpenseAttachment := do
  let attachment ← findEntityByReference db.attachments (·.reference) receiptReference
    "Receipt not found"
  if attachment.expenseId ≠ expenseId then throw (.notFound "Receipt not found")
  pure attachment

/-- `delete({ id, expenseId })` -/
def deleteAttachment (expenseId : Nat) (attachment : ExpenseAttachment) : Tx Unit :=
  Transaction.write (fun db => { db with attachments := db.attachments.filter (fun a =>
    !(a.reference = attachment.reference && a.expenseId = expenseId)) })

def remove (authUser : AuthUser) (reference receiptReference : String) : Tx Unit := do
  let expense ← Transaction.query (loadExpenseForReceipt · authUser reference)
  let attachment ← Transaction.query (findAttachment · expense.id receiptReference)
  deleteAttachment expense.id attachment

section Specs

variable {db db' : Db} {authUser : AuthUser} {reference receiptReference : String} {u : Unit}

/-- A receipt is managed on a draft that the user may read. -/
theorem loadExpenseForReceipt_ok {expense : ExpenseEntity}
    (h : loadExpenseForReceipt db authUser reference = .ok expense) :
    ∃ row, findExpense db reference = .ok row ∧ row.status = .DRAFT ∧ expense.id = row.id := by
  obtain ⟨expense', hread, h⟩ := Except.bind_eq_ok.1 h
  obtain ⟨_, haccess, h⟩ := Except.bind_eq_ok.1 h
  cases h
  obtain ⟨row, hrow, rfl, -⟩ := findReadableExpense_eq_ok.1 hread
  refine ⟨row, hrow, ?_, rfl⟩
  unfold assertDraftReceiptAccess at haccess
  split at haccess
  · cases haccess
  · rename_i hdraft
    exact not_not.1 hdraft

theorem insertAttachment_eq_ok {expenseId : Nat} :
    insertAttachment expenseId receiptReference db = .ok (u, db') ↔
      db.attachments.any (·.reference = receiptReference) = false ∧
        (db.expenses.find? expenseId).isSome = true ∧
        db' = { db with attachments := db.attachments ++ [⟨receiptReference, expenseId⟩] } := by
  simp only [insertAttachment, Transaction.read_bind, Transaction.require_bind_eq_ok,
    Transaction.write_eq_ok, eq_comm (a := db')]

/-- An upload adds one receipt to a draft, and changes nothing else. -/
theorem upload_ok (h : upload authUser reference receiptReference db = .ok (u, db')) :
    ∃ row, findExpense db reference = .ok row ∧ row.status = .DRAFT ∧
      db' = { db with attachments := db.attachments ++ [⟨receiptReference, row.id⟩] } := by
  rw [upload, Transaction.query_bind_eq_ok] at h
  obtain ⟨expense, hload, hinsert⟩ := h
  obtain ⟨-, -, rfl⟩ := insertAttachment_eq_ok.1 hinsert
  obtain ⟨row, hrow, hdraft, hid⟩ := loadExpenseForReceipt_ok hload
  exact ⟨row, hrow, hdraft, by rw [hid]⟩

/-- A removal takes receipts away from a draft, and changes nothing else. -/
theorem remove_ok (h : remove authUser reference receiptReference db = .ok (u, db')) :
    ∃ row, findExpense db reference = .ok row ∧ row.status = .DRAFT ∧
      ∃ removed : ExpenseAttachment → Bool, (∀ a, removed a = true → a.expenseId = row.id) ∧
        db' = { db with attachments := db.attachments.filter (fun a => !removed a) } := by
  simp only [remove, deleteAttachment, Transaction.query_bind_eq_ok, Transaction.write_eq_ok] at h
  obtain ⟨expense, hload, attachment, -, rfl⟩ := h
  obtain ⟨row, hrow, hdraft, hid⟩ := loadExpenseForReceipt_ok hload
  refine ⟨row, hrow, hdraft, fun a => a.reference = attachment.reference && a.expenseId = expense.id,
    fun a ha => ?_, by simp⟩
  rw [Bool.and_eq_true, decide_eq_true_eq, decide_eq_true_eq] at ha
  exact ha.2.trans hid

end Specs

end Expentra.Receipts
