-- SUMMARY: Requests on a draft as threads over the database: edits, receipts and submissions, one statement or transaction at a time.
import Expentra.Library.Interleaving
import Expentra.System.Operations

/-!
# Requests on a draft

The services check a draft before they write. An edit checks again in its
transaction, on the locked row. An upload or a removal of a receipt writes without
looking again, and a submission reads the draft, its receipts and the spend of its
owner for the policies before its transaction locks the row.

Here every read, every call of the storage with the write that follows it, and every
transaction is one step of a request, so that requests interleave between them. The
calls of all other operations happen around the requests.
-/

namespace Expentra.Requests

open Library

structure SubmitRequest where
  authUser : AuthUser
  reference : String
  policyJustifications : List (String × String)

inductive Request where
  | update (authUser : AuthUser) (reference : String) (input : ExpenseDraft.UpdateExpenseInput)
  | upload (authUser : AuthUser) (reference attachmentReference : String)
  | remove (authUser : AuthUser) (reference receiptReference : String)
  | submit (request : SubmitRequest)

/-- The maps of a `PolicyEvaluationCache`: what was read, and with it kept. -/
structure PolicyCache where
  monthlySpendByCategory : List (ExpenseCategory × Float)
  duplicateByWindowDays : List (Int × Bool)

/-- A value of the cache, or else of the database. -/
def PolicyCache.reads (cache : PolicyCache) (db : Db) (context : PolicyEvaluationContext) :
    PolicyReads where
  monthlyCategorySpend category := (cache.monthlySpendByCategory.lookup category).getD
    (PolicyEvaluationCache.loadMonthlyCategorySpend db context category)
  hasDuplicateExpense windowDays := (cache.duplicateByWindowDays.lookup windowDays).getD
    (PolicyEvaluationCache.loadDuplicateExpense db context windowDays)

/-- Where a request is: its next step with what it has read. -/
inductive Phase where
  /-- Before `findOne`. -/
  | updating (authUser : AuthUser) (reference : String) (input : ExpenseDraft.UpdateExpenseInput)
  /-- Before the transaction of the edit. -/
  | editing (authUser : AuthUser) (reference : String) (input : ExpenseDraft.UpdateExpenseInput)
  | uploading (authUser : AuthUser) (reference attachmentReference : String)
  /-- The file goes to the storage, then its row is saved. -/
  | inserting (expenseId : Nat) (attachmentReference : String)
  | removing (authUser : AuthUser) (reference receiptReference : String)
  | finding (authUser : AuthUser) (reference receiptReference : String) (expenseId : Nat)
  /-- The file is deleted from the storage, then its row. -/
  | deleting (expenseId : Nat) (attachment : ExpenseAttachment)
  | submitting (request : SubmitRequest)
  /-- Before the receipts are counted. -/
  | counting (request : SubmitRequest) (draft : ExpenseEntity)
  | evaluating (request : SubmitRequest) (context : PolicyEvaluationContext) (cache : PolicyCache)
  /-- Before the transaction of the submission, with what the policies were told. -/
  | committing (request : SubmitRequest) (context : PolicyEvaluationContext) (reads : PolicyReads)
  | done (result : Except HttpException Unit)

inductive Outcome where
  /-- The next step is taken at this moment. -/
  | runs (now : Instant)
  /-- A policy asks for the monthly spend in a category. -/
  | loadsSpend (category : ExpenseCategory)
  /-- A policy asks for a duplicate. -/
  | loadsDuplicate (windowDays : Int)
  /-- The storage throws. -/
  | storageFails (exception : HttpException)

/-- Go on with a value, or end with the exception. -/
def orEnd {α : Type} (db : Db) (result : Except HttpException α) (next : α → Phase) : Db × Phase :=
  match result with
  | .ok a => (db, next a)
  | .error exception => (db, .done (.error exception))

/-- The end of a request with a transaction. -/
def commitAndEnd (db : Db) (transaction : Tx Unit) : Db × Phase :=
  match transaction db with
  | .ok ((), db') => (db', .done (.ok ()))
  | .error exception => (db, .done (.error exception))

/-- The transaction of an edit; `update` runs it after `findOne`. -/
def commitUpdate (cfg : Config) (now : Instant) (authUser : AuthUser) (reference : String)
    (input : ExpenseDraft.UpdateExpenseInput) : Tx Unit := do
  let expense ← Transaction.query (ExpenseMutationSupport.loadExpenseForMutation · reference)
  Transaction.lift
    (ExpenseMutationSupport.assertCanMutateExpenseDraft authUser expense .modify false)
  Transaction.lift (ExpenseMutationSupport.assertDraftStatus expense.status .modify)
  let updated ← Transaction.lift (ExpenseDraft.applyUpdate cfg now input expense)
  persistTransition cfg.budgetTimeZone (toExpenseBudgetSnapshot expense) updated

/-- The next step of a request. -/
def advance (cfg : Config) (policies : List ExpensePolicy) (db : Db) (phase : Phase)
    (outcome : Outcome) : Option (Db × Phase) :=
  match phase, outcome with
  | .updating authUser reference input, .runs _ =>
    if ExpenseDraft.hasUpdateFields input then
      some (orEnd db (findReadableExpense db authUser reference)
        (fun _ => .editing authUser reference input))
    else some (db, .done (.error
      (.badRequest "At least one field must be provided to update an expense")))
  | .editing authUser reference input, .runs now =>
    some (commitAndEnd db (commitUpdate cfg now authUser reference input))
  | .uploading authUser reference attachmentReference, .runs _ =>
    some (orEnd db (Receipts.loadExpenseForReceipt db authUser reference)
      (fun expense => .inserting expense.id attachmentReference))
  | .inserting expenseId attachmentReference, .runs _ =>
    some (commitAndEnd db (Receipts.insertAttachment expenseId attachmentReference))
  | .removing authUser reference receiptReference, .runs _ =>
    some (orEnd db (Receipts.loadExpenseForReceipt db authUser reference)
      (fun expense => .finding authUser reference receiptReference expense.id))
  | .finding authUser reference receiptReference expenseId, .runs _ =>
    some (orEnd db (findReadableExpense db authUser reference >>= fun expense =>
        Receipts.findAttachment db expense.id receiptReference)
      (fun attachment => .deleting expenseId attachment))
  | .deleting expenseId attachment, .runs _ =>
    some (commitAndEnd db (Receipts.deleteAttachment expenseId attachment))
  | .inserting _ _, .storageFails exception => some (db, .done (.error exception))
  | .deleting _ _, .storageFails exception => some (db, .done (.error exception))
  | .submitting request, .runs now =>
    some (orEnd db (findReadableExpense db request.authUser request.reference >>= fun draft =>
        (ExpenseSubmit.assertSubmittable cfg now request.authUser draft).map (fun _ => draft))
      (fun draft => .counting request draft))
  | .counting request draft, .runs now =>
    let context := ExpenseSubmit.buildSubmitPolicyContext db now request.authUser draft
      request.policyJustifications
    some (db, .evaluating request context ⟨[], []⟩)
  | .evaluating request context cache, .loadsSpend category =>
    let spend := (cache.reads db context).monthlyCategorySpend category
    some (db, .evaluating request context { cache with
      monthlySpendByCategory := (category, spend) :: cache.monthlySpendByCategory })
  | .evaluating request context cache, .loadsDuplicate windowDays =>
    let duplicate := (cache.reads db context).hasDuplicateExpense windowDays
    some (db, .evaluating request context { cache with
      duplicateByWindowDays := (windowDays, duplicate) :: cache.duplicateByWindowDays })
  | .evaluating request context cache, .runs _ =>
    some (orEnd db (PolicyEngine.assertCompliant policies context (cache.reads db context))
      (fun _ => .committing request context (cache.reads db context)))
  | .committing request context _, .runs now =>
    some (commitAndEnd db (ExpenseSubmit.commitSubmit cfg now request.authUser request.reference
      context.submittedAt))
  | _, _ => none

/-- The first phase of a request. -/
def arrive : Request → Phase
  | .update authUser reference input => .updating authUser reference input
  | .upload authUser reference attachmentReference => .uploading authUser reference attachmentReference
  | .remove authUser reference receiptReference => .removing authUser reference receiptReference
  | .submit request => .submitting request

/-- Requests on drafts, and the calls of the other operations around them. -/
def requests (cfg : Config) (policies : List ExpensePolicy) :
    Concurrent Db Phase Request Outcome Operation where
  start db request := some (db, arrive request)
  step _ db phase outcome := advance cfg policies db phase outcome
  surroundings db op := some ((op.perform cfg).commit db)

/-- Without requests between, an edit is its check and its transaction. -/
theorem update_eq (cfg : Config) (now : Instant) (authUser : AuthUser) (reference : String)
    (input : ExpenseDraft.UpdateExpenseInput) :
    ExpenseDraft.update cfg now authUser reference input = (do
      Transaction.require (ExpenseDraft.hasUpdateFields input = true)
        (.badRequest "At least one field must be provided to update an expense")
      let _ ← Transaction.query (findReadableExpense · authUser reference)
      commitUpdate cfg now authUser reference input) := by
  unfold ExpenseDraft.update commitUpdate
  rfl

end Expentra.Requests
