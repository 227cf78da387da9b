-- SUMMARY: Approving, rejecting and reimbursing a list of expenses, item by item.
import Expentra.Library.Batch
import Expentra.System.Effects

/-!
# Bulk operations

Each item is a transaction of its own, and its exception is caught. A reimbursement drops
repeated strings, an approval and a rejection do not; but two strings that differ only in
case or in surrounding space name one expense.
-/

namespace Expentra

open Library

/-- `error.message`. The driver has a text for each of its codes. -/
def HttpException.message (driverMessage : String → String) : HttpException → String
  | .badRequest message | .unauthorized message | .forbidden message | .notFound message
  | .conflict message | .serviceUnavailable message | .rangeError message | .typeError message =>
    message
  | .queryFailed code => driverMessage code

namespace Bulk

/-- What a single operation draws: the time, and a reference for the comment of a rejection. -/
structure Drawn where
  now : Instant
  commentReference : String

structure Item where
  reference : String
  drawn : Drawn

/-- The items of a list of references, in order. -/
def itemsOf (draws : Nat → Drawn) (references : List String) : List Item :=
  references.zipIdx.map (fun numbered => ⟨numbered.1, draws numbered.2⟩)

structure Failure where
  reference : String
  reason : String
deriving DecidableEq, Repr

structure BulkActionResult where
  succeeded : List String
  failed : List Failure
  partialSuccess : Bool
  allSucceeded : Bool
deriving DecidableEq, Repr

/-- The lists of the loop and the database. -/
structure Progress where
  succeeded : List String
  failed : List Failure
  db : Db

/-- One turn of the loop: `try`, and `catch`. -/
def handleItem (message : HttpException → String) (single : Item → Tx Unit) (progress : Progress)
    (item : Item) : Progress :=
  match single item progress.db with
  | .ok (_, db) => { progress with succeeded := progress.succeeded ++ [item.reference], db := db }
  | .error error =>
    { progress with failed := progress.failed ++ [⟨item.reference, message error⟩] }

def handleItems (message : HttpException → String) (single : Item → Tx Unit) (items : List Item)
    (db : Db) : Progress :=
  items.foldl (handleItem message single) ⟨[], [], db⟩

def buildBulkResult (succeeded : List String) (failed : List Failure) : BulkActionResult where
  succeeded := succeeded
  failed := failed
  partialSuccess := !succeeded.isEmpty && !failed.isEmpty
  allSucceeded := failed.isEmpty

def Progress.finish (progress : Progress) : BulkActionResult × Db :=
  (buildBulkResult progress.succeeded progress.failed, progress.db)

section Service

variable (cfg : Config) (driverMessage : String → String) (draws : Nat → Drawn)
  (authUser : AuthUser)

def approveItem (input : Option Approval.ApproveExpenseInput) (item : Item) : Tx Unit :=
  Approval.approveByReference cfg item.drawn.now authUser item.reference
    (input.getD ⟨none, false⟩)

def rejectItem (comment : String) (item : Item) : Tx Unit :=
  Approval.rejectByReference cfg item.drawn.now authUser item.reference item.drawn.commentReference
    comment

def reimburseItem (item : Item) : Tx Unit :=
  ExpenseReimbursement.reimburse cfg item.drawn.now authUser item.reference

def bulkApproveByReference (expenseReferences : List String)
    (input : Option Approval.ApproveExpenseInput) (db : Db) : BulkActionResult × Db :=
  (handleItems (·.message driverMessage) (approveItem cfg authUser input)
    (itemsOf draws expenseReferences) db).finish

def bulkRejectByReference (expenseReferences : List String) (comment : String) (db : Db) :
    BulkActionResult × Db :=
  (handleItems (·.message driverMessage) (rejectItem cfg authUser comment)
    (itemsOf draws expenseReferences) db).finish

/-- `new Set(references)` keeps the first of equal strings. -/
def bulkReimburse (references : List String) (db : Db) :
    Except HttpException BulkActionResult × Db :=
  match ExpenseReimbursement.assertCanReimburseExpense authUser with
  | .error e => (.error e, db)
  | .ok () =>
    let outcome := (handleItems (·.message driverMessage) (reimburseItem cfg authUser)
      (itemsOf draws references.eraseDups) db).finish
    (.ok outcome.1, outcome.2)

end Service

/-! ## Items and visits -/

section Loop

variable {message : HttpException → String} {single : Item → Tx Unit} {items : List Item} {db : Db}

theorem map_reference_itemsOf (draws : Nat → Drawn) (references : List String) :
    (itemsOf draws references).map (·.reference) = references := by
  rw [itemsOf, List.map_map]
  exact List.zipIdx_map_fst 0 references

/-- The failure of a refused item. -/
def failureOf (message : HttpException → String) (single : Item → Tx Unit) (visit : Item × Db) :
    Option Failure :=
  match single visit.1 visit.2 with
  | .ok _ => none
  | .error error => some ⟨visit.1.reference, message error⟩

/-- The loop lists what the single operation does in the state each item finds. -/
theorem foldl_handleItem (progress : Progress) :
    items.foldl (handleItem message single) progress =
      { succeeded := progress.succeeded ++
          ((visits single progress.db items).filter (accepted single)).map (·.1.reference)
        failed := progress.failed ++
          (visits single progress.db items).filterMap (failureOf message single)
        db := runBatch single progress.db items } := by
  induction items generalizing progress with
  | nil => simp [visits, runBatch]
  | cons item rest ih =>
    rw [List.foldl_cons, ih, visits, List.filter_cons, List.filterMap_cons, runBatch_cons]
    cases hresult : single item progress.db with
    | ok r =>
      have haccepted : accepted single (item, progress.db) = true := by rw [accepted, hresult]; rfl
      have hfailure : failureOf message single (item, progress.db) = none := by
        rw [failureOf, hresult]
      rw [haccepted, hfailure, handleItem, hresult, Transaction.commit_of_ok hresult]
      simp
    | error e =>
      have haccepted : accepted single (item, progress.db) = false := by rw [accepted, hresult]; rfl
      have hfailure : failureOf message single (item, progress.db) =
          some ⟨item.reference, message e⟩ := by
        rw [failureOf, hresult]
      rw [haccepted, hfailure, handleItem, hresult, Transaction.commit_of_error hresult]
      simp

end Loop

/-! ## The three operations -/

end Bulk

inductive BulkOperation where
  | approve (input : Option Approval.ApproveExpenseInput)
  | reject (comment : String)
  | reimburse

namespace BulkOperation

open Bulk ExpenseMutationSupport

/-- The single operation on an item. -/
def single (cfg : Config) (authUser : AuthUser) : BulkOperation → Item → Tx Unit
  | .approve input => approveItem cfg authUser input
  | .reject comment => rejectItem cfg authUser comment
  | .reimburse => reimburseItem cfg authUser

/-- The strings of the list the loop runs over. -/
def handled (references : List String) : BulkOperation → List String
  | .approve _ => references
  | .reject _ => references
  | .reimburse => references.eraseDups

def perform (cfg : Config) (driverMessage : String → String) (draws : Nat → Drawn)
    (authUser : AuthUser) (references : List String) (db : Db) :
    BulkOperation → Except HttpException BulkActionResult × Db
  | .approve input =>
    (.ok (bulkApproveByReference cfg driverMessage draws authUser references input db).1,
      (bulkApproveByReference cfg driverMessage draws authUser references input db).2)
  | .reject comment =>
    (.ok (bulkRejectByReference cfg driverMessage draws authUser references comment db).1,
      (bulkRejectByReference cfg driverMessage draws authUser references comment db).2)
  | .reimburse => bulkReimburse cfg driverMessage draws authUser references db

/-- The expense a string names, whatever its case and the space around it. -/
def expenseId (db : Db) (reference : String) : Option Nat :=
  (findExpense db reference).toOption.map (·.id)

/-- An expense with everything recorded on it. -/
structure ExpenseRecord where
  row : Option Expense
  decisions : List ExpenseApproval
  comments : List ExpenseComment
  attachments : List ExpenseAttachment
deriving DecidableEq

def recordOf (db : Db) (id : Nat) : ExpenseRecord where
  row := db.expenses.find? id
  decisions := db.approvalsOf id
  comments := db.comments.filter (fun comment => comment.expenseId = id)
  attachments := db.attachments.filter (fun attachment => attachment.expenseId = id)

/-- Every operation decides or reimburses. -/
def ExpenseRecord.weight (record : ExpenseRecord) : Nat :=
  record.decisions.length + if record.row.map (·.status) = some .REIMBURSED then 1 else 0

/-! ## What an accepted item changes -/

section Specs

variable {cfg : Config} {authUser : AuthUser} {db db' : Db} {row saved : Expense}
  {approvals : Table ExpenseApproval.key} {decisions : List ExpenseApproval}
  {comments : List ExpenseComment}

theorem expenseId_of_find {reference : String} (h : findExpense db reference = .ok row) :
    expenseId db reference = some row.id := by
  rw [expenseId, h]
  rfl

/-- What is saved under the id and the reference of a row leaves all names. -/
theorem expenseId_replace (hmem : row ∈ db.expenses) (hid : saved.id = row.id)
    (hreference : saved.reference = row.reference)
    (hexpenses : db'.expenses = db.expenses.replace saved) (reference : String) :
    expenseId db' reference = expenseId db reference := by
  have hids : ∀ (db : Db), expenseId db reference =
      if isEntityReference (normalizeEntityReference reference) then
        ((db.expenses.rows.filter (fun row =>
          row.reference = normalizeEntityReference reference)).map (·.id)).head?
      else none := by
    intro db
    rw [List.head?_map, List.head?_filter]
    simp only [expenseId, findExpense, findEntityByReference]
    generalize normalizeEntityReference reference = normalized
    cases isEntityReference normalized with
    | false => rfl
    | true =>
      simp only [Bool.not_true, Bool.false_eq_true, if_false, if_true]
      cases db.expenses.rows.find? (fun row => row.reference = normalized) with
      | none => rfl
      | some row => rfl
  have hsame : ∀ x ∈ db.expenses, x.id = saved.id →
      decide (x.reference = normalizeEntityReference reference) =
        decide (saved.reference = normalizeEntityReference reference) := by
    intro x hx hxid
    rw [Table.eq_of_key_eq hx hmem (hxid.trans hid), hreference]
  rw [hids, hids, hexpenses, Table.map_filter_replace hsame]

/-- The row `saved` in the place of `row`, and new decisions and comments on it. -/
structure Records (db : Db) (row saved : Expense) (db' : Db) : Prop where
  mem : row ∈ db.expenses
  id_eq : saved.id = row.id
  reference_eq : saved.reference = row.reference
  expenses_eq : db'.expenses = db.expenses.replace saved
  decisions : ∃ added, db'.approvals.rows = db.approvals.rows ++ added ∧
    ∀ decision ∈ added, decision.expenseId = row.id
  comments : ∃ added, db'.comments = db.comments ++ added ∧
    ∀ comment ∈ added, comment.expenseId = row.id
  attachments_eq : db'.attachments = db.attachments

namespace Records

theorem found (h : Records db row saved db') : db.expenses.find? row.id = some row :=
  Table.find?_of_mem h.mem

theorem recordOf_ne (h : Records db row saved db') {id : Nat} (hne : id ≠ row.id) :
    recordOf db' id = recordOf db id := by
  obtain ⟨decisions, hdecisions, hmine⟩ := h.decisions
  obtain ⟨comments, hcomments, hours⟩ := h.comments
  have hrow : db'.expenses.find? id = db.expenses.find? id := by
    rw [h.expenses_eq, Table.find?_replace_ne (h.id_eq.symm ▸ hne)]
  have hnone : decisions.filter (fun decision => decision.expenseId = id) = [] :=
    List.filter_eq_nil_iff.2 fun decision hmem => by simp [hmine decision hmem, Ne.symm hne]
  have hsilent : comments.filter (fun comment => comment.expenseId = id) = [] :=
    List.filter_eq_nil_iff.2 fun comment hmem => by simp [hours comment hmem, Ne.symm hne]
  simp only [recordOf, Db.approvalsOf, hrow, hdecisions, hcomments, h.attachments_eq,
    List.filter_append, hnone, hsilent, List.append_nil]

theorem row_eq (h : Records db row saved db') : (recordOf db' row.id).row = some saved := by
  have hfound := h.found
  rw [← h.id_eq] at hfound
  rw [recordOf, h.expenses_eq, ← h.id_eq]
  exact Table.find?_replace_self hfound

/-- A decision more on a pending expense. -/
theorem weight_lt_of_decision {decision : ExpenseApproval}
    (hfound : db.expenses.find? row.id = some row) (hpending : row.status.isPending = true)
    (hrows : db'.approvals.rows = db.approvals.rows ++ [decision])
    (hmine : decision.expenseId = row.id) :
    (recordOf db row.id).weight < (recordOf db' row.id).weight := by
  have hdecisions : (recordOf db' row.id).decisions = (recordOf db row.id).decisions ++ [decision] := by
    simp only [recordOf, Db.approvalsOf, hrows, List.filter_append, List.filter_singleton, hmine,
      decide_true, cond_true]
  have hbefore : ¬ (recordOf db row.id).row.map (·.status) = some .REIMBURSED := by
    rw [recordOf, hfound]
    intro heq
    have hstatus : row.status = .REIMBURSED := Option.some.inj heq
    rw [hstatus] at hpending
    cases hpending
  unfold ExpenseRecord.weight
  rw [hdecisions, if_neg hbefore, List.length_append, List.length_singleton]
  omega

end Records

theorem isOk_iff {α : Type} {x : Tx α} : (x db).isOk = true ↔ ∃ a db', x db = .ok (a, db') := by
  cases hx : x db with
  | ok r => exact iff_of_true rfl ⟨r.1, r.2, rfl⟩
  | error e =>
    refine iff_of_false Bool.false_ne_true ?_
    rintro ⟨a, db', h⟩
    cases h

/-- An approval adds a decision to the expense it names. -/
theorem approve_records {input : Option Approval.ApproveExpenseInput} {item : Item} {u : Unit}
    (h : approveItem cfg authUser input item db = .ok (u, db')) :
    ∃ row saved, findExpense db item.reference = .ok row ∧ Records db row saved db' ∧
      (recordOf db row.id).weight < (recordOf db' row.id).weight := by
  rw [approveItem, Approval.approveByReference] at h
  obtain ⟨id, hresolve, h⟩ := Transaction.query_bind_eq_ok.1 h
  obtain ⟨row, hfind, -, -, rfl⟩ := Approval.resolveExpenseIdForDecision_eq_ok.1 hresolve
  obtain ⟨row', stage, approval, approvals, status, hrow', hready, hexpense, -, -, -, hinsert, -,
    htransition⟩ := approve_effect h
  have hmem := (findEntityByReference_eq_ok hfind).1
  cases (Table.find?_of_mem hmem).symm.trans hrow'
  have hrows : db'.approvals.rows = db.approvals.rows ++ [approval] := by
    rw [htransition.approvals_eq]
    exact (Table.insert?_eq_some.1 hinsert).2
  obtain ⟨budgets, hdb', -⟩ := htransition.effect
  refine ⟨row, row.save (Approval.approved (db.withRelations row) status item.drawn.now), hfind,
    ⟨hmem, rfl, rfl, htransition.expenses_eq, ⟨_, hrows, ?_⟩, ⟨[], by rw [hdb'], by simp⟩,
      htransition.attachments_eq⟩, ?_⟩
  · simpa using hexpense
  · exact Records.weight_lt_of_decision hrow' hready.isPending hrows hexpense

/-- So does a rejection. -/
theorem reject_records {comment : String} {item : Item} {u : Unit}
    (h : rejectItem cfg authUser comment item db = .ok (u, db')) :
    ∃ row saved, findExpense db item.reference = .ok row ∧ Records db row saved db' ∧
      (recordOf db row.id).weight < (recordOf db' row.id).weight := by
  rw [rejectItem, Approval.rejectByReference] at h
  obtain ⟨id, hresolve, h⟩ := Transaction.query_bind_eq_ok.1 h
  obtain ⟨row, hfind, -, -, rfl⟩ := Approval.resolveExpenseIdForDecision_eq_ok.1 hresolve
  obtain ⟨row', stage, approvals, db₁, db₂, -, -, hrow', hready, hinsert, hpersist, hcomment,
    hpublish⟩ := Approval.reject_eq_ok.1 h
  have hmem := (findEntityByReference_eq_ok hfind).1
  have hfound := Table.find?_of_mem hmem
  cases hfound.symm.trans hrow'
  obtain ⟨stored, budgets, hstored, rfl, -⟩ := persistTransition_ok hpersist
  cases hfound.symm.trans hstored
  obtain ⟨-, rfl⟩ := publish_eq_ok.1 hcomment
  obtain ⟨-, rfl⟩ := (publishTransitions_eq_ok (List.nodup_singleton _)).1 hpublish
  have hrows := (Table.insert?_eq_some.1 hinsert).2
  refine ⟨row, row.save (Approval.rejected (db.withRelations row) item.drawn.now), hfind,
    ⟨hmem, rfl, rfl, rfl, ⟨_, hrows, by simp⟩, ⟨_, rfl, by simp⟩, rfl⟩, ?_⟩
  exact Records.weight_lt_of_decision hfound hready.isPending hrows rfl

/-- A reimbursement marks the expense it names. -/
theorem reimburse_records {item : Item} {u : Unit}
    (h : reimburseItem cfg authUser item db = .ok (u, db')) :
    ∃ row saved, findExpense db item.reference = .ok row ∧ Records db row saved db' ∧
      (recordOf db row.id).weight < (recordOf db' row.id).weight := by
  rw [reimburseItem, ExpenseReimbursement.reimburse] at h
  simp only [Transaction.lift_bind_eq_ok, Transaction.query_bind_eq_ok,
    Transaction.require_bind_eq_ok] at h
  obtain ⟨_, -, expense, hload, hstatus, h⟩ := h
  obtain ⟨row, hfind, hmem, rfl⟩ := loadExpenseForMutation_eq_ok hload
  obtain ⟨_, db₁, hpersist, hpublish⟩ := Transaction.bind_eq_ok.1 h
  obtain ⟨-, hdb'⟩ := (publishTransitions_eq_ok (List.nodup_singleton _)).1 hpublish
  obtain ⟨stored, budgets, hstored, rfl, -⟩ := persistTransition_ok hpersist
  have hfound := Table.find?_of_mem hmem
  cases hfound.symm.trans hstored
  have hrecords : Records db row
      (row.save (ExpenseReimbursement.reimbursed (row.toEntity none none) item.drawn.now)) db' :=
    ⟨hmem, rfl, rfl, by rw [hdb'], ⟨[], by simp [hdb'], by simp⟩, ⟨[], by simp [hdb'], by simp⟩,
      by rw [hdb']⟩
  refine ⟨row, _, hfind, hrecords, ?_⟩
  have hbefore : ¬ (recordOf db row.id).row.map (·.status) = some .REIMBURSED := by
    rw [recordOf, hfound]
    intro heq
    cases (Option.some.inj heq).symm.trans hstatus
  have hdecisions : (recordOf db' row.id).decisions = (recordOf db row.id).decisions := by
    rw [hdb']
    rfl
  unfold ExpenseRecord.weight
  rw [hrecords.row_eq, hdecisions, if_neg hbefore]
  exact Nat.lt_succ_self _

end Specs

/-- An accepted item changes the record of the expense it names, and no other. -/
def batch (cfg : Config) (authUser : AuthUser) (op : BulkOperation) (start : Db) :
    Batch Db HttpException Item Nat ExpenseRecord where
  single := op.single cfg authUser
  subject item := expenseId start item.reference
  view := recordOf
  weight := ExpenseRecord.weight
  Inv db := ∀ reference, expenseId db reference = expenseId start reference
  step := by
    intro item db db' hnames h
    have hrecords : ∃ row saved, findExpense db item.reference = .ok row ∧ Records db row saved db' ∧
        (recordOf db row.id).weight < (recordOf db' row.id).weight := by
      cases op with
      | approve input => exact approve_records h
      | reject comment => exact reject_records h
      | reimburse => exact reimburse_records h
    obtain ⟨row, saved, hfind, hrecords, hweight⟩ := hrecords
    refine ⟨fun reference => ?_, row.id, ?_, fun id hne => hrecords.recordOf_ne hne, hweight⟩
    · exact (expenseId_replace hrecords.mem hrecords.id_eq hrecords.reference_eq
        hrecords.expenses_eq reference).trans (hnames reference)
    · exact (hnames item.reference).symm.trans (expenseId_of_find hfind)

section Batch

variable {cfg : Config} {authUser : AuthUser} {op : BulkOperation} {start : Db}

theorem batch_single : (batch cfg authUser op start).single = op.single cfg authUser := rfl

theorem batch_subject {item : Item} :
    (batch cfg authUser op start).subject item = expenseId start item.reference := by
  rw [batch]

theorem batch_view : (batch cfg authUser op start).view = recordOf := rfl

end Batch

/-! ## When an item goes through -/

/-- The expense waits for the user at a stage, the budget allows the approval, and its events
    are new. -/
def Approvable (cfg : Config) (authUser : AuthUser) (input : Approval.ApproveExpenseInput)
    (db : Db) (item : Item) : Prop :=
  ∃ row stage budgetCheck, findExpense db item.reference = .ok row ∧ 0 < row.id ∧
    Approval.ReadyStage db item.drawn.now authUser row stage ∧
    Approval.assertOverBudgetApprovalAllowed cfg db item.drawn.now (db.withRelations row) stage
      (Js.trimmedOrUndefined input.comment) input.overBudgetAcknowledged = .ok budgetCheck ∧
    ∀ eventType ∈ Approval.approveEventTypes (ApprovalRouting.resolveStatusAfterLevelApproval stage
      (db.withRelations row) db.activeLevels),
        db.hasOutboxKey (.ofTransition eventType row.id item.drawn.now) = false

/-- The expense waits for the user at a stage, there is a comment, and its reference and the
    event are new. -/
def Rejectable (authUser : AuthUser) (comment : String) (db : Db) (item : Item) : Prop :=
  ∃ row stage, findExpense db item.reference = .ok row ∧ 0 < row.id ∧
    Approval.ReadyStage db item.drawn.now authUser row stage ∧ Js.trim comment ≠ "" ∧
    db.hasOutboxKey (.ofComment item.drawn.commentReference) = false ∧
    db.hasOutboxKey (.ofTransition .expenseRejected row.id item.drawn.now) = false

/-- The reimbursed column of the live budget of the expense can hold its amount too. -/
def FitsBudget (cfg : Config) (db : Db) (row : Expense) : Prop :=
  ∀ key budget, row.snapshot.budgetKey cfg.budgetTimeZone db = some key →
    (db.budgets.find? key).filter (·.isLive) = some budget →
      budgetRepresentable budget.amountLimit budget.committedAmount
        (budget.reimbursedAmount + row.amount.val).toNat

/-- The expense is approved, its budget can hold the amount, and the event is new. -/
def Reimbursable (cfg : Config) (authUser : AuthUser) (db : Db) (item : Item) : Prop :=
  hasPermission authUser .REIMBURSE .EXPENSE none = true ∧
    ∃ row, findExpense db item.reference = .ok row ∧ row.status = .APPROVED ∧
      FitsBudget cfg db row ∧
      db.hasOutboxKey (.ofTransition .expenseReimbursed row.id item.drawn.now) = false

def Feasible (cfg : Config) (authUser : AuthUser) (db : Db) (item : Item) : BulkOperation → Prop
  | .approve input => Approvable cfg authUser (input.getD ⟨none, false⟩) db item
  | .reject comment => Rejectable authUser comment db item
  | .reimburse => Reimbursable cfg authUser db item

section Feasibility

variable {cfg : Config} {authUser : AuthUser} {db : Db} {item : Item}

theorem approveItem_isOk_iff {input : Option Approval.ApproveExpenseInput} :
    (approveItem cfg authUser input item db).isOk = true ↔
      Approvable cfg authUser (input.getD ⟨none, false⟩) db item := by
  rw [isOk_iff, approveItem, Approval.approveByReference]
  constructor
  · rintro ⟨u, db', h⟩
    obtain ⟨id, hresolve, h⟩ := Transaction.query_bind_eq_ok.1 h
    obtain ⟨row, hfind, -, -, rfl⟩ := Approval.resolveExpenseIdForDecision_eq_ok.1 hresolve
    obtain ⟨row', stage, budgetCheck, approvals, db₁, hid, hrow', hready, hbudget, -, hpersist,
      hpublish⟩ := Approval.approve_eq_ok.1 h
    have hfound := Table.find?_of_mem (findEntityByReference_eq_ok hfind).1
    cases hfound.symm.trans hrow'
    obtain ⟨hevents, -⟩ := (publishTransitions_eq_ok (Approval.nodup_approveEventTypes _)).1 hpublish
    obtain ⟨_, _, -, rfl, -⟩ := persistTransition_ok hpersist
    exact ⟨row, stage, budgetCheck, hfind, hid, hready, hbudget, hevents⟩
  · rintro ⟨row, stage, budgetCheck, hfind, hid, hready, hbudget, hevents⟩
    have hresolve := Approval.resolveExpenseIdForDecision_eq_ok.2
      ⟨row, hfind, hready.notOwner, hready.canDecide, rfl⟩
    have happrove : ∃ db', Approval.approve cfg item.drawn.now authUser row.id
        (input.getD ⟨none, false⟩) db = .ok ((), db') :=
      Approval.approve_of_ready hid (findEntityByReference_eq_ok hfind).1 hready hbudget hevents
    obtain ⟨db', happrove⟩ := happrove
    exact ⟨(), db', Transaction.query_bind_eq_ok.2 ⟨row.id, hresolve, happrove⟩⟩

theorem rejectItem_isOk_iff {comment : String} :
    (rejectItem cfg authUser comment item db).isOk = true ↔
      Rejectable authUser comment db item := by
  rw [isOk_iff, rejectItem, Approval.rejectByReference]
  constructor
  · rintro ⟨u, db', h⟩
    obtain ⟨id, hresolve, h⟩ := Transaction.query_bind_eq_ok.1 h
    obtain ⟨row, hfind, -, -, rfl⟩ := Approval.resolveExpenseIdForDecision_eq_ok.1 hresolve
    obtain ⟨row', stage, approvals, db₁, db₂, hcomment, hid, hrow', hready, -, hpersist, hcommented,
      hpublish⟩ := Approval.reject_eq_ok.1 h
    have hfound := Table.find?_of_mem (findEntityByReference_eq_ok hfind).1
    cases hfound.symm.trans hrow'
    obtain ⟨_, _, -, rfl, -⟩ := persistTransition_ok hpersist
    obtain ⟨hreference, rfl⟩ := publish_eq_ok.1 hcommented
    obtain ⟨hevent, -⟩ := (publishTransitions_eq_ok (List.nodup_singleton _)).1 hpublish
    refine ⟨row, stage, hfind, hid, hready, hcomment, hreference, ?_⟩
    simpa [Db.hasOutboxKey, List.any_append] using hevent
  · rintro ⟨row, stage, hfind, hid, hready, hcomment, hreference, hevent⟩
    have hresolve := Approval.resolveExpenseIdForDecision_eq_ok.2
      ⟨row, hfind, hready.notOwner, hready.canDecide, rfl⟩
    have hreject : ∃ db', Approval.reject cfg item.drawn.now authUser row.id
        item.drawn.commentReference comment db = .ok ((), db') :=
      Approval.reject_of_ready hid (findEntityByReference_eq_ok hfind).1 hready hcomment hreference
        hevent
    obtain ⟨db', hreject⟩ := hreject
    exact ⟨(), db', Transaction.query_bind_eq_ok.2 ⟨row.id, hresolve, hreject⟩⟩

theorem updateReimbursed_iff {key : Nat × Int} {amount : Int} (hamount : amount ≠ 0) :
    (∃ db', applyReimbursedAmountDelta key amount db = .ok ((), db')) ↔
      ∀ budget, (db.budgets.find? key).filter (·.isLive) = some budget →
        budgetRepresentable budget.amountLimit budget.committedAmount
          (budget.reimbursedAmount + amount).toNat := by
  simp only [applyReimbursedAmountDelta, if_neg hamount, updateLiveBudget_eq_ok]
  constructor
  · rintro ⟨db', ⟨hnone, -⟩ | ⟨b, b', hb, hcounters, -⟩⟩ budget hbudget
    · cases hnone.symm.trans hbudget
    · cases hb.symm.trans hbudget
      exact (DepartmentBudget.withCounters_eq_some.1 hcounters).1
  · intro h
    cases hlive : (db.budgets.find? key).filter (·.isLive) with
    | none => exact ⟨db, .inl ⟨rfl, rfl⟩⟩
    | some budget =>
      exact ⟨_, .inr ⟨budget, _, rfl,
        DepartmentBudget.withCounters_eq_some.2 ⟨h budget hlive, rfl⟩, rfl⟩⟩

/-- The budget of a reimbursement can fail only for its counter. -/
theorem persist_reimbursed_iff {row : Expense} (hmem : row ∈ db.expenses)
    (hstatus : row.status = .APPROVED) {now : Instant} :
    (∃ db', persistTransition cfg.budgetTimeZone (toExpenseBudgetSnapshot (row.toEntity none none))
      (ExpenseReimbursement.reimbursed (row.toEntity none none) now) db = .ok ((), db')) ↔
        FitsBudget cfg db row := by
  obtain ⟨entity, hentity⟩ : ∃ entity,
    entity = ExpenseReimbursement.reimbursed (row.toEntity none none) now := ⟨_, rfl⟩
  obtain ⟨saved, hsaved⟩ : ∃ saved,
    saved = { db with expenses := db.expenses.replace (row.save entity) } := ⟨_, rfl⟩
  have hsave : ∀ u db', saveExpense entity db = .ok (u, db') ↔ db' = saved := by
    intro u db'
    have hfound : db.expenses.find? entity.id = some row := by
      rw [hentity]
      exact Table.find?_of_mem hmem
    rw [saveExpense_eq_ok, hfound, hsaved]
    simp only [Option.some.injEq, exists_eq_left']
  have hmove : isReimbursementTransition (some (toExpenseBudgetSnapshot (row.toEntity none none)))
      (some (toExpenseBudgetSnapshot entity)) = true := by
    have hbefore : (toExpenseBudgetSnapshot (row.toEntity none none)).status = .APPROVED := hstatus
    have hafter : (toExpenseBudgetSnapshot entity).status = .REIMBURSED := by rw [hentity]; rfl
    simp only [isReimbursementTransition, Option.map_some, hbefore, hafter, decide_true,
      Bool.and_self]
  have hkey : (toExpenseBudgetSnapshot entity).budgetKey cfg.budgetTimeZone saved =
      row.snapshot.budgetKey cfg.budgetTimeZone db := by rw [hsaved, hentity]; rfl
  have hamount : (toExpenseBudgetSnapshot entity).amount = row.amount.val := by rw [hentity]; rfl
  have hbudgets : saved.budgets = db.budgets := by rw [hsaved]
  rw [← hentity, FitsBudget]
  simp only [persistTransition, Transaction.bind_eq_ok, hsave, exists_eq_left,
    syncCommittedAmountForExpenseTransition, if_pos hmove, syncReimbursedAmountForExpense,
    Transaction.read_bind, hkey, hamount, ← hbudgets, exists_const]
  cases row.snapshot.budgetKey cfg.budgetTimeZone db with
  | none =>
    refine iff_of_true ⟨saved, rfl⟩ ?_
    intro key budget hnone
    cases hnone
  | some key =>
    refine (updateReimbursed_iff row.amount.property.ne').trans ⟨?_, fun h budget => h key budget rfl⟩
    intro h key' budget hsome hlive
    cases hsome
    exact h budget hlive

theorem reimburseItem_isOk_iff :
    (reimburseItem cfg authUser item db).isOk = true ↔ Reimbursable cfg authUser db item := by
  have hpermission : ExpenseReimbursement.assertCanReimburseExpense authUser = .ok () ↔
      hasPermission authUser .REIMBURSE .EXPENSE none = true := by
    unfold ExpenseReimbursement.assertCanReimburseExpense
    split <;> simp_all
  rw [isOk_iff, reimburseItem, ExpenseReimbursement.reimburse, Reimbursable, ← hpermission]
  simp only [Transaction.lift_bind_eq_ok, Transaction.query_bind_eq_ok,
    Transaction.require_bind_eq_ok]
  constructor
  · rintro ⟨u, db', _, hallowed, expense, hload, hstatus, h⟩
    obtain ⟨row, hfind, hmem, rfl⟩ := loadExpenseForMutation_eq_ok hload
    obtain ⟨_, db₁, hpersist, hpublish⟩ := Transaction.bind_eq_ok.1 h
    obtain ⟨hevents, -⟩ := (publishTransitions_eq_ok (List.nodup_singleton _)).1 hpublish
    have hfits := (persist_reimbursed_iff hmem hstatus).1 ⟨db₁, hpersist⟩
    obtain ⟨_, _, -, rfl, -⟩ := persistTransition_ok hpersist
    exact ⟨hallowed, row, hfind, hstatus, hfits, hevents _ List.mem_cons_self⟩
  · rintro ⟨hallowed, row, hfind, hstatus, hfits, hevent⟩
    have hmem := (findEntityByReference_eq_ok hfind).1
    obtain ⟨db₁, hpersist⟩ := (persist_reimbursed_iff hmem hstatus).2 hfits
    have hload : loadExpenseForMutation db item.reference = .ok (row.toEntity none none) := by
      rw [loadExpenseForMutation, hfind]
      rfl
    refine ⟨(), _, (), hallowed, _, hload, hstatus, Transaction.bind_eq_ok.2 ⟨(), db₁, hpersist,
      (publishTransitions_eq_ok (List.nodup_singleton _)).2 ⟨?_, rfl⟩⟩⟩
    obtain ⟨_, _, -, rfl, -⟩ := persistTransition_ok hpersist
    intro eventType heventType
    rw [List.mem_singleton.1 heventType]
    exact hevent

theorem accepted_iff {op : BulkOperation} :
    accepted (op.single cfg authUser) (item, db) = true ↔ op.Feasible cfg authUser db item := by
  unfold accepted
  cases op with
  | approve input => exact approveItem_isOk_iff
  | reject comment => exact rejectItem_isOk_iff
  | reimburse => exact reimburseItem_isOk_iff

end Feasibility

/-! ## Partitions -/

/-- What a bulk call is to do with a list of references: every item comes to what the single
    operation does in the state it finds; a reference is in one of the lists; what
    succeeded was done once, and what failed was left. -/
structure Partition (message : HttpException → String) (single : Item → Tx Unit)
    (items : List Item) (references : List String) (db : Db) (result : BulkActionResult)
    (db' : Db) : Prop where
  succeeded_eq : result.succeeded =
    ((visits single db items).filter (accepted single)).map (·.1.reference)
  failed_eq : result.failed = (visits single db items).filterMap (failureOf message single)
  stored : db' = runBatch single db items
  exactlyOne : ∀ reference ∈ references,
    Xor (reference ∈ result.succeeded) (reference ∈ result.failed.map (·.reference))
  once : ∀ reference ∈ result.succeeded, ∀ id, expenseId db reference = some id →
    (visits single db items).countP (fun visit =>
      expenseId db visit.1.reference = some id && accepted single visit) = 1
  untouched : ∀ reference ∈ result.failed.map (·.reference), ∀ id,
    expenseId db reference = some id → recordOf db' id = recordOf db id

/-- A call that is refused as a whole leaves the database. -/
def Partitions (cfg : Config) (driverMessage : String → String) (draws : Nat → Drawn)
    (authUser : AuthUser) (references : List String) (db : Db) (op : BulkOperation) : Prop :=
  match op.perform cfg driverMessage draws authUser references db with
  | (.ok result, db') =>
    Partition (·.message driverMessage) (op.single cfg authUser)
      (itemsOf draws (op.handled references)) references db result db'
  | (.error _, db') => db' = db

section Partitions

variable {cfg : Config} {driverMessage : String → String} {draws : Nat → Drawn}
  {authUser : AuthUser} {references : List String} {db : Db} {op : BulkOperation}
  {message : HttpException → String} {items : List Item}

theorem failureOf_eq_some {single : Item → Tx Unit} {visit : Item × Db} {failure : Failure}
    (h : failureOf message single visit = some failure) :
    accepted single visit = false ∧ failure.reference = visit.1.reference := by
  unfold failureOf at h
  unfold accepted
  cases hresult : single visit.1 visit.2 with
  | ok r =>
    rw [hresult] at h
    cases h
  | error e =>
    rw [hresult] at h
    cases h
    exact ⟨rfl, rfl⟩

theorem mem_failed {single : Item → Tx Unit} {reference : String} :
    reference ∈ ((visits single db items).filterMap (failureOf message single)).map (·.reference) ↔
      ∃ visit ∈ visits single db items, accepted single visit = false ∧
        visit.1.reference = reference := by
  simp only [List.mem_map, List.mem_filterMap]
  constructor
  · rintro ⟨failure, ⟨visit, hmem, hfailure⟩, rfl⟩
    obtain ⟨hrefused, href⟩ := failureOf_eq_some hfailure
    exact ⟨visit, hmem, hrefused, href.symm⟩
  · rintro ⟨visit, hmem, hrefused, rfl⟩
    cases hresult : single visit.1 visit.2 with
    | ok r =>
      rw [accepted, hresult] at hrefused
      cases hrefused
    | error e =>
      refine ⟨⟨visit.1.reference, message e⟩, ⟨visit, hmem, ?_⟩, rfl⟩
      rw [failureOf, hresult]

theorem mem_succeeded {single : Item → Tx Unit} {reference : String} :
    reference ∈ ((visits single db items).filter (accepted single)).map (·.1.reference) ↔
      ∃ visit ∈ visits single db items, accepted single visit = true ∧
        visit.1.reference = reference := by
  simp only [List.mem_map, List.mem_filter, and_assoc]

/-- The lists of a call that runs, or its refusal. -/
theorem perform_cases (cfg : Config) (driverMessage : String → String) (draws : Nat → Drawn)
    (authUser : AuthUser) (references : List String) (db : Db) (op : BulkOperation) :
    op.perform cfg driverMessage draws authUser references db =
      (.ok (buildBulkResult
        (((visits (op.single cfg authUser) db (itemsOf draws (op.handled references))).filter
          (accepted (op.single cfg authUser))).map (·.1.reference))
        ((visits (op.single cfg authUser) db (itemsOf draws (op.handled references))).filterMap
          (failureOf (·.message driverMessage) (op.single cfg authUser)))),
        runBatch (op.single cfg authUser) db (itemsOf draws (op.handled references))) ∨
    (∃ e, op.perform cfg driverMessage draws authUser references db = (.error e, db)) ∧
      ∀ db item, ¬ op.Feasible cfg authUser db item := by
  cases op with
  | approve input =>
    refine .inl ?_
    rw [perform, bulkApproveByReference, handleItems, foldl_handleItem]
    simp only [Progress.finish, List.nil_append]
    rfl
  | reject comment =>
    refine .inl ?_
    rw [perform, bulkRejectByReference, handleItems, foldl_handleItem]
    simp only [Progress.finish, List.nil_append]
    rfl
  | reimburse =>
    rw [perform, bulkReimburse, handleItems, foldl_handleItem]
    cases hallowed : ExpenseReimbursement.assertCanReimburseExpense authUser with
    | ok u =>
      refine .inl ?_
      simp only [Progress.finish, List.nil_append]
      rfl
    | error e =>
      refine .inr ⟨⟨e, rfl⟩, fun db item hfeasible => ?_⟩
      have hpermission : hasPermission authUser .REIMBURSE .EXPENSE none = true := hfeasible.1
      rw [ExpenseReimbursement.assertCanReimburseExpense, if_pos hpermission] at hallowed
      cases hallowed

/-- An item is a call of the operation on the expense its string names. -/
theorem single_reaches (op : BulkOperation) (item : Item) (db : Db) :
    Reaches (Step cfg) db ((op.single cfg authUser item).commit db) := by
  cases op with
  | approve input =>
    rw [single, approveItem, Approval.approveByReference]
    rcases Transaction.commit_query_bind
      (Approval.resolveExpenseIdForDecision · authUser item.reference)
      (fun id => Approval.approve cfg item.drawn.now authUser id (input.getD ⟨none, false⟩)) db with
      ⟨id, -, hcommit⟩ | hsame
    · rw [hcommit]
      exact .single ⟨.approve item.drawn.now authUser id (input.getD ⟨none, false⟩), rfl⟩
    · rw [hsame]
      exact .refl
  | reject comment =>
    rw [single, rejectItem, Approval.rejectByReference]
    rcases Transaction.commit_query_bind
      (Approval.resolveExpenseIdForDecision · authUser item.reference)
      (fun id => Approval.reject cfg item.drawn.now authUser id item.drawn.commentReference
        comment) db with ⟨id, -, hcommit⟩ | hsame
    · rw [hcommit]
      exact .single ⟨.reject item.drawn.now authUser id item.drawn.commentReference comment, rfl⟩
    · rw [hsame]
      exact .refl
  | reimburse => exact .single ⟨.reimburse item.drawn.now authUser item.reference, rfl⟩

theorem runBatch_reaches (op : BulkOperation) (items : List Item) (db : Db) :
    Reaches (Step cfg) db (runBatch (op.single cfg authUser) db items) := by
  induction items generalizing db with
  | nil => exact Reaches.refl
  | cons item rest ih => exact (single_reaches op item db).trans (ih _)

/-- A bulk call is a run of the system: what holds over its runs holds over bulk calls too. -/
theorem perform_reaches (op : BulkOperation) (references : List String) (db : Db) :
    Reaches (Step cfg) db (op.perform cfg driverMessage draws authUser references db).2 := by
  rcases perform_cases cfg driverMessage draws authUser references db op with h | ⟨⟨e, h⟩, -⟩
  · rw [h]
    exact runBatch_reaches op _ db
  · rw [h]
    exact Reaches.refl

/-- The result of the loop is a partition exactly when every expense is named once at most, or
    by refused items only. -/
theorem partition_iff (hreferences : ∀ reference ∈ references,
      ∃ item ∈ items, item.reference = reference) :
    Partition message (op.single cfg authUser) items references db
      (buildBulkResult
        (((visits (op.single cfg authUser) db items).filter
          (accepted (op.single cfg authUser))).map (·.1.reference))
        ((visits (op.single cfg authUser) db items).filterMap
          (failureOf message (op.single cfg authUser))))
      (runBatch (op.single cfg authUser) db items) ↔
    ∀ id, items.countP (fun item => expenseId db item.reference = some id) ≤ 1 ∨
      ∀ visit ∈ visits (op.single cfg authUser) db items,
        expenseId db visit.1.reference = some id →
          accepted (op.single cfg authUser) visit = false := by
  have hinv : (batch cfg authUser op db).Inv db := fun _ => rfl
  have honce := Batch.once_iff hinv items
  simp only [Batch.acceptances, Batch.Names, batch_single, batch_view, batch_subject] at honce
  rw [← honce]
  constructor
  · intro h
    constructor
    · intro visit hvisit id hid hrefused
      exact h.untouched _ (mem_failed.2 ⟨visit, hvisit, hrefused, rfl⟩) id hid
    · intro visit hvisit id hid haccepted
      exact h.once _ (mem_succeeded.2 ⟨visit, hvisit, haccepted, rfl⟩) id hid
  · intro h
    obtain ⟨huntouched, hone⟩ := h
    have hexclusive : ∀ visit ∈ visits (op.single cfg authUser) db items,
        ∀ other ∈ visits (op.single cfg authUser) db items,
          accepted (op.single cfg authUser) visit = true →
            accepted (op.single cfg authUser) other = false →
              other.1.reference ≠ visit.1.reference := by
      intro visit hvisit other hother haccepted hrefused hsame
      obtain ⟨id, hid⟩ := Batch.subject_of_accepted hinv hvisit haccepted
      rw [batch_subject] at hid
      have hview := Batch.view_eq_iff hinv items id
      rw [batch_single, batch_view, Batch.acceptances_eq_zero, batch_single] at hview
      have hleft := huntouched other hother id (by rw [hsame, hid]) hrefused
      have hnone := hview.1 hleft visit hvisit (by rw [batch_subject, hid])
      cases haccepted.symm.trans hnone
    refine ⟨rfl, rfl, rfl, fun reference hreference => ?_, fun reference hreference id hid => ?_,
      fun reference hreference id hid => ?_⟩
    · obtain ⟨item, hitem, rfl⟩ := hreferences reference hreference
      rw [← map_fst_visits (op.single cfg authUser) db items, List.mem_map] at hitem
      obtain ⟨visit, hvisit, rfl⟩ := hitem
      by_cases haccepted : accepted (op.single cfg authUser) visit = true
      · refine .inl ⟨mem_succeeded.2 ⟨visit, hvisit, haccepted, rfl⟩, fun hfailed => ?_⟩
        obtain ⟨other, hother, hrefused, hsame⟩ := mem_failed.1 hfailed
        exact hexclusive visit hvisit other hother haccepted hrefused hsame
      · have hrefused := Bool.eq_false_of_not_eq_true haccepted
        refine .inr ⟨mem_failed.2 ⟨visit, hvisit, hrefused, rfl⟩, fun hsucceeded => ?_⟩
        obtain ⟨other, hother, hother', hsame⟩ := mem_succeeded.1 hsucceeded
        exact hexclusive other hother visit hvisit hother' hrefused hsame.symm
    · obtain ⟨visit, hvisit, haccepted, rfl⟩ := mem_succeeded.1 hreference
      exact hone visit hvisit id hid haccepted
    · obtain ⟨visit, hvisit, hrefused, rfl⟩ := mem_failed.1 hreference
      exact huntouched visit hvisit id hid hrefused

/-- A bulk call partitions its references exactly when every expense is named by one of the
    strings at most, or goes through for none of the items that name it. -/
theorem partitions_iff (cfg : Config) (driverMessage : String → String) (draws : Nat → Drawn)
    (authUser : AuthUser) (references : List String) (db : Db) (op : BulkOperation) :
    op.Partitions cfg driverMessage draws authUser references db ↔
      ∀ id, (op.handled references).countP (fun reference => expenseId db reference = some id) ≤ 1 ∨
        ∀ visit ∈ visits (op.single cfg authUser) db (itemsOf draws (op.handled references)),
          expenseId db visit.1.reference = some id → ¬ op.Feasible cfg authUser visit.2 visit.1 := by
  have hcount : ∀ id, (itemsOf draws (op.handled references)).countP (fun item =>
      expenseId db item.reference = some id) =
        (op.handled references).countP (fun reference => expenseId db reference = some id) := by
    intro id
    conv_rhs => rw [← map_reference_itemsOf draws (op.handled references), List.countP_map]
    simp only [Function.comp_def]
  have hreferences : ∀ reference ∈ references,
      ∃ item ∈ itemsOf draws (op.handled references), item.reference = reference := by
    intro reference hmem
    have hhandled : reference ∈ op.handled references := by
      cases op with
      | approve input => exact hmem
      | reject comment => exact hmem
      | reimburse => exact List.mem_eraseDups.2 hmem
    rwa [← map_reference_itemsOf draws (op.handled references), List.mem_map] at hhandled
  have hrefused : ∀ visit : Item × Db, ¬ op.Feasible cfg authUser visit.2 visit.1 ↔
      accepted (op.single cfg authUser) visit = false := by
    intro visit
    rw [← accepted_iff, Bool.not_eq_true]
  simp only [hrefused, ← hcount]
  rcases perform_cases cfg driverMessage draws authUser references db op with
    hran | ⟨⟨e, hrefusal⟩, hnone⟩
  · rw [Partitions, hran]
    exact partition_iff hreferences
  · rw [Partitions, hrefusal]
    exact iff_of_true rfl fun id => .inr fun visit _ _ => (hrefused visit).1 (hnone _ _)

end Partitions

/-! ## A reference sent twice -/

section Sample

open Sample

/-- The manager approves a submitted expense twice in one call: the second item is refused at
    the finance stage. -/
theorem repeated_reference_in_both :
    ¬ (approve none).Partitions config id (fun _ => ⟨now, "COM1700000000001AAAAAA"⟩) authManager
      [expenseReference, expenseReference] (runAll config [createExpense, submit] db) := by
  intro h
  have hlists : ((approve none).perform config id (fun _ => ⟨now, "COM1700000000001AAAAAA"⟩)
      authManager [expenseReference, expenseReference]
      (runAll config [createExpense, submit] db)).1.toOption.map
        (fun result => (result.succeeded, result.failed.map (·.reference))) =
      some ([expenseReference], [expenseReference]) := by decide +kernel
  unfold Partitions at h
  cases hperform : (approve none).perform config id (fun _ => ⟨now, "COM1700000000001AAAAAA"⟩)
      authManager [expenseReference, expenseReference] (runAll config [createExpense, submit] db) with
  | mk outcome db' =>
    rw [hperform] at h hlists
    cases outcome with
    | error e => cases hlists
    | ok result =>
      obtain ⟨hsucceeded, hfailed⟩ := Prod.mk.inj (Option.some.inj hlists)
      have hone := h.exactlyOne expenseReference List.mem_cons_self
      rw [hsucceeded, hfailed] at hone
      exact (xor_self _).mp hone

end Sample

end BulkOperation

end Expentra
