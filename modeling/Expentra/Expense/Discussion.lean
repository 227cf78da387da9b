-- SUMMARY: The discussion and the timeline of an expense: every comment, reason and decision is shown once.
import Expentra.Audit.Log
import Expentra.Expense.Dates
import Expentra.Library.Interleaving

/-!
# Discussions

Who may read an expense may comment on it, and a rejection leaves its reason twice: with the
decision and as a comment. The discussion shows the comments, and the reasons no comment gives.
The timeline joins the comments, the decisions and the audit log, and leaves out of the log
what the others say already.
-/

namespace Expentra

open Library Library.Concurrent

/-! ## Comments -/

structure CommentRequest where
  authUser : AuthUser
  expenseReference : String
  body : String

inductive CommentThread where
  | saving (expenseId userId : Nat) (body : String)
  | publishing (comment : ExpenseComment)
  | finished (comment : ExpenseComment)
  | refused (e : HttpException)
  | failed
deriving DecidableEq

/-- What the database answers to the statement of a thread. -/
inductive CommentOutcome where
  | saves (reference : String) (now : Instant)
  | publishes
  | fails

namespace ExpenseCommentService

def NON_COMMENTABLE_STATUSES : List ExpenseStatus := [.APPROVED, .REIMBURSED]

/-- The expense with its owner, if the user may read it. -/
def loadReadableExpense (db : Db) (authUser : AuthUser) (expenseReference : String) :
    Except HttpException ExpenseEntity :=
  match ExpenseMutationSupport.findExpense db expenseReference with
  | .error e => .error e
  | .ok row =>
    let expense := row.toEntity none (db.users.find? row.userId)
    if ExpenseAccessPolicy.canReadExpense authUser expense then .ok expense
    else .error (.forbidden "You do not have access to this expense")

def assertCanAddComment (expense : ExpenseEntity) : Except HttpException Unit :=
  if NON_COMMENTABLE_STATUSES.contains expense.status then
    .error (.conflict "Comments cannot be added after an expense has been approved")
  else .ok ()

/-- The checks of `addComment`, and what is left to save. -/
def prepareComment (db : Db) (request : CommentRequest) : Except HttpException CommentThread :=
  let trimmed := Js.trim request.body
  if trimmed = "" then .error (.badRequest "Comment body cannot be empty")
  else do
    let expense ← loadReadableExpense db request.authUser request.expenseReference
    assertCanAddComment expense
    pure (.saving expense.id request.authUser.id trimmed)

/-- `save`: the expense must be there. -/
def saveComment (db : Db) (comment : ExpenseComment) : Db × CommentThread :=
  if (db.expenses.find? comment.expenseId).isSome then
    ({ db with comments := db.comments ++ [comment] }, .publishing comment)
  else (db, .failed)

/-- The statements of `addComment`. A comment stays when its event is not published. -/
def addComment (db : Db) : CommentThread → CommentOutcome → Option (Db × CommentThread)
  | .saving expenseId userId body, .saves reference now =>
    some (saveComment db ⟨reference, expenseId, userId, body, now⟩)
  | .publishing comment, .publishes =>
    some ({ db with outbox := db.outbox ++ [⟨.expenseCommentAdded, none⟩] }, .finished comment)
  | .saving _ _ _, .fails => some (db, .failed)
  | .publishing _, .fails => some (db, .failed)
  | _, _ => none

/-- Requests to comment, among the operations on the expenses. -/
def discussion (cfg : Config) : Concurrent Db CommentThread CommentRequest CommentOutcome Operation where
  start db request := some (db, match prepareComment db request with
    | .ok t => t
    | .error e => .refused e)
  step _ db t outcome := addComment db t outcome
  surroundings db op := some ((op.perform cfg).commit db)

/-! ## The discussion -/

/-- The database with the audit log and the references of the decisions. -/
structure DiscussionTables where
  db : Db
  audits : List AuditLog
  approvalReference : Nat × Nat → String

def inOrder {ρ : Type} (time : ρ → Instant) (rows : List ρ) : List ρ :=
  rows.insertionSort (fun left right => time left ≤ time right)

def commentsOf (db : Db) (expenseId : Nat) : List ExpenseComment :=
  db.comments.filter (fun comment => comment.expenseId = expenseId)

def hasMatchingRejectionComment (approval : ExpenseApproval) (comments : List ExpenseComment) : Bool :=
  match approval.comment with
  | none => true
  | some text => Js.trim text = "" || comments.any (fun comment =>
      comment.userId = approval.approverId && Js.trim comment.body = Js.trim text &&
        (comment.createdAt - approval.decidedAt).natAbs < 60000)

def toCommentFromRejectionApproval (t : DiscussionTables) (approval : ExpenseApproval) : ExpenseComment where
  reference := t.approvalReference approval.key
  expenseId := approval.expenseId
  userId := approval.approverId
  body := Js.trim (approval.comment.getD "")
  createdAt := approval.decidedAt

def legacyRejectionComments (t : DiscussionTables) (expenseId : Nat) : List ExpenseComment :=
  (((t.db.approvalsOf expenseId).filter (fun approval => approval.decision = .REJECTED)).filter
    (fun approval => approval.comment.any (fun text => Js.trim text ≠ "") &&
      !hasMatchingRejectionComment approval (commentsOf t.db expenseId))).map
    (toCommentFromRejectionApproval t)

def listComments (t : DiscussionTables) (authUser : AuthUser) (expenseReference : String) :
    Except HttpException (List ExpenseComment) :=
  (loadReadableExpense t.db authUser expenseReference).map (fun expense =>
    inOrder (·.createdAt) (commentsOf t.db expense.id ++ legacyRejectionComments t expense.id))

/-! ## The timeline -/

end ExpenseCommentService

inductive ActivityType where
  | COMMENT
  | APPROVAL
  | AUDIT
deriving DecidableEq, Repr

/-- The actor is shown by reference and email. -/
structure ExpenseActivityItem where
  type : ActivityType
  reference : String
  occurredAt : Instant
  actor : Option (String × String)
  summary : String
  metadata : Option Metadata
deriving DecidableEq

def AuditAction.value : AuditAction → String
  | .EXPENSE_CREATED => "EXPENSE_CREATED"
  | .EXPENSE_SUBMITTED => "EXPENSE_SUBMITTED"
  | .EXPENSE_APPROVED => "EXPENSE_APPROVED"
  | .EXPENSE_REJECTED => "EXPENSE_REJECTED"
  | .EXPENSE_REIMBURSED => "EXPENSE_REIMBURSED"
  | .EXPENSE_REOPENED => "EXPENSE_REOPENED"
  | .EXPENSE_COMMENT_ADDED => "EXPENSE_COMMENT_ADDED"
  | .POLICY_VIOLATION => "POLICY_VIOLATION"
  | .DELEGATION_CREATED => "DELEGATION_CREATED"
  | .DELEGATION_REVOKED => "DELEGATION_REVOKED"
  | .DEPARTMENT_MANAGER_CHANGED => "DEPARTMENT_MANAGER_CHANGED"
  | .USER_DEPARTMENT_CHANGED => "USER_DEPARTMENT_CHANGED"
  | .USER_SUSPENDED => "USER_SUSPENDED"
  | .ROLE_PERMISSIONS_CHANGED => "ROLE_PERMISSIONS_CHANGED"
  | .USER_ROLE_CHANGED => "USER_ROLE_CHANGED"

namespace ExpenseCommentService

def actorOf (db : Db) (userId : Nat) : Option (String × String) :=
  (db.users.find? userId).map (fun user => (user.reference, user.email))

def formatApprovalActivitySummary (db : Db) (approval : ExpenseApproval) : String :=
  let levelName := ((db.levels.find? approval.approvalLevelId).map (·.name)).getD "approval level"
  if approval.decision = .REJECTED then s!"Rejected at {levelName}" else s!"Approved at {levelName}"

def commentItem (t : DiscussionTables) (comment : ExpenseComment) : ExpenseActivityItem where
  type := .COMMENT
  reference := comment.reference
  occurredAt := comment.createdAt
  actor := actorOf t.db comment.userId
  summary := comment.body
  metadata := none

def approvalItem (t : DiscussionTables) (approval : ExpenseApproval) : ExpenseActivityItem where
  type := .APPROVAL
  reference := t.approvalReference approval.key
  occurredAt := approval.decidedAt
  actor := actorOf t.db approval.approverId
  summary := formatApprovalActivitySummary t.db approval
  metadata := some [("decision", .str (if approval.decision = .REJECTED then "REJECTED" else "APPROVED")),
    ("comment", (approval.comment.map Json.str).getD .null)]

def auditItem (t : DiscussionTables) (audit : AuditLog) : ExpenseActivityItem where
  type := .AUDIT
  reference := audit.reference
  occurredAt := audit.createdAt
  actor := audit.actorId.bind (actorOf t.db)
  summary := audit.action.value
  metadata := some audit.metadata

def hasApprovalDecision (approvals : List ExpenseApproval) (decision : ApprovalDecision) : Bool :=
  approvals.any (fun approval => approval.decision = decision)

def filterRedundantActivityAudits (audits : List AuditLog) (approvals : List ExpenseApproval) :
    List AuditLog :=
  audits.filter (fun audit => match audit.action with
    | .EXPENSE_COMMENT_ADDED => false
    | .EXPENSE_APPROVED => !hasApprovalDecision approvals .APPROVED
    | .EXPENSE_REJECTED => !hasApprovalDecision approvals .REJECTED
    | _ => true)

def getActivityTimeline (t : DiscussionTables) (authUser : AuthUser) (expenseReference : String) :
    Except HttpException (List ExpenseActivityItem) :=
  (loadReadableExpense t.db authUser expenseReference).map (fun expense =>
    let approvals := t.db.approvalsOf expense.id
    let audits := t.audits.filter (fun audit => audit.resourceReference = expense.reference)
    inOrder (·.occurredAt) ((commentsOf t.db expense.id).map (commentItem t) ++
      approvals.map (approvalItem t) ++
      (filterRedundantActivityAudits audits approvals).map (auditItem t)))

/-! ## What is kept -/

/-- The comment gives the reason of a rejection. -/
structure ReasonOf (approval : ExpenseApproval) (comment : ExpenseComment) : Prop where
  expenseId : comment.expenseId = approval.expenseId
  userId : comment.userId = approval.approverId
  body : approval.comment = some comment.body
  createdAt : comment.createdAt = approval.decidedAt
  nonempty : comment.body ≠ ""

/-- Every rejection has its reason among the comments, and every rejected expense its rejection. -/
structure Explained (db : Db) : Prop where
  reasons : ∀ a ∈ db.approvals, a.decision = .REJECTED → ∃ c ∈ db.comments, ReasonOf a c
  rejected : ∀ row ∈ db.expenses, row.status = .REJECTED →
    ∃ a ∈ db.approvals, a.expenseId = row.id ∧ a.decision = .REJECTED

/-- A saved comment is there as long as its expense is. -/
structure Kept (db : Db) (comment : ExpenseComment) : Prop where
  numbered : comment.expenseId < db.nextExpenseId
  kept : comment ∈ db.comments ∨ ∀ e ∈ db.expenses, e.id ≠ comment.expenseId

def CommentAssertion (db : Db) : CommentThread → Prop
  | .publishing comment | .finished comment => Kept db comment
  | _ => True

section Steps

variable {cfg : Config} {db db' : Db} {op : Operation} {row : Expense} {after : ExpenseEntity}
  {approvals : Table ExpenseApproval.key} {comments : List ExpenseComment} {events : List OutboxEvent}
  {u : Unit}

theorem comments_eq (h : Transition cfg db row after approvals comments events db') :
    db'.comments = db.comments ++ comments := by
  obtain ⟨_, rfl, -⟩ := h.effect
  rfl

/-- What is no transition of an expense leaves the comments alone. -/
theorem comments_of_ok (htransition : op.isTransition = false) (hadds : op.addsOrRemoves = false)
    (h : op.perform cfg db = .ok ((), db')) : db'.comments = db.comments := by
  cases op with
  | uploadReceipt authUser reference attachmentReference =>
    rw [Operation.perform] at h
    obtain ⟨_, -, -, rfl⟩ := Receipts.upload_ok h
    rfl
  | removeReceipt authUser reference receiptReference =>
    rw [Operation.perform] at h
    obtain ⟨_, -, -, _, -, rfl⟩ := Receipts.remove_ok h
    rfl
  | createDelegation now reference delegator input =>
    rw [Operation.perform] at h
    obtain ⟨_, -, -, -, -, rfl⟩ := Delegation.create_ok h
    rfl
  | revokeDelegation delegatorId reference =>
    rw [Operation.perform] at h
    obtain ⟨_, rfl⟩ := Delegation.revoke_ok h
    rfl
  | createLevel reference input =>
    rw [Operation.perform] at h
    obtain ⟨_, _, rfl⟩ := ApprovalLevels.create_ok h
    rfl
  | updateLevel reference input =>
    rw [Operation.perform] at h
    obtain ⟨_, _, rfl⟩ := ApprovalLevels.update_ok h
    rfl
  | removeLevel reference =>
    rw [Operation.perform] at h
    obtain ⟨_, _, rfl⟩ := ApprovalLevels.remove_ok h
    rfl
  | updateDepartment reference input =>
    rw [Operation.perform] at h
    obtain ⟨_, _, _, -, -, rfl, -⟩ := DepartmentService.update_ok h
    rfl
  | createBudget now reference input =>
    rw [Operation.perform] at h
    obtain ⟨_, _, _, -, -, rfl, -⟩ := BudgetService.create_ok h
    rfl
  | updateBudget reference input =>
    rw [Operation.perform] at h
    obtain ⟨_, -, _, -, rfl, -⟩ := BudgetService.update_ok h
    rfl
  | createExpense | removeExpense => cases hadds
  | _ => cases htransition

/-- A rejection records its reason twice. -/
theorem reject_reason {now : Instant} {authUser : AuthUser} {expenseId : Nat}
    {commentReference comment : String}
    (h : Approval.reject cfg now authUser expenseId commentReference comment db = .ok (u, db')) :
    ∃ row ∈ db.expenses, ∃ a c, a.expenseId = row.id ∧ a.decision = .REJECTED ∧ ReasonOf a c ∧
      db.approvals.insert? a = some db'.approvals ∧ db'.comments = db.comments ++ [c] ∧
      db'.expenses = db.expenses.replace (row.save (Approval.rejected (db.withRelations row) now)) := by
  obtain ⟨row, stage, approvals, db₁, db₂, hcomment, -, hrow, hready, hins, hpersist, hcommented,
    hpublish⟩ := Approval.reject_eq_ok.1 h
  obtain ⟨-, rfl⟩ := publish_eq_ok.1 hcommented
  obtain ⟨-, rfl⟩ := (publishTransitions_eq_ok (List.nodup_singleton _)).1 hpublish
  obtain ⟨row', budgets, hrow', rfl, -⟩ := persistTransition_ok hpersist
  have hmem := Table.mem_of_find? hrow
  have hfound : db.expenses.find? row.id = some row := Table.find?_of_mem hmem
  cases hfound.symm.trans hrow'
  exact ⟨row, hmem, _, ⟨commentReference, row.id, authUser.id, Js.trim comment, now⟩, rfl, rfl,
    ⟨rfl, rfl, rfl, rfl, hcomment⟩, hins, rfl, rfl⟩

/-- A transition that rejects nothing keeps the rejections of the other expenses. -/
theorem Explained.transition (h : Explained db)
    (htrans : Transition cfg db row after approvals comments events db')
    (hold : ∀ a ∈ approvals, a.decision = .REJECTED → a ∈ db.approvals)
    (hkept : ∀ a ∈ db.approvals, a.expenseId ≠ row.id → a ∈ approvals)
    (hstatus : (row.save after).status ≠ .REJECTED) : Explained db' := by
  constructor
  · intro a ha hrejected
    rw [htrans.approvals_eq] at ha
    obtain ⟨c, hc, hreason⟩ := h.reasons a (hold a ha hrejected) hrejected
    exact ⟨c, comments_eq htrans ▸ List.mem_append_left _ hc, hreason⟩
  · intro e he hrejected
    rcases htrans.eq_or_mem he with rfl | ⟨he, hid⟩
    · exact absurd hrejected hstatus
    · obtain ⟨a, ha, hexpense, hdecision⟩ := h.rejected e he hrejected
      exact ⟨a, htrans.approvals_eq ▸ hkept a ha (hexpense ▸ hid), hexpense, hdecision⟩

theorem submitted_ne_rejected (departmentId : Nat) (submitAt : Instant) : (row.save
    (ExpenseSubmit.submitted (ExpenseSubmit.routed db row departmentId) db.activeLevels submitAt)).status ≠
      .REJECTED := by
  rw [ExpenseSubmit.submitted_eq]
  rcases ApprovalRouting.resolveInitialSubmitStatus_cases (ExpenseSubmit.routed db row departmentId)
    db.activeLevels with hs | hs | hs <;> simp [Expense.save, hs]

theorem Explained.moves (h : Explained db)
    (htrans : Transition cfg db row after approvals comments events db')
    (hmoves : Moves db row op after approvals)
    (hop : ∀ now authUser expenseId commentReference comment,
      op ≠ .reject now authUser expenseId commentReference comment) : Explained db' := by
  cases hmoves with
  | edit hdraft hedit =>
    refine h.transition htrans (fun _ ha _ => ha) (fun _ ha _ => ha) ?_
    rw [hedit]
    simp [Expense.save, Expense.toEntity, hdraft]
  | submit _ _ =>
    exact h.transition htrans (fun _ ha _ => ha) (fun _ ha _ => ha) (submitted_ne_rejected _ _)
  | approve _ _ hdecision hins hnext =>
    refine h.transition htrans (fun a ha hrejected => ?_) (fun a ha _ => ?_) ?_
    · rcases (Table.mem_insert hins).1 ha with ha | rfl
      · exact ha
      · rw [hdecision] at hrejected
        cases hrejected
    · exact (Table.mem_insert hins).2 (.inl ha)
    · rcases hnext with rfl | rfl <;> simp [Expense.save, Approval.approved]
  | reject _ _ _ => exact absurd rfl (hop _ _ _ _ _)
  | reopen _ =>
    exact h.transition htrans (fun _ ha _ => (Table.mem_keep.1 ha).1)
      (fun _ ha hid => Table.mem_keep.2 ⟨ha, decide_eq_true hid⟩)
      (by simp [Expense.save, ExpenseDraft.reopened])
  | reimburse _ =>
    exact h.transition htrans (fun _ ha _ => ha) (fun _ ha _ => ha)
      (by simp [Expense.save, ExpenseReimbursement.reimbursed])

theorem Explained.reject {now : Instant} {authUser : AuthUser} {expenseId : Nat}
    {commentReference comment : String} (h : Explained db)
    (hok : Approval.reject cfg now authUser expenseId commentReference comment db = .ok (u, db')) :
    Explained db' := by
  obtain ⟨row, hrow, a, c, hexpense, hdecision, hreason, hins, hcomments, hexpenses⟩ := reject_reason hok
  constructor
  · intro a' ha' hrejected
    rw [hcomments]
    rcases (Table.mem_insert hins).1 ha' with hold | rfl
    · obtain ⟨c', hc', hreason'⟩ := h.reasons a' hold hrejected
      exact ⟨c', List.mem_append_left _ hc', hreason'⟩
    · exact ⟨c, List.mem_append_right _ (List.mem_singleton_self c), hreason⟩
  · intro e he hrejected
    rw [hexpenses] at he
    rcases Table.eq_or_mem_of_mem_replace he with rfl | ⟨he, -⟩
    · exact ⟨a, (Table.mem_insert hins).2 (.inr rfl), hexpense, hdecision⟩
    · obtain ⟨a', ha', hexpense', hdecision'⟩ := h.rejected e he hrejected
      exact ⟨a', (Table.mem_insert hins).2 (.inl ha'), hexpense', hdecision'⟩

/-- A deletion takes the decisions of an expense with its comments. -/
theorem Explained.deleteExpense {id : Nat} (h : Explained db)
    (hdelete : ExpenseDraft.deleteExpense id db = .ok (u, db')) : Explained db' := by
  cases Transaction.write_eq_ok.1 hdelete
  constructor
  · intro a ha hrejected
    obtain ⟨ha, hid⟩ := Table.mem_keep.1 ha
    obtain ⟨c, hc, hreason⟩ := h.reasons a ha hrejected
    refine ⟨c, List.mem_filter.2 ⟨hc, ?_⟩, hreason⟩
    rw [hreason.expenseId]
    exact hid
  · intro e he hrejected
    obtain ⟨he, hid⟩ := Table.mem_keep.1 he
    obtain ⟨a, ha, hexpense, hdecision⟩ := h.rejected e he hrejected
    exact ⟨a, Table.mem_keep.2 ⟨ha, hexpense ▸ hid⟩, hexpense, hdecision⟩

theorem explained_of_ok (h : Explained db) (hok : op.perform cfg db = .ok ((), db')) : Explained db' := by
  cases htransition : op.isTransition with
  | true =>
    by_cases hop : ∃ now authUser expenseId commentReference comment,
      op = .reject now authUser expenseId commentReference comment
    · obtain ⟨now, authUser, expenseId, commentReference, comment, rfl⟩ := hop
      exact h.reject hok
    · obtain ⟨_, _, _, _, _, htrans, hmoves⟩ := transition_of_ok htransition hok
      exact h.moves htrans hmoves fun now authUser expenseId commentReference comment heq =>
        hop ⟨now, authUser, expenseId, commentReference, comment, heq⟩
  | false =>
    cases hadds : op.addsOrRemoves with
    | false =>
      obtain ⟨hframe, -⟩ := frame_of_ok htransition hadds hok
      have hcomments := comments_of_ok htransition hadds hok
      exact ⟨hframe.approvals ▸ hcomments ▸ h.reasons,
        hframe.expenses ▸ hframe.approvals ▸ h.rejected⟩
    | true =>
      rcases inserted_or_deleted_of_ok hadds hok with
        ⟨row, expenses, hins, -, ⟨_, _, _, _, _, _, _, _, hrow, -⟩, rfl⟩ | ⟨_, -, -, hdelete⟩
      · refine ⟨h.reasons, fun e he hrejected => ?_⟩
        rcases (Table.mem_insert hins).1 he with he | rfl
        · exact h.rejected e he hrejected
        · rw [hrow] at hrejected
          cases hrejected
      · exact h.deleteExpense hdelete

theorem Kept.of_ok {comment : ExpenseComment} (h : Kept db comment)
    (hok : op.perform cfg db = .ok ((), db')) : Kept db' comment := by
  cases htransition : op.isTransition with
  | true =>
    obtain ⟨row, _, _, _, _, htrans, -⟩ := transition_of_ok htransition hok
    have hnext : db'.nextExpenseId = db.nextExpenseId := by
      obtain ⟨_, rfl, -⟩ := htrans.effect
      rfl
    refine ⟨hnext ▸ h.numbered, h.kept.imp (fun hc => ?_) (fun hgone e he => ?_)⟩
    · rw [comments_eq htrans]
      exact List.mem_append_left _ hc
    · rcases htrans.eq_or_mem he with rfl | ⟨he, -⟩
      · exact hgone row htrans.mem
      · exact hgone e he
  | false =>
    cases hadds : op.addsOrRemoves with
    | false =>
      obtain ⟨hframe, -⟩ := frame_of_ok htransition hadds hok
      exact ⟨hframe.nextExpenseId ▸ h.numbered,
        comments_of_ok htransition hadds hok ▸ hframe.expenses ▸ h.kept⟩
    | true =>
      rcases inserted_or_deleted_of_ok hadds hok with
        ⟨row, expenses, hins, hid, -, rfl⟩ | ⟨row, -, -, hdelete⟩
      · refine ⟨Nat.lt_succ_of_lt h.numbered, h.kept.imp_right (fun hgone e he => ?_)⟩
        rcases (Table.mem_insert hins).1 he with he | rfl
        · exact hgone e he
        · exact hid ▸ Nat.ne_of_gt h.numbered
      · cases Transaction.write_eq_ok.1 hdelete
        refine ⟨h.numbered, ?_⟩
        by_cases hid : comment.expenseId = row.id
        · exact .inr fun e he => hid ▸ of_decide_eq_true (Table.mem_keep.1 he).2
        · exact h.kept.imp (fun hc => List.mem_filter.2 ⟨hc, decide_eq_true hid⟩)
            (fun hgone e he => hgone e (Table.mem_keep.1 he).1)

/-- A statement of `addComment` adds comments and events, and nothing else. -/
theorem addComment_spec {t t' : CommentThread} {outcome : CommentOutcome} (hnumbered : Numbered db)
    (ht : CommentAssertion db t) (hstep : addComment db t outcome = some (db', t')) :
    ∃ comments events, db' = { db with
        comments := db.comments ++ comments
        outbox := db.outbox ++ events } ∧
      (∀ event ∈ events, event.idempotencyKey = none) ∧ CommentAssertion db' t' := by
  have hsame : db = { db with comments := db.comments ++ [], outbox := db.outbox ++ [] } := by simp
  cases t with
  | saving expenseId userId body =>
    cases outcome with
    | saves reference now =>
      have hsave := Option.some.inj hstep
      unfold saveComment at hsave
      split at hsave
      · next hfound =>
        cases hsave
        obtain ⟨row, hrow⟩ := Option.isSome_iff_exists.1 hfound
        have hlt := (hnumbered.expense row (Table.mem_of_find? hrow)).2
        rw [show row.id = expenseId from Table.key_of_find? hrow] at hlt
        refine ⟨[⟨reference, expenseId, userId, body, now⟩], [], by simp, List.forall_mem_nil _, hlt, ?_⟩
        exact .inl (List.mem_append_right _ (List.mem_singleton_self _))
      · cases hsave
        exact ⟨[], [], hsame, List.forall_mem_nil _, trivial⟩
    | fails =>
      cases hstep
      exact ⟨[], [], hsame, List.forall_mem_nil _, trivial⟩
    | publishes => cases hstep
  | publishing comment =>
    cases outcome with
    | publishes =>
      cases hstep
      refine ⟨[], [⟨.expenseCommentAdded, none⟩], by simp, List.forall_mem_singleton.2 rfl, ?_⟩
      exact ⟨ht.numbered, ht.kept⟩
    | fails =>
      cases hstep
      exact ⟨[], [], hsame, List.forall_mem_nil _, trivial⟩
    | saves reference now => cases hstep
  | _ => cases outcome <;> cases hstep

theorem Kept.append {comment : ExpenseComment} (h : Kept db comment) (comments : List ExpenseComment)
    (events : List OutboxEvent) :
    Kept { db with comments := db.comments ++ comments, outbox := db.outbox ++ events } comment :=
  ⟨h.numbered, h.kept.imp_left (List.mem_append_left _)⟩

theorem Explained.append (h : Explained db) (comments : List ExpenseComment) (events : List OutboxEvent) :
    Explained { db with comments := db.comments ++ comments, outbox := db.outbox ++ events } :=
  ⟨fun a ha hrejected => (h.reasons a ha hrejected).imp fun _ hc =>
    ⟨List.mem_append_left _ hc.1, hc.2⟩, h.rejected⟩

theorem CommentAssertion.mono {t : CommentThread}
    (hkept : ∀ comment, Kept db comment → Kept db' comment) (h : CommentAssertion db t) :
    CommentAssertion db' t := by
  cases t with
  | publishing comment => exact hkept comment h
  | finished comment => exact hkept comment h
  | _ => trivial

theorem commentAssertion_prepareComment {request : CommentRequest} {t : CommentThread}
    (h : prepareComment db request = .ok t) : CommentAssertion db t := by
  unfold prepareComment at h
  dsimp only at h
  split at h
  · cases h
  · obtain ⟨expense, -, h⟩ := Except.bind_eq_ok.1 h
    obtain ⟨_, -, h⟩ := Except.bind_eq_ok.1 h
    cases h
    trivial

/-- Reasons and saved comments stay, whatever is commented and done in between. -/
theorem discussion_outline (cfg : Config) : Outline (discussion cfg) anyStep
    (fun db => Explained db ∧ Numbered db) (fun _ => CommentAssertion) where
  start := by
    intro db request db' t hdb hstart
    cases hstart
    refine ⟨hdb, fun _ => ?_, fun _ _ hu => hu⟩
    split
    · next hprepare => exact commentAssertion_prepareComment hprepare
    · trivial
  step := by
    intro i db t outcome db' t' hdb ht _ hstep
    obtain ⟨comments, events, rfl, hkeys, ht'⟩ := addComment_spec hdb.2 ht hstep
    have hframe : Frame db { db with
        comments := db.comments ++ comments
        outbox := db.outbox ++ events } := ⟨rfl, rfl, rfl, rfl, fun _ => .inl, events, rfl, hkeys⟩
    exact ⟨⟨hdb.1.append comments events, hdb.2.frame hframe⟩, ht',
      fun _ _ _ hu => hu.mono fun _ hc => hc.append comments events⟩
  surroundings := by
    intro db op db' hdb hchange
    cases hchange
    rcases Transaction.commit_cases (op.perform cfg) db with ⟨⟨⟩, hok⟩ | ⟨-, hsame⟩
    · exact ⟨⟨explained_of_ok hdb.1 hok, numbered_of_ok hok hdb.2⟩,
        fun _ _ hu => hu.mono fun _ hc => hc.of_ok hok⟩
    · rw [hsame]
      exact ⟨hdb, fun _ _ hu => hu⟩

end Steps

/-! ## What is shown -/

section Shown

variable {t : DiscussionTables} {authUser : AuthUser} {expenseReference : String}

theorem perm_inOrder {ρ : Type} (time : ρ → Instant) (rows : List ρ) : (inOrder time rows).Perm rows :=
  List.perm_insertionSort _ _

theorem sorted_inOrder {ρ : Type} (time : ρ → Instant) (rows : List ρ) :
    (inOrder time rows).Pairwise (fun left right => time left ≤ time right) := by
  have : Std.Total (fun left right : ρ => time left ≤ time right) :=
    ⟨fun left right => Int.le_total (time left) (time right)⟩
  have : IsTrans ρ (fun left right => time left ≤ time right) :=
    ⟨fun _ _ _ hab hbc => Int.le_trans hab hbc⟩
  exact List.pairwise_insertionSort _ _

theorem loadReadableExpense_ok {db : Db} {expense : ExpenseEntity}
    (h : loadReadableExpense db authUser expenseReference = .ok expense) :
    ∃ row ∈ db.expenses, row.reference = normalizeEntityReference expenseReference ∧
      expense = row.toEntity none (db.users.find? row.userId) := by
  unfold loadReadableExpense at h
  split at h
  · cases h
  · next row hrow =>
    obtain ⟨hmem, href⟩ := findEntityByReference_eq_ok hrow
    dsimp only at h
    split at h
    · cases h
      exact ⟨row, hmem, href, rfl⟩
    · cases h

/-- The comment of a rejection is found by its author, its text and its time. -/
theorem ReasonOf.matches_ {approval : ExpenseApproval} {comment : ExpenseComment}
    {comments : List ExpenseComment} (h : ReasonOf approval comment) (hmem : comment ∈ comments) :
    hasMatchingRejectionComment approval comments = true := by
  unfold hasMatchingRejectionComment
  rw [h.body]
  refine Bool.or_eq_true_iff.2 (.inr (List.any_eq_true.2 ⟨comment, hmem, ?_⟩))
  simp [h.userId, h.createdAt]

theorem mem_commentsOf {db : Db} {expenseId : Nat} {comment : ExpenseComment} :
    comment ∈ commentsOf db expenseId ↔ comment ∈ db.comments ∧ comment.expenseId = expenseId := by
  simp [commentsOf]

/-- No reason has to be made up from a decision. -/
theorem legacyRejectionComments_eq (h : Explained t.db) (expenseId : Nat) :
    legacyRejectionComments t expenseId = [] := by
  refine List.map_eq_nil_iff.2 (List.filter_eq_nil_iff.2 fun a ha => ?_)
  obtain ⟨hof, hrejected⟩ := List.mem_filter.1 ha
  obtain ⟨ha, hexpense⟩ := List.mem_filter.1 hof
  obtain ⟨c, hc, hreason⟩ := h.reasons a ha (of_decide_eq_true hrejected)
  have hid : c.expenseId = expenseId := hreason.expenseId.trans (of_decide_eq_true hexpense)
  rw [hreason.matches_ (mem_commentsOf.2 ⟨hc, hid⟩)]
  simp

/-- The discussion of an expense: its comments, each once, in their order, the reason with them. -/
structure DiscussionShown (db : Db) (row : Expense) (comments : List ExpenseComment) : Prop where
  perm : comments.Perm (commentsOf db row.id)
  sorted : comments.Pairwise (fun left right => left.createdAt ≤ right.createdAt)
  reasons : ∀ a ∈ db.approvals, a.expenseId = row.id → a.decision = .REJECTED →
    ∃ c ∈ comments, ReasonOf a c
  rejected : row.status = .REJECTED → ∃ a ∈ db.approvals, a.expenseId = row.id ∧ a.decision = .REJECTED

theorem discussionShown (h : Explained t.db) {comments : List ExpenseComment}
    (hlist : listComments t authUser expenseReference = .ok comments) :
    ∃ row ∈ t.db.expenses, row.reference = normalizeEntityReference expenseReference ∧
      DiscussionShown t.db row comments := by
  obtain ⟨expense, hload, rfl⟩ := Except.map_eq_ok.1 hlist
  obtain ⟨row, hrow, href, rfl⟩ := loadReadableExpense_ok hload
  refine ⟨row, hrow, href, ?_⟩
  change DiscussionShown t.db row
    (inOrder _ (commentsOf t.db row.id ++ legacyRejectionComments t row.id))
  rw [legacyRejectionComments_eq h, List.append_nil]
  have hperm := perm_inOrder (fun comment : ExpenseComment => comment.createdAt) (commentsOf t.db row.id)
  refine ⟨hperm, sorted_inOrder _ _, fun a ha hexpense hrejected => ?_, h.rejected row hrow⟩
  obtain ⟨c, hc, hreason⟩ := h.reasons a ha hrejected
  exact ⟨c, hperm.mem_iff.2 (mem_commentsOf.2 ⟨hc, hreason.expenseId.trans hexpense⟩), hreason⟩

/-- The action the audit log has for a decision. -/
def decisionAction : ApprovalDecision → AuditAction
  | .APPROVED => .EXPENSE_APPROVED
  | .REJECTED => .EXPENSE_REJECTED

/-- The audit says what neither a comment nor a decision of the expense says. -/
def SaysMore (db : Db) (expenseId : Nat) (audit : AuditLog) : Prop :=
  audit.action ≠ .EXPENSE_COMMENT_ADDED ∧
    ∀ a ∈ db.approvals, a.expenseId = expenseId → audit.action ≠ decisionAction a.decision

/-- The timeline of an expense: each comment and each decision once, and of the audit log
    what they do not say. -/
structure TimelineShown (t : DiscussionTables) (row : Expense) (items : List ExpenseActivityItem) : Prop where
  sorted : items.Pairwise (fun left right => left.occurredAt ≤ right.occurredAt)
  comments : (items.filter (fun item => item.type = .COMMENT)).Perm
    ((commentsOf t.db row.id).map (commentItem t))
  decisions : (items.filter (fun item => item.type = .APPROVAL)).Perm
    ((t.db.approvalsOf row.id).map (approvalItem t))
  audits : ∃ audits : List AuditLog, (items.filter (fun item => item.type = .AUDIT)).Perm (audits.map (auditItem t)) ∧
    audits.Sublist t.audits ∧ ∀ audit ∈ t.audits, audit ∈ audits ↔
      audit.resourceReference = row.reference ∧ SaysMore t.db row.id audit

theorem mem_approvalsOf {db : Db} {expenseId : Nat} {a : ExpenseApproval} :
    a ∈ db.approvalsOf expenseId ↔ a ∈ db.approvals ∧ a.expenseId = expenseId := by
  rw [Db.approvalsOf, List.mem_filter, decide_eq_true_eq]
  rfl

theorem hasApprovalDecision_eq_false {db : Db} {expenseId : Nat} {decision : ApprovalDecision} :
    hasApprovalDecision (db.approvalsOf expenseId) decision = false ↔
      ∀ a ∈ db.approvals, a.expenseId = expenseId → a.decision ≠ decision := by
  rw [hasApprovalDecision, List.any_eq_false]
  constructor
  · intro h a ha hexpense
    simpa using h a (mem_approvalsOf.2 ⟨ha, hexpense⟩)
  · intro h a ha
    obtain ⟨ha, hexpense⟩ := mem_approvalsOf.1 ha
    simpa using h a ha hexpense

theorem decisionAction_inj {left right : ApprovalDecision} :
    decisionAction left = decisionAction right ↔ left = right := by
  cases left <;> cases right <;> simp [decisionAction]

/-- The audit of a decision says more when the expense has no such decision. -/
theorem saysMore_decision {db : Db} {expenseId : Nat} (decision : ApprovalDecision) :
    (!hasApprovalDecision (db.approvalsOf expenseId) decision) = true ↔
      decisionAction decision ≠ .EXPENSE_COMMENT_ADDED ∧
        ∀ a ∈ db.approvals, a.expenseId = expenseId → decisionAction decision ≠ decisionAction a.decision := by
  rw [Bool.not_eq_true', hasApprovalDecision_eq_false]
  constructor
  · intro h
    exact ⟨by cases decision <;> decide,
      fun a ha hexpense heq => h a ha hexpense (decisionAction_inj.1 heq).symm⟩
  · intro h a ha hexpense heq
    exact h.2 a ha hexpense (heq ▸ rfl)

theorem mem_filterRedundantActivityAudits {db : Db} {expenseId : Nat} {audits : List AuditLog}
    {audit : AuditLog} :
    audit ∈ filterRedundantActivityAudits audits (db.approvalsOf expenseId) ↔
      audit ∈ audits ∧ SaysMore db expenseId audit := by
  rw [filterRedundantActivityAudits, List.mem_filter, SaysMore]
  refine and_congr_right fun _ => ?_
  cases audit.action with
  | EXPENSE_COMMENT_ADDED => simp
  | EXPENSE_APPROVED => exact saysMore_decision .APPROVED
  | EXPENSE_REJECTED => exact saysMore_decision .REJECTED
  | _ => exact iff_of_true rfl ⟨by decide, fun a _ _ => by cases a.decision <;> decide⟩

theorem filter_items {ρ : Type} {item : ρ → ExpenseActivityItem} {type : ActivityType}
    (htype : ∀ row, (item row).type = type) (rows : List ρ) (other : ActivityType) :
    (rows.map item).filter (fun i => i.type = other) = if type = other then rows.map item else [] := by
  split
  · next heq =>
    exact List.filter_eq_self.2 (List.forall_mem_map.2 fun row _ => by rw [htype, heq]; exact decide_eq_true rfl)
  · next hne =>
    exact List.filter_eq_nil_iff.2 (List.forall_mem_map.2 fun row _ => by rw [htype]; simpa using hne)

theorem timelineShown {items : List ExpenseActivityItem}
    (htimeline : getActivityTimeline t authUser expenseReference = .ok items) :
    ∃ row ∈ t.db.expenses, row.reference = normalizeEntityReference expenseReference ∧
      TimelineShown t row items := by
  obtain ⟨expense, hload, rfl⟩ := Except.map_eq_ok.1 htimeline
  obtain ⟨row, hrow, href, rfl⟩ := loadReadableExpense_ok hload
  refine ⟨row, hrow, href, ?_⟩
  have hcomments := filter_items (fun comment => (rfl : (commentItem t comment).type = .COMMENT))
    (commentsOf t.db row.id)
  have hdecisions := filter_items (fun a => (rfl : (approvalItem t a).type = .APPROVAL))
    (t.db.approvalsOf row.id)
  have haudits := filter_items (fun audit => (rfl : (auditItem t audit).type = .AUDIT))
    (filterRedundantActivityAudits (t.audits.filter (fun audit => audit.resourceReference = row.reference))
      (t.db.approvalsOf row.id))
  constructor
  · exact sorted_inOrder _ _
  · refine ((perm_inOrder _ _).filter _).trans (List.Perm.of_eq ?_)
    rw [List.filter_append, List.filter_append]
    exact (congrArg₂ (· ++ ·) (congrArg₂ (· ++ ·) (hcomments .COMMENT) (hdecisions .COMMENT))
      (haudits .COMMENT)).trans (by simp)
  · refine ((perm_inOrder _ _).filter _).trans (List.Perm.of_eq ?_)
    rw [List.filter_append, List.filter_append]
    exact (congrArg₂ (· ++ ·) (congrArg₂ (· ++ ·) (hcomments .APPROVAL) (hdecisions .APPROVAL))
      (haudits .APPROVAL)).trans (by simp)
  · refine ⟨filterRedundantActivityAudits (t.audits.filter (fun audit =>
        audit.resourceReference = row.reference)) (t.db.approvalsOf row.id),
      ((perm_inOrder _ _).filter _).trans (List.Perm.of_eq ?_), ?_, fun audit haudit => ?_⟩
    · rw [List.filter_append, List.filter_append]
      exact (congrArg₂ (· ++ ·) (congrArg₂ (· ++ ·) (hcomments .AUDIT) (hdecisions .AUDIT))
        (haudits .AUDIT)).trans (by simp)
    · exact List.filter_sublist.trans List.filter_sublist
    · rw [mem_filterRedundantActivityAudits, List.mem_filter, decide_eq_true_eq]
      exact ⟨fun h => ⟨h.1.2, h.2⟩, fun h => ⟨⟨haudit, h.1⟩, h.2⟩⟩

theorem listComments_eq_error {e : HttpException} :
    listComments t authUser expenseReference = .error e ↔
      getActivityTimeline t authUser expenseReference = .error e := by
  unfold listComments getActivityTimeline
  cases loadReadableExpense t.db authUser expenseReference with
  | error e' =>
    constructor <;>
    · intro h
      cases h
      rfl
  | ok expense => exact iff_of_false (fun h => by cases h) (fun h => by cases h)

end Shown

/-- What holds of the comments that were saved, and of all that readers are shown. -/
structure DiscussionSound (p : Pool Db CommentThread) : Prop where
  saved : ∀ comment, .finished comment ∈ p.threads →
    comment ∈ p.shared.comments ∨ ∀ e ∈ p.shared.expenses, e.id ≠ comment.expenseId
  refused : ∀ t : DiscussionTables, ∀ authUser expenseReference e, t.db = p.shared →
    (listComments t authUser expenseReference = .error e ↔
      getActivityTimeline t authUser expenseReference = .error e)
  discussion : ∀ t : DiscussionTables, ∀ authUser expenseReference comments, t.db = p.shared →
    listComments t authUser expenseReference = .ok comments →
    ∃ row ∈ p.shared.expenses, row.reference = normalizeEntityReference expenseReference ∧
      DiscussionShown p.shared row comments
  timeline : ∀ t : DiscussionTables, ∀ authUser expenseReference items, t.db = p.shared →
    getActivityTimeline t authUser expenseReference = .ok items →
    ∃ row ∈ p.shared.expenses, row.reference = normalizeEntityReference expenseReference ∧
      TimelineShown t row items

/-- In every interleaving of comments with the operations on the expenses, whoever may read an
    expense is shown every comment on it, and the reason of every rejection, once. -/
theorem discussion_sound {cfg : Config} {db₀ : Db} {p : Pool Db CommentThread} (hfresh : Fresh db₀)
    (hreach : Reaches (discussion cfg).Step (Pool.idle db₀) p) : DiscussionSound p := by
  have hexplained : Explained db₀ := by
    constructor
    · intro a ha
      rw [hfresh.approvals] at ha
      cases ha
    · intro row hrow
      rw [hfresh.expenses] at hrow
      cases hrow
  have hholds := (discussion_outline cfg).reaches_anyStep (holds_idle ⟨hexplained, hfresh.numbered⟩) hreach
  constructor
  · intro comment ht
    obtain ⟨i, hi⟩ := List.mem_iff_getElem?.1 ht
    exact (hholds.thread i _ hi).kept
  · intro t authUser expenseReference e _
    exact listComments_eq_error
  · intro t authUser expenseReference comments hdb hlist
    have hshared := hholds.shared.1
    rw [← hdb] at hshared ⊢
    exact discussionShown hshared hlist
  · intro t authUser expenseReference items hdb htimeline
    rw [← hdb]
    exact timelineShown htimeline

end ExpenseCommentService

namespace Sample

/-- The owner comments, and the manager rejects with a reason. -/
def commentedAndRejected : List (Turn CommentRequest CommentOutcome Operation) :=
  [.surroundings createExpense, .surroundings submit,
    .start ⟨authOwner, expenseReference, " The receipt follows. "⟩,
    .step 0 (.saves "CMT1700000000001AAAAAA" now), .step 0 .publishes,
    .surroundings (rejectAs authManager "CMT1700000000002AAAAAA")]

def discussedBy (db : Db) : ExpenseCommentService.DiscussionTables where
  db := db
  audits := [⟨"AUD1700000000001AAAAAA", some 2, .EXPENSE_REJECTED, .EXPENSE, expenseReference, [], now⟩]
  approvalReference _ := "APR1700000000001AAAAAA"

end Sample

open ExpenseCommentService in
theorem discussion_sound_sample : ∃ p,
    Reaches (discussion Sample.config).Step (Pool.idle Sample.db) p ∧ DiscussionSound p ∧
    (listComments (Sample.discussedBy p.shared) Sample.authOwner Sample.expenseReference).map
      (fun comments => comments.map (·.body)) = .ok ["The receipt follows.", "No receipt"] ∧
    (getActivityTimeline (Sample.discussedBy p.shared) Sample.authOwner Sample.expenseReference).map
      (fun items => items.map (·.type)) = .ok [.COMMENT, .COMMENT, .APPROVAL] := by
  have hrun : ((discussion Sample.config).exec anyStep Sample.commentedAndRejected
      (Pool.idle Sample.db)).any (fun p =>
        (listComments (Sample.discussedBy p.shared) Sample.authOwner Sample.expenseReference).map
          (fun comments => comments.map (·.body)) = .ok ["The receipt follows.", "No receipt"] &&
        (getActivityTimeline (Sample.discussedBy p.shared) Sample.authOwner Sample.expenseReference).map
          (fun items => items.map (·.type)) = .ok [.COMMENT, .COMMENT, .APPROVAL]) = true := by
    decide +kernel
  obtain ⟨p, hexec, hp⟩ := (Option.any_eq_true _ _).1 hrun
  obtain ⟨hcomments, hitems⟩ := Bool.and_eq_true_iff.1 hp
  have hreach := (reaches_of_exec hexec).of_guarded
  exact ⟨p, hreach, discussion_sound Sample.fresh hreach, of_decide_eq_true hcomments,
    of_decide_eq_true hitems⟩

end Expentra
