-- SUMMARY: Drafts and their owners: changes of an expense with the check before the lock and the check under it as separate steps.
import Expentra.Expense.Requests
import Expentra.System.Effects

/-!
# Privacy of drafts

An edit or a removal first checks that the user may read the expense, and in its
transaction, on the locked row, that the user may change it. Only the first check knows
that a draft is private: a user with the permission to change the expenses of others
passes it on a rejected expense, and changes a draft if the owner reopens the expense in
between.
-/

namespace Expentra

open Library ExpenseMutationSupport

namespace DraftPrivacy

/-! ## The two halves of a call -/

/-- A call of the draft service, or a submission. -/
inductive Mutation where
  | update (input : ExpenseDraft.UpdateExpenseInput)
  | remove
  | submit
  | reopenRejected

structure Request where
  authUser : AuthUser
  reference : String
  mutation : Mutation

/-- The transaction of `remove`. -/
def commitRemove (authUser : AuthUser) (reference : String) : Tx Unit := do
  let expense ← Transaction.query (loadExpenseForMutation · reference)
  Transaction.lift (assertCanMutateExpenseDraft authUser expense .delete false)
  Transaction.lift (assertDraftStatus expense.status .delete)
  ExpenseDraft.deleteExpense expense.id

/-- The transaction of `reopenRejected`. -/
def commitReopen (reference : String) : Tx Unit := do
  let locked ← Transaction.query (loadExpenseForMutation · reference)
  Transaction.require (locked.status = .REJECTED)
    (.badRequest "Only rejected expenses can be reopened")
  Transaction.write (fun db =>
    { db with approvals := db.approvals.keep (fun a => a.expenseId ≠ locked.id) })
  saveExpense (ExpenseDraft.reopened locked)
  publish .expenseReopened none

/-- The checks before the transaction, and the submission date they yield. The policies of
    a submission may refuse it after them. -/
def Request.check (cfg : Config) (now : Instant) (request : Request) (db : Db) :
    Except HttpException Instant := do
  match request.mutation with
  | .update input =>
    if !ExpenseDraft.hasUpdateFields input then
      throw (.badRequest "At least one field must be provided to update an expense")
    let _ ← findReadableExpense db request.authUser request.reference
    pure now
  | .remove =>
    let _ ← findReadableExpense db request.authUser request.reference
    pure now
  | .submit =>
    let draft ← findReadableExpense db request.authUser request.reference
    ExpenseSubmit.assertSubmittable cfg now request.authUser draft
    pure (draft.submittedAt.toOption.getD now)
  | .reopenRejected =>
    let expense ← findReadableExpense db request.authUser request.reference
    if expense.userId ≠ request.authUser.id then
      throw (.forbidden "You can only reopen your own expenses")
    if expense.status ≠ .REJECTED then
      throw (.badRequest "Only rejected expenses can be reopened")
    pure now

/-- The transaction of a call. -/
def Request.commit (cfg : Config) (now submitAt : Instant) (request : Request) : Tx Unit :=
  match request.mutation with
  | .update input => Requests.commitUpdate cfg now request.authUser request.reference input
  | .remove => commitRemove request.authUser request.reference
  | .submit => ExpenseSubmit.commitSubmit cfg now request.authUser request.reference submitAt
  | .reopenRejected => commitReopen request.reference

/-- Without a step between, a removal is its check and its transaction. -/
theorem remove_eq (authUser : AuthUser) (reference : String) :
    ExpenseDraft.remove authUser reference = (do
      let _ ← Transaction.query (findReadableExpense · authUser reference)
      commitRemove authUser reference) := by
  unfold ExpenseDraft.remove commitRemove
  rfl

theorem reopenRejected_eq (authUser : AuthUser) (reference : String) :
    ExpenseDraft.reopenRejected authUser reference = (do
      let expense ← Transaction.query (findReadableExpense · authUser reference)
      Transaction.require (expense.userId = authUser.id)
        (.forbidden "You can only reopen your own expenses")
      Transaction.require (expense.status = .REJECTED)
        (.badRequest "Only rejected expenses can be reopened")
      commitReopen reference) := by
  unfold ExpenseDraft.reopenRejected commitReopen
  rfl

/-! ## Calls as threads -/

inductive Phase where
  | checking
  /-- Waiting for the row lock. -/
  | locking (submitAt : Instant)
  | ended (result : Except HttpException Unit)

structure Thread where
  request : Request
  phase : Phase

/-- The next step is taken, or something throws (a policy refuses, a connection is lost). -/
inductive Outcome where
  | runs (now : Instant)
  | throws (exception : HttpException)

/-- One step of a call. -/
def advance (cfg : Config) (db : Db) (t : Thread) (outcome : Outcome) : Option (Db × Thread) :=
  match t.phase, outcome with
  | .ended _, _ => none
  | _, .throws exception => some (db, { t with phase := .ended (.error exception) })
  | .checking, .runs now =>
    match t.request.check cfg now db with
    | .ok submitAt => some (db, { t with phase := .locking submitAt })
    | .error exception => some (db, { t with phase := .ended (.error exception) })
  | .locking submitAt, .runs now =>
    match t.request.commit cfg now submitAt db with
    | .ok ((), db') => some (db', { t with phase := .ended (.ok ()) })
    | .error exception => some (db, { t with phase := .ended (.error exception) })

/-- Any number of calls, and the calls of all operations around them, each of these without
    a step between. -/
def calls (cfg : Config) : Concurrent Db Thread Request Outcome Operation where
  start db request := some (db, ⟨request, .checking⟩)
  step _ db t outcome := advance cfg db t outcome
  surroundings db op := some ((op.perform cfg).commit db)

/-! ## Who changes a draft -/

/-- Who edits, deletes or submits an expense with an operation. -/
def actorOf : Operation → Option Nat
  | .updateExpense _ authUser _ _ => some authUser.id
  | .removeExpense authUser _ => some authUser.id
  | .submit _ _ authUser _ _ => some authUser.id
  | _ => none

/-- Who does so with a turn. -/
def actor (p : Pool Db Thread) : Turn Request Outcome Operation → Option Nat
  | .start _ => none
  | .step i _ => p.threads[i]?.map (·.request.authUser.id)
  | .surroundings op => actorOf op

/-- Every draft is there as before, or the turn is one of its owner. -/
def OwnerWrites (p : Pool Db Thread) (turn : Turn Request Outcome Operation) (p' : Pool Db Thread) :
    Prop :=
  ∀ row ∈ p.shared.expenses, row.status = .DRAFT →
    row ∈ p'.shared.expenses ∨ actor p turn = some row.userId

/-! ## When a draft appears -/

/-- The user may change expenses of others. -/
def mayChangeAny (authUser : AuthUser) (action : ExpenseDraftMutation) : Bool :=
  isSuperAdminUser authUser || canManageAll authUser ||
    hasPermission authUser (ExpenseAccessPolicy.draftMutationAction action) .EXPENSE (some .GLOBAL)

/-- An edit or a removal that has passed its first check. -/
def Thread.waits (t : Thread) : Option ExpenseDraftMutation :=
  match t.phase, t.request.mutation with
  | .locking _, .update _ => some .modify
  | .locking _, .remove => some .delete
  | _, _ => none

/-- The owner and the reference of the expense that reopening makes a draft. -/
def reopens (db : Db) (reference : String) : Option (Nat × String) :=
  (findExpense db reference).toOption.map (fun row => (row.userId, row.reference))

/-- The owner and the reference of the draft an operation leaves that was none before. -/
def draftsOf (db : Db) : Operation → Option (Nat × String)
  | .createExpense _ reference userId _ => some (userId, reference)
  | .reopenRejected _ reference => reopens db reference
  | _ => none

def Thread.drafts (db : Db) (t : Thread) : Option (Nat × String) :=
  match t.phase, t.request.mutation with
  | .locking _, .reopenRejected => reopens db t.request.reference
  | _, _ => none

/-- The owner and the reference of the draft a turn leaves that was none before. -/
def drafts (p : Pool Db Thread) : Turn Request Outcome Operation → Option (Nat × String)
  | .start _ => none
  | .step i _ => p.threads[i]?.bind (Thread.drafts p.shared)
  | .surroundings op => draftsOf p.shared op

/-- The call does not wait for the lock of this expense, is one of its owner, or one of a
    user who may not change expenses of others. -/
def Thread.Spares (draft : Nat × String) (t : Thread) : Prop :=
  ∀ action ∈ t.waits, normalizeEntityReference t.request.reference = draft.2 →
    t.request.authUser.id = draft.1 ∨ mayChangeAny t.request.authUser action = false

/-- No expense becomes a draft while another user, who may change it, has passed the first
    check of an edit or a removal of it and waits for its lock. -/
def NobodyWaits : Guard (Pool Db Thread) (Turn Request Outcome Operation) := fun p turn =>
  ∀ draft ∈ drafts p turn, ∀ t ∈ p.threads, t.Spares draft

instance (draft : Nat × String) (t : Thread) : Decidable (t.Spares draft) :=
  inferInstanceAs (Decidable (∀ _ ∈ _, _ → _ ∨ _))

instance (p : Pool Db Thread) (turn : Turn Request Outcome Operation) :
    Decidable (NobodyWaits p turn) :=
  inferInstanceAs (Decidable (∀ _ ∈ _, ∀ _ ∈ _, _))

/-! ## Changes of the expenses -/

/-- The reference of an expense is its own. -/
def UniqueReferences (db : Db) : Prop :=
  ∀ row ∈ db.expenses, ∀ row' ∈ db.expenses, row.reference = row'.reference → row = row'

/-- At most one expense is changed, by its row before and after. -/
inductive Change (db db' : Db) : Option Expense → Option Expense → Prop where
  | kept (hkept : db'.expenses = db.expenses) : Change db db' none none
  | replaced {row new : Expense} (hrow : row ∈ db.expenses) (hid : new.id = row.id)
      (hreference : new.reference = row.reference) (howner : new.userId = row.userId)
      (hnew : db'.expenses = db.expenses.replace new) : Change db db' (some row) (some new)
  | deleted {row : Expense} (hrow : row ∈ db.expenses)
      (hgone : db'.expenses = db.expenses.keep (fun e => e.id ≠ row.id)) : Change db db' (some row) none
  | created {new : Expense} (hinsert : db.expenses.insert? new = some db'.expenses)
      (hunused : ∀ e ∈ db.expenses, e.reference ≠ new.reference) : Change db db' none (some new)

namespace Change

variable {db db' : Db} {before after : Option Expense} {e : Expense}

/-- An expense that is there afterwards was there, or is the one that was written. -/
theorem mem_or_after (h : Change db db' before after) (he : e ∈ db'.expenses) :
    e ∈ db.expenses ∨ after = some e := by
  cases h with
  | kept hkept => exact .inl (hkept ▸ he)
  | replaced hrow hid hreference howner hnew =>
    rw [hnew] at he
    rcases Table.eq_or_mem_of_mem_replace he with rfl | ⟨he, -⟩
    · exact .inr rfl
    · exact .inl he
  | deleted hrow hgone =>
    rw [hgone] at he
    exact .inl (Table.mem_keep.1 he).1
  | created hinsert hunused =>
    rcases (Table.mem_insert hinsert).1 he with he | rfl
    · exact .inl he
    · exact .inr rfl

/-- An expense is there afterwards, or it is the one that was written. -/
theorem mem_or_before (h : Change db db' before after) (he : e ∈ db.expenses) :
    e ∈ db'.expenses ∨ before = some e := by
  cases h with
  | kept hkept => exact .inl (hkept ▸ he)
  | @replaced row new hrow hid hreference howner hnew =>
    by_cases hsame : e.id = row.id
    · exact .inr (congrArg some (Table.eq_of_key_eq hrow he hsame.symm))
    · rw [hnew]
      exact .inl (Table.mem_replace_of_ne he (fun heq => hsame (heq.trans hid)))
  | @deleted row hrow hgone =>
    by_cases hsame : e.id = row.id
    · exact .inr (congrArg some (Table.eq_of_key_eq hrow he hsame.symm))
    · rw [hgone]
      exact .inl (Table.mem_keep.2 ⟨he, by simpa using hsame⟩)
  | created hinsert hunused => exact .inl ((Table.mem_insert hinsert).2 (.inl he))

/-- What is written takes the reference of the expense it replaces, or a new one. -/
theorem unique (h : Change db db' before after) (hdb : UniqueReferences db) : UniqueReferences db' := by
  cases h with
  | kept hkept =>
    unfold UniqueReferences
    rwa [hkept]
  | @replaced row new hrow hid hreference howner hnew =>
    have hself : ∀ old ∈ db.expenses, old.id ≠ new.id → old.reference ≠ new.reference :=
      fun old hold hne heq => hne (hid ▸ congrArg Expense.id (hdb old hold row hrow (heq.trans hreference)))
    intro a ha b hb hab
    rw [hnew] at ha hb
    rcases Table.eq_or_mem_of_mem_replace ha with rfl | ⟨ha, hane⟩
    · rcases Table.eq_or_mem_of_mem_replace hb with rfl | ⟨hb, hbne⟩
      · rfl
      · exact absurd hab.symm (hself b hb hbne)
    · rcases Table.eq_or_mem_of_mem_replace hb with rfl | ⟨hb, hbne⟩
      · exact absurd hab (hself a ‹_› hane)
      · exact hdb a ‹_› b hb hab
  | deleted hrow hgone =>
    intro a ha b hb hab
    rw [hgone] at ha hb
    exact hdb a (Table.mem_keep.1 ha).1 b (Table.mem_keep.1 hb).1 hab
  | created hinsert hunused =>
    intro a ha b hb hab
    rcases (Table.mem_insert hinsert).1 ha with ha | rfl
    · rcases (Table.mem_insert hinsert).1 hb with hb | rfl
      · exact hdb a ha b hb hab
      · exact absurd hab (hunused a ha)
    · rcases (Table.mem_insert hinsert).1 hb with hb | rfl
      · exact absurd hab.symm (hunused b hb)
      · rfl

theorem of_transition {cfg : Config} {row : Expense} {entity : ExpenseEntity}
    {approvals : Table ExpenseApproval.key} {comments : List ExpenseComment} {events : List OutboxEvent}
    (h : Transition cfg db row entity approvals comments events db')
    (hreference : entity.reference = row.reference) (howner : entity.userId = row.userId) :
    Change db db' (some row) (some (row.save entity)) :=
  .replaced h.mem rfl hreference howner h.expenses_eq

end Change

/-- A draft is changed by a given user alone, and only the given draft is new. -/
structure Writes (db db' : Db) (writer : Option Nat) (draft : Option (Nat × String)) : Prop where
  change : ∃ before after, Change db db' before after ∧
    (∀ row, before = some row → row.status = .DRAFT → writer = some row.userId) ∧
    ∀ new, after = some new → new.status = .DRAFT →
      (∃ row, before = some row ∧ row.status = .DRAFT ∧ new.reference = row.reference ∧
        new.userId = row.userId) ∨ draft = some (new.userId, new.reference)

namespace Writes

variable {db db' : Db} {writer : Option Nat} {draft : Option (Nat × String)}

theorem of_expenses_eq (h : db'.expenses = db.expenses) : Writes db db' writer draft :=
  ⟨none, none, .kept h, (fun _ h => by cases h), (fun _ h => by cases h)⟩

/-- An expense that is no draft before or after. -/
theorem of_submitted {row new : Expense} (h : Change db db' (some row) (some new))
    (hbefore : row.status ≠ .DRAFT) (hafter : new.status ≠ .DRAFT) : Writes db db' writer draft := by
  refine ⟨some row, some new, h, ?_, ?_⟩
  · rintro _ ⟨⟩ hdraft
    exact absurd hdraft hbefore
  · rintro _ ⟨⟩ hdraft
    exact absurd hdraft hafter

theorem unique (h : Writes db db' writer draft) (hdb : UniqueReferences db) : UniqueReferences db' := by
  obtain ⟨_, _, hchange, -⟩ := h.change
  exact hchange.unique hdb

/-- A draft stays, or its owner has written it. -/
theorem draft_stays (h : Writes db db' writer draft) {row : Expense} (hrow : row ∈ db.expenses)
    (hdraft : row.status = .DRAFT) : row ∈ db'.expenses ∨ writer = some row.userId := by
  obtain ⟨before, after, hchange, hbefore, -⟩ := h.change
  exact (hchange.mem_or_before hrow).imp id (fun heq => hbefore row heq hdraft)

/-- A draft was one before, or it is the given one. -/
theorem draft_was (h : Writes db db' writer draft) {new : Expense} (hnew : new ∈ db'.expenses)
    (hdraft : new.status = .DRAFT) :
    (∃ row ∈ db.expenses, row.status = .DRAFT ∧ new.reference = row.reference ∧
      new.userId = row.userId) ∨ draft = some (new.userId, new.reference) := by
  obtain ⟨before, after, hchange, -, hafter⟩ := h.change
  rcases hchange.mem_or_after hnew with hold | rfl
  · exact .inl ⟨new, hold, hdraft, rfl, rfl⟩
  · refine (hafter new rfl hdraft).imp ?_ id
    rintro ⟨row, rfl, hrow, hsame⟩
    refine ⟨row, ?_, hrow, hsame⟩
    cases hchange with
    | replaced hrow => exact hrow

end Writes

/-! ## Transactions -/

section Transactions

variable {cfg : Config} {now submitAt : Instant} {db db' : Db} {authUser : AuthUser}
  {reference : String} {u : Unit}

/-- Who may change an expense owns it, or may change any. -/
theorem owner_or_mayChangeAny {expense : ExpenseEntity} {action : ExpenseDraftMutation}
    (h : ExpenseAccessPolicy.canMutateExpenseDraft authUser expense action false = true) :
    expense.userId = authUser.id ∨ mayChangeAny authUser action = true := by
  rw [ExpenseAccessPolicy.canMutateExpenseDraft, if_neg Bool.false_ne_true,
    ExpenseAccessPolicy.canAccessScopedSubject] at h
  split at h
  · rename_i hany
    exact .inr hany
  · exact .inl (of_decide_eq_true (Bool.and_eq_true_iff.1 h).2)

/-- A draft is readable for its owner. -/
theorem owner_of_readable {expense : ExpenseEntity}
    (h : ExpenseAccessPolicy.canReadExpense authUser expense = true) (hdraft : expense.status = .DRAFT) :
    expense.userId = authUser.id := by
  rw [ExpenseAccessPolicy.canReadExpense, if_pos hdraft] at h
  split at h
  · cases h
  · rename_i howner
    exact not_not.1 howner

theorem commitUpdate_change {input : ExpenseDraft.UpdateExpenseInput}
    (h : Requests.commitUpdate cfg now authUser reference input db = .ok (u, db')) :
    ∃ row new, findExpense db reference = .ok row ∧ row.status = .DRAFT ∧
      (row.userId = authUser.id ∨ mayChangeAny authUser .modify = true) ∧
      Change db db' (some row) (some new) := by
  simp only [Requests.commitUpdate, Transaction.query_bind_eq_ok, Transaction.lift_bind_eq_ok] at h
  obtain ⟨expense, hload, _, hmutate, _, hdraft, updated, happly, hpersist⟩ := h
  obtain ⟨row, hfind, hmem, rfl⟩ := loadExpenseForMutation_eq_ok hload
  have hedit := ExpenseDraft.applyUpdate_ok happly
  obtain ⟨stored, _, hstored, rfl, -⟩ := persistTransition_ok hpersist
  have hid : updated.id = row.id := by rw [hedit]; rfl
  rw [hid, Table.find?_of_mem hmem] at hstored
  cases hstored
  refine ⟨row, row.save updated, hfind, assertDraftStatus_eq_ok.1 hdraft,
    owner_or_mayChangeAny (assertCanMutateExpenseDraft_eq_ok.1 hmutate), .replaced hmem rfl ?_ ?_ rfl⟩
  · change updated.reference = row.reference
    rw [hedit]
    rfl
  · change updated.userId = row.userId
    rw [hedit]
    rfl

theorem commitRemove_change (h : commitRemove authUser reference db = .ok (u, db')) :
    ∃ row, findExpense db reference = .ok row ∧ row.status = .DRAFT ∧
      (row.userId = authUser.id ∨ mayChangeAny authUser .delete = true) ∧
      Change db db' (some row) none := by
  simp only [commitRemove, Transaction.query_bind_eq_ok, Transaction.lift_bind_eq_ok] at h
  obtain ⟨expense, hload, _, hmutate, _, hdraft, hdelete⟩ := h
  obtain ⟨row, hfind, hmem, rfl⟩ := loadExpenseForMutation_eq_ok hload
  rw [ExpenseDraft.deleteExpense, Transaction.write_eq_ok] at hdelete
  subst hdelete
  exact ⟨row, hfind, assertDraftStatus_eq_ok.1 hdraft,
    owner_or_mayChangeAny (assertCanMutateExpenseDraft_eq_ok.1 hmutate), .deleted hmem rfl⟩

theorem commitSubmit_change
    (h : ExpenseSubmit.commitSubmit cfg now authUser reference submitAt db = .ok (u, db')) :
    ∃ row new, row.userId = authUser.id ∧ new.status ≠ .DRAFT ∧ Change db db' (some row) (some new) := by
  obtain ⟨row, departmentId, _, -, -, howner, -, -, htransition⟩ := commitSubmit_effect h
  refine ⟨row, _, howner, ?_, Change.of_transition htransition ?_ ?_⟩
  · change (ExpenseSubmit.submitted _ _ _).status ≠ .DRAFT
    rw [ExpenseSubmit.submitted_eq]
    rcases ApprovalRouting.resolveInitialSubmitStatus_cases (ExpenseSubmit.routed db row departmentId)
      db.activeLevels with hs | hs | hs <;> simp [hs]
  · rw [ExpenseSubmit.submitted_eq]
    rfl
  · rw [ExpenseSubmit.submitted_eq]
    rfl

theorem commitReopen_change (h : commitReopen reference db = .ok (u, db')) :
    ∃ row new, findExpense db reference = .ok row ∧ row.status = .REJECTED ∧
      Change db db' (some row) (some new) := by
  simp only [commitReopen, Transaction.query_bind_eq_ok, Transaction.require_bind_eq_ok,
    Transaction.write_bind] at h
  obtain ⟨locked, hload, hrejected, h⟩ := h
  obtain ⟨row, hfind, hmem, rfl⟩ := loadExpenseForMutation_eq_ok hload
  obtain ⟨_, db₁, hsave, hpublish⟩ := Transaction.bind_eq_ok.1 h
  obtain ⟨stored, hstored, rfl⟩ := saveExpense_eq_ok.1 hsave
  obtain ⟨-, rfl⟩ := publish_eq_ok.1 hpublish
  have hstored : db.expenses.find? row.id = some stored := hstored
  rw [Table.find?_of_mem hmem] at hstored
  cases hstored
  exact ⟨row, row.save (ExpenseDraft.reopened (row.toEntity none none)), hfind, hrejected,
    .replaced hmem rfl rfl rfl rfl⟩

/-- The draft a transaction leaves is of the expense it found. -/
theorem reopens_of_find {row : Expense} (h : findExpense db reference = .ok row) :
    reopens db reference = some (row.userId, row.reference) := by
  rw [reopens, h]
  rfl

/-- A changed draft of an owner, from one found to be a draft. -/
theorem Writes.of_owner {row : Expense} {after : Option Expense} {writer : Nat}
    {draft : Option (Nat × String)} (h : Change db db' (some row) after) (howner : row.userId = writer)
    (hafter : ∀ new, after = some new → new.status = .DRAFT → row.status = .DRAFT) :
    Writes db db' (some writer) draft := by
  refine ⟨some row, after, h, ?_, fun new hnew hdraft => .inl ⟨row, rfl, hafter new hnew hdraft, ?_⟩⟩
  · rintro _ ⟨⟩ -
    rw [howner]
  · subst hnew
    cases h with
    | replaced hrow hid hreference howner hnew => exact ⟨hreference, howner⟩

/-- A reopening leaves the draft of the expense it found. -/
theorem Writes.of_reopen {writer : Option Nat} (h : commitReopen reference db = .ok (u, db')) :
    Writes db db' writer (reopens db reference) := by
  obtain ⟨row, new, hfind, hrejected, hchange⟩ := commitReopen_change h
  refine ⟨some row, some new, hchange, ?_, ?_⟩
  · rintro _ ⟨⟩ hdraft
    cases hrejected.symm.trans hdraft
  · rintro _ ⟨⟩ -
    rw [reopens_of_find hfind]
    cases hchange with
    | replaced hrow hid hreference howner hnew => exact .inr (by rw [hreference, howner])

/-- Of an expense that was read before, a draft is the user's own. -/
theorem owner_of_found {row : Expense} (hread : ∃ expense, findReadableExpense db authUser reference =
    .ok expense) (hfind : findExpense db reference = .ok row) (hdraft : row.status = .DRAFT) :
    row.userId = authUser.id := by
  obtain ⟨expense, hexpense⟩ := hread
  obtain ⟨row', hfind', rfl, hreadable⟩ := findReadableExpense_eq_ok.1 hexpense
  cases hfind.symm.trans hfind'
  exact owner_of_readable hreadable hdraft

theorem ne_draft_of_pending {status : ExpenseStatus} (h : status.isPending = true) :
    status ≠ .DRAFT := by
  rintro rfl
  cases h

/-- An operation without a step between its checks and its transaction. -/
theorem writes_of_ok {op : Operation} (h : op.perform cfg db = .ok ((), db')) :
    Writes db db' (actorOf op) (draftsOf db op) := by
  cases op with
  | createExpense now reference userId input =>
    rw [Operation.perform] at h
    obtain ⟨row, expenses, hinsert, -, ⟨departmentId, title, description, amount, rfl, -⟩, rfl⟩ :=
      ExpenseDraft.create_ok h
    refine ⟨none, some _, .created hinsert (ExpenseDraft.create_unused h), (fun _ h => by cases h), ?_⟩
    rintro _ ⟨⟩ -
    exact .inr rfl
  | updateExpense now authUser reference input =>
    rw [Operation.perform, Requests.update_eq] at h
    simp only [Transaction.require_bind_eq_ok, Transaction.query_bind_eq_ok] at h
    obtain ⟨-, expense, hread, hcommit⟩ := h
    obtain ⟨row, new, hfind, hdraft, -, hchange⟩ := commitUpdate_change hcommit
    exact .of_owner hchange (owner_of_found ⟨expense, hread⟩ hfind hdraft) (fun _ _ _ => hdraft)
  | removeExpense authUser reference =>
    rw [Operation.perform, remove_eq, Transaction.query_bind_eq_ok] at h
    obtain ⟨expense, hread, hcommit⟩ := h
    obtain ⟨row, hfind, hdraft, -, hchange⟩ := commitRemove_change hcommit
    exact .of_owner hchange (owner_of_found ⟨expense, hread⟩ hfind hdraft) (fun _ _ _ => hdraft)
  | submit policies now authUser reference policyJustifications =>
    rw [Operation.perform] at h
    obtain ⟨_, _, -, -, -, -, hcommit⟩ := ExpenseSubmit.submit_eq_ok.1 h
    obtain ⟨row, new, howner, hnew, hchange⟩ := commitSubmit_change hcommit
    refine .of_owner hchange howner ?_
    rintro _ ⟨⟩ hdraft
    exact absurd hdraft hnew
  | reopenRejected authUser reference =>
    rw [Operation.perform, reopenRejected_eq, Transaction.query_bind_eq_ok] at h
    simp only [Transaction.require_bind_eq_ok] at h
    obtain ⟨_, -, -, -, hcommit⟩ := h
    exact .of_reopen hcommit
  | approve now authUser expenseId input =>
    obtain ⟨row, after, _, _, _, htransition, hmoves⟩ := transition_of_ok rfl h
    cases hmoves with
    | approve hpending _ _ _ hnext =>
      refine .of_submitted (Change.of_transition htransition rfl rfl) (ne_draft_of_pending hpending) ?_
      rcases hnext with hnext | hnext <;> simp [Expense.save, Approval.approved, hnext]
  | reject now authUser expenseId commentReference comment =>
    obtain ⟨row, after, _, _, _, htransition, hmoves⟩ := transition_of_ok rfl h
    cases hmoves with
    | reject hpending _ _ =>
      refine .of_submitted (Change.of_transition htransition rfl rfl) (ne_draft_of_pending hpending) ?_
      simp [Expense.save, Approval.rejected]
  | reimburse now authUser reference =>
    obtain ⟨row, after, _, _, _, htransition, hmoves⟩ := transition_of_ok rfl h
    cases hmoves with
    | reimburse happroved =>
      refine .of_submitted (Change.of_transition htransition rfl rfl) ?_ ?_
      · rw [happroved]
        decide
      · simp [Expense.save, ExpenseReimbursement.reimbursed]
  | _ => exact .of_expenses_eq (frame_of_ok rfl rfl h).1.expenses

/-- What is known of the drafts under the reference of a waiting call. -/
def Thread.Private (db : Db) (t : Thread) : Prop :=
  ∀ action ∈ t.waits, ∀ row ∈ db.expenses,
    row.reference = normalizeEntityReference t.request.reference → row.status = .DRAFT →
    row.userId = t.request.authUser.id ∨ mayChangeAny t.request.authUser action = false

theorem Thread.Private.found {t : Thread} (h : t.Private db) {action : ExpenseDraftMutation}
    (hwaits : t.waits = some action) {row : Expense} (hfind : findExpense db t.request.reference = .ok row)
    (hdraft : row.status = .DRAFT)
    (hmay : row.userId = t.request.authUser.id ∨ mayChangeAny t.request.authUser action = true) :
    row.userId = t.request.authUser.id := by
  obtain ⟨hmem, hreference⟩ := findEntityByReference_eq_ok hfind
  rcases hmay with howner | hmay
  · exact howner
  · rcases h action hwaits row hmem hreference hdraft with howner | hnot
    · exact howner
    · cases hmay.symm.trans hnot

/-- The transaction of a call. -/
theorem writes_of_commit {t : Thread} (hprivate : t.Private db) (hphase : t.phase = .locking submitAt)
    (h : t.request.commit cfg now submitAt db = .ok (u, db')) :
    Writes db db' (some t.request.authUser.id) (t.drafts db) := by
  cases hmutation : t.request.mutation with
  | update input =>
    have hwaits : t.waits = some .modify := by simp [Thread.waits, hphase, hmutation]
    simp only [Request.commit, hmutation] at h
    obtain ⟨row, new, hfind, hdraft, hmay, hchange⟩ := commitUpdate_change h
    exact .of_owner hchange (hprivate.found hwaits hfind hdraft hmay) (fun _ _ _ => hdraft)
  | remove =>
    have hwaits : t.waits = some .delete := by simp [Thread.waits, hphase, hmutation]
    simp only [Request.commit, hmutation] at h
    obtain ⟨row, hfind, hdraft, hmay, hchange⟩ := commitRemove_change h
    exact .of_owner hchange (hprivate.found hwaits hfind hdraft hmay) (fun _ _ _ => hdraft)
  | submit =>
    simp only [Request.commit, hmutation] at h
    obtain ⟨row, new, howner, hnew, hchange⟩ := commitSubmit_change h
    refine .of_owner hchange howner ?_
    rintro _ ⟨⟩ hdraft
    exact absurd hdraft hnew
  | reopenRejected =>
    have hdrafts : t.drafts db = reopens db t.request.reference := by
      simp [Thread.drafts, hphase, hmutation]
    simp only [Request.commit, hmutation] at h
    rw [hdrafts]
    exact .of_reopen h

/-- A call that has passed its check knows that a draft under its reference is the user's. -/
theorem private_of_check {request : Request} (hdb : UniqueReferences db)
    (h : request.check cfg now db = .ok submitAt) (phase : Phase) :
    Thread.Private db ⟨request, phase⟩ := by
  intro action hwaits row hrow hreference hdraft
  have hread : ∃ expense, findReadableExpense db request.authUser request.reference = .ok expense := by
    obtain ⟨authUser, reference, mutation⟩ := request
    cases mutation with
    | update input =>
      simp only [Request.check] at h
      split at h
      · cases h
      · obtain ⟨expense, hexpense, -⟩ := Except.bind_eq_ok.1 h
        exact ⟨expense, hexpense⟩
    | remove =>
      obtain ⟨expense, hexpense, -⟩ := Except.bind_eq_ok.1 h
      exact ⟨expense, hexpense⟩
    | submit | reopenRejected => cases phase <;> cases hwaits
  obtain ⟨expense, hexpense⟩ := hread
  obtain ⟨found, hfind, rfl, hreadable⟩ := findReadableExpense_eq_ok.1 hexpense
  obtain ⟨hmem, hsame⟩ := findEntityByReference_eq_ok hfind
  cases hdb row hrow found hmem (hreference.trans hsame.symm)
  exact .inl (owner_of_readable hreadable hdraft)

/-- Others write: a waiting call still knows it, unless its expense has become a draft. -/
theorem Thread.Private.writes {t : Thread} {writer : Option Nat} {draft : Option (Nat × String)}
    (h : t.Private db) (hwrites : Writes db db' writer draft) (hspares : ∀ new ∈ draft, t.Spares new) :
    t.Private db' := by
  intro action hwaits new hnew hreference hdraft
  rcases hwrites.draft_was hnew hdraft with ⟨row, hrow, hwas, hsame, howner⟩ | hfresh
  · rw [howner]
    exact h action hwaits row hrow (hsame.symm.trans hreference) hwas
  · rcases hspares _ hfresh action hwaits hreference.symm with howner | hnot
    · exact .inl howner.symm
    · exact .inr hnot

end Transactions

/-! ## Runs -/

section Runs

variable {cfg : Config} {p p' : Pool Db Thread} {turn : Turn Request Outcome Operation}

/-- A step of a call changes nothing, or commits its transaction. -/
theorem advance_cases {db db' : Db} {t t' : Thread} {outcome : Outcome}
    (h : advance cfg db t outcome = some (db', t')) :
    (db' = db ∧ (t'.waits = none ∨ ∃ now submitAt, t.request.check cfg now db = .ok submitAt ∧
      t'.request = t.request)) ∨
    (∃ now submitAt, t.phase = .locking submitAt ∧ t'.waits = none ∧
      t.request.commit cfg now submitAt db = .ok ((), db')) := by
  obtain ⟨request, phase⟩ := t
  cases phase with
  | ended result => cases outcome <;> cases h
  | checking =>
    cases outcome with
    | throws exception =>
      cases h
      exact .inl ⟨rfl, .inl rfl⟩
    | runs now =>
      simp only [advance] at h
      cases hcheck : request.check cfg now db with
      | error exception =>
        rw [hcheck] at h
        cases h
        exact .inl ⟨rfl, .inl rfl⟩
      | ok submitAt =>
        rw [hcheck] at h
        cases h
        exact .inl ⟨rfl, .inr ⟨now, submitAt, hcheck, rfl⟩⟩
  | locking submitAt =>
    cases outcome with
    | throws exception =>
      cases h
      exact .inl ⟨rfl, .inl rfl⟩
    | runs now =>
      simp only [advance] at h
      cases hcommit : request.commit cfg now submitAt db with
      | error exception =>
        rw [hcommit] at h
        cases h
        exact .inl ⟨rfl, .inl rfl⟩
      | ok result =>
        rw [hcommit] at h
        cases h
        exact .inr ⟨now, submitAt, rfl, rfl, hcommit⟩

theorem private_of_not_waits {db : Db} {t : Thread} (h : t.waits = none) : t.Private db := by
  intro action hwaits
  rw [h] at hwaits
  cases hwaits

/-- What holds in every state of a run: references are unique, and the waiting calls know
    whose the drafts are. -/
structure Invariant (p : Pool Db Thread) : Prop where
  unique : UniqueReferences p.shared
  waiting : ∀ t ∈ p.threads, t.Private p.shared

/-- What one turn writes. -/
theorem writes_of_step (hp : Invariant p) (hstep : (calls cfg).Step p turn p') :
    p'.shared = p.shared ∨ Writes p.shared p'.shared (actor p turn) (drafts p turn) := by
  cases turn with
  | start request =>
    obtain ⟨s, t, hstart, rfl⟩ := Concurrent.next_start_eq_some.1 hstep
    cases hstart
    exact .inl rfl
  | surroundings op =>
    obtain ⟨s, hchange, rfl⟩ := Concurrent.next_surroundings_eq_some.1 hstep
    cases hchange
    rcases Transaction.commit_cases (op.perform cfg) p.shared with ⟨⟨⟩, hok⟩ | ⟨-, hsame⟩
    · exact .inr (writes_of_ok hok)
    · exact .inl hsame
  | step i outcome =>
    obtain ⟨t, s, t', ht, hmove, rfl⟩ := Concurrent.next_step_eq_some.1 hstep
    rcases advance_cases hmove with ⟨rfl, -⟩ | ⟨now, submitAt, hphase, -, hcommit⟩
    · exact .inl rfl
    · refine .inr ?_
      have hwrites := writes_of_commit (hp.waiting t (List.mem_of_getElem? ht)) hphase hcommit
      rw [actor, drafts, ht]
      exact hwrites

theorem Invariant.next (hp : Invariant p) (hguard : NobodyWaits p turn)
    (hstep : (calls cfg).Step p turn p') : Invariant p' := by
  have hwrites := writes_of_step hp hstep
  have hunique : UniqueReferences p'.shared := by
    rcases hwrites with hsame | hwrites
    · rw [hsame]
      exact hp.unique
    · exact hwrites.unique hp.unique
  have hkept : ∀ t ∈ p.threads, t.Private p'.shared := by
    intro t ht
    rcases hwrites with hsame | hwrites
    · rw [hsame]
      exact hp.waiting t ht
    · exact (hp.waiting t ht).writes hwrites (fun new hnew => hguard new hnew t ht)
  refine ⟨hunique, fun t ht => ?_⟩
  cases turn with
  | start request =>
    obtain ⟨s, u, hstart, rfl⟩ := Concurrent.next_start_eq_some.1 hstep
    cases hstart
    rcases List.mem_append.1 ht with ht | ht
    · exact hkept t ht
    · rw [List.mem_singleton.1 ht]
      exact private_of_not_waits rfl
  | surroundings op =>
    obtain ⟨s, hchange, rfl⟩ := Concurrent.next_surroundings_eq_some.1 hstep
    exact hkept t ht
  | step i outcome =>
    obtain ⟨u, s, u', hu, hmove, rfl⟩ := Concurrent.next_step_eq_some.1 hstep
    rcases List.mem_or_eq_of_mem_set ht with ht | rfl
    · exact hkept t ht
    · rcases advance_cases hmove with ⟨rfl, hnone | ⟨now, submitAt, hcheck, hrequest⟩⟩ |
          ⟨_, _, -, hnone, -⟩
      · exact private_of_not_waits hnone
      · obtain ⟨request, phase⟩ := t
        obtain rfl : request = u.request := hrequest
        exact private_of_check hp.unique hcheck phase
      · exact private_of_not_waits hnone

/-- In a run in which no expense becomes a draft while another user waits to change it, every
    turn leaves the drafts as they are, but for those of the user who edits, deletes or
    submits. -/
theorem drafts_change_by_owner {db : Db} (hdb : UniqueReferences db)
    (h : Reaches (Guarded NobodyWaits (calls cfg).Step) (Pool.idle db) p)
    (hstep : (calls cfg).Step p turn p') : OwnerWrites p turn p' := by
  have hp : Invariant p := h.invariant (fun _ _ _ hp hstep => hp.next hstep.1 hstep.2)
    ⟨hdb, fun t ht => absurd ht List.not_mem_nil⟩
  intro row hrow hdraft
  rcases writes_of_step hp hstep with hsame | hwrites
  · rw [hsame]
    exact .inl hrow
  · exact hwrites.draft_stays hrow hdraft

end Runs

/-! ### A rejected expense is reopened -/

namespace Sample

open Expentra.Sample

/-- A user who may read and change every expense. -/
def editor : User :=
  ⟨4, "USR1700000000004AAAAAA", "editor@expentra.test", none, true, true, none,
    some ⟨4, "ROL1700000000004AAAAAA", "editor",
      [⟨.READ, .EXPENSE, .GLOBAL, true⟩, ⟨.UPDATE, .EXPENSE, .GLOBAL, true⟩]⟩⟩

/-- The owner, who may change expenses of the own. -/
def authWriter : AuthUser :=
  toAuthUser { owner with role := some ⟨5, "ROL1700000000005AAAAAA", "employee",
    [⟨.READ, .EXPENSE, .SELF, true⟩, ⟨.UPDATE, .EXPENSE, .SELF, true⟩]⟩ } []

/-- A user raises the amount. -/
def raise (authUser : AuthUser) : Request :=
  ⟨authUser, expenseReference, .update ⟨none, none, some 9000, none, .undefined⟩⟩

def reopen : Request := ⟨authOwner, expenseReference, .reopenRejected⟩

def stepOf (i : Nat) : Turn Request Outcome Operation := .step i (.runs now)

/-- The owner's expense is submitted and rejected. -/
def rejected : List (Turn Request Outcome Operation) :=
  [.surroundings createExpense, .surroundings submit,
    .surroundings (rejectAs authManager "EXC1700000000001AAAAAA")]

/-- The owner reopens the expense, and then begins an edit. -/
def reopenedAndRead : List (Turn Request Outcome Operation) :=
  rejected ++ [.start reopen, stepOf 0, stepOf 0, .start (raise authWriter), stepOf 1]

/-- The editor reads the rejected expense, and the owner reopens it. -/
def readAndReopened : List (Turn Request Outcome Operation) :=
  rejected ++ [.start (raise (toAuthUser editor [])), stepOf 0, .start reopen, stepOf 1, stepOf 1]

end Sample

theorem uniqueReferences_sample : UniqueReferences Expentra.Sample.db :=
  fun _ hrow => absurd hrow List.not_mem_nil

theorem drafts_change_by_owner_sample : ∃ p p' : Pool Db Thread,
    (calls Expentra.Sample.config).Step p (Sample.stepOf 1) p' ∧
    p'.shared.expenses.rows.any (fun row => row.status = .DRAFT ∧ row.amount.val = 9000) = true ∧
    OwnerWrites p (Sample.stepOf 1) p' := by
  have hexec : ((calls Expentra.Sample.config).execGuarded NobodyWaits Sample.reopenedAndRead
      (Pool.idle Expentra.Sample.db)).any (fun p =>
        ((calls Expentra.Sample.config).next p (Sample.stepOf 1)).any (fun p' =>
          p'.shared.expenses.rows.any (fun row => row.status = .DRAFT ∧ row.amount.val = 9000))) =
      true := by
    decide +kernel
  obtain ⟨p, hp, hnext⟩ := (Option.any_eq_true _ _).1 hexec
  obtain ⟨p', hstep, hamount⟩ := (Option.any_eq_true _ _).1 hnext
  exact ⟨p, p', hstep, hamount, drafts_change_by_owner uniqueReferences_sample
    (Concurrent.reaches_of_execGuarded hp) hstep⟩

/-- The editor changes the draft of the owner. -/
theorem reopened_draft_changed : ∃ p p' : Pool Db Thread,
    Reaches (calls Expentra.Sample.config).Step (Pool.idle Expentra.Sample.db) p ∧
    (calls Expentra.Sample.config).Step p (Sample.stepOf 0) p' ∧
    ¬ OwnerWrites p (Sample.stepOf 0) p' := by
  have hexec : ((calls Expentra.Sample.config).execGuarded (fun _ _ => True) Sample.readAndReopened
      (Pool.idle Expentra.Sample.db)).any (fun p =>
        actor p (Sample.stepOf 0) = some 4 ∧
        ((calls Expentra.Sample.config).next p (Sample.stepOf 0)).any (fun p' =>
          p.shared.expenses.rows.any (fun row => row.status = .DRAFT ∧ row.userId = 1 ∧
            row ∉ p'.shared.expenses.rows))) = true := by
    decide +kernel
  obtain ⟨p, hp, hfacts⟩ := (Option.any_eq_true _ _).1 hexec
  obtain ⟨hactor, hnext⟩ := of_decide_eq_true hfacts
  obtain ⟨p', hstep, hchanged⟩ := (Option.any_eq_true _ _).1 hnext
  obtain ⟨row, hrow, hrowfacts⟩ := List.any_eq_true.1 hchanged
  obtain ⟨hdraft, howner, hgone⟩ := of_decide_eq_true hrowfacts
  refine ⟨p, p', (Concurrent.reaches_of_execGuarded hp).of_guarded, hstep, fun hwrites => ?_⟩
  rcases hwrites row hrow hdraft with hstays | hwriter
  · exact hgone hstays
  · rw [hactor, howner] at hwriter
    cases hwriter

end DraftPrivacy

end Expentra
