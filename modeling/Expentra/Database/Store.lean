-- SUMMARY: The database, transactions over it, and the repository operations the services share.
import Mathlib.Data.Finset.Preimage
import Mathlib.Data.Fintype.EquivFin
import Mathlib.Data.List.Sort
import Expentra.Library.Table
import Expentra.Library.Transaction
import Expentra.Database.Entities

/-!
# The store

The tables with their primary and unique keys, and the operations of the
repositories: lookup by reference, loading an expense with its relations, saving
an expense, and appending to the outbox.
-/

namespace Expentra

open Library

structure Db where
  users : Table User.id
  departments : Table Department.id
  roles : List Role
  levels : Table ApprovalLevel.id
  /-- The next value of the serial `approval_levels.id`. -/
  nextLevelId : Nat
  expenses : Table Expense.id
  /-- The next value of the serial `expenses.id`. -/
  nextExpenseId : Nat
  approvals : Table ExpenseApproval.key
  comments : List ExpenseComment
  attachments : List ExpenseAttachment
  budgets : Table DepartmentBudget.key
  delegations : List ApprovalDelegation
  outbox : List OutboxEvent

/-- A database transaction. -/
abbrev Tx (α : Type) := Transaction Db HttpException α

/-! ## References -/

def normalizeEntityReference (value : String) : String := Js.toUpperCase (Js.trim value)

def isEntityReference (value : String) : Bool :=
  let chars := (normalizeEntityReference value).toList
  chars.length = 22 &&
    (chars.take 3).all Char.isUpper &&
    ((chars.drop 3).take 13).all Char.isDigit &&
    (chars.drop 16).all (fun c => c.isUpper || c.isDigit)

/-- The row with a reference, or the not-found exception. -/
def findEntityByReference {ρ : Type} (rows : List ρ) (referenceOf : ρ → String)
    (reference notFoundMessage : String) : Except HttpException ρ :=
  let normalized := normalizeEntityReference reference
  if !isEntityReference normalized then .error (.notFound notFoundMessage)
  else match rows.find? (fun row => referenceOf row = normalized) with
    | some row => .ok row
    | none => .error (.notFound notFoundMessage)

theorem findEntityByReference_eq_ok {ρ : Type} {rows : List ρ} {referenceOf : ρ → String}
    {reference message : String} {row : ρ}
    (h : findEntityByReference rows referenceOf reference message = .ok row) :
    row ∈ rows ∧ referenceOf row = normalizeEntityReference reference := by
  simp only [findEntityByReference] at h
  split at h
  · cases h
  · split at h
    · rename_i r hr
      cases h
      exact ⟨List.mem_of_find?_eq_some hr, by simpa using List.find?_some hr⟩
    · cases h

/-! ## Loading -/

namespace Db

/-- A relation to a department: soft-deleted rows are not joined. -/
def departmentRelation (db : Db) (departmentId : Option Nat) : Option Department :=
  (departmentId.bind db.departments.find?).filter (·.deletedAt.isNone)

/-- `findOne` of an expense with its department and its owner. -/
def withRelations (db : Db) (row : Expense) : ExpenseEntity :=
  row.toEntity (db.departmentRelation row.departmentId) (db.users.find? row.userId)

/-- `findOne` of an expense without relations. -/
def withoutRelations (row : Expense) : ExpenseEntity := row.toEntity none none

/-- The decisions recorded on an expense. -/
def approvalsOf (db : Db) (expenseId : Nat) : List ExpenseApproval :=
  db.approvals.rows.filter (fun approval => approval.expenseId = expenseId)

/-- `getActiveLevels` inside a transaction: the active rows in chain order. -/
def activeLevels (db : Db) : List ApprovalLevel :=
  (db.levels.rows.filter (·.isActive)).insertionSort (fun left right => left.level ≤ right.level)

/-- The departments a user manages. -/
def managedDepartmentIds (db : Db) (userId : Nat) : List Nat :=
  (db.departments.rows.filter (fun department =>
    department.managerId = some userId && department.isActive && department.deletedAt.isNone)).map
      (·.id)

/-- The number of receipts of an expense. -/
def attachmentCount (db : Db) (expenseId : Nat) : Nat :=
  (db.attachments.filter (fun attachment => attachment.expenseId = expenseId)).length

/-- An outbox row has the key. -/
def hasOutboxKey (db : Db) (key : IdempotencyKey) : Bool :=
  db.outbox.any (fun event => event.idempotencyKey = some key)

end Db

/-! ## Writing -/

/-- `save` of an existing expense. -/
def saveExpense (entity : ExpenseEntity) : Tx Unit := do
  let row ← Transaction.read (fun db => db.expenses.find? entity.id)
  let row ← Transaction.getOrThrow row (.notFound "Expense not found")
  Transaction.write (fun db => { db with expenses := db.expenses.replace (row.save entity) })

theorem saveExpense_eq_ok {entity : ExpenseEntity} {db db' : Db} {u : Unit} :
    saveExpense entity db = .ok (u, db') ↔ ∃ row, db.expenses.find? entity.id = some row ∧
      db' = { db with expenses := db.expenses.replace (row.save entity) } := by
  simp only [saveExpense, Transaction.read_bind, Transaction.getOrThrow_bind_eq_ok,
    Transaction.write_eq_ok, eq_comm (a := db')]

/-- `DomainEventPublisher.publish` inside a transaction: the UNIQUE constraint on
    `idempotency_key` refuses a key that is taken. -/
def publish (eventType : DomainEventType) (idempotencyKey : Option IdempotencyKey) : Tx Unit := do
  let taken ← Transaction.read (fun db => idempotencyKey.any db.hasOutboxKey)
  Transaction.require (taken = false) (.queryFailed "23505")
  Transaction.write (fun db => { db with outbox := db.outbox ++ [⟨eventType, idempotencyKey⟩] })

theorem publish_eq_ok {eventType : DomainEventType} {key : Option IdempotencyKey} {db db' : Db}
    {u : Unit} :
    publish eventType key db = .ok (u, db') ↔ key.any db.hasOutboxKey = false ∧
      db' = { db with outbox := db.outbox ++ [⟨eventType, key⟩] } := by
  simp only [publish, Transaction.read_bind, Transaction.require_bind_eq_ok,
    Transaction.write_eq_ok, eq_comm (a := db')]

/-- Publish the events of a transition, each under the key
    `${eventType}:${expenseId}:${at.toISOString()}`. -/
def publishTransitions : List DomainEventType → Nat → Instant → Tx Unit
  | [], _, _ => pure ()
  | eventType :: rest, expenseId, at_ => do
    publish eventType (some (.ofTransition eventType expenseId at_))
    publishTransitions rest expenseId at_

/-- The outbox rows `publishTransitions` appends. -/
def transitionEvents (eventTypes : List DomainEventType) (expenseId : Nat) (at_ : Instant) :
    List OutboxEvent :=
  eventTypes.map (fun t => ⟨t, some (.ofTransition t expenseId at_)⟩)

/-- Events of distinct types are published when none of their keys is taken. -/
theorem publishTransitions_eq_ok {eventTypes : List DomainEventType} {expenseId : Nat}
    {at_ : Instant} {db db' : Db} {u : Unit} (hnd : eventTypes.Nodup) :
    publishTransitions eventTypes expenseId at_ db = .ok (u, db') ↔
      (∀ t ∈ eventTypes, db.hasOutboxKey (.ofTransition t expenseId at_) = false) ∧
        db' = { db with outbox := db.outbox ++ transitionEvents eventTypes expenseId at_ } := by
  induction eventTypes generalizing db with
  | nil => simp [publishTransitions, transitionEvents, eq_comm (a := db)]
  | cons t rest ih =>
    rw [List.nodup_cons] at hnd
    -- the key of the head is the key of no event after it
    have hkeys : (∀ t' ∈ rest, Db.hasOutboxKey { db with
          outbox := db.outbox ++ [⟨t, some (.ofTransition t expenseId at_)⟩] }
          (.ofTransition t' expenseId at_) = false) ↔
        ∀ t' ∈ rest, db.hasOutboxKey (.ofTransition t' expenseId at_) = false := by
      refine forall₂_congr (fun t' ht' => ?_)
      have hne : t ≠ t' := fun heq => hnd.1 (heq ▸ ht')
      simp [Db.hasOutboxKey, List.any_append, hne]
    simp only [publishTransitions, Transaction.bind_eq_ok, publish_eq_ok, ih hnd.2]
    constructor
    · rintro ⟨_, _, ⟨hhead, rfl⟩, hrest, rfl⟩
      exact ⟨List.forall_mem_cons.2 ⟨by simpa using hhead, hkeys.1 hrest⟩,
        by simp [transitionEvents]⟩
    · rintro ⟨hall, rfl⟩
      obtain ⟨hhead, hrest⟩ := List.forall_mem_cons.1 hall
      exact ⟨(), _, ⟨by simpa using hhead, rfl⟩, hkeys.2 hrest, by simp [transitionEvents]⟩

/-- Among infinitely many keys one is not taken. -/
theorem exists_fresh_key {α : Type} [Infinite α] (db : Db) {key : α → IdempotencyKey}
    (hkey : Function.Injective key) : ∃ a, db.hasOutboxKey (key a) = false := by
  obtain ⟨a, ha⟩ := Infinite.exists_notMem_finset
    ((db.outbox.filterMap (·.idempotencyKey)).toFinset.preimage key hkey.injOn)
  refine ⟨a, ?_⟩
  rw [Db.hasOutboxKey, List.any_eq_false]
  intro event hevent htaken
  refine ha (Finset.mem_preimage.2 (List.mem_toFinset.2 (List.mem_filterMap.2 ⟨event, hevent, ?_⟩)))
  simpa using htaken

theorem Db.exists_fresh_comment (db : Db) : ∃ reference, db.hasOutboxKey (.ofComment reference) = false :=
  exists_fresh_key db (fun _ _ h => IdempotencyKey.ofComment.inj h)

theorem Db.exists_fresh_moment (db : Db) (eventType : DomainEventType) (expenseId : Nat) :
    ∃ at_, db.hasOutboxKey (.ofTransition eventType expenseId at_) = false :=
  exists_fresh_key db (fun _ _ h => (IdempotencyKey.ofTransition.inj h).2.2)

theorem mem_activeLevels {db : Db} {level : ApprovalLevel} :
    level ∈ db.activeLevels ↔ level ∈ db.levels ∧ level.isActive = true := by
  rw [Db.activeLevels, List.mem_insertionSort, List.mem_filter]
  exact Iff.rfl

theorem nodup_activeLevels (db : Db) : (db.activeLevels.map (·.id)).Nodup := by
  have hperm := (List.perm_insertionSort (fun left right : ApprovalLevel => left.level ≤ right.level)
    (db.levels.rows.filter (·.isActive))).map (·.id)
  exact hperm.nodup_iff.2 (db.levels.nodup.sublist (List.Sublist.map _ List.filter_sublist))

theorem mem_approvalsOf {db : Db} {expenseId : Nat} {a : ExpenseApproval} :
    a ∈ db.approvalsOf expenseId ↔ a ∈ db.approvals ∧ a.expenseId = expenseId := by
  simp [Db.approvalsOf, List.mem_filter, Table.mem_iff]

end Expentra
