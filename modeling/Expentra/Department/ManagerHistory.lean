-- SUMMARY: The history of department managers, statement by statement, and when its open rows are the managers.
import Expentra.Identity.Departments
import Expentra.Library.Locking

/-!
# The history of managers

A change of the manager closes the open rows of the department, adds a row for the next
manager, and updates the department: three statements of one transaction. The closing
`UPDATE` sees the rows that were committed when it began; for a row that another
transaction has closed it waits, and looks at it again then, but a row that is committed
meanwhile stays open. Nothing in the table forbids a second open row.

The history is in the order of commits, and a row is known by its position.
-/

namespace Expentra

open Library

namespace ManagerHistory

structure DepartmentManagerHistory where
  departmentId : Nat
  managerId : Option Nat
  assignedById : Option Nat
  startedAt : Instant
  endedAt : Option Instant
deriving DecidableEq, Repr

/-- The database with the history. -/
structure ManagerDb where
  db : Db
  history : List DepartmentManagerHistory

def isOpen (departmentId : Nat) (row : DepartmentManagerHistory) : Bool :=
  row.departmentId = departmentId ∧ row.endedAt = none

/-- The open row of a department at a position. -/
def openAt (history : List DepartmentManagerHistory) (departmentId position : Nat) : Bool :=
  history[position]?.any (isOpen departmentId)

def openPositions (history : List DepartmentManagerHistory) (departmentId : Nat) : List Nat :=
  (List.range history.length).filter (openAt history departmentId)

def openManagers (history : List DepartmentManagerHistory) (departmentId : Nat) : List (Option Nat) :=
  (history.filter (isOpen departmentId)).map (·.managerId)

def managerOf (db : Db) (departmentId : Nat) : Option Nat :=
  (db.departments.find? departmentId).bind (·.managerId)

/-- Every department with a manager has one open row, which names the manager, and the
    others have none. -/
def Mirrors (s : ManagerDb) : Prop :=
  ∀ departmentId, openManagers s.history departmentId =
    (managerOf s.db departmentId).toList.map some

/-! ## Transactions -/

/-- The rows a transaction locks. -/
inductive RowKey where
  | user (id : Nat)
  | department (id : Nat)
  | history (position : Nat)
deriving DecidableEq

/-- A user as `adminUpdate` saves it: the property is `undefined` after leaving. -/
structure SavedUser where
  id : Nat
  departmentId : Property Nat

/-- The arguments of `applyManagerChange`, and what is written along with the manager. -/
structure ManagerChange where
  departmentId : Nat
  nextManagerId : Option Nat
  actorId : Option Nat
  isActive : Option Bool
  user : Option SavedUser

/-- A closing `UPDATE`: the rows it saw, those it has not come to yet, and those it has
    closed. -/
structure Closing where
  change : ManagerChange
  now : Instant
  seen : List Nat
  pending : List Nat
  closed : List Nat

/-- A call of `DepartmentMutationService.update`, or of `UserService.adminUpdate` with a
    `departmentReference`, which is `null` to leave the department. The other fields of the
    latter, and its budgets, concern neither managers nor the history. -/
inductive Request where
  | update (reference : String) (input : DepartmentService.UpdateDepartmentInput) (actorId : Option Nat)
  | adminUpdate (actorId targetUserId : Nat) (departmentReference : Option String)

/-- The statement a call waits for, or its result. -/
inductive Phase where
  /-- `findOne(reference)` -/
  | findingDepartment (reference : String) (input : DepartmentService.UpdateDepartmentInput)
      (actorId : Option Nat)
  | findingManager (department : Department) (input : DepartmentService.UpdateDepartmentInput)
      (actorId : Option Nat)
  /-- `assertManagerCanBeCleared` -/
  | clearing (change : ManagerChange)
  /-- The `UPDATE` of a department that keeps its manager -/
  | patching (departmentId : Nat) (isActive : Bool)
  | committingPatch (departmentId : Nat) (isActive : Bool)
  /-- `findOne(targetUserId)` -/
  | findingUser (actorId targetUserId : Nat) (departmentReference : Option String)
  | findingDestination (actorId : Nat) (user : User) (departmentReference : Option String)
  /-- `findOne` of `assertManagerCanLeaveDepartment` -/
  | leaving (actorId previousDepartmentId : Nat) (user : SavedUser)
  | countingPending (actorId previousDepartmentId : Nat) (user : SavedUser)
  /-- `manager.save(user)` -/
  | savingUser (actorId : Nat) (previousDepartmentId : Option Nat) (user : SavedUser)
  /-- `findOne` of `releaseManagerIfUserLeftDepartment` -/
  | releasing (actorId previousDepartmentId : Nat) (user : SavedUser)
  | committingUser (user : SavedUser)
  /-- The closing `UPDATE`, before it begins -/
  | closing (change : ManagerChange)
  /-- The next row of the closing `UPDATE` -/
  | closingRow (closing : Closing)
  /-- The `INSERT` of the next manager's row -/
  | inserting (closing : Closing)
  /-- The `UPDATE` of the department -/
  | updating (closing : Closing)
  | committing (closing : Closing)
  | ended (result : Except HttpException Unit)

/-- What the surroundings decide: the clock, or that the statement throws (the
    connection is lost, or the transaction is the victim of a deadlock). -/
inductive Outcome where
  | runs (now : Instant)
  | throws (exception : HttpException)

/-! ## What is written -/

/-- The history after a closing `UPDATE`. -/
def closeRows (closed : List Nat) (now : Instant) (history : List DepartmentManagerHistory) :
    List DepartmentManagerHistory :=
  history.mapIdx (fun position row =>
    if position ∈ closed then { row with endedAt := some now } else row)

/-- The row for the next manager. -/
def Closing.entry (closing : Closing) : Option DepartmentManagerHistory :=
  closing.change.nextManagerId.map (fun nextManagerId =>
    ⟨closing.change.departmentId, some nextManagerId, closing.change.actorId, closing.now, none⟩)

def setDepartment (departmentId : Nat) (columns : Department → Option Nat × Bool) (db : Db) : Db :=
  { db with departments := db.departments.modify (fun row =>
      if row.id = departmentId then
        { row with managerId := (columns row).1, isActive := (columns row).2 }
      else row) (fun row => by split <;> rfl) }

def saveUser (user : SavedUser) (db : Db) : Db :=
  { db with users := db.users.modify (fun row =>
      if row.id = user.id then { row with departmentId := user.departmentId.save row.departmentId }
      else row) (fun row => by split <;> rfl) }

/-- The writes of a transaction that changes the manager. -/
def Closing.apply (closing : Closing) (s : ManagerDb) : ManagerDb where
  db := setDepartment closing.change.departmentId
    (fun row => (closing.change.nextManagerId, closing.change.isActive.getD row.isActive))
    (closing.change.user.elim s.db (saveUser · s.db))
  history := closeRows closing.closed closing.now s.history ++ closing.entry.toList

/-! ## The statements -/

/-- The rest of a step, unless the value is an exception. -/
def orEnd {α : Type} (result : Except HttpException α) (next : α → Phase) : Phase :=
  match result with
  | .ok a => next a
  | .error exception => .ended (.error exception)

/-- What an update does once the next manager is resolved. -/
def afterManager (department : Department) (input : DepartmentService.UpdateDepartmentInput)
    (actorId : Option Nat) (nextManagerId : Property Nat) : Phase :=
  let nextManager := nextManagerId.save department.managerId
  let change : ManagerChange := ⟨department.id, nextManager, actorId, input.isActive, none⟩
  if nextManager ≠ department.managerId then
    if nextManager = none then .clearing change else .closing change
  else
    match input.isActive with
    | some isActive => .patching department.id isActive
    | none => .ended (.ok ())

/-- The department of a request, as the user is assigned to it. -/
def resolveDestination (db : Db) (departmentReference : Option String) :
    Except HttpException (Property Nat) :=
  match departmentReference with
  | none => .ok .undefined
  | some departmentReference => do
    let department ← DepartmentService.findOne db departmentReference
    if !department.isActive then .error (.notFound "Department not found")
    else pure (.value department.id)

/-- What an update of a user does once the destination is resolved. -/
def afterDestination (actorId : Nat) (user : User) (departmentId : Property Nat) : Phase :=
  match user.departmentId.filter (· ≠ 0) with
  | some previousDepartmentId =>
    if departmentId ≠ .value previousDepartmentId then
      .leaving actorId previousDepartmentId ⟨user.id, departmentId⟩
    else .savingUser actorId none ⟨user.id, departmentId⟩
  | none => .savingUser actorId none ⟨user.id, departmentId⟩

/-- The department the user is released from, if the user manages it. -/
def afterRelease (db : Db) (actorId previousDepartmentId : Nat) (user : SavedUser) : Phase :=
  if (DepartmentService.managedBy db previousDepartmentId user.id).isNone then .committingUser user
  else .closing ⟨previousDepartmentId, none, some actorId, none, some user⟩

/-- The row at a position, looked at again when its lock is granted. -/
def Closing.take (closing : Closing) (position : Nat) (rest : List Nat) (s : ManagerDb) : Closing :=
  if openAt s.history closing.change.departmentId position then
    { closing with pending := rest, closed := position :: closing.closed }
  else { closing with pending := rest }

/-- The row of a user that is saved, if the user differs from it. -/
def savedRow (user : SavedUser) (s : ManagerDb) : Option RowKey :=
  ((s.db.users.find? user.id).filter (fun row =>
    user.departmentId.save row.departmentId ≠ row.departmentId)).map (fun _ => .user user.id)

def departmentRow (departmentId : Nat) (s : ManagerDb) : Option RowKey :=
  (s.db.departments.find? departmentId).map (fun _ => .department departmentId)

/-- The next row of a closing `UPDATE`, or its end. -/
def closeNext (closing : Closing) : Statement ManagerDb RowKey Phase :=
  match closing.pending with
  | [] => .read (fun _ => .inserting closing)
  | position :: rest => .lock
      (fun s => if openAt s.history closing.change.departmentId position
        then some (.history position) else none)
      (fun s => .closingRow (closing.take position rest s))

/-- The next statement of a call. -/
def statement (now : Instant) : Phase → Option (Statement ManagerDb RowKey Phase)
  | .findingDepartment reference input actorId => some (.read (fun s =>
      orEnd (DepartmentService.findOne s.db reference)
        (fun department => .findingManager department input actorId)))
  | .findingManager department input actorId => some (.read (fun s =>
      orEnd (DepartmentService.resolveNextManager s.db department input.managerReference)
        (afterManager department input actorId)))
  | .clearing change => some (.read (fun s =>
      orEnd (DepartmentService.assertManagerCanBeCleared s.db change.departmentId)
        (fun _ => .closing change)))
  | .patching departmentId isActive => some (.lock (departmentRow departmentId)
      (fun _ => .committingPatch departmentId isActive))
  | .committingPatch departmentId isActive => some (.commit
      (fun s => { s with db := setDepartment departmentId (fun row => (row.managerId, isActive)) s.db })
      (.ended (.ok ())))
  | .findingUser actorId targetUserId departmentReference => some (.read (fun s =>
      match s.db.users.find? targetUserId with
      | some user => .findingDestination actorId user departmentReference
      | none => .ended (.error (.notFound "User not found"))))
  | .findingDestination actorId user departmentReference => some (.read (fun s =>
      orEnd (resolveDestination s.db departmentReference) (afterDestination actorId user)))
  | .leaving actorId previousDepartmentId user => some (.read (fun s =>
      if (DepartmentService.managedBy s.db previousDepartmentId user.id).isNone then
        .savingUser actorId (some previousDepartmentId) user
      else .countingPending actorId previousDepartmentId user))
  | .countingPending actorId previousDepartmentId user => some (.read (fun s =>
      orEnd (DepartmentService.assertManagerCanBeCleared s.db previousDepartmentId)
        (fun _ => .savingUser actorId (some previousDepartmentId) user)))
  | .savingUser actorId previousDepartmentId user => some (.lock (savedRow user)
      (fun _ => match previousDepartmentId with
        | some previousDepartmentId => .releasing actorId previousDepartmentId user
        | none => .committingUser user))
  | .releasing actorId previousDepartmentId user => some (.read (fun s =>
      afterRelease s.db actorId previousDepartmentId user))
  | .committingUser user => some (.commit (fun s => { s with db := saveUser user s.db })
      (.ended (.ok ())))
  | .closing change => some (.read (fun s =>
      let seen := openPositions s.history change.departmentId
      .closingRow ⟨change, now, seen, seen, []⟩))
  | .closingRow closing => some (closeNext closing)
  | .inserting closing => some (.read (fun _ => .updating closing))
  | .updating closing => some (.lock (departmentRow closing.change.departmentId)
      (fun _ => .committing closing))
  | .committing closing => some (.commit closing.apply (.ended (.ok ())))
  | .ended _ => none

/-- The statement with what the surroundings decide about it. -/
def decided (phase : Phase) : Outcome → Option (Statement ManagerDb RowKey Phase)
  | .runs now => statement now phase
  | .throws exception =>
    match phase with
    | .ended _ => none
    | _ => some (.rollback (.ended (.error exception)))

def Request.start : Request → Phase
  | .update reference input actorId => .findingDepartment reference input actorId
  | .adminUpdate actorId targetUserId departmentReference =>
    .findingUser actorId targetUserId departmentReference

/-- Other operations commit what they like, departments keep their managers, and none
    of them is lost. -/
def keepsManagers (db db' : Db) : Bool :=
  db.departments.rows.all (fun row => (db'.departments.find? row.id).any (·.managerId = row.managerId)) ∧
    db'.departments.rows.all (fun row => managerOf db row.id = row.managerId)

/-- Any number of calls in any order of their statements, beside other operations. -/
def changes : Concurrent (Locked ManagerDb RowKey) Phase Request Outcome Db where
  start s request := some (s, request.start)
  step i s phase outcome := (decided phase outcome).bind (Locked.step i s)
  surroundings s db' :=
    if keepsManagers s.committed.db db' then some { s with committed := { s.committed with db := db' } }
    else none

/-! ## The open rows -/

section Rows

variable {history : List DepartmentManagerHistory} {departmentId position : Nat}
  {row : DepartmentManagerHistory} {closed : List Nat} {now : Instant}

theorem isOpen_eq_true :
    isOpen departmentId row = true ↔ row.departmentId = departmentId ∧ row.endedAt = none := by
  simp [isOpen]

theorem mem_openPositions : position ∈ openPositions history departmentId ↔
    ∃ row, history[position]? = some row ∧ isOpen departmentId row = true := by
  simp only [openPositions, openAt, List.mem_filter, List.mem_range, Option.any_eq_true]
  constructor
  · rintro ⟨-, row, hrow, hopen⟩
    exact ⟨row, hrow, hopen⟩
  · rintro ⟨row, hrow, hopen⟩
    exact ⟨(List.getElem?_eq_some_iff.1 hrow).1, row, hrow, hopen⟩

theorem openManagers_append {rows : List DepartmentManagerHistory} :
    openManagers (history ++ rows) departmentId =
      openManagers history departmentId ++ openManagers rows departmentId := by
  simp [openManagers]

theorem getElem?_closeRows : (closeRows closed now history)[position]? =
    history[position]?.map (fun row =>
      if position ∈ closed then { row with endedAt := some now } else row) :=
  List.getElem?_mapIdx

theorem filter_mapIdx {α : Type} {p : α → Bool} {l : List α} {f : Nat → α → α}
    (h : ∀ k a, l[k]? = some a → f k a = a ∨ (p (f k a) = false ∧ p a = false)) :
    (l.mapIdx f).filter p = l.filter p := by
  induction l generalizing f with
  | nil => rfl
  | cons a l ih =>
    have hrest := ih (f := fun k => f (k + 1)) (fun k b hk => h (k + 1) b (by simpa using hk))
    rw [List.mapIdx_cons]
    rcases h 0 a rfl with hsame | ⟨hnew, hold⟩
    · rw [hsame, List.filter_cons, List.filter_cons, hrest]
    · rw [List.filter_cons_of_neg (by simp [hnew]), List.filter_cons_of_neg (by simp [hold]), hrest]

/-- Rows of one department are closed: those of the others are as before. -/
theorem openManagers_closeRows_of_ne {other : Nat} (hne : other ≠ departmentId)
    (hclosed : ∀ position ∈ closed, ∀ row, history[position]? = some row →
      row.departmentId = departmentId) :
    openManagers (closeRows closed now history) other = openManagers history other := by
  rw [openManagers, openManagers, closeRows, filter_mapIdx]
  intro position row hrow
  by_cases hmem : position ∈ closed
  · refine .inr ⟨?_, ?_⟩
    · simp [isOpen, hmem]
    · rw [isOpen, hclosed position hmem row hrow]
      simp [Ne.symm hne]
  · exact .inl (if_neg hmem)

/-- No row is left open if and only if every open one is closed. -/
theorem openManagers_closeRows_eq_nil : openManagers (closeRows closed now history) departmentId = [] ↔
    ∀ position ∈ openPositions history departmentId, position ∈ closed := by
  rw [openManagers, List.map_eq_nil_iff, List.filter_eq_nil_iff]
  constructor
  · intro hnone position hposition
    obtain ⟨row, hrow, hopen⟩ := mem_openPositions.1 hposition
    by_contra hmem
    refine hnone row (List.mem_of_getElem? (i := position) ?_) hopen
    rw [getElem?_closeRows, hrow, Option.map_some, if_neg hmem]
  · intro hall row hrow hopen
    obtain ⟨position, hposition⟩ := List.mem_iff_getElem?.1 hrow
    rw [getElem?_closeRows, Option.map_eq_some_iff] at hposition
    obtain ⟨old, hold, rfl⟩ := hposition
    by_cases hmem : position ∈ closed
    · rw [if_pos hmem, isOpen_eq_true] at hopen
      cases hopen.2
    · rw [if_neg hmem] at hopen
      exact hmem (hall position (mem_openPositions.2 ⟨old, hold, hopen⟩))

end Rows

/-! ## Departments -/

section Departments

variable {db : Db} {departmentId other : Nat} {columns : Department → Option Nat × Bool}

/-- The department is in the table. -/
def HasDepartment (db : Db) (departmentId : Nat) : Prop :=
  ∃ row, db.departments.find? departmentId = some row

theorem find?_setDepartment : (setDepartment departmentId columns db).departments.find? other =
    (db.departments.find? other).map (fun row =>
      if row.id = departmentId then { row with managerId := (columns row).1, isActive := (columns row).2 }
      else row) := by
  rw [setDepartment, Table.find?_modify]

theorem managerOf_setDepartment_self (h : HasDepartment db departmentId) {nextManagerId : Option Nat}
    {isActive : Department → Bool} :
    managerOf (setDepartment departmentId (fun row => (nextManagerId, isActive row)) db) departmentId =
      nextManagerId := by
  obtain ⟨row, hrow⟩ := h
  rw [managerOf, find?_setDepartment, hrow, Option.map_some, if_pos (Table.key_of_find? hrow)]
  rfl

theorem managerOf_setDepartment_ne (hne : other ≠ departmentId) :
    managerOf (setDepartment departmentId columns db) other = managerOf db other := by
  rw [managerOf, find?_setDepartment, managerOf]
  cases hrow : db.departments.find? other with
  | none => rfl
  | some row => rw [Option.map_some, if_neg (Table.key_of_find? hrow ▸ hne)]

/-- A department that keeps its manager. -/
theorem managerOf_setDepartment_keep {isActive : Bool} :
    managerOf (setDepartment departmentId (fun row => (row.managerId, isActive)) db) other =
      managerOf db other := by
  rw [managerOf, find?_setDepartment, managerOf]
  cases db.departments.find? other with
  | none => rfl
  | some row =>
    rw [Option.map_some]
    split <;> rfl

theorem HasDepartment.setDepartment (h : HasDepartment db other) :
    HasDepartment (setDepartment departmentId columns db) other := by
  obtain ⟨row, hrow⟩ := h
  exact ⟨_, by rw [find?_setDepartment, hrow, Option.map_some]⟩

@[simp] theorem saveUser_departments {user : SavedUser} : (saveUser user db).departments = db.departments :=
  rfl

theorem managerOf_congr {db' : Db} (h : db'.departments = db.departments) :
    managerOf db' departmentId = managerOf db departmentId := by
  rw [managerOf, h, managerOf]

theorem HasDepartment.congr {db' : Db} (hdepartment : HasDepartment db departmentId)
    (h : db'.departments = db.departments) : HasDepartment db' departmentId := by
  rwa [HasDepartment, h]

theorem keepsManagers_spec {db' : Db} (h : keepsManagers db db' = true) :
    (∀ departmentId, managerOf db' departmentId = managerOf db departmentId) ∧
      ∀ departmentId, HasDepartment db departmentId → HasDepartment db' departmentId := by
  simp only [keepsManagers, Bool.decide_and, Bool.and_eq_true, List.all_eq_true,
    decide_eq_true_eq] at h
  obtain ⟨hkept, hnew⟩ := h
  constructor
  · intro departmentId
    cases hrow : db'.departments.find? departmentId with
    | some row =>
      have hmanager := hnew row (Table.mem_of_find? hrow)
      rw [Table.key_of_find? hrow] at hmanager
      rw [hmanager, managerOf, hrow]
      rfl
    | none =>
      cases hold : db.departments.find? departmentId with
      | none => rw [managerOf, managerOf, hrow, hold]
      | some row =>
        obtain ⟨row', hrow', -⟩ := (Option.any_eq_true _ _).1 (hkept row (Table.mem_of_find? hold))
        rw [Table.key_of_find? hold, hrow] at hrow'
        cases hrow'
  · rintro departmentId ⟨row, hrow⟩
    obtain ⟨row', hrow', -⟩ := (Option.any_eq_true _ _).1 (hkept row (Table.mem_of_find? hrow))
    rw [Table.key_of_find? hrow] at hrow'
    exact ⟨row', hrow'⟩

end Departments

/-! ## What a transaction knows -/

/-- Rows of the history stay where they are and are not opened again; departments stay. -/
structure Grows (s s' : ManagerDb) : Prop where
  departments : ∀ departmentId, HasDepartment s.db departmentId → HasDepartment s'.db departmentId
  rows : ∀ (position : Nat) (row : DepartmentManagerHistory), s.history[position]? = some row →
    ∃ row', s'.history[position]? = some row' ∧ row'.departmentId = row.departmentId ∧
      (row'.endedAt = none → row.endedAt = none)

/-- A closing `UPDATE` saw rows of its department, and of these the open ones are closed or
    still to come. -/
structure Closing.Sound (s : ManagerDb) (closing : Closing) : Prop where
  department : HasDepartment s.db closing.change.departmentId
  seen : ∀ position ∈ closing.seen, ∃ row, s.history[position]? = some row ∧
    row.departmentId = closing.change.departmentId
  pending : ∀ position ∈ closing.pending, position ∈ closing.seen
  closed : ∀ position ∈ closing.closed, position ∈ closing.seen
  accounted : ∀ position ∈ closing.seen, position ∈ openPositions s.history closing.change.departmentId →
    position ∈ closing.pending ∨ position ∈ closing.closed

/-- What holds of a call while others commit. -/
def Phase.Sound (s : ManagerDb) : Phase → Prop
  | .findingManager department _ _ => HasDepartment s.db department.id
  | .clearing change => HasDepartment s.db change.departmentId
  | .closing change => HasDepartment s.db change.departmentId
  | .closingRow progress => progress.Sound s
  | .inserting progress => progress.Sound s ∧ progress.pending = []
  | .updating progress => progress.Sound s ∧ progress.pending = []
  | .committing progress => progress.Sound s ∧ progress.pending = []
  | _ => True

/-- A change is committed only when its closing `UPDATE` saw every row of the department
    that is open then: none has been committed since it began, or it is closed again. -/
def Phase.SeesOpenRows (s : ManagerDb) : Phase → Prop
  | .committing progress =>
    ∀ position ∈ openPositions s.history progress.change.departmentId, position ∈ progress.seen
  | _ => True

section Statements

variable {s s' : ManagerDb} {phase : Phase} {closing : Closing} {now : Instant}
  {st : Statement ManagerDb RowKey Phase} {departmentId : Nat}

theorem Grows.refl : Grows s s := ⟨fun _ => id, fun _ row hrow => ⟨row, hrow, rfl, id⟩⟩

/-- A row that is open was open before, if it was there. -/
theorem Grows.open_of (h : Grows s s') {position : Nat} {row : DepartmentManagerHistory}
    (hrow : s.history[position]? = some row) (hopen : position ∈ openPositions s'.history departmentId) :
    position ∈ openPositions s.history departmentId := by
  obtain ⟨row', hrow', hdepartment, hended⟩ := h.rows position row hrow
  obtain ⟨row'', hrow'', hopen⟩ := mem_openPositions.1 hopen
  cases hrow'.symm.trans hrow''
  rw [isOpen_eq_true] at hopen
  exact mem_openPositions.2 ⟨row, hrow,
    isOpen_eq_true.2 ⟨hdepartment.symm.trans hopen.1, hended hopen.2⟩⟩

theorem Closing.Sound.mono (hclosing : closing.Sound s) (h : Grows s s') : closing.Sound s' where
  department := h.departments _ hclosing.department
  seen position hseen := by
    obtain ⟨row, hrow, hdepartment⟩ := hclosing.seen position hseen
    obtain ⟨row', hrow', hsame, -⟩ := h.rows position row hrow
    exact ⟨row', hrow', hsame.trans hdepartment⟩
  pending := hclosing.pending
  closed := hclosing.closed
  accounted position hseen hopen := by
    obtain ⟨row, hrow, -⟩ := hclosing.seen position hseen
    exact hclosing.accounted position hseen (h.open_of hrow hopen)

theorem Phase.Sound.mono (hphase : phase.Sound s) (h : Grows s s') : phase.Sound s' := by
  cases phase with
  | findingManager department input actorId => exact h.departments _ hphase
  | clearing change | closing change => exact h.departments _ hphase
  | closingRow closing => exact Closing.Sound.mono hphase h
  | inserting closing | updating closing | committing closing =>
    exact ⟨Closing.Sound.mono hphase.1 h, hphase.2⟩
  | _ => trivial

theorem grows_of_db {db' : Db} (h : ∀ departmentId, HasDepartment s.db departmentId →
    HasDepartment db' departmentId) : Grows s { s with db := db' } :=
  ⟨h, fun _ row hrow => ⟨row, hrow, rfl, id⟩⟩

theorem Closing.hasDepartment_apply {other : Nat} (h : HasDepartment s.db other) :
    HasDepartment (closing.apply s).db other := by
  refine HasDepartment.setDepartment ?_
  cases closing.change.user with
  | none => exact h
  | some user => exact h.congr rfl

theorem Closing.grows_apply : Grows s (closing.apply s) := by
  refine ⟨fun _ => Closing.hasDepartment_apply, fun position row hrow => ?_⟩
  have hlt : position < (closeRows closing.closed closing.now s.history).length := by
    rw [closeRows, List.length_mapIdx]
    exact (List.getElem?_eq_some_iff.1 hrow).1
  refine ⟨_, (List.getElem?_append_left hlt).trans (getElem?_closeRows.trans (by rw [hrow]; rfl)), ?_⟩
  split
  · exact ⟨rfl, fun h => by cases h⟩
  · exact ⟨rfl, id⟩

/-- The commit of a change: the departments and the history agree afterwards if and only if
    no open row was overlooked. -/
theorem Closing.mirrors_apply (hclosing : closing.Sound s) (hpending : closing.pending = [])
    (hs : Mirrors s) : Mirrors (closing.apply s) ↔
      ∀ position ∈ openPositions s.history closing.change.departmentId, position ∈ closing.seen := by
  have hrows : ∀ position ∈ closing.closed, ∀ row, s.history[position]? = some row →
      row.departmentId = closing.change.departmentId := by
    intro position hmem row hrow
    obtain ⟨row', hrow', hdepartment⟩ := hclosing.seen position (hclosing.closed position hmem)
    cases hrow.symm.trans hrow'
    exact hdepartment
  have hmanager : managerOf (closing.apply s).db closing.change.departmentId =
      closing.change.nextManagerId := by
    refine managerOf_setDepartment_self ?_
    cases closing.change.user with
    | none => exact hclosing.department
    | some user => exact hclosing.department.congr rfl
  have hentry : openManagers closing.entry.toList closing.change.departmentId =
      closing.change.nextManagerId.toList.map some := by
    rw [Closing.entry]
    cases closing.change.nextManagerId with
    | none => rfl
    | some managerId => simp [openManagers, isOpen]
  have hself : openManagers (closing.apply s).history closing.change.departmentId =
        (managerOf (closing.apply s).db closing.change.departmentId).toList.map some ↔
      ∀ position ∈ openPositions s.history closing.change.departmentId, position ∈ closing.seen := by
    rw [hmanager, Closing.apply, openManagers_append, hentry, List.append_left_eq_self,
      openManagers_closeRows_eq_nil]
    refine forall₂_congr (fun position hopen => ⟨hclosing.closed position, fun hseen => ?_⟩)
    rcases hclosing.accounted position hseen hopen with hmem | hmem
    · rw [hpending] at hmem
      cases hmem
    · exact hmem
  refine ⟨fun h => hself.1 (h _), fun h departmentId => ?_⟩
  by_cases hne : departmentId = closing.change.departmentId
  · exact hne ▸ hself.2 h
  · have hother : openManagers closing.entry.toList departmentId = [] := by
      rw [Closing.entry]
      cases closing.change.nextManagerId with
      | none => rfl
      | some managerId => simp [openManagers, isOpen, Ne.symm hne]
    have hkept : managerOf (closing.apply s).db departmentId = managerOf s.db departmentId := by
      rw [Closing.apply, managerOf_setDepartment_ne hne]
      cases closing.change.user with
      | none => rfl
      | some user => exact managerOf_congr rfl
    rw [hkept, Closing.apply, openManagers_append, hother, List.append_nil,
      openManagers_closeRows_of_ne hne hrows, hs departmentId]

/-! ## Statements -/

theorem Closing.Sound.take {position : Nat} {rest : List Nat} (hclosing : closing.Sound s)
    (hpending : closing.pending = position :: rest) : (closing.take position rest s).Sound s := by
  have hrest : ∀ k ∈ rest, k ∈ closing.seen := fun k hk =>
    hclosing.pending k (hpending ▸ List.mem_cons_of_mem _ hk)
  have hposition : position ∈ closing.seen := hclosing.pending _ (hpending ▸ List.mem_cons_self)
  unfold Closing.take
  split
  · refine ⟨hclosing.department, hclosing.seen, hrest, fun k hk => ?_, fun k hseen hopen => ?_⟩
    · rcases List.mem_cons.1 hk with rfl | hk
      · exact hposition
      · exact hclosing.closed k hk
    · rcases hclosing.accounted k hseen hopen with hk | hk
      · rcases List.mem_cons.1 (hpending ▸ hk) with rfl | hk
        · exact .inr List.mem_cons_self
        · exact .inl hk
      · exact .inr (List.mem_cons_of_mem _ hk)
  · rename_i hshut
    refine ⟨hclosing.department, hclosing.seen, hrest, hclosing.closed, fun k hseen hopen => ?_⟩
    rcases hclosing.accounted k hseen hopen with hk | hk
    · rcases List.mem_cons.1 (hpending ▸ hk) with rfl | hk
      · exact absurd (List.mem_filter.1 hopen).2 hshut
      · exact .inl hk
    · exact .inr hk

theorem hasDepartment_of_findOne {db : Db} {reference : String} {department : Department}
    (h : DepartmentService.findOne db reference = .ok department) : HasDepartment db department.id :=
  ⟨department, Table.find?_of_mem (DepartmentService.findOne_eq_ok h).1⟩

theorem sound_afterManager {department : Department} {input : DepartmentService.UpdateDepartmentInput}
    {actorId : Option Nat} {nextManagerId : Property Nat} (h : HasDepartment s.db department.id) :
    (afterManager department input actorId nextManagerId).Sound s := by
  simp only [afterManager]
  split
  · split <;> exact h
  · split <;> trivial

theorem sound_afterDestination {actorId : Nat} {user : User} {departmentId : Property Nat} :
    (afterDestination actorId user departmentId).Sound s := by
  unfold afterDestination
  split
  · split <;> trivial
  · trivial

theorem sound_afterRelease {actorId previousDepartmentId : Nat} {user : SavedUser} :
    (afterRelease s.db actorId previousDepartmentId user).Sound s := by
  unfold afterRelease
  cases hmanaged : DepartmentService.managedBy s.db previousDepartmentId user.id with
  | none => trivial
  | some department =>
    exact ⟨department, (Option.filter_eq_some_iff.1 (Option.filter_eq_some_iff.1 hmanaged).1).1⟩

theorem Phase.Sound.orEnd {α : Type} {result : Except HttpException α} {next : α → Phase}
    (h : ∀ a, result = .ok a → (next a).Sound s) : (ManagerHistory.orEnd result next).Sound s := by
  cases result with
  | ok a => exact h a rfl
  | error e => trivial

/-- What a statement commits keeps every assertion about the others. -/
theorem grows_written (h : statement now phase = some st) : Grows s (st.written s) := by
  cases phase with
  | committingPatch departmentId isActive =>
    cases h
    exact grows_of_db (fun _ => HasDepartment.setDepartment)
  | committingUser user =>
    cases h
    exact grows_of_db (fun _ hdepartment => hdepartment.congr rfl)
  | committing progress =>
    cases h
    exact Closing.grows_apply
  | closingRow progress =>
    cases h
    unfold closeNext
    split <;> exact Grows.refl
  | ended result => cases h
  | _ =>
    cases h
    exact Grows.refl

/-- What a call knows after a statement. -/
theorem sound_after (hphase : phase.Sound s) (h : statement now phase = some st) :
    (st.after s).Sound s := by
  cases phase with
  | findingDepartment reference input actorId =>
    cases h
    dsimp only [Statement.after]
    generalize hfind : DepartmentService.findOne s.db reference = result
    refine Phase.Sound.orEnd (fun department hok => ?_)
    subst hok
    exact hasDepartment_of_findOne hfind
  | findingManager department input actorId =>
    cases h
    dsimp only [Statement.after]
    refine Phase.Sound.orEnd (fun _ _ => ?_)
    exact sound_afterManager hphase
  | clearing change =>
    cases h
    dsimp only [Statement.after]
    refine Phase.Sound.orEnd (fun _ _ => ?_)
    exact hphase
  | findingUser actorId targetUserId departmentReference =>
    cases h
    dsimp only [Statement.after]
    split <;> trivial
  | findingDestination actorId user departmentReference =>
    cases h
    dsimp only [Statement.after]
    refine Phase.Sound.orEnd (fun _ _ => ?_)
    exact sound_afterDestination
  | leaving actorId previousDepartmentId user =>
    cases h
    dsimp only [Statement.after]
    split <;> trivial
  | countingPending actorId previousDepartmentId user =>
    cases h
    dsimp only [Statement.after]
    refine Phase.Sound.orEnd (fun _ _ => ?_)
    trivial
  | savingUser actorId previousDepartmentId user =>
    cases h
    dsimp only [Statement.after]
    split <;> trivial
  | releasing actorId previousDepartmentId user =>
    cases h
    exact sound_afterRelease
  | closing change =>
    cases h
    refine ⟨hphase, fun position hseen => ?_, fun _ => id, fun _ h => (by cases h), fun _ hseen _ => .inl hseen⟩
    obtain ⟨row, hrow, hopen⟩ := mem_openPositions.1 hseen
    exact ⟨row, hrow, (isOpen_eq_true.1 hopen).1⟩
  | closingRow progress =>
    cases h
    unfold closeNext
    split
    · rename_i hpending
      exact ⟨hphase, hpending⟩
    · rename_i hpending
      exact Closing.Sound.take hphase hpending
  | inserting progress =>
    cases h
    exact hphase
  | updating progress =>
    cases h
    exact hphase
  | ended result => cases h
  | _ =>
    cases h
    trivial

/-- A statement keeps the departments and the history in agreement if and only if it is not
    the commit of a change that overlooked an open row. -/
theorem mirrors_written (hphase : phase.Sound s) (hs : Mirrors s) (h : statement now phase = some st) :
    Mirrors (st.written s) ↔ phase.SeesOpenRows s := by
  cases phase with
  | committingPatch departmentId isActive =>
    cases h
    refine iff_of_true (fun other => ?_) trivial
    dsimp only [Statement.written]
    rw [hs other, managerOf_setDepartment_keep]
  | committingUser user =>
    cases h
    refine iff_of_true (fun other => ?_) trivial
    exact hs other
  | committing progress =>
    cases h
    exact Closing.mirrors_apply hphase.1 hphase.2 hs
  | closingRow progress =>
    cases h
    refine iff_of_true ?_ trivial
    unfold closeNext
    split <;> exact hs
  | ended result => cases h
  | _ =>
    cases h
    exact iff_of_true hs trivial

end Statements

/-! ## Runs -/

/-- The condition on a step: a commit that does not throw overlooks no open row. -/
def StepSeesOpenRows (_ : Nat) (s : Locked ManagerDb RowKey) (phase : Phase) : Outcome → Prop
  | .runs _ => phase.SeesOpenRows s.committed
  | .throws _ => True

/-- The condition on a turn. -/
def SeesOpenRows : Guard (Pool (Locked ManagerDb RowKey) Phase) (Turn Request Outcome Db) :=
  Concurrent.onStep StepSeesOpenRows

instance (s : ManagerDb) (phase : Phase) : Decidable (phase.SeesOpenRows s) := by
  cases phase <;> unfold Phase.SeesOpenRows <;> infer_instance

instance (i : Nat) (s : Locked ManagerDb RowKey) (phase : Phase) (outcome : Outcome) :
    Decidable (StepSeesOpenRows i s phase outcome) := by
  cases outcome <;> unfold StepSeesOpenRows <;> infer_instance

/-- What every call knows, whatever the others do. -/
abbrev Sound : Pool (Locked ManagerDb RowKey) Phase → Prop :=
  Concurrent.Holds (fun _ => True) (fun _ s phase => phase.Sound s.committed)

section Runs

variable {s s' : Locked ManagerDb RowKey} {phase phase' : Phase} {outcome : Outcome} {i : Nat}
  {p p' : Pool (Locked ManagerDb RowKey) Phase} {turn : Turn Request Outcome Db}

/-- A step executes a statement, or rolls back. -/
theorem step_cases (h : changes.step i s phase outcome = some (s', phase')) :
    (∃ now st, outcome = .runs now ∧ statement now phase = some st ∧
      s'.committed = st.written s.committed ∧ phase' = st.after s.committed) ∨
    (∃ exception, outcome = .throws exception ∧ s'.committed = s.committed ∧
      phase' = .ended (.error exception)) := by
  obtain ⟨st, hst, hstep⟩ := Option.bind_eq_some_iff.1 h
  obtain ⟨hcommitted, hphase⟩ := Locked.step_eq_some hstep
  cases outcome with
  | runs now => exact .inl ⟨now, st, rfl, hst, hcommitted, hphase⟩
  | throws exception =>
    refine .inr ⟨exception, rfl, ?_⟩
    cases phase with
    | ended result => cases hst
    | _ =>
      cases hst
      exact ⟨hcommitted, hphase⟩

theorem outline : changes.Outline Concurrent.anyStep (fun _ => True)
    (fun _ s phase => phase.Sound s.committed) where
  start := by
    intro s request s' phase _ hstart
    cases hstart
    refine ⟨trivial, fun _ => ?_, fun _ _ h => h⟩
    cases request <;> trivial
  step := by
    intro i s phase outcome s' phase' _ hphase _ hstep
    refine ⟨trivial, ?_⟩
    rcases step_cases hstep with ⟨now, st, -, hst, hcommitted, rfl⟩ | ⟨exception, -, hcommitted, rfl⟩
    · rw [hcommitted]
      exact ⟨(sound_after hphase hst).mono (grows_written hst),
        fun _ _ _ hother => hother.mono (grows_written hst)⟩
    · rw [hcommitted]
      exact ⟨trivial, fun _ _ _ hother => hother⟩
  surroundings := by
    intro s db' s' _ hchange
    refine ⟨trivial, fun _ phase hphase => ?_⟩
    simp only [changes] at hchange
    split at hchange
    · rename_i hkeeps
      cases hchange
      exact hphase.mono (grows_of_db (keepsManagers_spec hkeeps).2)
    · cases hchange

/-- One turn: the departments and the history agree afterwards if and only if it overlooks no
    open row. -/
theorem mirrors_next (hp : Sound p) (hmirrors : Mirrors p.shared.committed)
    (hstep : changes.Step p turn p') : Mirrors p'.shared.committed ↔ SeesOpenRows p turn := by
  cases turn with
  | start request =>
    obtain ⟨s, phase, hstart, rfl⟩ := Concurrent.next_start_eq_some.1 hstep
    cases hstart
    exact iff_of_true hmirrors (fun _ _ _ h => by cases h)
  | surroundings db' =>
    obtain ⟨s, hchange, rfl⟩ := Concurrent.next_surroundings_eq_some.1 hstep
    refine iff_of_true ?_ (fun _ _ _ h => by cases h)
    simp only [changes] at hchange
    split at hchange
    · rename_i hkeeps
      cases hchange
      intro departmentId
      rw [(keepsManagers_spec hkeeps).1 departmentId]
      exact hmirrors departmentId
    · cases hchange
  | step i outcome =>
    obtain ⟨phase, s, phase', hphase, hmove, rfl⟩ := Concurrent.next_step_eq_some.1 hstep
    have hguard : SeesOpenRows p (.step i outcome) ↔ StepSeesOpenRows i p.shared phase outcome := by
      refine ⟨fun h => h i outcome phase rfl hphase, fun h j outcome' u hturn hu => ?_⟩
      cases hturn
      cases hphase.symm.trans hu
      exact h
    rw [hguard]
    rcases step_cases hmove with ⟨now, st, rfl, hst, hcommitted, -⟩ | ⟨exception, rfl, hcommitted, -⟩
    · rw [hcommitted]
      exact mirrors_written (hp.thread i phase hphase) hmirrors hst
    · rw [hcommitted]
      exact iff_of_true hmirrors trivial

/-- In a run of any calls, in any order of their statements, the departments and the history
    agree in every state if and only if no commit overlooks an open row of its department. -/
theorem history_mirrors_iff {s : ManagerDb}
    {tr : List (Turn Request Outcome Db × Pool (Locked ManagerDb RowKey) Phase)} (hs : Mirrors s)
    (h : Run changes.Step (Pool.idle (Locked.unlocked s)) tr) :
    (∀ p ∈ Run.states (Pool.idle (Locked.unlocked s)) tr, Mirrors p.shared.committed) ↔
      ∀ step ∈ Run.steps (Pool.idle (Locked.unlocked s)) tr, SeesOpenRows step.1 step.2 :=
  Run.forall_states_iff (I := Sound) (P := fun p => Mirrors p.shared.committed)
    (fun _ _ _ hp hstep => outline.next hp (fun _ _ _ _ _ => trivial) hstep)
    (fun _ _ _ hp hmirrors hstep => mirrors_next hp hmirrors hstep)
    (Concurrent.holds_idle trivial) hs h

end Runs

/-! ### Two changes, one after the other and at once -/

def Phase.hasCommitted : Phase → Bool
  | .ended (.ok _) => true
  | _ => false

namespace Sample

open Expentra.Sample

def member (id : Nat) (reference : String) : User :=
  ⟨id, reference, "", some 1, true, true, none, none⟩

/-- A department with its manager and two more members. -/
def staffed : ManagerDb where
  db := { directory.store with
    users := ⟨[member 2 "USR1700000000002AAAAAA", member 3 "USR1700000000003AAAAAA",
      member 4 "USR1700000000004AAAAAA"], by decide⟩ }
  history := [⟨1, some 2, none, 0, none⟩]

/-- The administrator makes a member the manager. -/
def appoint (managerReference : String) : Turn Request Outcome Db :=
  .start (.update "DPT1700000000005AAAAAA" ⟨none, .value managerReference⟩ (some 1))

def steps (i count : Nat) : List (Turn Request Outcome Db) := List.replicate count (.step i (.runs now))

def bothAppointments : List (Turn Request Outcome Db) :=
  [appoint "USR1700000000003AAAAAA", appoint "USR1700000000004AAAAAA"]

def oneAfterTheOther : List (Turn Request Outcome Db) := bothAppointments ++ steps 0 8 ++ steps 1 8

/-- The second closing `UPDATE` begins before the first change is committed, and waits for it. -/
def twoAtOnce : List (Turn Request Outcome Db) :=
  bothAppointments ++ steps 0 5 ++ steps 1 3 ++ steps 0 3 ++ steps 1 5

end Sample

theorem mirrors_staffed : Mirrors Sample.staffed := by
  intro departmentId
  by_cases h : departmentId = 1
  · subst h
    decide
  · simp [openManagers, isOpen, managerOf, Sample.staffed, Expentra.Sample.directory, Table.find?,
      Ne.symm h]

theorem history_mirrors_iff_sample :
    ∃ tr, tr.map Prod.fst = Sample.oneAfterTheOther ∧
      ((∀ p ∈ Run.states (Pool.idle (Locked.unlocked Sample.staffed)) tr, Mirrors p.shared.committed) ↔
        ∀ step ∈ Run.steps (Pool.idle (Locked.unlocked Sample.staffed)) tr,
          SeesOpenRows step.1 step.2) := by
  have hexec : (changes.exec StepSeesOpenRows Sample.oneAfterTheOther
      (Pool.idle (Locked.unlocked Sample.staffed))).isSome = true := by decide +kernel
  obtain ⟨p, hp⟩ := Option.isSome_iff_exists.1 hexec
  obtain ⟨tr, hrun, hturns, -⟩ := Concurrent.run_of_exec hp
  exact ⟨tr, hturns, history_mirrors_iff mirrors_staffed hrun.of_guarded⟩

/-- Two overlapping appointments are committed, and both rows stay open. -/
theorem two_open_rows : ∃ p : Pool (Locked ManagerDb RowKey) Phase,
    Mirrors Sample.staffed ∧
    Reaches changes.Step (Pool.idle (Locked.unlocked Sample.staffed)) p ∧
    p.threads.all Phase.hasCommitted = true ∧
    openManagers p.shared.committed.history 1 = [some 3, some 4] ∧
    ¬ Mirrors p.shared.committed := by
  have hexec : (changes.exec Concurrent.anyStep Sample.twoAtOnce
      (Pool.idle (Locked.unlocked Sample.staffed))).any (fun p =>
        p.threads.all Phase.hasCommitted ∧
          openManagers p.shared.committed.history 1 = [some 3, some 4] ∧
          managerOf p.shared.committed.db 1 = some 4) = true := by decide +kernel
  obtain ⟨p, hp, hfacts⟩ := (Option.any_eq_true _ _).1 hexec
  obtain ⟨hcommitted, hrows, hmanager⟩ := of_decide_eq_true hfacts
  refine ⟨p, mirrors_staffed, (Concurrent.reaches_of_exec hp).of_guarded, hcommitted, hrows, ?_⟩
  intro hmirrors
  have hone := hmirrors 1
  rw [hrows, hmanager] at hone
  cases hone

end ManagerHistory

end Expentra
