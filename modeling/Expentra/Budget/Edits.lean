-- SUMMARY: Edits of budget rows, read and saved in separate steps, and when they write only what they were told to.
import Expentra.Library.Interleaving
import Expentra.System.Operations

/-!
# Edits of a budget

`BudgetService.update` loads the whole row, assigns the supplied columns and saves
the entity. `save` reads the row again and updates every column in which the entity
differs from it. A transition that moves the counters between the two reads is such
a difference.

Each statement of an edit is a step; the other operations are committed around them.
-/

namespace Expentra.BudgetEdits

open Library BudgetService

structure EditRequest where
  reference : String
  input : UpdateDepartmentBudgetInput

/-- The columns an `UPDATE` sets. -/
structure Changes where
  amountLimit : Option Nat
  isActive : Option Bool
  committedAmount : Option Nat
  reimbursedAmount : Option Nat
deriving DecidableEq

/-- Where an edit is: its next statement with what it has read. -/
inductive Phase where
  /-- `findEntityByReference` -/
  | finding (request : EditRequest)
  /-- `findOne` of the row -/
  | loading (request : EditRequest) (key : Nat × Int)
  /-- The first statement of `save`, with the row as it was loaded. -/
  | rereading (request : EditRequest) (loaded : DepartmentBudget)
  /-- The `UPDATE` of `save`, committed at once. -/
  | writing (request : EditRequest) (key : Nat × Int) (changes : Changes)
  /-- `findOne` of the result -/
  | returning (request : EditRequest)
  | done (result : Except HttpException Unit)

/-- The value of the entity, if the column has another one. -/
def changed {α : Type} [DecidableEq α] (entity column : α) : Option α :=
  if entity = column then none else some entity

/-- The columns in which the entity, after the assignments, differs from the row. -/
def diff (input : UpdateDepartmentBudgetInput) (loaded row : DepartmentBudget) : Changes where
  amountLimit := changed ((input.amountLimit.map Int.toNat).getD loaded.amountLimit) row.amountLimit
  isActive := changed (input.isActive.getD loaded.isActive) row.isActive
  committedAmount := changed loaded.committedAmount row.committedAmount
  reimbursedAmount := changed loaded.reimbursedAmount row.reimbursedAmount

/-- The row after the `UPDATE`, when the columns can hold it. -/
def Changes.apply (changes : Changes) (row : DepartmentBudget) : Option DepartmentBudget :=
  if h : budgetRepresentable (changes.amountLimit.getD row.amountLimit)
      (changes.committedAmount.getD row.committedAmount)
      (changes.reimbursedAmount.getD row.reimbursedAmount) then
    some { row with
      amountLimit := changes.amountLimit.getD row.amountLimit
      isActive := changes.isActive.getD row.isActive
      committedAmount := changes.committedAmount.getD row.committedAmount
      reimbursedAmount := changes.reimbursedAmount.getD row.reimbursedAmount
      representable := h }
  else none

def assertInput (input : UpdateDepartmentBudgetInput) : Except HttpException Unit :=
  match input.amountLimit with
  | some amountLimit => assertPositiveLimit amountLimit
  | none => .ok ()

/-- `findOne` of the row, and the checks of the input. -/
def load (db : Db) (key : Nat × Int) (input : UpdateDepartmentBudgetInput) :
    Except HttpException DepartmentBudget :=
  match (db.budgets.find? key).filter (·.deletedAt.isNone) with
  | none => .error (.notFound "Budget not found")
  | some budget => (assertInput input).map (fun _ => budget)

/-- The `UPDATE` by primary key. -/
def writeRow (db : Db) (key : Nat × Int) (changes : Changes) : Except HttpException Db :=
  match db.budgets.find? key with
  | none => .ok db
  | some row =>
    match changes.apply row with
    | some updated => .ok { db with budgets := db.budgets.replace updated }
    | none => .error (.queryFailed "22003")

/-- Go on with a value, or end with the exception. -/
def orEnd {α : Type} (result : Except HttpException α) (next : α → Phase) : Phase :=
  match result with
  | .ok a => next a
  | .error exception => .done (.error exception)

/-- The statements of an edit. A row is never deleted, so that `save` finds it. -/
def advance (_ : Nat) (db : Db) (phase : Phase) (_ : Unit) : Option (Db × Phase) :=
  match phase with
  | .finding request =>
    some (db, orEnd (findOne db request.reference) (fun budget => .loading request budget.key))
  | .loading request key =>
    some (db, orEnd (load db key request.input) (fun budget => .rereading request budget))
  | .rereading request loaded =>
    (db.budgets.find? loaded.key).map (fun row =>
      (db, .writing request loaded.key (diff request.input loaded row)))
  | .writing request key changes =>
    some ((writeRow db key changes).toOption.getD db,
      orEnd (writeRow db key changes) (fun _ => .returning request))
  | .returning request =>
    some (db, orEnd (findOne db request.reference) (fun _ => .done (.ok ())))
  | .done _ => none

/-- Any number of edits, with the operations of the system around them. -/
def edits (cfg : Config) : Concurrent Db Phase EditRequest Unit Operation where
  start db request := some (db, .finding request)
  step := advance
  surroundings db op := some ((op.perform cfg).commit db)

/-! ## What an edit writes -/

section Edits

variable {cfg : Config} {db db' : Db} {input : UpdateDepartmentBudgetInput} {changes : Changes}
  {row updated loaded : DepartmentBudget} {i : Nat} {phase phase' : Phase} {u : Unit}

/-- The columns are among those the caller supplied, with the values supplied. -/
structure OnlySupplied (input : UpdateDepartmentBudgetInput) (changes : Changes) : Prop where
  amountLimit : ∀ amountLimit ∈ changes.amountLimit, input.amountLimit.map Int.toNat = some amountLimit
  isActive : ∀ isActive ∈ changes.isActive, input.isActive = some isActive
  committedAmount : changes.committedAmount = none
  reimbursedAmount : changes.reimbursedAmount = none

/-- The columns that were not supplied are what was loaded. -/
structure UpToDate (input : UpdateDepartmentBudgetInput) (loaded row : DepartmentBudget) : Prop where
  amountLimit : input.amountLimit = none → row.amountLimit = loaded.amountLimit
  isActive : input.isActive = none → row.isActive = loaded.isActive
  committedAmount : row.committedAmount = loaded.committedAmount
  reimbursedAmount : row.reimbursedAmount = loaded.reimbursedAmount

theorem changed_eq_none {α : Type} [DecidableEq α] {entity column : α} :
    changed entity column = none ↔ column = entity := by
  simp [changed, eq_comm]

/-- A column of the entity that an optional value was assigned to is written with that
    value only, unless it is out of date. -/
theorem changed_getD {α : Type} [DecidableEq α] {supplied : Option α} {loaded column : α} :
    (∀ a ∈ changed (supplied.getD loaded) column, supplied = some a) ↔
      (supplied = none → column = loaded) := by
  cases supplied with
  | none =>
    by_cases h : loaded = column
    · simp [changed, h]
    · simp [changed, h, Ne.symm h]
  | some a => simp [changed]

instance (input : UpdateDepartmentBudgetInput) (loaded row : DepartmentBudget) :
    Decidable (UpToDate input loaded row) :=
  decidable_of_iff ((input.amountLimit = none → row.amountLimit = loaded.amountLimit) ∧
      (input.isActive = none → row.isActive = loaded.isActive) ∧
      row.committedAmount = loaded.committedAmount ∧ row.reimbursedAmount = loaded.reimbursedAmount)
    ⟨fun ⟨hlimit, hactive, hcommitted, hreimbursed⟩ => ⟨hlimit, hactive, hcommitted, hreimbursed⟩,
      fun ⟨hlimit, hactive, hcommitted, hreimbursed⟩ => ⟨hlimit, hactive, hcommitted, hreimbursed⟩⟩

/-- `save` writes the supplied columns only, if and only if the others are up to date
    when it reads the row. -/
theorem onlySupplied_diff_iff :
    OnlySupplied input (diff input loaded row) ↔ UpToDate input loaded row := by
  constructor
  · rintro ⟨hlimit, hactive, hcommitted, hreimbursed⟩
    have hlimit := changed_getD.1 hlimit
    exact ⟨fun hnone => hlimit (by rw [hnone]; rfl), changed_getD.1 hactive,
      changed_eq_none.1 hcommitted, changed_eq_none.1 hreimbursed⟩
  · rintro ⟨hlimit, hactive, hcommitted, hreimbursed⟩
    refine ⟨changed_getD.2 (fun hnone => hlimit (Option.map_eq_none_iff.1 hnone)),
      changed_getD.2 hactive, changed_eq_none.2 hcommitted, changed_eq_none.2 hreimbursed⟩

/-- The row after an `UPDATE` of supplied columns. -/
structure EditedBy (input : UpdateDepartmentBudgetInput) (row updated : DepartmentBudget) : Prop where
  key : updated.key = row.key
  reference : updated.reference = row.reference
  deletedAt : updated.deletedAt = row.deletedAt
  committedAmount : updated.committedAmount = row.committedAmount
  reimbursedAmount : updated.reimbursedAmount = row.reimbursedAmount
  amountLimit : updated.amountLimit = row.amountLimit ∨
    input.amountLimit.map Int.toNat = some updated.amountLimit
  isActive : updated.isActive = row.isActive ∨ input.isActive = some updated.isActive

theorem getD_eq_or {α : Type} {value supplied : Option α} {column : α}
    (h : ∀ a ∈ value, supplied = some a) :
    value.getD column = column ∨ supplied = some (value.getD column) := by
  cases value with
  | none => exact .inl rfl
  | some a => exact .inr (h a rfl)

theorem editedBy_of_apply (h : changes.apply row = some updated) (hchanges : OnlySupplied input changes) :
    EditedBy input row updated := by
  unfold Changes.apply at h
  split at h
  · cases h
    refine ⟨rfl, rfl, rfl, ?_, ?_, ?_, ?_⟩
    · exact congrArg (·.getD row.committedAmount) hchanges.committedAmount
    · exact congrArg (·.getD row.reimbursedAmount) hchanges.reimbursedAmount
    · exact getD_eq_or hchanges.amountLimit
    · exact getD_eq_or hchanges.isActive
  · cases h

/-! ## Edits among transitions -/

/-- What `save` is about to compare: the input and the row as it was loaded. -/
def rereading? : Phase → Option (UpdateDepartmentBudgetInput × DepartmentBudget)
  | .rereading request loaded => some (request.input, loaded)
  | _ => none

/-- When `save` reads the row again, it is as it was loaded, but for the columns the
    caller supplied. -/
def Fresh (_ : Nat) (db : Db) (phase : Phase) (_ : Unit) : Prop :=
  ∀ pending ∈ rereading? phase, ∀ row ∈ db.budgets.find? pending.2.key, UpToDate pending.1 pending.2 row

instance (i : Nat) (db : Db) (phase : Phase) (u : Unit) : Decidable (Fresh i db phase u) :=
  inferInstanceAs (Decidable (∀ pending ∈ rereading? phase, ∀ row ∈ _, UpToDate _ _ row))

/-- An edit that is about to write writes supplied columns only. -/
def WillWriteSupplied (phase : Phase) : Prop :=
  ∀ request key changes, phase = .writing request key changes → OnlySupplied request.input changes

/-- The input of the edit that is about to write. -/
def writing? : Phase → Option UpdateDepartmentBudgetInput
  | .writing request _ _ => some request.input
  | _ => none

theorem willWriteSupplied_of_none (h : writing? phase = none) : WillWriteSupplied phase := by
  rintro request key changes rfl
  cases h

theorem willWriteSupplied_orEnd {α : Type} {result : Except HttpException α} {next : α → Phase}
    (h : ∀ a, writing? (next a) = none) : WillWriteSupplied (orEnd result next) := by
  unfold orEnd
  split
  · exact willWriteSupplied_of_none (h _)
  · exact willWriteSupplied_of_none rfl

/-- Only `save` decides what is written. -/
theorem advance_willWriteSupplied (hfresh : Fresh i db phase u)
    (hstep : advance i db phase u = some (db', phase')) : WillWriteSupplied phase' := by
  cases phase with
  | finding request =>
    cases hstep
    exact willWriteSupplied_orEnd (fun _ => rfl)
  | loading request key =>
    cases hstep
    exact willWriteSupplied_orEnd (fun _ => rfl)
  | rereading request loaded =>
    obtain ⟨row, hrow, heq⟩ := Option.map_eq_some_iff.1 hstep
    cases heq
    rintro _ _ _ ⟨⟩
    exact onlySupplied_diff_iff.2 (hfresh (request.input, loaded) rfl row hrow)
  | writing request key changes =>
    cases hstep
    exact willWriteSupplied_orEnd (fun _ => rfl)
  | returning request =>
    cases hstep
    exact willWriteSupplied_orEnd (fun _ => rfl)
  | done result => cases hstep

/-- A row is left alone, or edited by an input. -/
def LeftOrEdited (input? : Option UpdateDepartmentBudgetInput) :
    Option DepartmentBudget → Option DepartmentBudget → Prop :=
  Option.Rel (fun row updated => updated = row ∨ ∃ input ∈ input?, EditedBy input row updated)

theorem LeftOrEdited.refl {input? : Option UpdateDepartmentBudgetInput} (o : Option DepartmentBudget) :
    LeftOrEdited input? o o := by
  cases o with
  | none => exact .none
  | some row => exact .some (.inl rfl)

theorem LeftOrEdited.map_eq {input? : Option UpdateDepartmentBudgetInput}
    {o o' : Option DepartmentBudget} {column : DepartmentBudget → Nat} (h : LeftOrEdited input? o o')
    (hcolumn : ∀ input row updated, EditedBy input row updated → column updated = column row) :
    o'.map (fun row => (column row : Int)) = o.map (fun row => (column row : Int)) := by
  cases h with
  | none => rfl
  | some h =>
    rcases h with rfl | ⟨input, -, hedited⟩
    · rfl
    · rw [Option.map_some, Option.map_some, hcolumn input _ _ hedited]

/-- A statement of an edit changes a row as the caller asked, or not at all. -/
theorem advance_edits (hwill : WillWriteSupplied phase)
    (hstep : advance i db phase u = some (db', phase')) (k : Nat × Int) :
    LeftOrEdited (writing? phase) (db.budgets.find? k) (db'.budgets.find? k) := by
  cases phase with
  | writing request key changes =>
    cases hstep
    unfold writeRow
    split
    · exact .refl _
    · rename_i row hrow
      split
      · rename_i updated hupdated
        have hedited := editedBy_of_apply hupdated (hwill request key changes rfl)
        have hkey : updated.key = key := hedited.key.trans (Table.key_of_find? hrow)
        subst hkey
        change LeftOrEdited _ (db.budgets.find? k) ((db.budgets.replace updated).find? k)
        by_cases hk : k = updated.key
        · rw [hk, hrow, Table.find?_replace_self hrow]
          exact .some (.inr ⟨request.input, rfl, hedited⟩)
        · rw [Table.find?_replace_ne hk]
          exact .refl _
      · exact .refl _
  | rereading request loaded =>
    obtain ⟨row, -, heq⟩ := Option.map_eq_some_iff.1 hstep
    cases heq
    exact .refl _
  | done result => cases hstep
  | _ =>
    cases hstep
    exact .refl _

theorem outline (cfg : Config) :
    (edits cfg).Outline Fresh (fun _ => True) (fun _ _ phase => WillWriteSupplied phase) where
  start := by
    intro db request db' phase _ hstart
    cases hstart
    exact ⟨trivial, fun _ => willWriteSupplied_of_none rfl, fun _ _ => id⟩
  step := by
    intro i db phase u db' phase' _ _ hfresh hstep
    exact ⟨trivial, advance_willWriteSupplied hfresh hstep, fun _ _ _ => id⟩
  surroundings := fun _ _ => ⟨trivial, fun _ _ => id⟩

/-- A turn of an edit changes the budget rows as its caller asked, or not at all. -/
def WritesSupplied (p : Pool Db Phase) (turn : Turn EditRequest Unit Operation)
    (p' : Pool Db Phase) : Prop :=
  ∀ i phase, turn = .step i () → p.threads[i]? = some phase → ∀ k,
    LeftOrEdited (writing? phase) (p.shared.budgets.find? k) (p'.shared.budgets.find? k)

/-- A counter of the row of a key. -/
def counter (column : DepartmentBudget → Nat) (k : Nat × Int) (p : Pool Db Phase) : Int :=
  ((p.shared.budgets.find? k).map (fun row => (column row : Int))).getD 0

/-- What the operations around the edits add to a counter. -/
def added (column : DepartmentBudget → Nat) (k : Nat × Int) :
    Pool Db Phase × Turn EditRequest Unit Operation × Pool Db Phase → Int
  | (p, .surroundings _, p') => counter column k p' - counter column k p
  | _ => 0

/-- Edits that write what was supplied add nothing to the counters. -/
theorem counter_eq_of_step {p p' : Pool Db Phase} {turn : Turn EditRequest Unit Operation}
    {column : DepartmentBudget → Nat}
    (hcolumn : ∀ input row updated, EditedBy input row updated → column updated = column row)
    (hstep : (edits cfg).Step p turn p') (hwrites : WritesSupplied p turn p') (k : Nat × Int) :
    counter column k p' - counter column k p = added column k (p, turn, p') := by
  cases turn with
  | start request =>
    obtain ⟨db, phase, hstart, rfl⟩ := Concurrent.next_start_eq_some.1 hstep
    cases hstart
    exact Int.sub_self _
  | surroundings op => rfl
  | step i u =>
    obtain ⟨phase, db', phase', hphase, -, rfl⟩ := Concurrent.next_step_eq_some.1 hstep
    have hrows := hwrites i phase rfl hphase k
    refine Int.sub_eq_zero.2 ?_
    unfold counter
    rw [hrows.map_eq hcolumn]

end Edits

/-- In a run in which every `save` finds the row as it was loaded, every edit writes the
    columns its caller supplied and no other, and the counters of every row are what
    the other operations made of them. -/
theorem edits_write_supplied {cfg : Config} {db₀ : Db}
    {tr : List (Turn EditRequest Unit Operation × Pool Db Phase)}
    (hrun : Run (Guarded (Concurrent.onStep Fresh) (edits cfg).Step) (Pool.idle db₀) tr) :
    (∀ step ∈ Run.transitions (Pool.idle db₀) tr, WritesSupplied step.1 step.2.1 step.2.2) ∧
    ∀ column ∈ [DepartmentBudget.committedAmount, DepartmentBudget.reimbursedAmount], ∀ k,
      counter column k (Run.last (Pool.idle db₀) tr) = counter column k (Pool.idle db₀) +
        ((Run.transitions (Pool.idle db₀) tr).map (added column k)).sum := by
  have hwrites : ∀ step ∈ Run.transitions (Pool.idle db₀) tr,
      WritesSupplied step.1 step.2.1 step.2.2 := by
    rintro ⟨p, turn, p'⟩ hmem i phase rfl hphase
    obtain ⟨hreach, hguard, hstep⟩ := hrun.of_mem_transitions hmem
    have hholds := (outline cfg).reaches (Concurrent.holds_idle trivial) hreach
    obtain ⟨phase₁, db', phase', hphase₁, hadvance, rfl⟩ := Concurrent.next_step_eq_some.1 hstep
    cases hphase.symm.trans hphase₁
    exact @advance_edits _ _ i _ _ () (hholds.thread i phase hphase) hadvance
  refine ⟨hwrites, fun column hcolumn k => ?_⟩
  have hkept : ∀ input row updated, EditedBy input row updated → column updated = column row := by
    intro input row updated hedited
    simp only [List.mem_cons, List.not_mem_nil, or_false] at hcolumn
    rcases hcolumn with rfl | rfl
    · exact hedited.committedAmount
    · exact hedited.reimbursedAmount
  rw [Run.last_eq_add_sum (counter column k), List.map_congr_left]
  rintro ⟨p, turn, p'⟩ hmem
  exact counter_eq_of_step hkept (hrun.of_mem_transitions hmem).2.2 (hwrites _ hmem) k

/-! ## An edit beside a submission -/

namespace Sample

def draft : Db := runAll Sample.config [Sample.createExpense] Sample.dbWithBudget

/-- The limit is raised to 200000. -/
def raise : Turn EditRequest Unit Operation := .start ⟨"BUD1700000000001AAAAAA", ⟨some 200000, none⟩⟩

def edit : Turn EditRequest Unit Operation := .step 0 ()

def submission : Turn EditRequest Unit Operation := .surroundings Sample.submit

/-- The expense of 5000 is submitted, then the budget is edited. -/
def oneAfterTheOther : List (Turn EditRequest Unit Operation) :=
  [submission, raise, edit, edit, edit, edit, edit]

/-- The budget is loaded, the expense is submitted, and `save` reads the row again. -/
def overlapping : List (Turn EditRequest Unit Operation) := [raise, edit, edit, submission, edit]

end Sample

theorem edits_write_supplied_sample :
    ∃ tr, tr.map Prod.fst = Sample.oneAfterTheOther ∧
      (∃ p ∈ Run.states (Pool.idle Sample.draft) tr,
        p.shared.budgets.rows.map (fun b => (b.amountLimit, b.committedAmount)) = [(200000, 5000)]) ∧
      ∀ step ∈ Run.transitions (Pool.idle Sample.draft) tr,
        WritesSupplied step.1 step.2.1 step.2.2 := by
  have hexec : ((edits Sample.config).exec Fresh Sample.oneAfterTheOther (Pool.idle Sample.draft)).any
      (fun p => p.shared.budgets.rows.map (fun b => (b.amountLimit, b.committedAmount)) =
        [(200000, 5000)]) = true := by
    decide +kernel
  obtain ⟨p, hexec, hrows⟩ := (Option.any_eq_true _ _).1 hexec
  obtain ⟨tr, hrun, hturns, hmem⟩ := Concurrent.run_of_exec hexec
  exact ⟨tr, hturns, ⟨p, hmem, of_decide_eq_true hrows⟩, (edits_write_supplied hrun).1⟩

/-- The `UPDATE` of the limit writes the committed amount back to what it was before the
    submission. -/
theorem edit_loses_submission :
    ∃ p p', Reaches (edits Sample.config).Step (Pool.idle Sample.draft) p ∧
      (edits Sample.config).Step p Sample.edit p' ∧
      counter DepartmentBudget.committedAmount (1, 2025) p = 5000 ∧
      counter DepartmentBudget.committedAmount (1, 2025) p' = 0 ∧
      ¬ WritesSupplied p Sample.edit p' := by
  have hexec : ((edits Sample.config).exec Concurrent.anyStep Sample.overlapping
      (Pool.idle Sample.draft)).any (fun p =>
        ((edits Sample.config).next p Sample.edit).any (fun p' =>
          p.threads.length = 1 ∧ counter DepartmentBudget.committedAmount (1, 2025) p = 5000 ∧
            counter DepartmentBudget.committedAmount (1, 2025) p' = 0)) = true := by
    decide +kernel
  obtain ⟨p, hexec, hp⟩ := (Option.any_eq_true _ _).1 hexec
  obtain ⟨p', hnext, hp'⟩ := (Option.any_eq_true _ _).1 hp
  obtain ⟨hlength, hbefore, hafter⟩ := of_decide_eq_true hp'
  refine ⟨p, p', (Concurrent.reaches_of_exec hexec).of_guarded, hnext, hbefore, hafter, fun hwrites => ?_⟩
  have hrows := hwrites 0 p.threads[0] rfl (List.getElem?_eq_getElem _) (1, 2025)
  have hsame := hrows.map_eq (fun _ _ _ hedited => hedited.committedAmount)
  unfold counter at hbefore hafter
  rw [hsame, hbefore] at hafter
  cases hafter

end Expentra.BudgetEdits
