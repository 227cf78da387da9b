-- SUMMARY: Sequences of edits of a draft: the stored fields against the left fold of what was sent.
import Expentra.Expense.Draft
import Expentra.System.Operations

/-!
# Edits of a draft

An edit leaves, clears or sets each field. `update` clears a description or a date by
assigning `undefined`, which `save` passes over: the column keeps the value it had. All
other edits are stored as they were sent.
-/

namespace Expentra

open Library

/-! ## A column under a sequence of saves -/

namespace Property

variable {α : Type}

def isUndefined : Property α → Bool
  | .undefined => true
  | .null => false
  | .value _ => false

/-- The last assignment of a sequence sets the property to `null`. -/
def LastClears (ps : List (Property α)) : Prop :=
  (ps.filter (fun p => !p.isUndefined)).getLast? = some .null

/-- Every assignment, saved over the column. -/
def saveAll (column : Option α) (ps : List (Property α)) : Option α :=
  ps.foldl (fun column p => p.save column) column

/-- The same with `undefined` in the place of `null`. -/
def saveValues (column : Option α) (ps : List (Property α)) : Option α :=
  ps.foldl (fun column p => (ofOptional p.toOption).save column) column

theorem saveAll_concat (column : Option α) (ps : List (Property α)) (p : Property α) :
    saveAll column (ps ++ [p]) = p.save (saveAll column ps) := by
  rw [saveAll, List.foldl_append]
  rfl

theorem saveValues_concat (column : Option α) (ps : List (Property α)) (p : Property α) :
    saveValues column (ps ++ [p]) = (ofOptional p.toOption).save (saveValues column ps) := by
  rw [saveValues, List.foldl_append]
  rfl

theorem saveValues_eq_none {column : Option α} {ps : List (Property α)} :
    saveValues column ps = none ↔ column = none ∧ ∀ a, .value a ∉ ps := by
  induction ps using List.reverseRecOn with
  | nil => simp [saveValues]
  | append_singleton ps p ih =>
    rw [saveValues_concat]
    cases p with
    | undefined => simpa [ofOptional, toOption] using ih
    | null => simpa [ofOptional, toOption] using ih
    | value a =>
      exact iff_of_false (Option.some_ne_none a)
        (fun h => h.2 a (List.mem_append_right ps List.mem_cons_self))

/-- Skipping the assignments of `null` makes no difference to the column, unless the last
    assignment is one and there was something to clear. -/
theorem saveValues_eq_saveAll_iff {column : Option α} {ps : List (Property α)} :
    saveValues column ps = saveAll column ps ↔
      (LastClears ps → column = none ∧ ∀ a, .value a ∉ ps) := by
  induction ps using List.reverseRecOn with
  | nil => simp [saveValues, saveAll, LastClears]
  | append_singleton ps p ih =>
    rw [saveValues_concat, saveAll_concat]
    cases p with
    | undefined => simpa [LastClears, ofOptional, toOption, isUndefined] using ih
    | null =>
      have hnone : saveValues column ps = none ↔ column = none ∧ ∀ a, .value a ∉ ps :=
        saveValues_eq_none
      simpa [LastClears, ofOptional, toOption, isUndefined] using hnone
    | value a => simp [LastClears, ofOptional, toOption, isUndefined]

end Property

/-! ## Fields -/

/-- The fields of an expense an edit may set. -/
structure ExpenseDraft.Fields where
  title : String
  description : Option String
  amount : Int
  category : ExpenseCategory
  incurredAt : Option Instant
deriving DecidableEq, Repr

def Expense.fields (row : Expense) : ExpenseDraft.Fields where
  title := row.title
  description := row.description
  amount := row.amount.val
  category := row.category
  incurredAt := row.incurredAt

namespace ExpenseDraft

open ExpenseMutationSupport

/-- The fields a creation is asked for. -/
def CreateExpenseInput.fields (input : CreateExpenseInput) : Fields where
  title := Js.trim input.title
  description := Js.trimmedOrUndefined input.description
  amount := input.amount
  category := input.category
  incurredAt := input.incurredAt

/-- What an edit asks of the description: nothing, to clear it, or a text. -/
def UpdateExpenseInput.descriptionEdit (input : UpdateExpenseInput) : Property String :=
  match input.description with
  | none => .undefined
  | some description => .ofColumn (Js.trimmedOrUndefined (some description))

/-- An edit as it was sent: an absent field stays, a blank description and an empty date
    clear. -/
def Fields.apply (fields : Fields) (input : UpdateExpenseInput) : Fields where
  title := (input.title.map Js.trim).getD fields.title
  description := input.descriptionEdit.save fields.description
  amount := input.amount.getD fields.amount
  category := input.category.getD fields.category
  incurredAt := input.incurredAt.save fields.incurredAt

/-- An edit as it is stored. -/
def Fields.store (fields : Fields) (input : UpdateExpenseInput) : Fields :=
  { fields.apply input with
    description := (Property.ofOptional input.descriptionEdit.toOption).save fields.description
    incurredAt := (Property.ofOptional input.incurredAt.toOption).save fields.incurredAt }

/-! ## Calls -/

/-- A call of `update`. -/
structure Edit where
  now : Instant
  authUser : AuthUser
  reference : String
  input : UpdateExpenseInput

def Edit.perform (cfg : Config) (edit : Edit) : Tx Unit :=
  update cfg edit.now edit.authUser edit.reference edit.input

def runEdits (cfg : Config) (edits : List Edit) (db : Db) : Db :=
  edits.foldl (fun db edit => (edit.perform cfg).commit db) db

/-- The edit is of the expense with the id. -/
def Edit.Names (edit : Edit) (db : Db) (id : Nat) : Prop :=
  (findExpense db edit.reference).map (·.id) = .ok id

instance (edit : Edit) (db : Db) (id : Nat) : Decidable (edit.Names db id) :=
  inferInstanceAs (Decidable (_ = _))

/-- The inputs of the calls that edit the expense and are not refused. -/
def acceptedInputs (cfg : Config) (id : Nat) : List Edit → Db → List UpdateExpenseInput
  | [], _ => []
  | edit :: rest, db =>
    let later := acceptedInputs cfg id rest ((edit.perform cfg).commit db)
    if edit.Names db id ∧ (edit.perform cfg db).isOk then edit.input :: later else later

section Specs

variable {cfg : Config} {now : Instant} {db db' : Db} {input : UpdateExpenseInput} {u : Unit}
  {row : Expense} {expense updated : ExpenseEntity}

/-! ## What one edit stores -/

/-- The fields of the row after a save. -/
def savedFields (row : Expense) (expense : ExpenseEntity) : Fields := (row.save expense).fields

theorem savedFields_toEntity (row : Expense) :
    savedFields row (row.toEntity none none) = row.fields := by
  simp [savedFields, Expense.fields, Expense.save, Expense.toEntity]

theorem savedFields_updateTitle (row : Expense) {title : Option String}
    (h : updateTitle title expense = .ok updated) :
    savedFields row updated = { savedFields row expense with
      title := (title.map Js.trim).getD (savedFields row expense).title } := by
  cases title with
  | none => cases h; rfl
  | some title =>
    obtain ⟨_, -, h⟩ := Except.bind_eq_ok.1 h
    cases h
    rfl

/-- Nothing is assigned, or the text or `undefined`. -/
theorem savedFields_updateDescription
    (hcolumn : (savedFields row expense).description = row.description) :
    savedFields row (updateDescription input.description expense) =
      { savedFields row expense with
        description :=
          (Property.ofOptional input.descriptionEdit.toOption).save row.description } := by
  unfold updateDescription UpdateExpenseInput.descriptionEdit
  cases input.description with
  | none =>
    rw [← hcolumn]
    rfl
  | some description =>
    dsimp only
    generalize Js.trimmedOrUndefined (some description) = text
    rw [Property.toOption_ofColumn]
    rfl

theorem savedFields_updateAmount (row : Expense) {amount : Option Int}
    (h : updateAmount amount expense = .ok updated) :
    savedFields row updated = { savedFields row expense with
      amount := amount.getD (savedFields row expense).amount } := by
  cases amount with
  | none => cases h; rfl
  | some amount =>
    obtain ⟨accepted, haccepted, h⟩ := Except.bind_eq_ok.1 h
    cases h
    unfold assertPositiveAmount at haccepted
    split at haccepted
    · cases haccepted
      rfl
    · cases haccepted

theorem savedFields_updateIncurredAt {incurredAt : Property Instant}
    (hcolumn : (savedFields row expense).incurredAt = row.incurredAt)
    (h : updateIncurredAt cfg now incurredAt expense = .ok updated) :
    savedFields row updated = { savedFields row expense with
      incurredAt := (Property.ofOptional incurredAt.toOption).save row.incurredAt } := by
  cases incurredAt with
  | undefined =>
    cases h
    rw [← hcolumn]
    rfl
  | null => cases h; rfl
  | value incurredAt =>
    obtain ⟨_, -, h⟩ := Except.bind_eq_ok.1 h
    cases h
    rfl

/-- The row after an edit has the fields of the row, with the edit stored. -/
theorem fields_save (h : applyUpdate cfg now input (row.toEntity none none) = .ok updated) :
    (row.save updated).fields = row.fields.store input := by
  obtain ⟨e₁, htitle, h⟩ := Except.bind_eq_ok.1 h
  obtain ⟨e₂, hamount, h⟩ := Except.bind_eq_ok.1 h
  have h₁ := savedFields_updateTitle row htitle
  rw [savedFields_toEntity] at h₁
  have h₂ : savedFields row (updateDescription input.description e₁) = _ :=
    savedFields_updateDescription (by rw [h₁]; rfl)
  have h₃ := savedFields_updateAmount row hamount
  have h₄ : savedFields row { e₂ with category := input.category.getD e₂.category } =
      { savedFields row e₂ with
        category := input.category.getD (savedFields row e₂).category } := rfl
  have hcolumn :
      (savedFields row { e₂ with category := input.category.getD e₂.category }).incurredAt =
        row.incurredAt := by
    rw [h₄, h₃, h₂, h₁]
    rfl
  change savedFields row updated = _
  rw [savedFields_updateIncurredAt hcolumn h, h₄, h₃, h₂, h₁]
  rfl

/-- An accepted edit replaces the row it names. -/
theorem perform_ok {edit : Edit} (h : edit.perform cfg db = .ok (u, db')) :
    ∃ row new, findExpense db edit.reference = .ok row ∧ row ∈ db.expenses ∧ new.id = row.id ∧
      new.fields = row.fields.store edit.input ∧ db'.expenses = db.expenses.replace new := by
  simp only [Edit.perform, update, Transaction.require_bind_eq_ok, Transaction.query_bind_eq_ok,
    Transaction.lift_bind_eq_ok] at h
  obtain ⟨-, _, -, expense, hload, _, -, _, -, updated, happly, hpersist⟩ := h
  obtain ⟨row, hfind, hmem, rfl⟩ := loadExpenseForMutation_eq_ok hload
  obtain ⟨stored, _, hstored, rfl, -⟩ := persistTransition_ok hpersist
  have hid : updated.id = row.id := by rw [applyUpdate_ok happly]; rfl
  rw [hid, Table.find?_of_mem hmem] at hstored
  cases hstored
  exact ⟨row, row.save updated, hfind, hmem, rfl, fields_save happly, rfl⟩

/-! ## Sequences of edits -/

theorem Edit.names_iff {edit : Edit} {id : Nat} (hfind : findExpense db edit.reference = .ok row) :
    edit.Names db id ↔ row.id = id := by
  rw [Edit.Names, hfind]
  exact ⟨Except.ok.inj, congrArg Except.ok⟩

/-- An edit that is refused, or names another expense, leaves the row. -/
theorem commit_other {edit : Edit} {id : Nat} (hrow : db.expenses.find? id = some row)
    (h : ¬(edit.Names db id ∧ (edit.perform cfg db).isOk = true)) :
    ((edit.perform cfg).commit db).expenses.find? id = some row := by
  cases hok : edit.perform cfg db with
  | error e => rw [Transaction.commit_of_error hok, hrow]
  | ok r =>
    obtain ⟨named, new, hfind, -, hid, -, hexpenses⟩ := perform_ok hok
    have hne : id ≠ new.id := by
      intro heq
      refine h ⟨(Edit.names_iff hfind).2 (hid.symm.trans heq.symm), ?_⟩
      rw [hok]
      rfl
    rw [Transaction.commit_of_ok hok, hexpenses, Table.find?_replace_ne hne, hrow]

theorem commit_accepted {edit : Edit} {id : Nat} (hrow : db.expenses.find? id = some row)
    (hnames : edit.Names db id) (hisOk : (edit.perform cfg db).isOk = true) :
    ∃ new, ((edit.perform cfg).commit db).expenses.find? id = some new ∧
      new.fields = row.fields.store edit.input := by
  obtain ⟨db', hok⟩ := Transaction.exists_of_isOk hisOk
  obtain ⟨named, new, hfind, hmem, hid, hfields, hexpenses⟩ := perform_ok hok
  have hnamed := (Edit.names_iff hfind).1 hnames
  have hfound : db.expenses.find? new.id = some named := by
    rw [hid]
    exact Table.find?_of_mem hmem
  have hsame : named = row := by
    rw [hid, hnamed, hrow] at hfound
    exact (Option.some.inj hfound).symm
  refine ⟨new, ?_, hsame ▸ hfields⟩
  rw [Transaction.commit_of_ok hok, hexpenses, ← hnamed, ← hid]
  exact Table.find?_replace_self hfound

/-- The fields after a sequence of calls: every accepted input stored, one after the other. -/
theorem runEdits_fields (cfg : Config) (edits : List Edit) {id : Nat}
    (hrow : db.expenses.find? id = some row) :
    ∃ new, (runEdits cfg edits db).expenses.find? id = some new ∧
      new.fields = (acceptedInputs cfg id edits db).foldl Fields.store row.fields := by
  induction edits generalizing db row with
  | nil => exact ⟨row, hrow, rfl⟩
  | cons edit rest ih =>
    rw [acceptedInputs]
    by_cases haccepted : edit.Names db id ∧ (edit.perform cfg db).isOk = true
    · obtain ⟨new, hnew, hfields⟩ := commit_accepted hrow haccepted.1 haccepted.2
      obtain ⟨last, hlast, hall⟩ := ih hnew
      refine ⟨last, hlast, ?_⟩
      rw [if_pos haccepted, List.foldl_cons, ← hfields]
      exact hall
    · obtain ⟨last, hlast, hall⟩ := ih (commit_other hrow haccepted)
      refine ⟨last, hlast, ?_⟩
      rw [if_neg haccepted]
      exact hall

/-- Where storing and applying differ: in the description and the date. -/
theorem foldl_store {inputs : List UpdateExpenseInput} {fields : Fields} :
    inputs.foldl Fields.store fields = { inputs.foldl Fields.apply fields with
      description := Property.saveValues fields.description
        (inputs.map UpdateExpenseInput.descriptionEdit)
      incurredAt := Property.saveValues fields.incurredAt (inputs.map (·.incurredAt)) } := by
  induction inputs using List.reverseRecOn with
  | nil => rfl
  | append_singleton inputs input ih =>
    rw [List.foldl_append, List.foldl_append, ih, List.map_append, List.map_append,
      List.map_singleton, List.map_singleton, Property.saveValues_concat, Property.saveValues_concat]
    rfl

theorem foldl_apply (inputs : List UpdateExpenseInput) (fields : Fields) :
    (inputs.foldl Fields.apply fields).description = Property.saveAll fields.description
        (inputs.map UpdateExpenseInput.descriptionEdit) ∧
      (inputs.foldl Fields.apply fields).incurredAt =
        Property.saveAll fields.incurredAt (inputs.map (·.incurredAt)) := by
  induction inputs using List.reverseRecOn with
  | nil => exact ⟨rfl, rfl⟩
  | append_singleton inputs input ih =>
    rw [List.foldl_append, List.map_append, List.map_append, List.map_singleton,
      List.map_singleton, Property.saveAll_concat, Property.saveAll_concat, ← ih.1, ← ih.2]
    exact ⟨rfl, rfl⟩

/-- A sequence of inputs ends with a clearing of the field only if the field was empty when
    the draft was created, and no input sets it. -/
def ClearsNothing {α : Type} (created : Option α) (edits : List (Property α)) : Prop :=
  Property.LastClears edits → created = none ∧ ∀ a, .value a ∉ edits

theorem foldl_store_eq_iff (inputs : List UpdateExpenseInput) (fields : Fields) :
    inputs.foldl Fields.store fields = inputs.foldl Fields.apply fields ↔
      ClearsNothing fields.description (inputs.map UpdateExpenseInput.descriptionEdit) ∧
      ClearsNothing fields.incurredAt (inputs.map (·.incurredAt)) := by
  obtain ⟨hdescription, hincurred⟩ := foldl_apply inputs fields
  unfold ClearsNothing
  rw [foldl_store, ← Property.saveValues_eq_saveAll_iff, ← Property.saveValues_eq_saveAll_iff,
    ← hdescription, ← hincurred]
  constructor
  · intro h
    exact ⟨congrArg Fields.description h, congrArg Fields.incurredAt h⟩
  · rintro ⟨h₁, h₂⟩
    rw [h₁, h₂]

/-- The fields of a created draft are those of the creation. -/
theorem create_fields {reference : String} {userId : Nat} {input : CreateExpenseInput}
    (h : create cfg now reference userId input db = .ok (u, db')) :
    ∃ row, db'.expenses.find? db.nextExpenseId = some row ∧ row.fields = input.fields := by
  simp only [create, insertExpense, Transaction.read_bind, Transaction.getOrThrow_bind_eq_ok,
    Transaction.lift_bind_eq_ok, Transaction.require_bind_eq_ok, Transaction.write_eq_ok] at h
  obtain ⟨user, -, departmentId, -, _, -, amount, hamount, _, -, -, expenses, hinsert, rfl⟩ := h
  refine ⟨_, Table.find?_insert_self hinsert, ?_⟩
  unfold assertPositiveAmount at hamount
  split at hamount
  · cases hamount
    rfl
  · cases hamount

/-- After a creation and any sequence of edits, the draft has the fields that were sent,
    exactly when no edit clears a description or a date that was there. -/
theorem edits_stored_iff {reference : String} {userId : Nat} {input : CreateExpenseInput}
    (hcreate : create cfg now reference userId input db = .ok (u, db')) (edits : List Edit) :
    (∃ row, (runEdits cfg edits db').expenses.find? db.nextExpenseId = some row ∧
      row.fields =
        (acceptedInputs cfg db.nextExpenseId edits db').foldl Fields.apply input.fields) ↔
    ClearsNothing input.fields.description
        ((acceptedInputs cfg db.nextExpenseId edits db').map UpdateExpenseInput.descriptionEdit) ∧
      ClearsNothing input.incurredAt
        ((acceptedInputs cfg db.nextExpenseId edits db').map (·.incurredAt)) := by
  obtain ⟨row, hrow, hfields⟩ := create_fields hcreate
  obtain ⟨new, hnew, hstored⟩ := runEdits_fields cfg edits hrow
  rw [hfields] at hstored
  have hiff := foldl_store_eq_iff (acceptedInputs cfg db.nextExpenseId edits db') input.fields
  rw [← hstored] at hiff
  refine Iff.trans ⟨?_, fun h => ⟨new, hnew, h⟩⟩ hiff
  rintro ⟨row', hrow', h⟩
  cases hnew.symm.trans hrow'
  exact h

end Specs

/-! ## A taxi -/

namespace Sample

open Expentra.Sample

def taxi : CreateExpenseInput := ⟨"Taxi", some "From the airport", 5000, .TRAVEL, none⟩

def created : Db := (create config now expenseReference 1 taxi).commit db

def editorRole : Role :=
  ⟨3, "ROL1700000000003AAAAAA", "editor",
    [⟨.READ, .EXPENSE, .SELF, true⟩, ⟨.UPDATE, .EXPENSE, .SELF, true⟩]⟩

def authEditor : AuthUser := toAuthUser { owner with role := some editorRole } []

def edit (input : UpdateExpenseInput) : Edit := ⟨now, authEditor, expenseReference, input⟩

/-- Another description, and then none. -/
def cleared : List Edit :=
  [edit ⟨some " Taxi ", some "To the office", none, none, .undefined⟩,
    edit ⟨none, some " ", some 4500, none, .undefined⟩]

theorem created_ok : create config now expenseReference 1 taxi db = .ok ((), created) := by
  have hok : (create config now expenseReference 1 taxi db).isOk = true := by decide +kernel
  obtain ⟨db', h⟩ := Transaction.exists_of_isOk hok
  rw [h, created, Transaction.commit_of_ok h]

end Sample

/-- One edit, which clears nothing. -/
theorem edits_stored_iff_sample :
    ∃ row, (runEdits Expentra.Sample.config (Sample.cleared.take 1) Sample.created).expenses.find?
        Expentra.Sample.db.nextExpenseId = some row ∧
      row.fields = (acceptedInputs Expentra.Sample.config Expentra.Sample.db.nextExpenseId
        (Sample.cleared.take 1) Sample.created).foldl Fields.apply Sample.taxi.fields := by
  have hinputs : acceptedInputs Expentra.Sample.config Expentra.Sample.db.nextExpenseId
      (Sample.cleared.take 1) Sample.created = [⟨some " Taxi ", some "To the office", none, none,
        .undefined⟩] := by decide +kernel
  refine (edits_stored_iff Sample.created_ok (Sample.cleared.take 1)).2 ⟨fun h => ?_, fun h => ?_⟩
  · rw [hinputs] at h
    exact absurd h (by unfold Property.LastClears; decide +kernel)
  · rw [hinputs] at h
    exact absurd h (by unfold Property.LastClears; decide +kernel)

/-- The second description stays, though the last edit clears it. -/
theorem cleared_description_stays :
    ¬∃ row, (runEdits Expentra.Sample.config Sample.cleared Sample.created).expenses.find?
        Expentra.Sample.db.nextExpenseId = some row ∧
      row.fields = (acceptedInputs Expentra.Sample.config Expentra.Sample.db.nextExpenseId
        Sample.cleared Sample.created).foldl Fields.apply Sample.taxi.fields := by
  have hstored : ((runEdits Expentra.Sample.config Sample.cleared Sample.created).expenses.find?
      Expentra.Sample.db.nextExpenseId).map Expense.fields =
        some ⟨"Taxi", some "To the office", 4500, .TRAVEL, none⟩ := by decide +kernel
  have hsent : (acceptedInputs Expentra.Sample.config Expentra.Sample.db.nextExpenseId
      Sample.cleared Sample.created).foldl Fields.apply Sample.taxi.fields =
        ⟨"Taxi", none, 4500, .TRAVEL, none⟩ := by decide +kernel
  rintro ⟨row, hrow, hfields⟩
  rw [hrow, Option.map_some, hfields, hsent] at hstored
  exact absurd hstored (by decide +kernel)

end ExpenseDraft

end Expentra
