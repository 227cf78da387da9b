-- SUMMARY: With blocking enabled, no submission commits more than the limit, in any order of the statements of submissions.
import Expentra.Expense.SubmitStatements
import Expentra.System.Operations

/-!
# No overspending

A submission locks the budget row before it reads the counters, and holds it until
its own amount is committed. What it compared with the limit is therefore what it
adds to.
-/

namespace Expentra.SubmitStatements

open Library ExpenseMutationSupport

section Overspend

variable {cfg : Config} {db : Db} {key : Nat × Int} {limit : Nat} {i j : Nat}
  {s s' : Locked Db RowKey} {args : SubmitArgs} {expense : ExpenseEntity} {levels : List ApprovalLevel}
  {writes : Writes} {work : Work}

/-! ## What a submission computes -/

/-- A submission has one delta: its own amount. -/
theorem committedDeltas_of_submission {timeZone : TimeZone} {before after : ExpenseBudgetSnapshot}
    (hbefore : before.status = .DRAFT) (hafter : countsTowardCommittedBudget after.status = true)
    (hkey : after.budgetKey timeZone db = some key) :
    committedDeltas timeZone db before after = [(key, after.amount)] := by
  have hdraft : countsTowardCommittedBudget before.status = false := by rw [hbefore]; rfl
  have hchanged : expenseBudgetAttributionChanged (some before) (some after) = true := by
    simp [expenseBudgetAttributionChanged, hdraft, hafter]
  have hnone : accumulate timeZone db ∅ (some before) (-1) = ∅ := by
    simp [accumulate, hdraft]
  have hone : accumulate timeZone db ∅ (some after) 1 = Table.upsert ∅ (key, after.amount) := by
    have hempty : (∅ : BudgetDeltas).find? key = none := rfl
    simp [accumulate, hafter, hkey, hempty]
  rw [committedDeltas, hchanged, hnone, hone]
  rfl

/-- A check that passes leaves room for the amount, when blocking is enabled. -/
theorem room_of_checkBudget {budget : DepartmentBudget} {budgetCheck : BudgetSubmitEvaluation}
    (hblock : cfg.blockSubmitOnOverspend = true)
    (hcheck : checkBudget cfg args expense db = .ok budgetCheck)
    (hkey : budgetKey cfg args expense = some key) (hbudget : db.budgets.find? key = some budget)
    (hlive : budget.isLive = true) :
    budget.committedAmount + expense.amount.val ≤ budget.amountLimit := by
  obtain ⟨departmentId, hdepartment, rfl⟩ := Option.map_eq_some_iff.1 hkey
  obtain ⟨evaluation, hevaluate, hallowed⟩ := Except.bind_eq_ok.1 hcheck
  rw [hdepartment] at hevaluate
  have hrow : BudgetService.liveBudget db departmentId
      (BudgetPeriod.resolveBudgetYear args.submitAt cfg.budgetTimeZone) = some budget := by
    rw [BudgetService.liveBudget, hbudget, Option.filter_some, if_pos hlive]
  split at hallowed
  · rename_i hyes
    rcases (BudgetService.allowed_of_live hevaluate hrow).1 hyes with hoff | hroom
    · rw [hblock] at hoff
      cases hoff
    · exact hroom
  · cases hallowed

/-- The delta of a submission is its amount, for its department and year. -/
theorem committedDeltas_submitted {timeZone : TimeZone} {departmentId : Nat} {submitAt : Instant}
    (hdraft : expense.status = .DRAFT) (hdepartment : expense.departmentId = .value departmentId) :
    committedDeltas timeZone db (toExpenseBudgetSnapshot expense)
        (toExpenseBudgetSnapshot (ExpenseSubmit.submitted expense levels submitAt)) =
      [((departmentId, BudgetPeriod.resolveBudgetYear submitAt timeZone), expense.amount.val)] := by
  rw [ExpenseSubmit.submitted_eq]
  have hcounts : countsTowardCommittedBudget
      (ApprovalRouting.resolveInitialSubmitStatus expense levels) = true := by
    rcases ApprovalRouting.resolveInitialSubmitStatus_cases expense levels with h | h | h <;>
      rw [h] <;> rfl
  refine committedDeltas_of_submission hdraft hcounts ?_
  simp only [ExpenseBudgetSnapshot.budgetKey, toExpenseBudgetSnapshot, hdepartment,
    Property.toOption_value, Db.resolveDepartmentForSubmit]

/-- Department and year a saved expense is charged to. -/
def chargedKey (cfg : Config) (saved : Expense) : Option (Nat × Int) :=
  match saved.departmentId, saved.submittedAt with
  | some departmentId, some submittedAt =>
    some (departmentId, BudgetPeriod.resolveBudgetYear submittedAt cfg.budgetTimeZone)
  | _, _ => none

/-- What `save` leaves to do: the delta of the saved expense. -/
theorem save_eq_ok {budgetCheck : BudgetSubmitEvaluation} (hdraft : expense.status = .DRAFT)
    (hdepartment : expense.departmentId.toOption.isSome = true)
    (h : save cfg args expense levels budgetCheck db = .ok work) :
    ∃ row k, db.expenses.find? expense.id = some row ∧ work.writes.saved.id = expense.id ∧
      work.writes.saved.amount = expense.amount ∧ budgetKey cfg args expense = some k ∧
      chargedKey cfg work.writes.saved = some k ∧ work.writes.budgets = [] ∧
      work.deltas = [(k, expense.amount.val)] := by
  unfold save at h
  split at h
  · cases h
  · rename_i row hrow
    cases h
    cases hproperty : expense.departmentId with
    | undefined => simp [hproperty, Property.toOption] at hdepartment
    | null => simp [hproperty, Property.toOption] at hdepartment
    | value departmentId =>
      have hid : row.id = expense.id := Table.key_of_find? hrow
      refine ⟨row, (departmentId, BudgetPeriod.resolveBudgetYear args.submitAt cfg.budgetTimeZone),
        hrow, hid, ?_, ?_, ?_, rfl, committedDeltas_submitted hdraft hproperty⟩
      · rw [ExpenseSubmit.submitted_eq]
        rfl
      · rw [budgetKey, hproperty]
        rfl
      · rw [ExpenseSubmit.submitted_eq]
        simp only [chargedKey, Expense.save, hproperty, Property.save_value]

/-- Rows that are not written keep their content. -/
theorem apply_budgets_of_ne (hne : ∀ b ∈ writes.budgets, b.key ≠ key) :
    (writes.apply db).budgets.find? key = db.budgets.find? key := by
  have hfold : ∀ (rows : List DepartmentBudget) (budgets : Table DepartmentBudget.key),
      (∀ b ∈ rows, b.key ≠ key) →
        (rows.foldl (fun budgets budget => budgets.replace budget) budgets).find? key =
          budgets.find? key := by
    intro rows
    induction rows with
    | nil => exact fun _ _ => rfl
    | cons b rows ih =>
      intro budgets hrows
      obtain ⟨hb, hrest⟩ := List.forall_mem_cons.1 hrows
      rw [List.foldl_cons, ih _ hrest, Table.find?_replace_ne hb.symm]
  exact hfold writes.budgets db.budgets hne

/-- A row that is written is found as it was written. -/
theorem apply_budgets_of_eq {b b' : DepartmentBudget} (hb : db.budgets.find? key = some b)
    (hkey : b'.key = key) (hbudgets : writes.budgets = [b']) :
    (writes.apply db).budgets.find? key = some b' := by
  subst hkey
  rw [Writes.apply, hbudgets]
  exact Table.find?_replace_self hb

/-! ## What a submission knows -/

/-- The content of a row that may be locked. -/
def content : RowKey → Db → Option Expense ⊕ Option DepartmentBudget
  | .expense id, db => .inl (db.expenses.find? id)
  | .budget key, db => .inr (db.budgets.find? key)

/-- The budget row of the key under consideration is live, with its limit. -/
def LiveLimit (key : Nat × Int) (limit : Nat) (s : Locked Db RowKey) : Prop :=
  ∃ b, s.committed.budgets.find? key = some b ∧ b.isLive = true ∧ b.amountLimit = limit

/-- The submission holds the budget row, and the row has room for the amount. -/
def Room (key : Nat × Int) (i : Nat) (s : Locked Db RowKey) (amount : Amount) (P : DepartmentBudget → Prop) :
    Prop :=
  s.holder (.budget key) = some i ∧ ∃ b, s.committed.budgets.find? key = some b ∧
    b.committedAmount + amount.val ≤ b.amountLimit ∧ P b

/-- What a submission knows that has saved its expense. -/
structure Pending (cfg : Config) (key : Nat × Int) (i : Nat) (s : Locked Db RowKey) (writes : Writes)
    (deltas : List ((Nat × Int) × Int)) : Prop where
  locked : s.holder (.expense writes.saved.id) = some i
  stored : (s.committed.expenses.find? writes.saved.id).isSome = true
  /-- The delta is still to be applied, or applied to a row that is held. -/
  progress : (∃ k, chargedKey cfg writes.saved = some k ∧ deltas = [(k, writes.saved.amount.val)] ∧
      writes.budgets = []) ∨
    (deltas = [] ∧ ∀ b ∈ writes.budgets, chargedKey cfg writes.saved = some b.key ∧
      s.holder (.budget b.key) = some i)
  room : chargedKey cfg writes.saved = some key → Room key i s writes.saved.amount (fun b =>
    deltas = [] → ∃ b', b.withCounters (b.committedAmount + writes.saved.amount.val).toNat
      b.reimbursedAmount = some b' ∧ writes.budgets = [b'])

/-- What a submission knows before each of its statements. -/
inductive Known (cfg : Config) (key : Nat × Int) (i : Nat) (s : Locked Db RowKey) : Phase → Prop where
  | finding {args : SubmitArgs} : Known cfg key i s (.finding args)
  | locking {args : SubmitArgs} {id : Nat} : Known cfg key i s (.locking args id)
  | loadingLevels {args : SubmitArgs} {expense : ExpenseEntity} (hdraft : expense.status = .DRAFT) :
    Known cfg key i s (.loadingLevels args expense)
  | loadingOwner {args : SubmitArgs} {expense : ExpenseEntity} {levels : List ApprovalLevel}
    (hdraft : expense.status = .DRAFT) :
    Known cfg key i s (.loadingOwner args expense levels)
  | loadingDepartment {args : SubmitArgs} {expense : ExpenseEntity} {levels : List ApprovalLevel}
    (hdraft : expense.status = .DRAFT)
    (hdepartment : expense.departmentId.toOption.isSome = true) :
    Known cfg key i s (.loadingDepartment args expense levels)
  | lockingBudget {args : SubmitArgs} {expense : ExpenseEntity} {levels : List ApprovalLevel}
    (hdraft : expense.status = .DRAFT)
    (hdepartment : expense.departmentId.toOption.isSome = true) :
    Known cfg key i s (.lockingBudget args expense levels)
  | summarising {args : SubmitArgs} {expense : ExpenseEntity} {levels : List ApprovalLevel}
    (hdraft : expense.status = .DRAFT)
    (hdepartment : expense.departmentId.toOption.isSome = true)
    (hheld : budgetKey cfg args expense = some key → s.holder (.budget key) = some i) :
    Known cfg key i s (.summarising args expense levels)
  | saving {args : SubmitArgs} {expense : ExpenseEntity} {levels : List ApprovalLevel}
    {budgetCheck : BudgetSubmitEvaluation} (hdraft : expense.status = .DRAFT)
    (hdepartment : expense.departmentId.toOption.isSome = true)
    (hroom : budgetKey cfg args expense = some key → Room key i s expense.amount (fun _ => True)) :
    Known cfg key i s (.saving args expense levels budgetCheck)
  | lockingDelta {args : SubmitArgs} {work : Work} (h : Pending cfg key i s work.writes work.deltas) :
    Known cfg key i s (.lockingDelta args work)
  | updating {args : SubmitArgs} {work : Work} (h : Pending cfg key i s work.writes work.deltas) :
    Known cfg key i s (.updating args work)
  | publishing {args : SubmitArgs} {work : Work} (h : Pending cfg key i s work.writes work.deltas) :
    Known cfg key i s (.publishing args work)
  | committing {args : SubmitArgs} {writes : Writes} (h : Pending cfg key i s writes []) :
    Known cfg key i s (.committing args writes)
  | rollingBack {exception : HttpException} : Known cfg key i s (.rollingBack exception)
  | ended {result : Except HttpException Unit} : Known cfg key i s (.ended result)

/-- The rows a submission holds are still held, with the same content. -/
def Keeps (i : Nat) (s s' : Locked Db RowKey) : Prop :=
  ∀ k, s.holder k = some i →
    s'.holder k = some i ∧ content k s'.committed = content k s.committed

theorem Keeps.budget (h : Keeps i s s') (hheld : s.holder (.budget key) = some i) :
    s'.holder (.budget key) = some i ∧
      s'.committed.budgets.find? key = s.committed.budgets.find? key := by
  obtain ⟨hholder, hcontent⟩ := h _ hheld
  exact ⟨hholder, Sum.inr.inj hcontent⟩

theorem Room.keep {amount : Amount} {P : DepartmentBudget → Prop} (h : Room key i s amount P)
    (hkeeps : Keeps i s s') : Room key i s' amount P := by
  obtain ⟨hheld, hrow⟩ := h
  obtain ⟨hheld', hsame⟩ := hkeeps.budget hheld
  refine ⟨hheld', ?_⟩
  rw [hsame]
  exact hrow

theorem Pending.keep {deltas : List ((Nat × Int) × Int)} (h : Pending cfg key i s writes deltas)
    (hkeeps : Keeps i s s') : Pending cfg key i s' writes deltas := by
  obtain ⟨hlocked, hcontent⟩ := hkeeps _ h.locked
  refine ⟨hlocked, ?_, ?_, fun hkey => (h.room hkey).keep hkeeps⟩
  · rw [Sum.inl.inj hcontent]
    exact h.stored
  · rcases h.progress with hdelta | ⟨hnone, hbudgets⟩
    · exact .inl hdelta
    · exact .inr ⟨hnone, fun b hb => ⟨(hbudgets b hb).1, (hkeeps _ (hbudgets b hb).2).1⟩⟩

/-- What a submission knows stays true as long as its rows are kept. -/
theorem Known.keep {phase : Phase} (h : Known cfg key i s phase) (hkeeps : Keeps i s s') :
    Known cfg key i s' phase := by
  cases h with
  | summarising hdraft hdepartment hheld =>
    exact .summarising hdraft hdepartment (fun hkey => (hkeeps _ (hheld hkey)).1)
  | saving hdraft hdepartment hroom =>
    exact .saving hdraft hdepartment (fun hkey => (hroom hkey).keep hkeeps)
  | lockingDelta h => exact .lockingDelta (h.keep hkeeps)
  | updating h => exact .updating (h.keep hkeeps)
  | publishing h => exact .publishing (h.keep hkeeps)
  | committing h => exact .committing (h.keep hkeeps)
  | finding => exact .finding
  | locking => exact .locking
  | loadingLevels hdraft => exact .loadingLevels hdraft
  | loadingOwner hdraft => exact .loadingOwner hdraft
  | loadingDepartment hdraft hdepartment => exact .loadingDepartment hdraft hdepartment
  | lockingBudget hdraft hdepartment => exact .lockingBudget hdraft hdepartment
  | rollingBack => exact .rollingBack
  | ended => exact .ended

/-! ## What a statement does -/

/-- A submission writes the rows it holds. -/
theorem Pending.writesHeld (h : Pending cfg key i s writes []) {k : RowKey}
    (hk : s.holder k ≠ some i) : content k (writes.apply s.committed) = content k s.committed := by
  cases k with
  | expense id =>
    have hne : id ≠ writes.saved.id := by
      rintro rfl
      exact hk h.locked
    exact congrArg Sum.inl (Table.find?_replace_ne hne)
  | budget k =>
    refine congrArg Sum.inr (apply_budgets_of_ne (fun b hb hbk => ?_))
    rcases h.progress with ⟨_, _, hdelta, -⟩ | ⟨-, hbudgets⟩
    · cases hdelta
    · exact hk (hbk ▸ (hbudgets b hb).2)

theorem writesHeld_of_decided {phase : Phase} {outcome : Outcome} {st : Statement Db RowKey Phase}
    (h : Known cfg key i s phase) (hdecided : decided cfg phase outcome = some st) :
    Locked.WritesHeld content i s st := by
  cases outcome with
  | throws exception => cases phase <;> cases hdecided <;> trivial
  | runs now =>
    cases h with
    | committing h =>
      cases hdecided
      exact fun k hk => h.writesHeld hk
    | _ => cases hdecided <;> trivial

theorem known_orRollBack {α : Type} {result : Except HttpException α} {next : α → Phase}
    (h : ∀ a, result = .ok a → Known cfg key i s (next a)) :
    Known cfg key i s (orRollBack result next) := by
  unfold orRollBack
  split
  · exact h _ rfl
  · exact .rollingBack

theorem known_proceed (h : Pending cfg key i s work.writes work.deltas) :
    Known cfg key i s (proceed args work) := by
  unfold proceed
  split
  · exact .lockingDelta h
  · exact .publishing h
  · rename_i hdeltas _
    rw [hdeltas] at h
    exact .committing h

theorem keeps_of_lock {row : Db → Option RowKey} {next : Db → Phase} {phase : Phase}
    (h : Locked.step i s (.lock row next) = some (s', phase)) : Keeps i s s' := by
  obtain ⟨-, hcommitted, -⟩ := Locked.step_lock_eq_some h
  intro k hk
  rw [hcommitted]
  exact ⟨(Locked.holder_of_lock h).1 k hk, rfl⟩

theorem budgetRow_of_live {b : DepartmentBudget} (hb : db.budgets.find? key = some b)
    (hlive : b.isLive = true) : budgetRow key db = some (.budget key) := by
  rw [budgetRow, hb, Option.filter_some, if_pos hlive]
  rfl

theorem resolveDepartment_ok {expense' : ExpenseEntity}
    (h : ExpenseSubmit.resolveDepartment db expense = .ok expense') :
    expense'.status = expense.status ∧ expense'.departmentId.toOption.isSome = true := by
  unfold ExpenseSubmit.resolveDepartment at h
  split at h
  · rename_i hsome
    cases h
    exact ⟨rfl, by rw [hsome]; rfl⟩
  · split at h
    · cases h
      exact ⟨rfl, rfl⟩
    · cases h

theorem checkDepartment_ok {expense' : ExpenseEntity} (h : checkDepartment db expense levels = .ok expense') :
    expense'.status = expense.status ∧ expense'.departmentId = expense.departmentId := by
  simp only [checkDepartment] at h
  split at h
  · cases h
  · cases h
    unfold ExpenseSubmit.attachDepartment
    split <;> exact ⟨rfl, rfl⟩

/-- After the save, the delta is pending, with the room that was checked. -/
theorem pending_of_save {budgetCheck : BudgetSubmitEvaluation} (hdraft : expense.status = .DRAFT)
    (hdepartment : expense.departmentId.toOption.isSome = true)
    (hroom : budgetKey cfg args expense = some key → Room key i s expense.amount (fun _ => True))
    (hlock : ∀ row, s.committed.expenses.find? expense.id = some row →
      s.holder (.expense expense.id) = some i)
    (h : save cfg args expense levels budgetCheck s.committed = .ok work) :
    Pending cfg key i s work.writes work.deltas := by
  obtain ⟨row, k, hrow, hid, hamount, hbudget, hcharged, hnone, hdeltas⟩ :=
    save_eq_ok hdraft hdepartment h
  refine ⟨?_, ?_, .inl ⟨k, hcharged, ?_, hnone⟩, fun hkey => ?_⟩
  · rw [hid]
    exact hlock row hrow
  · rw [hid, hrow]
    rfl
  · rw [hdeltas, hamount]
  · obtain ⟨hheld, b, hb, hle, -⟩ := hroom (hbudget.trans (hcharged.symm.trans hkey))
    refine ⟨hheld, b, hb, ?_, fun hempty => ?_⟩
    · rw [hamount]
      exact hle
    · rw [hdeltas] at hempty
      cases hempty

/-- The delta of the key under consideration goes to the row that was checked. -/
theorem Pending.applyDelta {work' : Work} (h : Pending cfg key i s work.writes work.deltas)
    (hlive : LiveLimit key limit s)
    (hlock : ∀ k a, work.deltas.head? = some (k, a) → ∀ b, s.committed.budgets.find? k = some b →
      b.isLive = true → s.holder (.budget k) = some i)
    (happly : SubmitStatements.applyDelta work s.committed = .ok work') :
    Pending cfg key i s work'.writes work'.deltas := by
  obtain ⟨⟨saved, budgets, outbox⟩, deltas, events⟩ := work
  have hprogress : (∃ k, chargedKey cfg saved = some k ∧ deltas = [(k, saved.amount.val)] ∧
      budgets = []) ∨ (deltas = [] ∧ _) := h.progress
  rcases hprogress with ⟨k, hcharged, rfl, rfl⟩ | ⟨rfl, -⟩
  · -- the transaction has not written a budget yet, and sees the committed row
    simp only [SubmitStatements.applyDelta, Writes.apply, List.foldl_nil] at happly
    split at happly
    · rename_i hnone
      cases happly
      refine ⟨h.locked, h.stored, .inr ⟨rfl, fun b hb => absurd hb List.not_mem_nil⟩, fun hkey => ?_⟩
      cases hcharged.symm.trans hkey
      obtain ⟨b, hb, hblive, -⟩ := hlive
      rw [hb, Option.filter_some, if_pos hblive] at hnone
      cases hnone
    · rename_i b hrow
      obtain ⟨hb, hblive⟩ := Option.filter_eq_some_iff.1 hrow
      split at happly
      · cases happly
      · rename_i updated hupdated
        cases happly
        have hkey' : updated.key = k := by
          obtain ⟨_, rfl⟩ := DepartmentBudget.withCounters_eq_some.1 hupdated
          exact show b.key = k from Table.key_of_find? hb
        refine ⟨h.locked, h.stored, .inr ⟨rfl, fun b' hb' => ?_⟩, fun hkey => ?_⟩
        · cases List.mem_singleton.1 hb'
          rw [hkey']
          exact ⟨hcharged, hlock k _ rfl b hb hblive⟩
        · obtain ⟨hheld, b', hb', hle, -⟩ := h.room hkey
          cases hcharged.symm.trans hkey
          cases hb.symm.trans hb'
          exact ⟨hheld, b, hb, hle, fun _ => ⟨updated, hupdated, rfl⟩⟩
  · cases happly
    exact h

theorem Pending.publishEvent {work' : Work} (h : Pending cfg key i s work.writes work.deltas)
    (hpublish : SubmitStatements.publishEvent args work db = .ok work') :
    Pending cfg key i s work'.writes work'.deltas := by
  unfold SubmitStatements.publishEvent at hpublish
  split at hpublish
  · cases hpublish
    exact h
  · dsimp only at hpublish
    split at hpublish
    · cases hpublish
    · cases hpublish
      exact ⟨h.locked, h.stored, h.progress, h.room⟩

/-! ## Statement by statement -/

/-- A submission charged to the live row gets its lock before the check. -/
theorem known_lockingBudget {phase' : Phase} {now : Instant} (hlive : LiveLimit key limit s)
    (hdraft : expense.status = .DRAFT) (hdepartment : expense.departmentId.toOption.isSome = true)
    (hstep : advance cfg i s (.lockingBudget args expense levels) (.runs now) = some (s', phase')) :
    Known cfg key i s' phase' := by
  obtain ⟨st, hdecided, hstep⟩ := Option.bind_eq_some_iff.1 hstep
  cases hdecided
  obtain ⟨rfl, -⟩ := Locked.step_lock_eq_some hstep
  refine .summarising hdraft hdepartment (fun hkey => (Locked.holder_of_lock hstep).2 _ ?_)
  obtain ⟨b, hb, hblive, -⟩ := hlive
  rw [hkey]
  exact budgetRow_of_live hb hblive

/-- The row has room for the amount, since the check that passed read it under the lock. -/
theorem known_summarising {phase' : Phase} {now : Instant} (hblock : cfg.blockSubmitOnOverspend = true)
    (hlive : LiveLimit key limit s) (hdraft : expense.status = .DRAFT)
    (hdepartment : expense.departmentId.toOption.isSome = true)
    (hheld : budgetKey cfg args expense = some key → s.holder (.budget key) = some i)
    (hstep : advance cfg i s (.summarising args expense levels) (.runs now) = some (s', phase')) :
    Known cfg key i s' phase' := by
  obtain ⟨st, hdecided, hstep⟩ := Option.bind_eq_some_iff.1 hstep
  cases hdecided
  cases hstep
  obtain ⟨b, hb, hblive, -⟩ := hlive
  exact known_orRollBack (fun budgetCheck hcheck => .saving hdraft hdepartment (fun hkey =>
    ⟨hheld hkey, b, hb, room_of_checkBudget hblock hcheck hkey hb hblive, trivial⟩))

theorem known_saving {phase' : Phase} {now : Instant} {budgetCheck : BudgetSubmitEvaluation}
    (hdraft : expense.status = .DRAFT) (hdepartment : expense.departmentId.toOption.isSome = true)
    (hroom : budgetKey cfg args expense = some key → Room key i s expense.amount (fun _ => True))
    (hstep : advance cfg i s (.saving args expense levels budgetCheck) (.runs now) =
      some (s', phase')) : Known cfg key i s' phase' := by
  obtain ⟨st, hdecided, hstep⟩ := Option.bind_eq_some_iff.1 hstep
  cases hdecided
  obtain ⟨rfl, hcommitted, -⟩ := Locked.step_lock_eq_some hstep
  have hkeeps := keeps_of_lock hstep
  refine known_orRollBack (fun work hsave => known_proceed ?_)
  rw [← hcommitted] at hsave
  refine pending_of_save hdraft hdepartment (fun hkey => (hroom hkey).keep hkeeps)
    (fun row hrow => (Locked.holder_of_lock hstep).2 _ ?_) hsave
  rw [← hcommitted, hrow]
  rfl

theorem known_updating {phase' : Phase} {now : Instant} (hlive : LiveLimit key limit s)
    (h : Pending cfg key i s work.writes work.deltas)
    (hstep : advance cfg i s (.updating args work) (.runs now) = some (s', phase')) :
    Known cfg key i s' phase' := by
  obtain ⟨st, hdecided, hstep⟩ := Option.bind_eq_some_iff.1 hstep
  cases hdecided
  obtain ⟨rfl, hcommitted, -⟩ := Locked.step_lock_eq_some hstep
  rw [LiveLimit, ← hcommitted] at hlive
  refine known_orRollBack (fun work' happly => known_proceed ?_)
  rw [← hcommitted] at happly
  refine (h.keep (keeps_of_lock hstep)).applyDelta hlive (fun k a hhead b hb hblive => ?_) happly
  refine (Locked.holder_of_lock hstep).2 _ ?_
  rw [hhead, ← hcommitted]
  exact budgetRow_of_live hb hblive

/-- A submission knows after its statement what its next phase says. -/
theorem known_step (hblock : cfg.blockSubmitOnOverspend = true) (hlive : LiveLimit key limit s)
    {phase phase' : Phase} {outcome : Outcome} (h : Known cfg key i s phase)
    (hstep : advance cfg i s phase outcome = some (s', phase')) : Known cfg key i s' phase' := by
  obtain ⟨st, hdecided, hrun⟩ := Option.bind_eq_some_iff.1 hstep
  cases outcome with
  | throws exception => cases phase <;> cases hdecided <;> cases hrun <;> exact .ended
  | runs now =>
    cases h with
    | finding =>
      cases hdecided
      cases hrun
      exact known_orRollBack (fun _ _ => .locking)
    | locking =>
      cases hdecided
      obtain ⟨rfl, -⟩ := Locked.step_lock_eq_some hrun
      dsimp only
      split
      · exact .rollingBack
      · exact known_orRollBack (fun _ hassert =>
          .loadingLevels (ExpenseSubmit.assertSubmittable_ok hassert).1)
    | loadingLevels hdraft =>
      cases hdecided
      cases hrun
      exact .loadingOwner hdraft
    | loadingOwner hdraft =>
      cases hdecided
      cases hrun
      refine known_orRollBack (fun expense' hresolve => ?_)
      obtain ⟨hstatus, hdepartment⟩ := resolveDepartment_ok hresolve
      exact .loadingDepartment (hstatus.trans hdraft) hdepartment
    | loadingDepartment hdraft hdepartment =>
      cases hdecided
      cases hrun
      refine known_orRollBack (fun expense' hcheck => ?_)
      obtain ⟨hstatus, hsame⟩ := checkDepartment_ok hcheck
      exact .lockingBudget (hstatus.trans hdraft) (hsame ▸ hdepartment)
    | lockingBudget hdraft hdepartment => exact known_lockingBudget hlive hdraft hdepartment hstep
    | summarising hdraft hdepartment hheld =>
      exact known_summarising hblock hlive hdraft hdepartment hheld hstep
    | saving hdraft hdepartment hroom => exact known_saving hdraft hdepartment hroom hstep
    | lockingDelta h =>
      cases hdecided
      obtain ⟨rfl, -⟩ := Locked.step_lock_eq_some hrun
      exact .updating (h.keep (keeps_of_lock hrun))
    | updating h => exact known_updating hlive h hstep
    | publishing h =>
      cases hdecided
      cases hrun
      exact known_orRollBack (fun work' hpublish => known_proceed (h.publishEvent hpublish))
    | committing h =>
      cases hdecided
      cases hrun
      exact .ended
    | rollingBack =>
      cases hdecided
      cases hrun
      exact .ended
    | ended => cases hdecided

/-! ## The commit -/

/-- What the commit of a submission does to the budget row of a key. -/
theorem Pending.commit (h : Pending cfg key i s writes []) :
    (chargedKey cfg writes.saved = some key → ∃ b b', s.committed.budgets.find? key = some b ∧
      (writes.apply s.committed).budgets.find? key = some b' ∧
      (b'.committedAmount : Int) = b.committedAmount + writes.saved.amount.val ∧
      b'.committedAmount ≤ b'.amountLimit ∧ b'.amountLimit = b.amountLimit ∧ b'.isLive = b.isLive) ∧
    (chargedKey cfg writes.saved ≠ some key →
      (writes.apply s.committed).budgets.find? key = s.committed.budgets.find? key) := by
  constructor
  · intro hkey
    obtain ⟨-, b, hb, hle, hupdated⟩ := h.room hkey
    obtain ⟨b', hcounters, hbudgets⟩ := hupdated rfl
    have hamount := writes.saved.amount.property
    obtain ⟨hcommitted, hlimit, hlive, hbkey⟩ : b'.committedAmount =
        (b.committedAmount + writes.saved.amount.val).toNat ∧ b'.amountLimit = b.amountLimit ∧
        b'.isLive = b.isLive ∧ b'.key = b.key := by
      obtain ⟨_, rfl⟩ := DepartmentBudget.withCounters_eq_some.1 hcounters
      exact ⟨rfl, rfl, rfl, rfl⟩
    refine ⟨b, b', hb, apply_budgets_of_eq hb (hbkey.trans (Table.key_of_find? hb)) hbudgets, ?_, ?_,
      hlimit, hlive⟩
    · rw [hcommitted]
      omega
    · rw [hcommitted, hlimit]
      omega
  · intro hkey
    refine apply_budgets_of_ne (fun b hb hbkey => ?_)
    rcases h.progress with ⟨_, _, hdelta, -⟩ | ⟨-, hbudgets⟩
    · cases hdelta
    · exact hkey ((hbudgets b hb).1.trans (congrArg some hbkey))

/-- A statement leaves the database as it is, or commits the writes of a submission. -/
theorem advance_committed {phase phase' : Phase} {outcome : Outcome}
    (hstep : advance cfg i s phase outcome = some (s', phase')) :
    s'.committed = s.committed ∨ ∃ now args writes, outcome = .runs now ∧
      phase = .committing args writes ∧ s'.committed = writes.apply s.committed := by
  obtain ⟨st, hdecided, hstep⟩ := Option.bind_eq_some_iff.1 hstep
  cases outcome with
  | throws exception => cases phase <;> cases hdecided <;> cases hstep <;> exact .inl rfl
  | runs now =>
    cases phase with
    | committing args writes =>
      cases hdecided
      cases hstep
      exact .inr ⟨now, args, writes, rfl, rfl, rfl⟩
    | finding => cases hdecided; cases hstep; exact .inl rfl
    | loadingLevels => cases hdecided; cases hstep; exact .inl rfl
    | loadingOwner => cases hdecided; cases hstep; exact .inl rfl
    | loadingDepartment => cases hdecided; cases hstep; exact .inl rfl
    | summarising => cases hdecided; cases hstep; exact .inl rfl
    | publishing => cases hdecided; cases hstep; exact .inl rfl
    | rollingBack => cases hdecided; cases hstep; exact .inl rfl
    | ended => cases hdecided
    | _ =>
      cases hdecided
      exact .inl (Locked.step_lock_eq_some hstep).2.1

/-- The row under consideration stays live, with its limit. -/
theorem liveLimit_step (hlive : LiveLimit key limit s) {phase phase' : Phase} {outcome : Outcome}
    (h : Known cfg key i s phase) (hstep : advance cfg i s phase outcome = some (s', phase')) :
    LiveLimit key limit s' := by
  rcases advance_committed hstep with hsame | ⟨now, args, writes, rfl, rfl, hcommit⟩
  · rw [LiveLimit, hsame]
    exact hlive
  · rw [LiveLimit, hcommit]
    cases h with
    | committing h =>
      obtain ⟨hcharged, hother⟩ := h.commit
      by_cases hkey : chargedKey cfg writes.saved = some key
      · obtain ⟨b, b', hb, hb', -, -, hlimit, hblive⟩ := hcharged hkey
        obtain ⟨b₀, hb₀, hlive₀, hlimit₀⟩ := hlive
        cases hb.symm.trans hb₀
        exact ⟨b', hb', hblive.trans hlive₀, hlimit.trans hlimit₀⟩
      · rw [hother hkey]
        exact hlive

theorem outline (hblock : cfg.blockSubmitOnOverspend = true) :
    (submissions cfg).Outline Concurrent.anyStep (LiveLimit key limit)
      (fun i s phase => Known cfg key i s phase) where
  start := by
    intro s args s' phase hlive hstart
    cases hstart
    exact ⟨hlive, fun _ => .finding, fun _ _ => id⟩
  step := by
    intro i s phase outcome s' phase' hlive h _ hstep
    refine ⟨liveLimit_step hlive h hstep, known_step hblock hlive h hstep, ?_⟩
    obtain ⟨st, hdecided, hstatement⟩ := Option.bind_eq_some_iff.1 hstep
    intro j u hij hu
    exact hu.keep (fun k hk =>
      Locked.step_frame (writesHeld_of_decided h hdecided) hstatement hk hij)
  surroundings := nofun

end Overspend

namespace Sample

/-- Submissions above the limit are blocked. -/
def blocking : Config := ⟨BudgetPeriod.utcZone, true⟩

def draftOf (reference : String) : Operation :=
  .createExpense Sample.now reference 1 ⟨"Train", none, 60000, .TRAVEL, none⟩

/-- Two drafts of 60000 each under a limit of 100000. -/
def drafts : Db :=
  runAll blocking [draftOf "EXP1700000000001AAAAAA", draftOf "EXP1700000000002AAAAAA"] Sample.dbWithBudget

end Sample

end Expentra.SubmitStatements
