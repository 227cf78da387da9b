-- SUMMARY: The budget flags of the approval queue, and when they foretell what approving an expense asks for.
import Expentra.Budget.YearWindow
import Expentra.Expense.Query
import Expentra.Library.Cache

/-!
# Budget flags

`resolveApprovalBudgetFlags` evaluates the budget once for each department and year of
the queue. The year of its cache is the one of UTC, the year of the evaluation the one
of the budget time zone; and it takes an expense under review to be at a finance stage.
-/

namespace Expentra

open Library ApprovalRouting

namespace ExpenseQueryService

structure ApprovalQueueBudgetFlags where
  budgetWouldExceed : Bool
  requiresOverBudgetAcknowledgment : Bool
deriving DecidableEq, Repr

/-- `expense.submittedAt ?? expense.createdAt` -/
def asOf (t : ExpenseTable) (expense : Expense) : Instant :=
  expense.submittedAt.getD (t.createdAt expense.id)

/-- `cacheKey`: the department and the calendar year of UTC. -/
def cacheKey (t : ExpenseTable) (expense : Expense) : Option Nat × Int :=
  (expense.departmentId, Date.getUTCFullYear (asOf t expense))

def flagsOf (wouldExceed : Bool) (expense : Expense) : ApprovalQueueBudgetFlags :=
  ⟨wouldExceed, wouldExceed && expense.status = .UNDER_REVIEW⟩

/-- Whether the budget is exceeded: from the cache, or evaluated. -/
def resolveWouldExceed (cfg : Config) (t : ExpenseTable)
    (cache : Option Nat × Int → Option Bool) (expense : Expense) : Except HttpException Bool :=
  match cache (cacheKey t expense) with
  | some wouldExceed => .ok wouldExceed
  | none => (BudgetService.evaluateExpenseApprove cfg t.db expense.departmentId
      (asOf t expense)).map (·.wouldExceed)

/-- The loop of `resolveApprovalBudgetFlags` over its two maps. -/
def resolveFlagsFrom (cfg : Config) (t : ExpenseTable) :
    List Expense → (Option Nat × Int → Option Bool) → (Nat → Option ApprovalQueueBudgetFlags) →
      Except HttpException (Nat → Option ApprovalQueueBudgetFlags)
  | [], _, flags => .ok flags
  | expense :: rest, cache, flags => do
    let wouldExceed ← resolveWouldExceed cfg t cache expense
    resolveFlagsFrom cfg t rest (Function.update cache (cacheKey t expense) (some wouldExceed))
      (Function.update flags expense.id (some (flagsOf wouldExceed expense)))

/-- The flags by the id of the expense. -/
def resolveApprovalBudgetFlags (cfg : Config) (t : ExpenseTable) (expenses : List Expense) :
    Except HttpException (Nat → Option ApprovalQueueBudgetFlags) :=
  resolveFlagsFrom cfg t expenses (fun _ => none) (fun _ => none)

end ExpenseQueryService

namespace BudgetFlags

open ExpenseQueryService

/-! ## What the flags foretell -/

/-- Rows of the table that wait for a decision since they were submitted. -/
structure Queue (t : ExpenseTable) (expenses : List Expense) : Prop where
  stored : ∀ row ∈ expenses, row ∈ t.db.expenses
  pending : ∀ row ∈ expenses, row.status.isPending = true
  submitted : ∀ row ∈ expenses, row.submittedAt.isSome = true

/-- The evaluation of one expense, for its own department and submission time. -/
def evaluate (cfg : Config) (t : ExpenseTable) (row : Expense) :
    Except HttpException BudgetApproveEvaluation :=
  BudgetService.evaluateExpenseApprove cfg t.db row.departmentId (asOf t row)

def acknowledgementRequired : HttpException :=
  .badRequest "You must acknowledge authorizing this over-budget expense before approving"

def activeStage (t : ExpenseTable) (row : Expense) : Option ApprovalLevel :=
  getActiveStage (t.db.withRelations row) t.db.activeLevels (t.db.approvalsOf row.id)

/-- At its active stage the expense can be decided, and an approval with a comment and
    without the acknowledgement is refused for want of it. -/
def RefusedUnacknowledged (cfg : Config) (t : ExpenseTable) (now : Instant) (row : Expense) : Prop :=
  ∃ stage, activeStage t row = some stage ∧
    assertReadyForStageApproval stage (t.db.withRelations row) t.db.activeLevels
      (t.db.approvalsOf row.id) = .ok () ∧
    ∀ comment, Approval.assertOverBudgetApprovalAllowed cfg t.db now (t.db.withRelations row) stage
      (some comment) false = .error acknowledgementRequired

/-- Every expense gets flags: its own evaluation, and the refusal to expect. -/
def Foretells (cfg : Config) (t : ExpenseTable) (now : Instant) (expenses : List Expense) : Prop :=
  ∃ flags, resolveApprovalBudgetFlags cfg t expenses = .ok flags ∧
    ∀ row ∈ expenses, ∃ shown evaluation, flags row.id = some shown ∧
      evaluate cfg t row = .ok evaluation ∧ shown.budgetWouldExceed = evaluation.wouldExceed ∧
      (shown.requiresOverBudgetAcknowledgment = true ↔ RefusedUnacknowledged cfg t now row)

/-- The department of the expense is over its limit in the budget year of the expense. -/
def Exceeds (cfg : Config) (t : ExpenseTable) (row : Expense) : Prop :=
  ∃ evaluation, evaluate cfg t row = .ok evaluation ∧ evaluation.wouldExceed = true

/-- What the shortcuts of the queue rely on. -/
structure Regular (cfg : Config) (t : ExpenseTable) (expenses : List Expense) : Prop where
  evaluated : ∀ row ∈ expenses, ∃ evaluation, evaluate cfg t row = .ok evaluation
  /-- One calendar year of UTC that spreads over two budget years. -/
  years : ∀ row ∈ expenses, ∀ other ∈ expenses, cacheKey t row = cacheKey t other →
    BudgetPeriod.resolveBudgetYear (asOf t row) cfg.budgetTimeZone ≠
      BudgetPeriod.resolveBudgetYear (asOf t other) cfg.budgetTimeZone →
    (Exceeds cfg t row ↔ Exceeds cfg t other)
  stages : ∀ row ∈ expenses, Exceeds cfg t row → row.status = .UNDER_REVIEW →
    ∃ stage, activeStage t row = some stage ∧ stage.approverType = .FINANCE_MANAGER

/-! ## The maps -/

section Maps

variable {cfg : Config} {t : ExpenseTable} {expenses : List Expense}
  {cache : Option Nat × Int → Option Bool} {flags flags' : Nat → Option ApprovalQueueBudgetFlags}
  {row : Expense} {wouldExceed : Bool}

/-- A map after an update, at a key of its own. -/
theorem update_of_some {κ ν : Type} [DecidableEq κ] {map : κ → Option ν} {k k' : κ} {v w : ν}
    (h : map k' = some w) (hsame : k' = k → w = v) : Function.update map k (some v) k' = some w := by
  by_cases heq : k' = k
  · rw [heq, Function.update_self, hsame heq]
  · rw [Function.update_of_ne heq, h]

theorem resolveWouldExceed_of_cached (h : cache (cacheKey t row) = some wouldExceed) :
    resolveWouldExceed cfg t cache row = .ok wouldExceed := by
  rw [resolveWouldExceed, h]

/-- The cache keeps what it holds: in the end it holds, for every expense, the value its
    flags were made of. -/
theorem resolveFlagsFrom_eq_ok
    (hids : ∀ row ∈ expenses, ∀ other ∈ expenses, row.id = other.id → row = other)
    (h : resolveFlagsFrom cfg t expenses cache flags = .ok flags') :
    (∀ id, (∀ row ∈ expenses, row.id ≠ id) → flags' id = flags id) ∧
    ∃ cache' : Option Nat × Int → Option Bool, (∀ k v, cache k = some v → cache' k = some v) ∧
      ∀ row ∈ expenses, ∃ wouldExceed, cache' (cacheKey t row) = some wouldExceed ∧
        flags' row.id = some (flagsOf wouldExceed row) := by
  induction expenses generalizing cache flags with
  | nil =>
    cases h
    exact ⟨fun _ _ => rfl, cache, fun _ _ hk => hk, fun _ h => absurd h List.not_mem_nil⟩
  | cons first rest ih =>
    obtain ⟨wouldExceed, hresolved, h⟩ := Except.bind_eq_ok.1 h
    obtain ⟨hothers, cache', hheld, hshown⟩ := ih (fun row hrow other hother =>
      hids row (List.mem_cons_of_mem _ hrow) other (List.mem_cons_of_mem _ hother)) h
    refine ⟨fun id hid => ?_, cache', fun k v hk => hheld k v ?_, ?_⟩
    · rw [hothers id (fun row hrow => hid row (List.mem_cons_of_mem _ hrow))]
      exact Function.update_of_ne (Ne.symm (hid first List.mem_cons_self)) _ _
    · refine update_of_some hk (fun heq => ?_)
      rw [resolveWouldExceed_of_cached (heq ▸ hk)] at hresolved
      exact Except.ok.inj hresolved
    · refine List.forall_mem_cons.2 ⟨?_, hshown⟩
      by_cases hagain : first ∈ rest
      · exact hshown first hagain
      · refine ⟨wouldExceed, hheld _ _ (Function.update_self ..), ?_⟩
        rw [hothers first.id (fun row hrow hsame => hagain ?_)]
        · exact Function.update_self ..
        · rw [← hids row (List.mem_cons_of_mem _ hrow) first List.mem_cons_self hsame]
          exact hrow

/-- Where all expenses with one key have one value, the loop ends, and makes all flags of
    these values. -/
theorem exists_resolveFlagsFrom {value : Option Nat × Int → Bool}
    (flags : Nat → Option ApprovalQueueBudgetFlags)
    (hvalue : ∀ row ∈ expenses,
      (evaluate cfg t row).map (·.wouldExceed) = .ok (value (cacheKey t row)))
    (hcache : Coherent cache (fun k => some (value k)))
    (hids : ∀ row ∈ expenses, ∀ other ∈ expenses, row.id = other.id → row = other) :
    ∃ flags', resolveFlagsFrom cfg t expenses cache flags = .ok flags' ∧
      ∀ row ∈ expenses, flags' row.id = some (flagsOf (value (cacheKey t row)) row) := by
  induction expenses generalizing cache flags with
  | nil => exact ⟨flags, rfl, fun _ h => absurd h List.not_mem_nil⟩
  | cons first rest ih =>
    have hresolved : resolveWouldExceed cfg t cache first = .ok (value (cacheKey t first)) := by
      unfold resolveWouldExceed
      cases hfound : cache (cacheKey t first) with
      | some wouldExceed => exact congrArg Except.ok (Option.some.inj (hcache _ _ hfound)).symm
      | none => exact hvalue first List.mem_cons_self
    have hrest : ∀ row ∈ rest, ∀ other ∈ rest, row.id = other.id → row = other :=
      fun row hrow other hother =>
        hids row (List.mem_cons_of_mem _ hrow) other (List.mem_cons_of_mem _ hother)
    obtain ⟨flags', hrun, hshown⟩ := ih
      (Function.update flags first.id (some (flagsOf (value (cacheKey t first)) first)))
      (fun row hrow => hvalue row (List.mem_cons_of_mem _ hrow))
      (hcache.fill (k := cacheKey t first) rfl) hrest
    refine ⟨flags', Except.bind_eq_ok.2 ⟨_, hresolved, hrun⟩,
      List.forall_mem_cons.2 ⟨?_, hshown⟩⟩
    by_cases hagain : first ∈ rest
    · exact hshown first hagain
    · rw [(resolveFlagsFrom_eq_ok hrest hrun).1 first.id (fun row hrow hsame => hagain ?_)]
      · exact Function.update_self ..
      · rw [← hids row (List.mem_cons_of_mem _ hrow) first List.mem_cons_self hsame]
        exact hrow

end Maps

/-! ## The acknowledgement -/

section Acknowledgement

variable {cfg : Config} {t : ExpenseTable} {now : Instant} {row : Expense} {stage : ApprovalLevel}

theorem exceeds_iff {evaluation : BudgetApproveEvaluation} (h : evaluate cfg t row = .ok evaluation) :
    Exceeds cfg t row ↔ evaluation.wouldExceed = true :=
  ⟨fun ⟨_, h', hexceeds⟩ => Except.ok.inj (h.symm.trans h') ▸ hexceeds, fun hexceeds => ⟨_, h, hexceeds⟩⟩

/-- An approval evaluates the budget as of the submission. -/
theorem evaluate_of_submitted (hsubmitted : row.submittedAt.isSome = true) :
    BudgetService.evaluateExpenseApprove cfg t.db (t.db.withRelations row).departmentId.toOption
      ((t.db.withRelations row).submittedAt.toOption.getD now) = evaluate cfg t row := by
  obtain ⟨submittedAt, hsome⟩ := Option.isSome_iff_exists.1 hsubmitted
  simp only [Db.withRelations, Expense.toEntity, Property.toOption_ofColumn, evaluate, asOf, hsome,
    Option.getD_some]

/-- With a comment, only the acknowledgement of a finance stage is left to ask for. -/
theorem assertOverBudgetApprovalAllowed_commented (hsubmitted : row.submittedAt.isSome = true)
    (hevaluated : ∃ evaluation, evaluate cfg t row = .ok evaluation) (comment : String) :
    Approval.assertOverBudgetApprovalAllowed cfg t.db now (t.db.withRelations row) stage
        (some comment) false = .error acknowledgementRequired ↔
      Exceeds cfg t row ∧ stage.approverType = .FINANCE_MANAGER := by
  obtain ⟨evaluation, heval⟩ := hevaluated
  rw [exceeds_iff heval, Approval.assertOverBudgetApprovalAllowed, evaluate_of_submitted hsubmitted, heval]
  cases hexceed : evaluation.wouldExceed <;> cases stage.approverType <;>
    simp [hexceed, acknowledgementRequired, Bind.bind, Except.bind, Pure.pure, Except.pure, throw,
      throwThe, MonadExceptOf.throw]

/-- At a finance stage the assertions ask for an expense under review. -/
theorem ready_iff_underReview (hactive : activeStage t row = some stage)
    (hfinance : stage.approverType = .FINANCE_MANAGER) :
    assertReadyForStageApproval stage (t.db.withRelations row) t.db.activeLevels
      (t.db.approvalsOf row.id) = .ok () ↔ row.status = .UNDER_REVIEW := by
  obtain ⟨before, after, hchain, -, hbefore⟩ :=
    firstUndecided_eq_some.1 (getActiveStage_eq_some.1 hactive).2
  have hstatus : statusForStage before stage = .UNDER_REVIEW :=
    if_neg (fun h => by
      rw [hfinance] at h
      cases h.2)
  rw [assertReadyForStageApproval_eq_ok (nodup_activeLevels t.db) hactive hchain hbefore, hstatus]
  rfl

/-- The refusal to expect, told by the budget, the status and the active stage. -/
theorem refusedUnacknowledged_iff (hsubmitted : row.submittedAt.isSome = true)
    (hevaluated : ∃ evaluation, evaluate cfg t row = .ok evaluation) :
    RefusedUnacknowledged cfg t now row ↔ Exceeds cfg t row ∧ row.status = .UNDER_REVIEW ∧
      ∃ stage, activeStage t row = some stage ∧ stage.approverType = .FINANCE_MANAGER := by
  have hcommented := fun stage comment =>
    @assertOverBudgetApprovalAllowed_commented cfg t now row stage hsubmitted hevaluated comment
  constructor
  · rintro ⟨stage, hactive, hready, hrefused⟩
    obtain ⟨hexceeds, hfinance⟩ := (hcommented stage "").1 (hrefused "")
    exact ⟨hexceeds, (ready_iff_underReview hactive hfinance).1 hready, stage, hactive, hfinance⟩
  · rintro ⟨hexceeds, hunder, stage, hactive, hfinance⟩
    exact ⟨stage, hactive, (ready_iff_underReview hactive hfinance).2 hunder, fun comment =>
      (hcommented stage comment).2 ⟨hexceeds, hfinance⟩⟩

/-- What it says about the call: everybody who may decide the expense at its stage is
    refused. -/
theorem RefusedUnacknowledged.approve {authUser : AuthUser} {comment : String}
    (h : RefusedUnacknowledged cfg t now row) (hid : 0 < row.id) (hrow : row ∈ t.db.expenses)
    (hready : Approval.ReadyStage t.db now authUser row stage) (hcomment : Js.trim comment ≠ "") :
    Approval.approve cfg now authUser row.id ⟨some comment, false⟩ t.db =
      .error acknowledgementRequired := by
  obtain ⟨stage', hactive, -, hrefused⟩ := h
  obtain rfl : stage' = stage := Option.some.inj (hactive.symm.trans hready.active)
  have hstage : Approval.requireActiveStage cfg now authUser row.id t.db =
      .ok ((t.db.withRelations row, t.db.activeLevels, stage'), t.db) :=
    Approval.requireActiveStage_eq_ok.2
      ⟨hid, row, Table.find?_of_mem hrow, rfl, rfl, hready, rfl⟩
  have htrimmed : Js.trimmedOrUndefined (some comment) = some (Js.trim comment) := if_neg hcomment
  refine Transaction.bind_eq_error.2 (.inr ⟨_, _, hstage, ?_⟩)
  refine Transaction.query_bind_eq_error.2 (.inl ?_)
  rw [htrimmed]
  exact hrefused (Js.trim comment)

end Acknowledgement

/-! ## When the flags foretell -/

section Queue

variable {cfg : Config} {t : ExpenseTable} {now : Instant} {expenses : List Expense}
  {row other : Expense} {evaluation : BudgetApproveEvaluation}

theorem Queue.eq_of_id (h : Queue t expenses) :
    ∀ row ∈ expenses, ∀ other ∈ expenses, row.id = other.id → row = other :=
  fun row hrow other hother => Table.eq_of_key_eq (h.stored row hrow) (h.stored other hother)

/-- The department and the budget year are all an evaluation looks at. -/
theorem evaluate_congr (hdepartment : row.departmentId = other.departmentId)
    (hyear : BudgetPeriod.resolveBudgetYear (asOf t row) cfg.budgetTimeZone =
      BudgetPeriod.resolveBudgetYear (asOf t other) cfg.budgetTimeZone) :
    evaluate cfg t row = evaluate cfg t other := by
  unfold evaluate BudgetService.evaluateExpenseApprove
  rw [hdepartment, hyear]

/-- Expenses of one key of the cache have one evaluation. -/
theorem Regular.exceeds_iff (h : Regular cfg t expenses) (hrow : row ∈ expenses)
    (hother : other ∈ expenses) (hkey : cacheKey t row = cacheKey t other) :
    Exceeds cfg t row ↔ Exceeds cfg t other := by
  by_cases hyear : BudgetPeriod.resolveBudgetYear (asOf t row) cfg.budgetTimeZone =
      BudgetPeriod.resolveBudgetYear (asOf t other) cfg.budgetTimeZone
  · rw [Exceeds, evaluate_congr (Prod.mk.inj hkey).1 hyear, Exceeds]
  · exact h.years row hrow other hother hkey hyear

/-- The value of a key: the evaluation of the first expense that has it. -/
def valueOf (cfg : Config) (t : ExpenseTable) (expenses : List Expense) (k : Option Nat × Int) : Bool :=
  (expenses.find? (fun row => cacheKey t row = k)).any (fun row =>
    (evaluate cfg t row).toOption.any (·.wouldExceed))

theorem Regular.valueOf_eq (h : Regular cfg t expenses) (hrow : row ∈ expenses)
    (heval : evaluate cfg t row = .ok evaluation) :
    valueOf cfg t expenses (cacheKey t row) = evaluation.wouldExceed := by
  have hsome : (expenses.find? (fun other => cacheKey t other = cacheKey t row)).isSome = true :=
    List.find?_isSome.2 ⟨row, hrow, decide_eq_true rfl⟩
  obtain ⟨first, hfirst⟩ := Option.isSome_iff_exists.1 hsome
  have hmem := List.mem_of_find?_eq_some hfirst
  have hkey : cacheKey t first = cacheKey t row := by simpa using List.find?_some hfirst
  obtain ⟨evaluation', heval'⟩ := h.evaluated first hmem
  have hsame := h.exceeds_iff hmem hrow hkey
  rw [BudgetFlags.exceeds_iff heval', BudgetFlags.exceeds_iff heval, ← Bool.eq_iff_iff] at hsame
  rw [valueOf, hfirst, ← hsame, Option.any_some, heval']
  rfl

/-- Whatever the order of the queue: every expense is flagged by its own evaluation and by
    the refusal to expect, if and only if no calendar year of UTC mixes two budget years
    with different evaluations, and every expense over budget and under review is at a
    finance stage. -/
theorem flags_foretell_iff (hqueue : Queue t expenses) :
    Foretells cfg t now expenses ↔ Regular cfg t expenses := by
  constructor
  · rintro ⟨flags, hrun, hforetold⟩
    obtain ⟨-, cache, -, hshown⟩ := resolveFlagsFrom_eq_ok hqueue.eq_of_id hrun
    -- the flags of an expense are made of the last value of its key
    have hvalue : ∀ row ∈ expenses, ∃ wouldExceed, cache (cacheKey t row) = some wouldExceed ∧
        (∃ evaluation, evaluate cfg t row = .ok evaluation) ∧
        (Exceeds cfg t row ↔ wouldExceed = true) ∧
        ((flagsOf wouldExceed row).requiresOverBudgetAcknowledgment = true ↔
          RefusedUnacknowledged cfg t now row) := by
      intro row hrow
      obtain ⟨wouldExceed, hcached, hflags⟩ := hshown row hrow
      obtain ⟨shown, evaluation, hflags', heval, hexceed, hack⟩ := hforetold row hrow
      obtain rfl : flagsOf wouldExceed row = shown := Option.some.inj (hflags.symm.trans hflags')
      refine ⟨wouldExceed, hcached, ⟨evaluation, heval⟩, ?_, hack⟩
      rw [exceeds_iff heval, ← hexceed]
      rfl
    refine ⟨fun row hrow => ?_, fun row hrow other hother hkey _ => ?_, fun row hrow hexceeds hunder => ?_⟩
    · obtain ⟨-, -, hevaluated, -⟩ := hvalue row hrow
      exact hevaluated
    · obtain ⟨value, hcached, -, hexceeds, -⟩ := hvalue row hrow
      obtain ⟨value', hcached', -, hexceeds', -⟩ := hvalue other hother
      rw [hkey, hcached'] at hcached
      rw [hexceeds, hexceeds', Option.some.inj hcached]
    · obtain ⟨value, -, hevaluated, hvalueOf, hack⟩ := hvalue row hrow
      have hrequires : (flagsOf value row).requiresOverBudgetAcknowledgment = true := by
        simp [flagsOf, hvalueOf.1 hexceeds, hunder]
      exact ((refusedUnacknowledged_iff (hqueue.submitted row hrow) hevaluated).1
        (hack.1 hrequires)).2.2
  · intro hregular
    have hvalue : ∀ row ∈ expenses, (evaluate cfg t row).map (·.wouldExceed) =
        .ok (valueOf cfg t expenses (cacheKey t row)) := by
      intro row hrow
      obtain ⟨evaluation, heval⟩ := hregular.evaluated row hrow
      rw [hregular.valueOf_eq hrow heval, heval]
      rfl
    obtain ⟨flags, hrun, hflags⟩ := exists_resolveFlagsFrom (fun _ => none) hvalue
      Coherent.empty hqueue.eq_of_id
    refine ⟨flags, hrun, fun row hrow => ?_⟩
    obtain ⟨evaluation, heval⟩ := hregular.evaluated row hrow
    have hshown := hflags row hrow
    rw [hregular.valueOf_eq hrow heval] at hshown
    refine ⟨_, evaluation, hshown, heval, rfl, ?_⟩
    rw [refusedUnacknowledged_iff (hqueue.submitted row hrow) ⟨evaluation, heval⟩, exceeds_iff heval,
      flagsOf, Bool.and_eq_true, decide_eq_true_eq]
    refine and_congr_right (fun hexceeds => ⟨fun hunder => ⟨hunder, ?_⟩, And.left⟩)
    exact hregular.stages row hrow ((exceeds_iff heval).2 hexceeds) hunder

end Queue

/-! ## A queue around New Year -/

namespace Sample

/-- An hour ahead of UTC. -/
def lagos : YearWindow.ConstantZone := ⟨"Africa/Lagos", 60, YearWindow.Sample.lagos.bounded, .zero⟩

def config : Config := ⟨lagos.timeZone, false⟩

theorem fare_pos : (0 : Int) < 5000 := by decide

/-- An expense of the department that waits for its manager. -/
def waiting (id : Nat) (reference : String) (submittedAt : Instant) : Expense where
  id := id
  reference := reference
  userId := 1
  departmentId := some 1
  title := "Train to Abuja"
  description := none
  amount := ⟨5000, fare_pos⟩
  category := .TRAVEL
  status := .SUBMITTED
  submittedAt := some submittedAt
  approvedAt := none
  rejectedAt := none
  reimbursedAt := none
  incurredAt := none
  reimbursementReference := none

def march : Expense := waiting 1 "EXP1700000000001AAAAAA" (Date.utc 2025 2 10 9 0 0)

/-- Half an hour into 2026, local time. -/
def newYear : Expense := waiting 2 "EXP1700000000002AAAAAA" (Date.utc 2025 11 31 23 30 0)

/-- The budget of 2025 has room, the one of 2026 is exceeded. -/
def budgets : Table DepartmentBudget.key :=
  ⟨[⟨"BUD1700000000001AAAAAA", 1, 2025, 100000, true, 5000, 0, none, by decide⟩,
    ⟨"BUD1700000000002AAAAAA", 1, 2026, 1000, true, 5000, 0, none, by decide⟩], by decide⟩

def table : ExpenseTable where
  db := { Expentra.Sample.db with expenses := ⟨[march, newYear], by decide⟩, budgets }
  createdAt := fun _ => Expentra.Sample.now
  updatedAt := fun _ => Expentra.Sample.now

theorem queue : Queue table [march, newYear] :=
  ⟨fun _ hrow => hrow, by decide, by decide⟩

end Sample

theorem flags_foretell_iff_sample :
    Foretells Sample.config Sample.table Sample.now [Sample.march, Sample.newYear] ↔
      Regular Sample.config Sample.table [Sample.march, Sample.newYear] :=
  flags_foretell_iff Sample.queue

/-- The expense of the new year gets the flags of the old one. -/
theorem years_mixed :
    (resolveApprovalBudgetFlags Sample.config Sample.table [Sample.march, Sample.newYear]).map
        (· Sample.newYear.id) = .ok (some ⟨false, false⟩) ∧
      (evaluate Sample.config Sample.table Sample.newYear).map (·.wouldExceed) = .ok true ∧
      ¬ Foretells Sample.config Sample.table Sample.now [Sample.march, Sample.newYear] := by
  have hflags : (resolveApprovalBudgetFlags Sample.config Sample.table
      [Sample.march, Sample.newYear]).map (· Sample.newYear.id) = .ok (some ⟨false, false⟩) := by
    decide +kernel
  have hexceed : (evaluate Sample.config Sample.table Sample.newYear).map (·.wouldExceed) =
      .ok true := by decide +kernel
  refine ⟨hflags, hexceed, fun ⟨flags, hrun, hforetold⟩ => ?_⟩
  obtain ⟨shown, evaluation, hshown, heval, hsame, -⟩ :=
    hforetold Sample.newYear (List.mem_cons_of_mem _ List.mem_cons_self)
  rw [hrun] at hflags
  rw [heval] at hexceed
  have hfalse : flags Sample.newYear.id = some ⟨false, false⟩ := Except.ok.inj hflags
  obtain rfl := Option.some.inj (hshown.symm.trans hfalse)
  have htrue : evaluation.wouldExceed = true := Except.ok.inj hexceed
  exact absurd (hsame.trans htrue) (by decide)

end BudgetFlags

end Expentra
