-- SUMMARY: The reconciliation of all budgets by concurrent workers: it needs a transaction for its locks, and then restores the counters.
import Expentra.Budget.Ledger
import Expentra.Library.Interleaving

/-!
# Reconciliation

`reconcileAllCommittedAmounts` lists the live budgets and hands them to at most ten
workers. For each budget a worker recomputes the committed and then the reimbursed
amount: it locks the row, sums the expenses and writes the column. The statements
of the workers interleave.

TypeORM refuses a pessimistic lock outside a transaction, and the scheduled job
calls the service without one.
-/

namespace Expentra.Reconciliation

open Library BudgetService

/-- What ends a worker. -/
inductive Failure where
  | exception (e : HttpException)
  /-- `PessimisticLockTransactionRequiredError` -/
  | lockRequiresTransaction
deriving DecidableEq

/-- The `EntityManager` of the statements. -/
structure Runner where
  inTransaction : Bool

/-- Without an argument the service takes `budgetRepository.manager`. -/
def scheduled : Runner := ⟨false⟩

/-- Where a worker is: its next statement, with what it has read. -/
inductive Phase where
  /-- The head of the loop of `runWithConcurrency`. -/
  | taking
  | lockingCommitted (key : Nat × Int)
  /-- Both sums of the committed amount. -/
  | summingCommitted (key : Nat × Int) (period : Instant × Instant)
  | writingCommitted (key : Nat × Int) (committedAmount : Int)
  | lockingReimbursed (key : Nat × Int)
  | summingReimbursed (key : Nat × Int) (period : Instant × Instant)
  | writingReimbursed (key : Nat × Int) (reimbursedAmount : Int)
  | done (result : Except Failure Unit)

/-- The database, the budgets `find` listed, and the index the workers share. -/
structure Reconciled where
  db : Db
  items : List (Nat × Int)
  nextIndex : Nat

/-- `where: { isActive: true, deletedAt: IsNull() }` -/
def liveKeys (db : Db) : List (Nat × Int) := (db.budgets.rows.filter (·.isLive)).map (·.key)

/-- The checks before the lock, and the lock. -/
def lockBudget (cfg : Config) (runner : Runner) (year : Int) : Except Failure (Instant × Instant) :=
  match assertValidYear year, BudgetPeriod.budgetYearRangeInTimeZone year cfg.budgetTimeZone with
  | .error e, _ => .error (.exception e)
  | .ok _, .error e => .error (.exception e)
  | .ok _, .ok period =>
    if runner.inTransaction then .ok period else .error .lockRequiresTransaction

def reimbursedSum (db : Db) (key : Nat × Int) (period : Instant × Instant) : Int :=
  sumSpendForDepartmentYear db key.1 period (· = .REIMBURSED)

def committedSum (db : Db) (key : Nat × Int) (period : Instant × Instant) : Int :=
  sumSpendForDepartmentYear db key.1 period countsTowardCommittedBudget + reimbursedSum db key period

/-- `UPDATE … WHERE department_id = … AND year = … AND deleted_at IS NULL` -/
def updateBudget (db : Db) (key : Nat × Int) (committed reimbursed : DepartmentBudget → Nat) :
    Except Failure Db :=
  match (db.budgets.find? key).filter (·.deletedAt.isNone) with
  | none => .ok db
  | some budget =>
    match budget.withCounters (committed budget) (reimbursed budget) with
    | some updated => .ok { db with budgets := db.budgets.replace updated }
    | none => .error (.exception (.queryFailed "22003"))

def writeCommitted (db : Db) (key : Nat × Int) (committedAmount : Int) : Except Failure Db :=
  updateBudget db key (fun _ => committedAmount.toNat) (·.reimbursedAmount)

def writeReimbursed (db : Db) (key : Nat × Int) (reimbursedAmount : Int) : Except Failure Db :=
  updateBudget db key (·.committedAmount) (fun _ => reimbursedAmount.toNat)

/-- Go on with a value, or end with the failure. -/
def orFail {α : Type} (result : Except Failure α) (next : α → Phase) : Phase :=
  match result with
  | .ok a => next a
  | .error failure => .done (.error failure)

/-- The database after a statement that may fail. -/
def Reconciled.store (s : Reconciled) (result : Except Failure Db) : Reconciled :=
  { s with db := result.toOption.getD s.db }

/-- The next statement of a worker. -/
def advance (cfg : Config) (runner : Runner) (s : Reconciled) : Phase → Option (Reconciled × Phase)
  | .taking =>
    match s.items[s.nextIndex]? with
    | some key => some ({ s with nextIndex := s.nextIndex + 1 }, .lockingCommitted key)
    | none => some (s, .done (.ok ()))
  | .lockingCommitted key =>
    some (s, orFail (lockBudget cfg runner key.2) (.summingCommitted key))
  | .summingCommitted key period =>
    some (s, .writingCommitted key (committedSum s.db key period))
  | .writingCommitted key committedAmount =>
    some (s.store (writeCommitted s.db key committedAmount),
      orFail (writeCommitted s.db key committedAmount) (fun _ => .lockingReimbursed key))
  | .lockingReimbursed key =>
    some (s, orFail (lockBudget cfg runner key.2) (.summingReimbursed key))
  | .summingReimbursed key period =>
    some (s, .writingReimbursed key (reimbursedSum s.db key period))
  | .writingReimbursed key reimbursedAmount =>
    some (s.store (writeReimbursed s.db key reimbursedAmount),
      orFail (writeReimbursed s.db key reimbursedAmount) (fun _ => .taking))
  | .done _ => none

/-- The workers of `runWithConcurrency`; nothing else writes meanwhile. -/
def reconcile (cfg : Config) (runner : Runner) : Concurrent Reconciled Phase Empty Unit Empty where
  start _ arrival := nomatch arrival
  step _ s phase _ := advance cfg runner s phase
  surroundings _ event := nomatch event

/-- After `find`: one worker for each of the first ten budgets. -/
def launch (db : Db) : Pool Reconciled Phase :=
  ⟨⟨db, liveKeys db, 0⟩, List.replicate (min 10 (liveKeys db).length) .taking⟩

/-- No worker goes on. -/
def Settled (p : Pool Reconciled Phase) : Prop := ∀ t ∈ p.threads, ∃ result, t = .done result

/-- The promise of the service is fulfilled. -/
def Resolved (p : Pool Reconciled Phase) : Prop := ∀ t ∈ p.threads, t = .done (.ok ())

/-- The counters of a row are the sums over the expenses of its year. -/
def Recomputed (cfg : Config) (db : Db) (b : DepartmentBudget) : Prop :=
  ∃ period, BudgetPeriod.budgetYearRangeInTimeZone b.year cfg.budgetTimeZone = .ok period ∧
    (b.committedAmount : Int) = committedSum db b.key period ∧
    (b.reimbursedAmount : Int) = reimbursedSum db b.key period

/-- The committed sum is that of every status the committed amount stands for. -/
theorem committedSum_eq (db : Db) (key : Nat × Int) (period : Instant × Instant) :
    committedSum db key period = sumSpendForDepartmentYear db key.1 period isCommitted := by
  rw [committedSum, reimbursedSum, sumSpendForDepartmentYear, sumSpendForDepartmentYear,
    ← Table.sum_add]
  refine Table.sum_congr fun row _ => ?_
  cases row.status <;> simp [countsTowardCommittedBudget, isCommitted]

/-- Where the window is that of the year and every counted expense has a department, counters
    equal the ledger if and only if they are what a recalculation computes. -/
theorem matchesLedger_iff_recomputed {cfg : Config} {db : Db} {b : DepartmentBudget}
    {period : Instant × Instant}
    (hperiod : BudgetPeriod.budgetYearRangeInTimeZone b.year cfg.budgetTimeZone = .ok period)
    (hwindow : ∀ t, BudgetPeriod.resolveBudgetYear t cfg.budgetTimeZone = b.year ↔
      period.1 ≤ t ∧ t < period.2)
    (hdepartment : ∀ row ∈ db.expenses, isCommitted row.status = true →
      row.departmentId.isSome = true) :
    MatchesLedger cfg.budgetTimeZone db b ↔ Recomputed cfg db b := by
  have hcommitted : ledger cfg.budgetTimeZone db isCommitted b.key = committedSum db b.key period :=
    (ledger_eq_sumSpend hwindow hdepartment).trans (committedSum_eq db b.key period).symm
  have hreimbursed : ledger cfg.budgetTimeZone db isReimbursed b.key =
      reimbursedSum db b.key period := by
    refine ledger_eq_sumSpend hwindow fun row hrow hstatus => hdepartment row hrow ?_
    rw [of_decide_eq_true hstatus]
    rfl
  constructor
  · intro h
    exact ⟨period, hperiod, h.committed.trans hcommitted, h.reimbursed.trans hreimbursed⟩
  · rintro ⟨period', hperiod', hcommitted', hreimbursed'⟩
    cases hperiod.symm.trans hperiod'
    exact ⟨hcommitted'.trans hcommitted.symm, hreimbursed'.trans hreimbursed.symm⟩

/-- In every order of the statements the service completes, restores the counters
    of the live budgets, and changes nothing when it is called once more. -/
structure Restores (cfg : Config) (runner : Runner) (db : Db) : Prop where
  settles : ∀ p, Reaches (reconcile cfg runner).Step (launch db) p →
    ∃ p', Reaches (reconcile cfg runner).Step p p' ∧ Settled p'
  completes : ∀ p, Reaches (reconcile cfg runner).Step (launch db) p → Settled p → Resolved p
  recomputed : ∀ p, Reaches (reconcile cfg runner).Step (launch db) p → Settled p →
    ∀ b ∈ p.shared.db.budgets, b.isLive = true → Recomputed cfg p.shared.db b
  again : ∀ p p', Reaches (reconcile cfg runner).Step (launch db) p → Settled p →
    Reaches (reconcile cfg runner).Step (launch p.shared.db) p' → p'.shared.db = p.shared.db

/-! ## Turns -/

section Turns

variable {cfg : Config} {runner : Runner} {db : Db} {p p' : Pool Reconciled Phase}
  {turn : Turn Empty Unit Empty}

/-- Every turn is the statement of one worker. -/
theorem Step.inv (h : (reconcile cfg runner).Step p turn p') :
    ∃ i phase s phase', p.threads[i]? = some phase ∧
      advance cfg runner p.shared phase = some (s, phase') ∧ p' = ⟨s, p.threads.set i phase'⟩ := by
  cases turn with
  | start arrival => cases arrival
  | step i outcome =>
    obtain ⟨phase, s, phase', hphase, hmove, rfl⟩ := Concurrent.next_step_eq_some.1 h
    exact ⟨i, phase, s, phase', hphase, hmove, rfl⟩
  | surroundings event => cases event

/-- A worker that is not done has a next statement. -/
theorem exists_advance {phase : Phase} (s : Reconciled) (h : ∀ result, phase ≠ .done result) :
    ∃ r, advance cfg runner s phase = some r := by
  cases phase with
  | taking =>
    rw [advance]
    split <;> exact ⟨_, rfl⟩
  | done result => exact absurd rfl (h result)
  | _ => exact ⟨_, rfl⟩

/-- How many statements of its budget a worker has left, and one for the loop. -/
def Phase.rank : Phase → Nat
  | .done _ => 0
  | .taking => 1
  | .writingReimbursed _ _ => 2
  | .summingReimbursed _ _ => 3
  | .lockingReimbursed _ => 4
  | .writingCommitted _ _ => 5
  | .summingCommitted _ _ => 6
  | .lockingCommitted _ => 7

/-- What is left of the list. -/
def Reconciled.left (s : Reconciled) : Nat := 7 * (s.items.length - s.nextIndex)

theorem rank_orFail {α : Type} {result : Except Failure α} {next : α → Phase} {n : Nat} (hn : 0 < n)
    (hnext : ∀ a, (next a).rank < n) : (orFail result next).rank < n := by
  cases result with
  | ok a => exact hnext a
  | error failure => exact hn

/-- A statement brings its worker forward, or takes a budget off the list. -/
theorem advance_rank {s s' : Reconciled} {phase phase' : Phase}
    (h : advance cfg runner s phase = some (s', phase')) :
    s'.left + phase'.rank < s.left + phase.rank := by
  cases phase with
  | taking =>
    rw [advance] at h
    split at h
    · rename_i key hkey
      cases h
      obtain ⟨hlt, -⟩ := List.getElem?_eq_some_iff.1 hkey
      simp only [Reconciled.left, Phase.rank]
      omega
    · cases h
      simp [Phase.rank]
  | done result => cases h
  | summingCommitted key period =>
    cases h
    simp [Phase.rank]
  | summingReimbursed key period =>
    cases h
    simp [Phase.rank]
  | _ =>
    cases h
    exact Nat.add_lt_add_left (rank_orFail (by simp [Phase.rank]) (fun _ => by simp [Phase.rank])) _

/-- From every pool the workers get to an end. -/
theorem exists_settled (p : Pool Reconciled Phase) :
    ∃ p', Reaches (reconcile cfg runner).Step p p' ∧ Settled p' := by
  induction hw : Concurrent.work Reconciled.left Phase.rank p using Nat.strong_induction_on generalizing p with
  | _ n ih =>
    by_cases hsettled : Settled p
    · exact ⟨p, Reaches.refl, hsettled⟩
    · simp only [Settled, not_forall, not_exists] at hsettled
      obtain ⟨phase, hmem, hphase⟩ := hsettled
      obtain ⟨i, hi⟩ := List.mem_iff_getElem?.1 hmem
      obtain ⟨⟨s, phase'⟩, hmove⟩ := @exists_advance cfg runner phase p.shared hphase
      have hstep : (reconcile cfg runner).Step p (.step i ()) ⟨s, p.threads.set i phase'⟩ :=
        Concurrent.next_step_eq_some.2 ⟨phase, s, phase', hi, hmove, rfl⟩
      obtain ⟨p', hreach, hend⟩ := ih _ (hw ▸ Concurrent.work_lt hi (advance_rank hmove)) _ rfl
      exact ⟨p', Relation.ReflTransGen.head ⟨_, hstep⟩ hreach, hend⟩

end Turns

/-! ## Without a transaction -/

section Scheduled

variable {cfg : Config} {runner : Runner} {db : Db} {p p' : Pool Reconciled Phase} {key : Nat × Int}

/-- No lock is given. -/
theorem lockBudget_scheduled {year : Int} : ∃ failure, lockBudget cfg scheduled year = .error failure := by
  unfold lockBudget
  split
  · exact ⟨_, rfl⟩
  · exact ⟨_, rfl⟩
  · exact ⟨_, rfl⟩

/-- A worker that holds a budget, or failed with one. -/
inductive Halted : Phase → Prop where
  | locking (key : Nat × Int) : Halted (.lockingCommitted key)
  | failed (failure : Failure) : Halted (.done (.error failure))

/-- Nothing has been written; the list is untouched, or a worker is halted with a
    budget. -/
structure Blocked (db : Db) (p : Pool Reconciled Phase) : Prop where
  db_eq : p.shared.db = db
  items_eq : p.shared.items = liveKeys db
  phases : ∀ t ∈ p.threads, t = .taking ∨ t = .done (.ok ()) ∨ Halted t
  halts : (p.shared.nextIndex = 0 ∧ ∀ t ∈ p.threads, t = .taking) ∨ ∃ t ∈ p.threads, Halted t

theorem blocked_launch : Blocked db (launch db) where
  db_eq := rfl
  items_eq := rfl
  phases := fun _ ht => .inl (List.eq_of_mem_replicate ht)
  halts := .inl ⟨rfl, fun _ ht => List.eq_of_mem_replicate ht⟩

/-- With a live budget, a first worker takes it and never gets past its lock. -/
theorem Blocked.step {turn : Turn Empty Unit Empty} (hne : liveKeys db ≠ []) (h : Blocked db p)
    (hstep : (reconcile cfg scheduled).Step p turn p') : Blocked db p' := by
  obtain ⟨i, phase, s, phase', hi, hmove, rfl⟩ := Step.inv hstep
  obtain ⟨hlt, -⟩ := List.getElem?_eq_some_iff.1 hi
  have hphases : (phase' = .taking ∨ phase' = .done (.ok ()) ∨ Halted phase') →
      ∀ t ∈ p.threads.set i phase', t = .taking ∨ t = .done (.ok ()) ∨ Halted t := by
    intro hnew t ht
    rcases List.mem_or_eq_of_mem_set ht with hold | rfl
    · exact h.phases t hold
    · exact hnew
  rcases h.phases phase (List.mem_of_getElem? hi) with rfl | rfl | hhalted
  · rw [advance] at hmove
    split at hmove
    · rename_i key hkey
      cases hmove
      have hhalted : Halted (.lockingCommitted key) := .locking key
      exact ⟨h.db_eq, h.items_eq, hphases (.inr (.inr hhalted)),
        .inr ⟨_, List.mem_set hlt _, hhalted⟩⟩
    · rename_i hnone
      cases hmove
      refine ⟨h.db_eq, h.items_eq, hphases (.inr (.inl rfl)), ?_⟩
      rcases h.halts with ⟨hzero, -⟩ | ⟨t, ht, hhalted⟩
      · rw [hzero, h.items_eq, List.getElem?_eq_none_iff, Nat.le_zero, List.length_eq_zero_iff] at hnone
        exact absurd hnone hne
      · rcases Concurrent.eq_or_mem_set hi ht with rfl | hold
        · cases hhalted
        · exact .inr ⟨t, hold, hhalted⟩
  · cases hmove
  · cases hhalted with
    | locking key =>
      obtain ⟨failure, hlock⟩ := @lockBudget_scheduled cfg key.2
      rw [advance, hlock] at hmove
      cases hmove
      have hfailed : Halted (.done (.error failure)) := .failed failure
      exact ⟨h.db_eq, h.items_eq, hphases (.inr (.inr hfailed)), .inr ⟨_, List.mem_set hlt _, hfailed⟩⟩
    | failed failure => cases hmove

/-- With a live budget the service never completes. -/
theorem Blocked.not_resolved (hne : liveKeys db ≠ []) (h : Blocked db p)
    (hthreads : p.threads.length = min 10 (liveKeys db).length) : ¬ Resolved p := by
  intro hresolved
  rcases h.halts with ⟨-, htaking⟩ | ⟨t, ht, hhalted⟩
  · have hpos : 0 < p.threads.length := by
      have := List.length_pos_iff.2 hne
      omega
    obtain ⟨t, ht⟩ := List.exists_mem_of_length_pos hpos
    exact absurd ((htaking t ht).symm.trans (hresolved t ht)) nofun
  · rw [hresolved t ht] at hhalted
    cases hhalted

theorem threads_length (h : Reaches (reconcile cfg runner).Step (launch db) p) :
    p.threads.length = min 10 (liveKeys db).length := by
  refine Reaches.invariant (P := fun p => p.threads.length = min 10 (liveKeys db).length)
    (fun p turn p' hlength hstep => ?_) List.length_replicate h
  obtain ⟨i, phase, s, phase', -, -, rfl⟩ := Step.inv hstep
  rw [List.length_set]
  exact hlength

/-- Without a live budget there is nothing to do. -/
theorem reaches_launch_nil (hnil : liveKeys db = [])
    (h : Reaches (reconcile cfg runner).Step (launch db) p) : p = launch db := by
  refine Reaches.invariant (P := fun p => p = launch db) (fun p turn p' hp hstep => ?_) rfl h
  obtain ⟨i, phase, s, phase', hi, -, -⟩ := Step.inv hstep
  rw [hp, launch, hnil] at hi
  cases hi

theorem liveKeys_eq_nil : liveKeys db = [] ↔ ∀ b ∈ db.budgets, b.isLive = false := by
  rw [liveKeys, List.map_eq_nil_iff, List.filter_eq_nil_iff]
  simp [Table.mem_iff]

theorem not_restores_of_live (hne : liveKeys db ≠ []) : ¬ Restores cfg scheduled db := by
  intro h
  obtain ⟨p, hreach, hsettled⟩ := h.settles _ Reaches.refl
  have hblocked : Blocked db p :=
    hreach.invariant (fun _ _ _ hp hstep => hp.step hne hstep) blocked_launch
  exact hblocked.not_resolved hne (threads_length hreach) (h.completes p hreach hsettled)

/-- The scheduled job restores the counters exactly when there is no live budget. -/
theorem scheduled_restores_iff :
    Restores cfg scheduled db ↔ ∀ b ∈ db.budgets, b.isLive = false := by
  rw [← liveKeys_eq_nil]
  constructor
  · intro h
    by_contra hne
    exact not_restores_of_live hne h
  · intro hnil
    have hlive : ∀ b ∈ db.budgets, b.isLive = false := liveKeys_eq_nil.1 hnil
    have hdone : ∀ t ∈ (launch db).threads, t = .done (.ok ()) := by simp [launch, hnil]
    constructor
    · intro p _
      exact exists_settled p
    · rintro p hreach -
      obtain rfl := reaches_launch_nil hnil hreach
      exact hdone
    · rintro p hreach - b hb hbl
      obtain rfl := reaches_launch_nil hnil hreach
      exact absurd (hlive b hb) (by simp [hbl])
    · rintro p p' hreach - hagain
      obtain rfl := reaches_launch_nil hnil hreach
      have hlast : p' = launch (launch db).shared.db := reaches_launch_nil hnil hagain
      exact congrArg (·.shared.db) hlast

end Scheduled

/-! ## A budget created after a submission -/

/-- A live budget whose committed amount is behind. -/
def behind : Db :=
  runAll Sample.config [Sample.createExpense, Sample.submit, .createBudget Sample.now
    "BUD1700000000002AAAAAA" ⟨"DPT1700000000001AAAAAA", 2025, 100000⟩] Sample.db

open Sample in
/-- The job fails for want of a transaction, and the row stays at zero. -/
theorem scheduled_fails :
    Reaches (Step config) db behind ∧ ¬ Restores config scheduled behind ∧
      ∃ p, Reaches (reconcile config scheduled).Step (launch behind) p ∧
        p.threads = [.done (.error .lockRequiresTransaction)] ∧
        ∃ b ∈ p.shared.db.budgets, b.isLive = true ∧ ¬ Recomputed config p.shared.db b := by
  have hkeys : liveKeys behind = [(1, 2025)] := by decide +kernel
  have hlock : lockBudget config scheduled 2025 = .error .lockRequiresTransaction := rfl
  have hlaunch : launch behind = ⟨⟨behind, [(1, 2025)], 0⟩, [.taking]⟩ := by
    rw [launch, hkeys]
    rfl
  refine ⟨reaches_runAll config _ db, not_restores_of_live (by simp [hkeys]),
    ⟨⟨behind, [(1, 2025)], 1⟩, [.done (.error .lockRequiresTransaction)]⟩, ?_, rfl, ?_⟩
  · -- the one worker takes the budget and asks for the lock
    rw [hlaunch]
    have htake : (reconcile config scheduled).Step ⟨⟨behind, [(1, 2025)], 0⟩, [.taking]⟩
        (.step 0 ()) ⟨⟨behind, [(1, 2025)], 1⟩, [.lockingCommitted (1, 2025)]⟩ :=
      Concurrent.next_step_eq_some.2 ⟨.taking, _, _, rfl, rfl, rfl⟩
    refine (Reaches.refl.tail htake).tail (a := .step 0 ())
      (Concurrent.next_step_eq_some.2 ⟨.lockingCommitted (1, 2025), _, _, rfl, ?_, rfl⟩)
    exact congrArg (fun result => some (_, orFail result _)) hlock
  · have hrow : ∃ b ∈ behind.budgets, b.key = (1, 2025) ∧ b.isLive = true ∧ b.committedAmount = 0 := by
      decide +kernel
    have hsum : committedSum behind (1, 2025)
        (Date.utc 2025 0 1 0 0 0, Date.utc 2026 0 1 0 0 0) = 5000 := by decide +kernel
    obtain ⟨b, hb, hkey, hlive, hzero⟩ := hrow
    refine ⟨b, hb, hlive, ?_⟩
    rintro ⟨period, hperiod, hcommitted, -⟩
    have hyear : b.year = 2025 := (Prod.mk.inj hkey).2
    rw [hyear] at hperiod
    obtain rfl : (Date.utc 2025 0 1 0 0 0, Date.utc 2026 0 1 0 0 0) = period := Except.ok.inj hperiod
    have hbehind : committedSum behind b.key
        (Date.utc 2025 0 1 0 0 0, Date.utc 2026 0 1 0 0 0) = 5000 := hkey ▸ hsum
    rw [hzero] at hcommitted
    exact absurd (hcommitted.trans hbehind) (by decide)

end Expentra.Reconciliation
