-- SUMMARY: Who decides: the authority behind every recorded decision, and the delegators it may come from.
import Expentra.System.Effects

/-!
# Authority

A decision needs a user who is not the owner and who may act on the stage, or who
holds a delegation from somebody who may. The service looks up what the delegator
may do at the moment of the decision, but neither whether the delegator is still
active nor whether the delegator is the owner. The standing of users and
departments changes arbitrarily between the calls.
-/

namespace Expentra

open Library

/-- A call of an operation, or an arbitrary change of users and departments. -/
inductive StandingEvent where
  | call (op : Operation)
  | standing (users : Table User.id) (departments : Table Department.id)

def StandingStep (cfg : Config) (db : Db) : StandingEvent → Db → Prop
  | .call op, db' => Step cfg db op db'
  | .standing users departments, db' => db' = { db with users := users, departments := departments }

/-- The user decided the expense at the stage between the two databases. -/
def Recorded (db db' : Db) (authUser : AuthUser) (row : Expense) (stage : ApprovalLevel) : Prop :=
  row ∈ db.expenses ∧ stage ∈ db.levels ∧
    ∃ approval ∈ db'.approvals, approval.key = (row.id, stage.id) ∧
      approval.approverId = authUser.id ∧ approval.key ∉ db.approvals.rows.map ExpenseApproval.key

/-- The user may act on the stage directly. -/
def ActsDirectly (db : Db) (authUser : AuthUser) (row : Expense) (stage : ApprovalLevel) : Prop :=
  ApprovalAccessPolicy.canActOnApprovalStage authUser (db.withRelations row) stage = true

/-- The delegator granted the user a delegation that is in force, and may act on the
    stage. -/
def Delegates (db : Db) (now : Instant) (authUser : AuthUser) (row : Expense) (stage : ApprovalLevel)
    (delegator : User) : Prop :=
  (∃ delegation ∈ db.delegations, Delegation.isActiveFor delegation authUser.id now = true ∧
    delegation.delegatorId = delegator.id) ∧
  Delegation.delegatorCanActOnStage db delegator (db.withRelations row) stage = true

/-- The delegator is an active user and does not own the expense. -/
def IsFit (row : Expense) (delegator : User) : Prop :=
  delegator.isActive = true ∧ delegator.id ≠ row.userId

/-- The decision is one the user may make: not on an own expense, and directly or
    for a fit delegator. -/
def SoundDecision (db : Db) (now : Instant) (authUser : AuthUser) (row : Expense)
    (stage : ApprovalLevel) : Prop :=
  authUser.id ≠ row.userId ∧ (ActsDirectly db authUser row stage ∨
    ∃ delegator ∈ db.users, Delegates db now authUser row stage delegator ∧ IsFit row delegator)

/-- The user may not act directly but for delegators, all of whom are suspended or the owner. -/
structure OnlyUnfitDelegators (db : Db) (now : Instant) (authUser : AuthUser) (row : Expense)
    (stage : ApprovalLevel) : Prop where
  indirect : ¬ ActsDirectly db authUser row stage
  delegated : ∃ delegator ∈ db.users, Delegates db now authUser row stage delegator
  unfit : ∀ delegator ∈ db.users, Delegates db now authUser row stage delegator →
    delegator.isActive = false ∨ delegator.id = row.userId

section Authority

variable {cfg : Config} {db db' : Db} {op : Operation} {now : Instant} {authUser : AuthUser}
  {row : Expense} {stage : ApprovalLevel}

/-- A ready stage is a level of the catalogue. -/
theorem ReadyStage.mem_levels (h : Approval.ReadyStage db now authUser row stage) :
    stage ∈ db.levels := by
  obtain ⟨before, after, hchain, -, -⟩ := h.chain
  have hmem : stage ∈ ApprovalRouting.getRequiredLevels (db.withRelations row) db.activeLevels := by
    rw [hchain]
    exact List.mem_append_right _ List.mem_cons_self
  exact (mem_activeLevels.1 (ApprovalRouting.mem_getRequiredLevels.1 hmem).1).1

/-- The authority the service asks for, in terms of delegators. -/
theorem authority_iff :
    (ApprovalAccessPolicy.canActOnApprovalStage authUser (db.withRelations row) stage = true ∨
      Delegation.canActAsDelegate db now authUser (db.withRelations row) stage = true) ↔
    (ActsDirectly db authUser row stage ∨
      ∃ delegator ∈ db.users, Delegates db now authUser row stage delegator) := by
  rw [Delegation.canActAsDelegate_eq_true]
  refine or_congr Iff.rfl ?_
  constructor
  · rintro ⟨delegation, hmem, hactive, delegator, hfind, hact⟩
    obtain ⟨huser, hid⟩ := Table.find?_eq_some.1 hfind
    exact ⟨delegator, huser, ⟨delegation, hmem, hactive, hid.symm⟩, hact⟩
  · rintro ⟨delegator, huser, ⟨delegation, hmem, hactive, hid⟩, hact⟩
    exact ⟨delegation, hmem, hactive, delegator, Table.find?_eq_some.2 ⟨huser, hid.symm⟩, hact⟩

/-- At a ready stage, a decision is sound unless it rests on unfit delegators only. -/
theorem ReadyStage.sound_iff (h : Approval.ReadyStage db now authUser row stage) :
    SoundDecision db now authUser row stage ↔ ¬ OnlyUnfitDelegators db now authUser row stage := by
  constructor
  · rintro ⟨-, hdirect | ⟨delegator, huser, hdelegates, hactive, hother⟩⟩ honly
    · exact honly.indirect hdirect
    · rcases honly.unfit delegator huser hdelegates with hsuspended | howner
      · rw [hactive] at hsuspended
        cases hsuspended
      · exact hother howner
  · intro hnot
    refine ⟨h.notOwner.symm, ?_⟩
    -- the service has found the user or a delegator able to act
    rcases authority_iff.1 h.authority with hdirect | hdelegated
    · exact .inl hdirect
    · by_cases hdirect : ActsDirectly db authUser row stage
      · exact .inl hdirect
      · refine .inr ?_
        by_contra hnone
        refine hnot ⟨hdirect, hdelegated, fun delegator huser hdelegates => ?_⟩
        by_contra hfit
        rw [not_or, Bool.not_eq_false] at hfit
        exact hnone ⟨delegator, huser, hdelegates, hfit⟩

/-- A recorded decision is the one of the ready stage. -/
theorem recorded_unique {stage' : ApprovalLevel} {row' : Expense} {approval : ExpenseApproval}
    (hrow : row ∈ db.expenses) (hstage : stage ∈ db.levels) (hkey : approval.key = (row.id, stage.id))
    (hins : db.approvals.insert? approval = some db'.approvals)
    (h : Recorded db db' authUser row' stage') : row' = row ∧ stage' = stage := by
  obtain ⟨hrow', hstage', a, ha, hakey, -, hnew⟩ := h
  rcases (Table.mem_insert hins).1 ha with ha | rfl
  · exact absurd (List.mem_map_of_mem ha) hnew
  · obtain ⟨hrid, hlid⟩ := Prod.mk.inj (hakey.symm.trans hkey)
    exact ⟨Table.eq_of_key_eq hrow' hrow hrid, Table.eq_of_key_eq hstage' hstage hlid⟩

/-- In every run, with users and departments changing at any moment, every
    successful decision is recorded, and a recorded decision is sound exactly when
    it does not rest on suspended or owning delegators only. -/
theorem decision_soundness {db₀ : Db} {tr : List (StandingEvent × Db)}
    (hrun : Run (StandingStep cfg) db₀ tr) :
    ∀ t ∈ Run.transitions db₀ tr, ∀ op, t.2.1 = .call op → ∀ now authUser expenseId,
      op.decision? = some (now, authUser, expenseId) → op.Succeeds cfg t.1 →
      (∃ row stage, row.id = expenseId ∧ Recorded t.1 t.2.2 authUser row stage) ∧
      ∀ row stage, Recorded t.1 t.2.2 authUser row stage →
        (SoundDecision t.1 now authUser row stage ↔
          ¬ OnlyUnfitDelegators t.1 now authUser row stage) := by
  rintro ⟨db, event, db'⟩ hmem op rfl now authUser expenseId hop hsucceeds
  have hstep : Step cfg db op db' := (Run.of_mem_transitions hrun hmem).2
  obtain ⟨row, stage, approval, hrow, hready, hkey, happrover, hins⟩ :=
    decision_of_ok hop (hstep.of_succeeds hsucceeds)
  have hexpense : row ∈ db.expenses := Table.mem_of_find? hrow
  have hlevel : stage ∈ db.levels := ReadyStage.mem_levels hready
  constructor
  · refine ⟨row, stage, Table.key_of_find? hrow, hexpense, hlevel, approval,
      (Table.mem_insert hins).2 (.inr rfl), hkey, happrover, ?_⟩
    rintro hold
    obtain ⟨a, ha, hakey⟩ := List.mem_map.1 hold
    exact (Table.insert?_eq_some.1 hins).1 a ha hakey
  · intro row' stage' hrecorded
    obtain ⟨rfl, rfl⟩ := recorded_unique hexpense hlevel hkey hins hrecorded
    exact ReadyStage.sound_iff hready

end Authority

/-! ## A suspended delegator -/

instance (db : Db) (authUser : AuthUser) (row : Expense) (stage : ApprovalLevel) :
    Decidable (ActsDirectly db authUser row stage) :=
  inferInstanceAs (Decidable (_ = _))

instance (db : Db) (now : Instant) (authUser : AuthUser) (row : Expense) (stage : ApprovalLevel)
    (delegator : User) : Decidable (Delegates db now authUser row stage delegator) :=
  inferInstanceAs (Decidable (_ ∧ _))

instance (row : Expense) (delegator : User) : Decidable (IsFit row delegator) :=
  inferInstanceAs (Decidable (_ ∧ _))

instance (db : Db) (now : Instant) (authUser : AuthUser) (row : Expense) (stage : ApprovalLevel) :
    Decidable (SoundDecision db now authUser row stage) :=
  inferInstanceAs (Decidable (_ ∧ (_ ∨ _)))

namespace Sample

/-- The finance manager delegates to the department's manager for a week. -/
def delegate : Operation :=
  .createDelegation now "DLG1700000000001AAAAAA" authFinance
    ⟨manager.reference, now, now + 7 * 24 * 3600 * 1000⟩

/-- The manager approved the first stage, and holds the delegation of the finance
    manager. -/
def delegated : Db := runAll config [createExpense, submit, approveAs authManager, delegate] db

/-- Then the finance manager is suspended. -/
def suspended : Db := { delegated with
  users := ⟨[owner, manager, { finance with isActive := false, deactivatedAt := some now }], by decide⟩ }

end Sample

/-- A run of calls is a run in which nobody's standing changes. -/
theorem run_standing_trace (cfg : Config) (ops : List Operation) (db : Db) :
    Run (StandingStep cfg) db
      ((trace cfg ops db).map (fun step => (StandingEvent.call step.1, step.2))) := by
  induction ops generalizing db with
  | nil => exact Run.nil
  | cons op ops ih => exact Run.cons rfl (ih _)

theorem reaches_standing {cfg : Config} {db db' : Db} (h : Reaches (Step cfg) db db') :
    Reaches (StandingStep cfg) db db' :=
  Relation.ReflTransGen.mono (fun _ _ ⟨op, hstep⟩ => ⟨.call op, hstep⟩) _ _ h

/-- The finance manager's decision, which rests on no delegation. -/
theorem decision_soundness_sample :
    let before := runAll Sample.config [Sample.createExpense, Sample.submit,
      Sample.approveAs Sample.authManager] Sample.db
    let after := runAll Sample.config [Sample.createExpense, Sample.submit,
      Sample.approveAs Sample.authManager, Sample.approveAs Sample.authFinance] Sample.db
    (∃ row stage, row.id = 1 ∧ Recorded before after Sample.authFinance row stage) ∧
      ∀ row stage, Recorded before after Sample.authFinance row stage →
        (SoundDecision before Sample.now Sample.authFinance row stage ↔
          ¬ OnlyUnfitDelegators before Sample.now Sample.authFinance row stage) :=
  decision_soundness (run_standing_trace Sample.config [Sample.createExpense, Sample.submit,
      Sample.approveAs Sample.authManager, Sample.approveAs Sample.authFinance] Sample.db)
    (_, .call (Sample.approveAs Sample.authFinance), _)
    (by
      simp only [trace, List.map_cons, List.map_nil, Run.transitions, List.mem_cons]
      exact .inr (.inr (.inr (.inl rfl))))
    _ rfl _ _ _ rfl (by decide +kernel)

/-- In a reachable state the manager decides the finance stage for the suspended
    finance manager. -/
theorem suspended_delegator_decides :
    Reaches (StandingStep Sample.config) Sample.db Sample.suspended ∧
      (Sample.approveAs Sample.authManager).Succeeds Sample.config Sample.suspended ∧
      ∃ row ∈ Sample.suspended.expenses, ∃ stage ∈ Sample.suspended.levels,
        Recorded Sample.suspended
            (((Sample.approveAs Sample.authManager).perform Sample.config).commit Sample.suspended)
            Sample.authManager row stage ∧
          ¬ SoundDecision Sample.suspended Sample.now Sample.authManager row stage := by
  refine ⟨?_, by decide +kernel, ?_⟩
  · exact (reaches_standing (reaches_runAll Sample.config _ Sample.db)).tail
      (a := .standing Sample.suspended.users Sample.suspended.departments) rfl
  · have hrows : ∃ row ∈ Sample.suspended.expenses, ∃ stage ∈ Sample.suspended.levels,
        (∃ approval ∈ (((Sample.approveAs Sample.authManager).perform Sample.config).commit
            Sample.suspended).approvals, approval.key = (row.id, stage.id) ∧
          approval.approverId = Sample.authManager.id ∧
          approval.key ∉ Sample.suspended.approvals.rows.map ExpenseApproval.key) ∧
        ¬ SoundDecision Sample.suspended Sample.now Sample.authManager row stage := by decide +kernel
    obtain ⟨row, hrow, stage, hstage, hnew, hunsound⟩ := hrows
    exact ⟨row, hrow, stage, hstage, ⟨hrow, hstage, hnew⟩, hunsound⟩

end Expentra
