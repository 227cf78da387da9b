-- SUMMARY: Approval soundness: what an approved expense has been through, over runs with a changing catalogue.
import Expentra.System.Effects

/-!
# Approval soundness

The required levels of an expense are recomputed from the catalogue in every
call, while its decisions accumulate over earlier calls. The chain of a ready
stage ties the two together: every level before the stage is approved already,
and the stage itself is not decided yet.
-/

namespace Expentra

open Library ApprovalRouting

/-- A call of an operation, or an arbitrary change of the catalogue. -/
inductive CatalogueEvent where
  | call (op : Operation)
  | catalogue (levels : Table ApprovalLevel.id)

def CatalogueStep (cfg : Config) (db : Db) : CatalogueEvent → Db → Prop
  | .call op, db' => Step cfg db op db'
  | .catalogue levels, db' => db' = { db with levels := levels }

/-- Every level has exactly one decision on the expense, an approval. -/
def FullyApproved (db : Db) (expenseId : Nat) (required : List ApprovalLevel) : Prop :=
  ∀ level ∈ required, ∃ approval ∈ db.approvals, approval.key = (expenseId, level.id) ∧
    approval.decision = .APPROVED ∧
    ∀ a ∈ db.approvals, a.key = (expenseId, level.id) → a = approval

/-- What a successful approval leaves: with `required` the levels computed in its
    own transaction. -/
def SoundApproval (db : Db) (expenseId : Nat) (db' : Db) : Prop :=
  ∃ row row', db.expenses.find? expenseId = some row ∧ db'.expenses.find? expenseId = some row' ∧
    let required := getRequiredLevels (db.withRelations row) db.activeLevels
    (row'.status = .APPROVED → FullyApproved db' expenseId required) ∧
    ((∃ level ∈ required, decisionAt (db'.approvalsOf expenseId) level = none) →
      row'.status = .UNDER_REVIEW)

/-- What a successful submission leaves: approved at once if and only if no level
    is required. -/
def SoundSubmission (db : Db) (reference : String) (db' : Db) : Prop :=
  ∃ row row' departmentId, ExpenseMutationSupport.findExpense db reference = .ok row ∧
    db.resolveDepartmentForSubmit row.userId row.departmentId = some departmentId ∧
    db'.expenses.find? row.id = some row' ∧
    (row'.status = .APPROVED ↔
      getRequiredLevels (ExpenseSubmit.routed db row departmentId) db.activeLevels = [])

/-- The routing of a call is sound. -/
def SoundCall (db : Db) (db' : Db) : Operation → Prop
  | .approve _ _ expenseId _ => SoundApproval db expenseId db'
  | .submit _ _ _ reference _ => SoundSubmission db reference db'
  | _ => True

section Soundness

variable {cfg : Config} {now : Instant} {db db' : Db} {authUser : AuthUser}

/-- A decision found at a level is a row under the key of the level. -/
theorem mem_of_decisionAt {expenseId : Nat} {level : ApprovalLevel} {d : ExpenseApproval}
    (h : decisionAt (db.approvalsOf expenseId) level = some d) :
    d ∈ db.approvals ∧ d.key = (expenseId, level.id) := by
  obtain ⟨hmem, hid⟩ := mem_approvalsOf.1 (List.mem_of_find?_eq_some h)
  have hlevel : d.approvalLevelId = level.id := by simpa using List.find?_some h
  exact ⟨hmem, by rw [ExpenseApproval.key, hid, hlevel]⟩

theorem approve_sound {expenseId : Nat} {input : Approval.ApproveExpenseInput}
    (h : Approval.approve cfg now authUser expenseId input db = .ok ((), db')) :
    SoundApproval db expenseId db' := by
  obtain ⟨row, stage, approval, approvals, nextStatus, hrow, hready, hexpense, hlevel, -, happroved,
    hins, hnext, htransition⟩ := approve_effect h
  obtain ⟨before, after, hchain, hundecided, hbefore⟩ := hready.chain
  have hid : row.id = expenseId := Table.key_of_find? hrow
  have hstatus : (row.save (Approval.approved (db.withRelations row) nextStatus now)).status =
      if after = [] then .APPROVED else .UNDER_REVIEW := by
    rw [← resolveStatusAfterLevelApproval_of_chain (nodup_activeLevels db) hchain, ← hnext]
    rfl
  have hmem : ∀ a, a ∈ db'.approvals ↔ a ∈ db.approvals ∨ a = approval := fun a => by
    rw [htransition.approvals_eq]
    exact Table.mem_insert hins
  refine ⟨row, _, hrow, hid ▸ htransition.find?_self, ?_, ?_⟩
  · intro hfinal level hl
    have hnil : after = [] := by
      by_contra hne
      rw [hstatus, if_neg hne] at hfinal
      cases hfinal
    -- the level is the stage just approved, or one approved before it
    have hdecision : ∃ d ∈ db'.approvals, d.key = (expenseId, level.id) ∧ d.decision = .APPROVED := by
      rw [hchain, hnil, List.mem_append, List.mem_singleton] at hl
      rcases hl with hl | rfl
      · obtain ⟨d, hd, hdapproved⟩ := hbefore level hl
        obtain ⟨hdmem, hdkey⟩ := mem_of_decisionAt hd
        exact ⟨d, (hmem d).2 (.inl hdmem), hid ▸ hdkey, hdapproved⟩
      · exact ⟨approval, (hmem approval).2 (.inr rfl),
          by rw [ExpenseApproval.key, hexpense, hid, hlevel], happroved⟩
    obtain ⟨d, hd, hkey, hdapproved⟩ := hdecision
    exact ⟨d, hd, hkey, hdapproved, fun a ha hakey => Table.eq_of_key_eq ha hd (hakey.trans hkey.symm)⟩
  · rintro ⟨level, hl, hnone⟩
    have hne : after ≠ [] := by
      rintro rfl
      rw [hchain, List.mem_append, List.mem_singleton] at hl
      rw [decisionAt_eq_none] at hnone
      rcases hl with hl | rfl
      · obtain ⟨d, hd, -⟩ := hbefore level hl
        obtain ⟨hdmem, hdkey⟩ := mem_of_decisionAt hd
        obtain ⟨hdid, hdlevel⟩ := Prod.mk.inj hdkey
        exact hnone d (mem_approvalsOf.2 ⟨(hmem d).2 (.inl hdmem), hdid.trans hid⟩) hdlevel
      · exact hnone approval
          (mem_approvalsOf.2 ⟨(hmem approval).2 (.inr rfl), hexpense.trans hid⟩) hlevel
    rw [hstatus, if_neg hne]

theorem commitSubmit_sound {reference : String} {submitAt : Instant}
    (h : ExpenseSubmit.commitSubmit cfg now authUser reference submitAt db = .ok ((), db')) :
    SoundSubmission db reference db' := by
  obtain ⟨row, departmentId, _, hrow, -, -, hdept, -, htransition⟩ := commitSubmit_effect h
  refine ⟨row, _, departmentId, hrow, hdept, htransition.find?_self, ?_⟩
  rw [ExpenseSubmit.submitted_eq]
  exact resolveInitialSubmitStatus_eq_approved

theorem submit_sound {policies : List ExpensePolicy} {reference : String}
    {policyJustifications : List (String × String)}
    (h : ExpenseSubmit.submit cfg policies now authUser reference policyJustifications db =
      .ok ((), db')) : SoundSubmission db reference db' := by
  obtain ⟨_, _, -, -, -, -, hcommit⟩ := ExpenseSubmit.submit_eq_ok.1 h
  exact commitSubmit_sound hcommit

theorem soundCall_of_ok {op : Operation} (h : op.perform cfg db = .ok ((), db')) :
    SoundCall db db' op := by
  cases op with
  | approve now authUser expenseId input =>
    rw [Operation.perform] at h
    exact approve_sound h
  | submit policies now authUser reference policyJustifications =>
    rw [Operation.perform] at h
    exact submit_sound h
  | _ => trivial

/-- In every run, from any database and with the catalogue changing at any
    moment, every approval leaves an approved expense only with an approval at
    each required level and an expense with an undecided level under review, and
    every submission is approved at once exactly when no level is required. A
    call that throws changes nothing. -/
theorem approval_soundness {db₀ : Db} {tr : List (CatalogueEvent × Db)}
    (hrun : Run (CatalogueStep cfg) db₀ tr) :
    ∀ t ∈ Run.transitions db₀ tr, ∀ op, t.2.1 = .call op → op.Succeeds cfg t.1 →
      SoundCall t.1 t.2.2 op := by
  rintro ⟨db, event, db'⟩ hmem op rfl hok
  have hstep : Step cfg db op db' := (Run.of_mem_transitions hrun hmem).2
  exact soundCall_of_ok (hstep.of_succeeds hok)

end Soundness

/-- The calls of a list are a run in which the catalogue does not change. -/
theorem run_catalogue_trace (cfg : Config) (ops : List Operation) (db : Db) :
    Run (CatalogueStep cfg) db
      ((trace cfg ops db).map (fun step => (CatalogueEvent.call step.1, step.2))) := by
  induction ops generalizing db with
  | nil => exact Run.nil
  | cons op ops ih => exact Run.cons rfl (ih _)

/-- The finance manager's approval of a submitted expense that the department
    manager approved. -/
theorem approval_soundness_sample :
    SoundApproval
      (runAll Sample.config [Sample.createExpense, Sample.submit,
        Sample.approveAs Sample.authManager] Sample.db) 1
      (runAll Sample.config [Sample.createExpense, Sample.submit,
        Sample.approveAs Sample.authManager, Sample.approveAs Sample.authFinance] Sample.db) :=
  approval_soundness (run_catalogue_trace Sample.config [Sample.createExpense, Sample.submit,
      Sample.approveAs Sample.authManager, Sample.approveAs Sample.authFinance] Sample.db)
    (_, .call (Sample.approveAs Sample.authFinance), _)
    (by
      simp only [trace, List.map_cons, List.map_nil, Run.transitions, List.mem_cons]
      exact .inr (.inr (.inr (.inl rfl))))
    _ rfl (by decide +kernel)

end Expentra
