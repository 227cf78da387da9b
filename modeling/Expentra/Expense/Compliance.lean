-- SUMMARY: A committed submission satisfies the policies at its commit, as long as what they were told is still true there.
import Expentra.Expense.Requests
import Expentra.System.Effects

/-!
# Compliance at the commit

The policies judge what a submission read before its transaction. Its transaction
locks the draft and checks it again, but does not ask the policies again. When
everything their conditions ask for still has the answer they were given, the verdict
is that of the database at the commit.
-/

namespace Expentra.Requests

open Library

section Compliance

variable {cfg : Config} {policies : List ExpensePolicy} {now : Instant} {db db' : Db}
  {row : Expense} {context context' : PolicyEvaluationContext} {reads reads' : PolicyReads}

/-! ## What the policies ask for -/

/-- The conditions of a policy. One that cannot be read has none. -/
def conditionsOf (policy : ExpensePolicy) : List PolicyCondition :=
  match PolicyConfigValidator.normalizeRuleConfig policy.ruleType policy.config with
  | .ok config => config.conditions
  | .error _ => []

/-- A condition finds the same in two contexts: it is about both expenses or about neither,
    and what it asks for has one answer. -/
def SameAnswer (condition : PolicyCondition) (context context' : PolicyEvaluationContext)
    (reads reads' : PolicyReads) : Prop :=
  ∀ field ∈ PolicyField.ofKey condition.field,
    ConditionEvaluator.conditionAppliesToExpense condition context =
        ConditionEvaluator.conditionAppliesToExpense condition context' ∧
      (ConditionEvaluator.conditionAppliesToExpense condition context = true →
        ConditionEvaluator.resolve field context condition reads =
          ConditionEvaluator.resolve field context' condition reads')

instance (condition : PolicyCondition) (context context' : PolicyEvaluationContext)
    (reads reads' : PolicyReads) : Decidable (SameAnswer condition context context' reads reads') :=
  inferInstanceAs (Decidable (∀ field ∈ PolicyField.ofKey condition.field, _ ∧ (_ → _)))

/-- Everything the policies ask for has one answer in two contexts. -/
def SameAnswers (policies : List ExpensePolicy) (context context' : PolicyEvaluationContext)
    (reads reads' : PolicyReads) : Prop :=
  ∀ policy ∈ policies, ∀ condition ∈ conditionsOf policy,
    SameAnswer condition context context' reads reads'

instance (policies : List ExpensePolicy) (context context' : PolicyEvaluationContext)
    (reads reads' : PolicyReads) : Decidable (SameAnswers policies context context' reads reads') :=
  inferInstanceAs (Decidable (∀ policy ∈ policies, ∀ condition ∈ conditionsOf policy, _))

theorem evaluateCondition_congr {condition : PolicyCondition}
    (h : SameAnswer condition context context' reads reads') (unknownViolates : Bool) :
    ConditionEvaluator.evaluateCondition condition context reads unknownViolates =
      ConditionEvaluator.evaluateCondition condition context' reads' unknownViolates := by
  unfold ConditionEvaluator.evaluateCondition
  split
  · rfl
  · rename_i field hfield
    obtain ⟨happlies, hresolve⟩ := h field hfield
    rw [← happlies]
    cases hcase : ConditionEvaluator.conditionAppliesToExpense condition context with
    | false => rfl
    | true => rw [hresolve hcase]

theorem evaluatePolicy_congr {policy : ExpensePolicy}
    (h : ∀ condition ∈ conditionsOf policy, SameAnswer condition context context' reads reads') :
    PolicyEngine.evaluatePolicy policy context reads =
      PolicyEngine.evaluatePolicy policy context' reads' := by
  unfold PolicyEngine.evaluatePolicy
  unfold conditionsOf at h
  split
  · rename_i config hconfig
    rw [hconfig] at h
    have hviolated : ConditionEvaluator.isViolated config context reads (policy.severity = .BLOCK) =
        ConditionEvaluator.isViolated config context' reads' (policy.severity = .BLOCK) := by
      unfold ConditionEvaluator.isViolated
      rw [List.map_congr_left (fun condition hcondition =>
        evaluateCondition_congr (h condition hcondition) _)]
    rw [hviolated]
  · rfl

/-- The verdict depends on what the policies ask for and on the justifications only. -/
theorem assertCompliant_congr
    (hjustifications : context.policyJustifications = context'.policyJustifications)
    (h : SameAnswers policies context context' reads reads') :
    PolicyEngine.assertCompliant policies context reads =
      PolicyEngine.assertCompliant policies context' reads' := by
  have hevaluate : PolicyEngine.evaluate policies context reads =
      PolicyEngine.evaluate policies context' reads' := by
    unfold PolicyEngine.evaluate
    rw [List.filterMap_congr (fun policy hpolicy => evaluatePolicy_congr (h policy hpolicy))]
  have hjustified : PolicyEngine.isJustified context = PolicyEngine.isJustified context' := by
    funext violation
    unfold PolicyEngine.isJustified
    rw [hjustifications]
  unfold PolicyEngine.assertCompliant
  rw [hevaluate, hjustified]

/-- The expense itself does not count in the answers, whatever becomes of it. -/
theorem reads_replace {row' : Expense} (hfound : db.expenses.find? row'.id = some row)
    (hid : context.expenseId = row'.id) (hexpenses : db'.expenses = db.expenses.replace row') :
    PolicyEvaluationCache.reads db' context = PolicyEvaluationCache.reads db context := by
  have hrow : row.id = row'.id := Table.key_of_find? hfound
  have hspend : PolicyEvaluationCache.loadMonthlyCategorySpend db' context =
      PolicyEvaluationCache.loadMonthlyCategorySpend db context := by
    funext category
    simp only [PolicyEvaluationCache.loadMonthlyCategorySpend]
    rw [hexpenses, Table.sum_replace _ hfound]
    simp [hid, hrow]
  have hduplicate : PolicyEvaluationCache.loadDuplicateExpense db' context =
      PolicyEvaluationCache.loadDuplicateExpense db context := by
    funext windowDays
    simp only [PolicyEvaluationCache.loadDuplicateExpense]
    rw [hexpenses, Bool.eq_iff_iff, List.any_eq_true, List.any_eq_true]
    constructor
    · rintro ⟨e, he, hcounts⟩
      rcases Table.eq_or_mem_of_mem_replace he with rfl | ⟨he, -⟩
      · simp [hid] at hcounts
      · exact ⟨e, he, hcounts⟩
    · rintro ⟨e, he, hcounts⟩
      have hne : e.id ≠ row'.id := by
        intro heq
        simp [hid, heq] at hcounts
      exact ⟨e, Table.mem_replace_of_ne he hne, hcounts⟩
  unfold PolicyEvaluationCache.reads
  rw [hspend, hduplicate]

/-! ## The verdict at the commit -/

/-- What the policies are to judge for an expense in a database. -/
def contextAt (db : Db) (request : SubmitRequest) (submittedAt : Instant) (row : Expense) :
    PolicyEvaluationContext where
  expenseId := row.id
  userId := request.authUser.id
  amount := row.amount.val
  category := row.category
  submittedAt := submittedAt
  attachmentCount := db.attachmentCount row.id
  policyJustifications := request.policyJustifications

/-- The expense satisfies the active policies, with the other expenses as they are. -/
def Compliant (policies : List ExpensePolicy) (db : Db) (request : SubmitRequest)
    (submittedAt : Instant) (row : Expense) : Prop :=
  ∃ result, PolicyEngine.assertCompliant policies (contextAt db request submittedAt row)
    (PolicyEvaluationCache.reads db (contextAt db request submittedAt row)) = .ok result

instance (policies : List ExpensePolicy) (db : Db) (request : SubmitRequest) (submittedAt : Instant)
    (row : Expense) : Decidable (Compliant policies db request submittedAt row) :=
  match h : PolicyEngine.assertCompliant policies (contextAt db request submittedAt row)
      (PolicyEvaluationCache.reads db (contextAt db request submittedAt row)) with
  | .ok result => .isTrue ⟨result, h⟩
  | .error _ => .isFalse (by rintro ⟨_, hok⟩; rw [h] at hok; cases hok)

/-- The submission whose transaction is the next step. -/
def pendingCommit? : Phase → Outcome → Option (SubmitRequest × PolicyEvaluationContext × PolicyReads)
  | .committing request context reads, .runs _ => some (request, context, reads)
  | _, _ => none

/-- What the policies ask for is at the commit what they were told. -/
def UpToDate (policies : List ExpensePolicy) (_ : Nat) (db : Db) (phase : Phase) (outcome : Outcome) :
    Prop :=
  ∀ pending ∈ pendingCommit? phase outcome,
    ∀ row ∈ (ExpenseMutationSupport.findExpense db pending.1.reference).toOption,
      SameAnswers policies pending.2.1 (contextAt db pending.1 pending.2.1.submittedAt row)
        pending.2.2 (PolicyEvaluationCache.reads db
          (contextAt db pending.1 pending.2.1.submittedAt row))

instance (policies : List ExpensePolicy) (i : Nat) (db : Db) (phase : Phase) (outcome : Outcome) :
    Decidable (UpToDate policies i db phase outcome) :=
  inferInstanceAs (Decidable (∀ pending ∈ pendingCommit? phase outcome, ∀ row ∈ _,
    SameAnswers _ _ _ _ _))

/-- The policies are told the justifications of the request, and a submission that waits for
    its transaction was found compliant. -/
def Judged (policies : List ExpensePolicy) (_ : Nat) (_ : Db) : Phase → Prop
  | .evaluating request context _ => context.policyJustifications = request.policyJustifications
  | .committing request context reads =>
    context.policyJustifications = request.policyJustifications ∧
      ∃ result, PolicyEngine.assertCompliant policies context reads = .ok result
  | _ => True

/-- A step that may end the request leads to a phase that is known of its value. -/
theorem judged_orEnd {α : Type} {i : Nat} {result : Except HttpException α} {next : α → Phase}
    {after : Db × Phase} (h : orEnd db result next = after)
    (hnext : ∀ a, result = .ok a → Judged policies i db' (next a)) :
    Judged policies i db' after.2 := by
  subst h
  unfold orEnd
  split
  · exact hnext _ rfl
  · trivial

theorem judged_commitAndEnd {i : Nat} {transaction : Tx Unit} {after : Db × Phase}
    (h : commitAndEnd db transaction = after) : Judged policies i db' after.2 := by
  subst h
  unfold commitAndEnd
  split <;> trivial

/-- Only the verdict of the policies leads to the transaction of a submission. -/
theorem advance_judged {i : Nat} {phase : Phase} {outcome : Outcome} {after : Db × Phase}
    (hbefore : Judged policies i db phase)
    (h : advance cfg policies db phase outcome = some after) : Judged policies i db' after.2 := by
  cases phase <;> cases outcome <;> simp only [advance, reduceCtorEq, Option.some.injEq] at h
  case updating.runs =>
    split at h
    · exact judged_orEnd (Option.some.inj h) (fun _ _ => trivial)
    · cases h
      trivial
  case uploading.runs => exact judged_orEnd h (fun _ _ => trivial)
  case removing.runs => exact judged_orEnd h (fun _ _ => trivial)
  case finding.runs => exact judged_orEnd h (fun _ _ => trivial)
  case submitting.runs => exact judged_orEnd h (fun _ _ => trivial)
  case counting.runs =>
    cases h
    rfl
  case evaluating.loadsSpend =>
    cases h
    exact hbefore
  case evaluating.loadsDuplicate =>
    cases h
    exact hbefore
  case evaluating.runs =>
    exact judged_orEnd h (fun result hresult => ⟨hbefore, result, hresult⟩)
  case editing.runs => exact judged_commitAndEnd h
  case inserting.runs => exact judged_commitAndEnd h
  case deleting.runs => exact judged_commitAndEnd h
  case committing.runs => exact judged_commitAndEnd h
  all_goals
    cases h
    trivial

theorem outline (cfg : Config) (policies : List ExpensePolicy) :
    (requests cfg policies).Outline (UpToDate policies) (fun _ => True) (Judged policies) where
  start := by
    intro db request db' phase _ hstart
    cases hstart
    refine ⟨trivial, fun i => ?_, fun _ _ => id⟩
    cases request <;> trivial
  step := by
    intro i db phase outcome db' phase' _ hbefore _ hstep
    exact ⟨trivial, advance_judged hbefore hstep, fun _ _ _ => id⟩
  surroundings := by
    intro db op db' _ _
    exact ⟨trivial, fun _ _ => id⟩

/-- The submission of an expense that the policies would accept now leaves it compliant. -/
theorem compliant_of_commitSubmit {request : SubmitRequest} {u : Unit}
    (hcommit : ExpenseSubmit.commitSubmit cfg now request.authUser request.reference
      context.submittedAt db = .ok (u, db'))
    (hjustifications : context.policyJustifications = request.policyJustifications)
    (hjudged : ∃ result, PolicyEngine.assertCompliant policies context reads = .ok result)
    (hcurrent : ∀ row, ExpenseMutationSupport.findExpense db request.reference = .ok row →
      SameAnswers policies context (contextAt db request context.submittedAt row) reads
        (PolicyEvaluationCache.reads db (contextAt db request context.submittedAt row))) :
    ∃ row row', ExpenseMutationSupport.findExpense db request.reference = .ok row ∧
      row.status = .DRAFT ∧ db'.expenses.find? row.id = some row' ∧ row'.status ≠ .DRAFT ∧
      row'.submittedAt = some context.submittedAt ∧
      Compliant policies db' request context.submittedAt row' := by
  obtain ⟨row, departmentId, _, hrow, hdraft, -, -, -, htransition⟩ := commitSubmit_effect hcommit
  have hanswers := hcurrent row hrow
  obtain ⟨result, hresult⟩ := hjudged
  have hcases := ApprovalRouting.resolveInitialSubmitStatus_cases
    (ExpenseSubmit.routed db row departmentId) db.activeLevels
  have hfind := htransition.find?_self
  have hexpenses := htransition.expenses_eq
  rw [ExpenseSubmit.submitted_eq] at hfind hexpenses
  obtain ⟨row', hexpenses, hfind, hid, hamount, hcategory, hstatus, hsubmitted⟩ :
      ∃ row' : Expense, db'.expenses = db.expenses.replace row' ∧
        db'.expenses.find? row.id = some row' ∧ row'.id = row.id ∧ row'.amount = row.amount ∧
        row'.category = row.category ∧
        row'.status = ApprovalRouting.resolveInitialSubmitStatus
          (ExpenseSubmit.routed db row departmentId) db.activeLevels ∧
        row'.submittedAt = some context.submittedAt :=
    ⟨_, hexpenses, hfind, rfl, rfl, rfl, rfl, rfl⟩
  have hsubmittedStatus : row'.status ≠ .DRAFT := by
    rw [hstatus]
    rcases hcases with hs | hs | hs <;> simp [hs]
  -- the transaction itself changes nothing of what the policies judge
  have hcount : db'.attachmentCount row.id = db.attachmentCount row.id := by
    rw [Db.attachmentCount, htransition.attachments_eq, Db.attachmentCount]
  have hsame : contextAt db' request context.submittedAt row' =
      contextAt db request context.submittedAt row := by
    simp only [contextAt, hid, hamount, hcategory, hcount]
  have hreads : PolicyEvaluationCache.reads db' (contextAt db request context.submittedAt row) =
      PolicyEvaluationCache.reads db (contextAt db request context.submittedAt row) :=
    reads_replace (hid ▸ htransition.found) hid.symm hexpenses
  refine ⟨row, row', hrow, hdraft, hfind, hsubmittedStatus, hsubmitted, result, ?_⟩
  rw [hsame, hreads, ← assertCompliant_congr hjustifications hanswers]
  exact hresult

/-- A turn that commits a submission leaves its expense compliant. -/
def CommitsCompliant (policies : List ExpensePolicy) (p : Pool Db Phase)
    (turn : Turn Request Outcome Operation) (p' : Pool Db Phase) : Prop :=
  ∀ (i : Nat) now request context reads, turn = .step i (.runs now) →
    p.threads[i]? = some (.committing request context reads) →
    p'.threads[i]? = some (.done (.ok ())) →
    ∃ row row', ExpenseMutationSupport.findExpense p.shared request.reference = .ok row ∧
      row.status = .DRAFT ∧ p'.shared.expenses.find? row.id = some row' ∧ row'.status ≠ .DRAFT ∧
      row'.submittedAt = some context.submittedAt ∧
      Compliant policies p'.shared request context.submittedAt row'

end Compliance

/-- In a run in which, whenever a submission commits, what the policies ask for still has the
    answers they were told, every submission that commits is compliant at its commit. -/
theorem submissions_compliant {cfg : Config} {policies : List ExpensePolicy} {db₀ : Db}
    {tr : List (Turn Request Outcome Operation × Pool Db Phase)}
    (hrun : Run (Guarded (Concurrent.onStep (UpToDate policies)) (requests cfg policies).Step)
      (Pool.idle db₀) tr) :
    ∀ step ∈ Run.transitions (Pool.idle db₀) tr,
      CommitsCompliant policies step.1 step.2.1 step.2.2 := by
  rintro ⟨p, turn, p'⟩ hmem i now request context reads rfl hphase hdone
  obtain ⟨hreach, hguard, hstep⟩ := hrun.of_mem_transitions hmem
  have hholds := (outline cfg policies).reaches (Concurrent.holds_idle trivial) hreach
  have hcurrent := hguard i (.runs now) _ rfl hphase
  obtain ⟨phase, db', phase', hphase', hadvance, rfl⟩ := Concurrent.next_step_eq_some.1 hstep
  cases hphase.symm.trans hphase'
  -- the transaction was committed, since the request is done
  have hcommit : ExpenseSubmit.commitSubmit cfg now request.authUser request.reference
      context.submittedAt p.shared = .ok ((), db') := by
    have hend : phase' = .done (.ok ()) := by
      obtain ⟨hi, -⟩ := List.getElem?_eq_some_iff.1 hphase
      simpa [List.getElem?_set, hi] using hdone
    subst hend
    have hafter : commitAndEnd p.shared (ExpenseSubmit.commitSubmit cfg now request.authUser
        request.reference context.submittedAt) = (db', .done (.ok ())) := Option.some.inj hadvance
    unfold commitAndEnd at hafter
    split at hafter
    · rename_i hok
      cases hafter
      exact hok
    · cases hafter
  obtain ⟨hjustifications, hjudged⟩ := hholds.thread i _ hphase
  refine compliant_of_commitSubmit hcommit hjustifications hjudged (fun row hrow => ?_)
  exact hcurrent (request, context, reads) rfl row (by rw [hrow]; rfl)

/-! ## Two submissions under a monthly cap -/

namespace Sample

/-- Travel is capped at 10000 a month. -/
def policies : List ExpensePolicy :=
  [⟨"POL1700000000001AAAAAA", "Travel cap", .CATEGORY_MONTHLY_CAP, .BLOCK,
    .obj [("category", .str "TRAVEL"), ("capKobo", .num 10000)]⟩]

def outward : String := "EXP1700000000001AAAAAA"

def homeward : String := "EXP1700000000002AAAAAA"

def draftOf (reference : String) : Operation :=
  .createExpense Sample.now reference 1 ⟨"Train", none, 6000, .TRAVEL, none⟩

/-- Two drafts of 6000 each. -/
def drafts : Db := runAll Sample.config [draftOf outward, draftOf homeward] Sample.db

def submitOf (reference : String) : SubmitRequest := ⟨Sample.authOwner, reference, []⟩

/-- The steps of the request `i` up to the verdict of the policies. -/
def judge (i : Nat) : List (Turn Request Outcome Operation) :=
  List.replicate 3 (.step i (.runs Sample.now))

def commit (i : Nat) : Turn Request Outcome Operation := .step i (.runs Sample.now)

/-- One submission after the other. -/
def sequential : List (Turn Request Outcome Operation) :=
  [.start (.submit (submitOf outward))] ++ judge 0 ++ [commit 0, .start (.submit (submitOf homeward))] ++
    judge 1

/-- Both submissions are judged before either is committed. -/
def judgedTogether : List (Turn Request Outcome Operation) :=
  [.start (.submit (submitOf outward)), .start (.submit (submitOf homeward))] ++ judge 0 ++ judge 1 ++
    [commit 0]

end Sample

/-- One after the other, the first submission is committed and the second is refused. -/
theorem submissions_compliant_sample :
    ∃ tr p, tr.map Prod.fst = Sample.sequential ∧ p ∈ Run.states (Pool.idle Sample.drafts) tr ∧
      p.shared.expenses.rows.map (·.status) = [.SUBMITTED, .DRAFT] ∧
      ∀ step ∈ Run.transitions (Pool.idle Sample.drafts) tr,
        CommitsCompliant Sample.policies step.1 step.2.1 step.2.2 := by
  have hexec : ((requests Sample.config Sample.policies).exec (UpToDate Sample.policies)
      Sample.sequential (Pool.idle Sample.drafts)).any
        (fun p => p.shared.expenses.rows.map (·.status) = [.SUBMITTED, .DRAFT]) = true := by
    decide +kernel
  obtain ⟨p, hexec, hstatuses⟩ := (Option.any_eq_true _ _).1 hexec
  obtain ⟨tr, hrun, hturns, hmem⟩ := Concurrent.run_of_exec hexec
  exact ⟨tr, p, hturns, hmem, of_decide_eq_true hstatuses, submissions_compliant hrun⟩

theorem not_commitsCompliant {policies : List ExpensePolicy} {p p' : Pool Db Phase} {i : Nat}
    {now : Instant} {pending : SubmitRequest × PolicyEvaluationContext × PolicyReads}
    (hpending : p.threads[i]?.bind (pendingCommit? · (.runs now)) = some pending)
    (hdone : p'.threads[i]?.any (fun phase => match phase with
      | .done (.ok _) => true
      | _ => false) = true)
    (hnot : ∀ row ∈ p'.shared.expenses, ¬ Compliant policies p'.shared pending.1
      pending.2.1.submittedAt row) :
    ¬ CommitsCompliant policies p (.step i (.runs now)) p' := by
  intro h
  obtain ⟨phase, hphase, hpending⟩ := Option.bind_eq_some_iff.1 hpending
  obtain ⟨phase', hphase', hdone⟩ := (Option.any_eq_true _ _).1 hdone
  cases phase with
  | committing request context reads =>
    cases hpending
    have hcommitted : phase' = .done (.ok ()) := by
      split at hdone
      · rfl
      · cases hdone
    rw [hcommitted] at hphase'
    obtain ⟨_, row', -, -, hrow', -, -, hcompliant⟩ := h i now _ _ _ rfl hphase hphase'
    exact hnot row' (Table.mem_of_find? hrow') hcompliant
  | _ => cases hpending

/-- Judged together, both submissions are committed, and the second is above the cap. -/
theorem judgedTogether_exceed_cap :
    ∃ p p', Reaches (requests Sample.config Sample.policies).Step (Pool.idle Sample.drafts) p ∧
      (requests Sample.config Sample.policies).Step p (Sample.commit 1) p' ∧
      p'.shared.expenses.rows.map (·.status) = [.SUBMITTED, .SUBMITTED] ∧
      ¬ CommitsCompliant Sample.policies p (Sample.commit 1) p' := by
  have hexec : ((requests Sample.config Sample.policies).exec Concurrent.anyStep
      Sample.judgedTogether (Pool.idle Sample.drafts)).any (fun p =>
        ((requests Sample.config Sample.policies).next p (Sample.commit 1)).any (fun p' =>
          (p.threads[1]?.bind (pendingCommit? · (.runs Sample.now))).any (fun pending =>
            p'.threads[1]?.any (fun phase => match phase with
              | .done (.ok _) => true
              | _ => false) &&
            p'.shared.expenses.rows.map (·.status) = [.SUBMITTED, .SUBMITTED] &&
            p'.shared.expenses.rows.all (fun row => ¬ Compliant Sample.policies p'.shared pending.1
              pending.2.1.submittedAt row)))) = true := by
    decide +kernel
  obtain ⟨p, hexec, hp⟩ := (Option.any_eq_true _ _).1 hexec
  obtain ⟨p', hnext, hp'⟩ := (Option.any_eq_true _ _).1 hp
  obtain ⟨pending, hpending, hafter⟩ := (Option.any_eq_true _ _).1 hp'
  rw [Bool.and_eq_true, Bool.and_eq_true] at hafter
  obtain ⟨⟨hdone, hstatuses⟩, hnot⟩ := hafter
  refine ⟨p, p', (Concurrent.reaches_of_exec hexec).of_guarded, hnext, of_decide_eq_true hstatuses,
    not_commitsCompliant hpending hdone (fun row hrow => ?_)⟩
  exact of_decide_eq_true (List.all_eq_true.1 hnot row hrow)

end Expentra.Requests
