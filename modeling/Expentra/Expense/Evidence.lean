-- SUMMARY: The receipts of a submitted expense stay as they are, as long as no row of a receipt is written after the submission.
import Expentra.Expense.Requests
import Expentra.System.Effects

/-!
# Evidence

The receipts of an expense are the evidence of its approvers. An upload and a removal
find a draft, call the storage and then write the row of the receipt, without a look at
the expense as it is by then. A submission that is committed in between leaves an
expense whose receipts change under review.
-/

namespace Expentra.Requests

open Library

section Evidence

variable {cfg : Config} {policies : List ExpensePolicy} {db db' : Db} {p p' : Pool Db Phase}

/-! ## Frozen receipts -/

/-- The receipts stored for an expense. -/
def evidence (db : Db) (expenseId : Nat) : List ExpenseAttachment :=
  db.attachments.filter (fun a => a.expenseId = expenseId)

/-- The expense is stored, in a status other than `DRAFT`. -/
def isSubmitted (db : Db) (expenseId : Nat) : Bool :=
  (db.expenses.find? expenseId).any (fun row => row.status ≠ .DRAFT)

/-- Every expense that is submitted before or after a change has the same set of
    receipts before and after it. -/
def Frozen (db db' : Db) : Prop :=
  ∀ expenseId, isSubmitted db expenseId = true ∨ isSubmitted db' expenseId = true →
    ∀ a, a ∈ evidence db' expenseId ↔ a ∈ evidence db expenseId

theorem mem_evidence {expenseId : Nat} {a : ExpenseAttachment} :
    a ∈ evidence db expenseId ↔ a ∈ db.attachments ∧ a.expenseId = expenseId := by
  simp [evidence]

theorem Frozen.refl : Frozen db db := fun _ _ _ => Iff.rfl

theorem Frozen.of_attachments_eq (h : db'.attachments = db.attachments) : Frozen db db' := by
  intro expenseId _ a
  rw [mem_evidence, mem_evidence, h]

theorem isSubmitted_iff {expenseId : Nat} : isSubmitted db expenseId = true ↔
    ∃ row ∈ db.expenses, row.id = expenseId ∧ row.status ≠ .DRAFT := by
  rw [isSubmitted, Option.any_eq_true]
  constructor
  · rintro ⟨row, hfind, hstatus⟩
    exact ⟨row, Table.mem_of_find? hfind, Table.key_of_find? hfind, of_decide_eq_true hstatus⟩
  · rintro ⟨row, hrow, rfl, hstatus⟩
    exact ⟨row, Table.find?_of_mem hrow, decide_eq_true hstatus⟩

theorem isSubmitted_of_draft {row : Expense} (hrow : row ∈ db.expenses) (hdraft : row.status = .DRAFT) :
    isSubmitted db row.id = false := by
  have hfind : db.expenses.find? row.id = some row := Table.find?_of_mem hrow
  simp [isSubmitted, hfind, hdraft]

/-- A change to the receipts of one expense, which submits none. -/
theorem Frozen.of_others {id : Nat}
    (hsubmitted : ∀ expenseId, isSubmitted db' expenseId = true → isSubmitted db expenseId = true)
    (hothers : ∀ a : ExpenseAttachment, a.expenseId ≠ id → (a ∈ db'.attachments ↔ a ∈ db.attachments))
    (hid : isSubmitted db id = true → ∀ a, a ∈ evidence db' id ↔ a ∈ evidence db id) :
    Frozen db db' := by
  intro expenseId h a
  have hbefore : isSubmitted db expenseId = true := h.elim (fun h => h) (hsubmitted expenseId)
  by_cases heq : expenseId = id
  · subst heq
    exact hid hbefore a
  · rw [mem_evidence, mem_evidence]
    exact and_congr_left (fun ha => hothers a (ha ▸ heq))

/-- The receipts of a draft may change. -/
theorem Frozen.of_draft {row : Expense} (hrow : row ∈ db.expenses) (hdraft : row.status = .DRAFT)
    (hsubmitted : ∀ expenseId, isSubmitted db' expenseId = true → isSubmitted db expenseId = true)
    (hothers : ∀ a : ExpenseAttachment, a.expenseId ≠ row.id →
      (a ∈ db'.attachments ↔ a ∈ db.attachments)) : Frozen db db' := by
  refine .of_others hsubmitted hothers (fun h => ?_)
  rw [isSubmitted_of_draft hrow hdraft] at h
  cases h

/-! ## One call at a time -/

/-- A call that is not interrupted leaves submitted expenses their receipts. -/
theorem frozen_of_ok {op : Operation} (h : op.perform cfg db = .ok ((), db')) : Frozen db db' := by
  cases htransition : op.isTransition with
  | true =>
    obtain ⟨_, _, _, _, _, htransition, -⟩ := transition_of_ok htransition h
    exact .of_attachments_eq htransition.attachments_eq
  | false =>
    cases op with
    | createExpense now reference userId input =>
      rw [Operation.perform] at h
      obtain ⟨_, _, -, -, -, rfl⟩ := ExpenseDraft.create_ok h
      exact .of_attachments_eq rfl
    | removeExpense authUser reference =>
      rw [Operation.perform] at h
      obtain ⟨row, hmem, hdraft, hdelete⟩ := ExpenseDraft.remove_ok h
      cases Transaction.write_eq_ok.1 hdelete
      refine .of_draft hmem hdraft (fun expenseId h => ?_) (fun a ha => ?_)
      · obtain ⟨e, he, hid, hstatus⟩ := isSubmitted_iff.1 h
        exact isSubmitted_iff.2 ⟨e, (Table.mem_keep.1 he).1, hid, hstatus⟩
      · simp [ha]
    | uploadReceipt authUser reference attachmentReference =>
      rw [Operation.perform] at h
      obtain ⟨row, hrow, hdraft, rfl⟩ := Receipts.upload_ok h
      have hmem := (findEntityByReference_eq_ok hrow).1
      refine .of_draft hmem hdraft (fun _ h => h) (fun a ha => ?_)
      have hnew : a ≠ ⟨attachmentReference, row.id⟩ := by
        rintro rfl
        exact ha rfl
      simp [hnew]
    | removeReceipt authUser reference receiptReference =>
      rw [Operation.perform] at h
      obtain ⟨row, hrow, hdraft, removed, hremoved, rfl⟩ := Receipts.remove_ok h
      have hmem := (findEntityByReference_eq_ok hrow).1
      refine .of_draft hmem hdraft (fun _ h => h) (fun a ha => ?_)
      have hkept : removed a ≠ true := fun h => ha (hremoved a h)
      simp [hkept]
    | updateExpense | submit | approve | reject | reopenRejected | reimburse => cases htransition
    | _ => exact .of_attachments_eq ((frame_of_ok htransition rfl h).2.2.2 rfl)

theorem frozen_of_step {op : Operation} (h : Step cfg db op db') : Frozen db db' := by
  rcases h.cases with hok | rfl
  · exact frozen_of_ok hok
  · exact .refl

/-! ## The row of a receipt -/

/-- The receipt whose row the next step saves. -/
def savedReceipt? : Phase → Outcome → Option ExpenseAttachment
  | .inserting expenseId attachmentReference, .runs _ => some ⟨attachmentReference, expenseId⟩
  | _, _ => none

/-- The receipt whose row the next step deletes. -/
def deletedReceipt? : Phase → Outcome → Option ExpenseAttachment
  | .deleting expenseId attachment, .runs _ => some ⟨attachment.reference, expenseId⟩
  | _, _ => none

/-- No row of a receipt of a submitted expense is saved or deleted, unless there is
    nothing to save or to delete: the reference is taken, or the row is gone. -/
def OnDraft (_ : Nat) (db : Db) (phase : Phase) (outcome : Outcome) : Prop :=
  (∀ receipt ∈ savedReceipt? phase outcome, isSubmitted db receipt.expenseId = true →
    db.attachments.any (·.reference = receipt.reference) = true) ∧
  (∀ receipt ∈ deletedReceipt? phase outcome, isSubmitted db receipt.expenseId = true →
    receipt ∉ db.attachments)

instance (i : Nat) (db : Db) (phase : Phase) (outcome : Outcome) :
    Decidable (OnDraft i db phase outcome) :=
  inferInstanceAs (Decidable (_ ∧ _))

theorem onDraft_of_none {i : Nat} {phase : Phase} {outcome : Outcome}
    (hsaved : savedReceipt? phase outcome = none) (hdeleted : deletedReceipt? phase outcome = none) :
    OnDraft i db phase outcome := by
  refine ⟨fun receipt h => ?_, fun receipt h => ?_⟩
  · rw [hsaved] at h
    cases h
  · rw [hdeleted] at h
    cases h

theorem orEnd_fst {α : Type} {result : Except HttpException α} {next : α → Phase} :
    (orEnd db result next).1 = db := by
  cases result <;> rfl

theorem commitAndEnd_fst {transaction : Tx Unit} :
    (commitAndEnd db transaction).1 = transaction.commit db := by
  unfold commitAndEnd Transaction.commit
  split <;> simp only [*]

theorem mem_attachments_append {receipt a : ExpenseAttachment} :
    a ∈ db.attachments ++ [receipt] ↔ a ∈ db.attachments ∨ a = receipt := by
  rw [List.mem_append, List.mem_singleton]

/-- A row that is saved is one of an unsubmitted expense, or its reference is taken. -/
theorem frozen_insertAttachment_iff {i : Nat} {now : Instant} {expenseId : Nat} {reference : String} :
    Frozen db ((Receipts.insertAttachment expenseId reference).commit db) ↔
      OnDraft i db (.inserting expenseId reference) (.runs now) := by
  have honDraft : OnDraft i db (.inserting expenseId reference) (.runs now) ↔
      (isSubmitted db expenseId = true → db.attachments.any (·.reference = reference) = true) := by
    simp [OnDraft, savedReceipt?, deletedReceipt?]
  rw [honDraft]
  rcases Transaction.commit_cases (Receipts.insertAttachment expenseId reference) db with
    ⟨⟨⟩, hok⟩ | ⟨herror, hsame⟩
  · obtain ⟨htaken, -, hdb'⟩ := Receipts.insertAttachment_eq_ok.1 hok
    rw [hdb', htaken]
    constructor
    · intro hfrozen hsubmitted
      have hmem := (hfrozen expenseId (.inl hsubmitted) ⟨reference, expenseId⟩).1
        (mem_evidence.2 ⟨mem_attachments_append.2 (.inr rfl), rfl⟩)
      exact absurd (decide_eq_true rfl) (List.any_eq_false.1 htaken _ (mem_evidence.1 hmem).1)
    · intro hunsubmitted
      refine .of_others (fun _ h => h) (fun a ha => ?_) (fun h => absurd (hunsubmitted h) nofun)
      rw [mem_attachments_append]
      exact or_iff_left (by rintro rfl; exact ha rfl)
  · rw [hsame]
    refine iff_of_true .refl (fun hsubmitted => ?_)
    -- for a stored expense, a save is refused for its reference only
    by_contra htaken
    obtain ⟨row, hrow, rfl, -⟩ := isSubmitted_iff.1 hsubmitted
    have hfind : db.expenses.find? row.id = some row := Table.find?_of_mem hrow
    exact herror () _ (Receipts.insertAttachment_eq_ok.2
      ⟨Bool.not_eq_true _ ▸ htaken, by rw [hfind]; rfl, rfl⟩)

/-- A row that is deleted is one of an unsubmitted expense, or it is gone already. -/
theorem frozen_deleteAttachment_iff {i : Nat} {now : Instant} {expenseId : Nat}
    {attachment : ExpenseAttachment} :
    Frozen db ((Receipts.deleteAttachment expenseId attachment).commit db) ↔
      OnDraft i db (.deleting expenseId attachment) (.runs now) := by
  have honDraft : OnDraft i db (.deleting expenseId attachment) (.runs now) ↔
      (isSubmitted db expenseId = true → ⟨attachment.reference, expenseId⟩ ∉ db.attachments) := by
    simp [OnDraft, savedReceipt?, deletedReceipt?]
  have hkept : ∀ a, a ∈ ((Receipts.deleteAttachment expenseId attachment).commit db).attachments ↔
      a ∈ db.attachments ∧ a ≠ ⟨attachment.reference, expenseId⟩ := by
    rintro ⟨reference, id⟩
    simp [Receipts.deleteAttachment, Transaction.commit, Transaction.write, imp_iff_not_or]
  rw [honDraft]
  constructor
  · intro hfrozen hsubmitted hmem
    have hstill := (hfrozen expenseId (.inl hsubmitted) _).2 (mem_evidence.2 ⟨hmem, rfl⟩)
    exact ((hkept _).1 (mem_evidence.1 hstill).1).2 rfl
  · intro hgone
    refine @Frozen.of_others db _ expenseId (fun _ h => h) (fun a ha => ?_) (fun hsubmitted a => ?_)
    · rw [hkept]
      exact and_iff_left (by rintro rfl; exact ha rfl)
    · rw [mem_evidence, mem_evidence, hkept]
      refine and_congr_left (fun _ => and_iff_left_of_imp ?_)
      rintro hmem rfl
      exact hgone hsubmitted hmem

theorem commitUpdate_attachments {now : Instant} {authUser : AuthUser} {reference : String}
    {input : ExpenseDraft.UpdateExpenseInput} {u : Unit}
    (h : commitUpdate cfg now authUser reference input db = .ok (u, db')) :
    db'.attachments = db.attachments := by
  simp only [commitUpdate, Transaction.query_bind_eq_ok, Transaction.lift_bind_eq_ok] at h
  obtain ⟨_, -, _, -, _, -, _, -, hpersist⟩ := h
  obtain ⟨_, _, -, rfl, -⟩ := persistTransition_ok hpersist
  rfl

/-- A step of a request leaves submitted expenses their receipts if and only if it
    writes no row of a receipt of one. -/
theorem frozen_advance_iff {i : Nat} {phase : Phase} {outcome : Outcome} {after : Db × Phase}
    (h : advance cfg policies db phase outcome = some after) :
    Frozen db after.1 ↔ OnDraft i db phase outcome := by
  have hother : savedReceipt? phase outcome = none → deletedReceipt? phase outcome = none →
      after.1.attachments = db.attachments → (Frozen db after.1 ↔ OnDraft i db phase outcome) :=
    fun hsaved hdeleted hsame =>
      iff_of_true (.of_attachments_eq hsame) (onDraft_of_none hsaved hdeleted)
  cases phase <;> cases outcome <;> simp only [advance, reduceCtorEq, Option.some.injEq] at h
  case inserting.runs =>
    rw [← h, commitAndEnd_fst]
    exact frozen_insertAttachment_iff
  case deleting.runs =>
    rw [← h, commitAndEnd_fst]
    exact frozen_deleteAttachment_iff
  case updating.runs =>
    refine hother rfl rfl ?_
    split at h
    · rw [← Option.some.inj h, orEnd_fst]
    · rw [← Option.some.inj h]
  case editing.runs =>
    refine hother rfl rfl ?_
    rw [← h, commitAndEnd_fst]
    refine Transaction.commit_induction (P := fun s : Db => s.attachments = db.attachments) rfl ?_
    exact fun _ _ hok => commitUpdate_attachments hok
  case committing.runs =>
    refine hother rfl rfl ?_
    rw [← h, commitAndEnd_fst]
    refine Transaction.commit_induction (P := fun s : Db => s.attachments = db.attachments) rfl ?_
    intro _ _ hok
    obtain ⟨_, _, _, -, -, -, -, -, htransition⟩ := commitSubmit_effect hok
    exact htransition.attachments_eq
  all_goals
    refine hother rfl rfl ?_
    rw [← h]
  all_goals exact congrArg Db.attachments orEnd_fst

/-- A turn leaves submitted expenses their receipts if and only if it is no step that
    writes the row of a receipt of one. -/
theorem frozen_iff {turn : Turn Request Outcome Operation}
    (h : (requests cfg policies).Step p turn p') :
    Frozen p.shared p'.shared ↔ Concurrent.onStep OnDraft p turn := by
  cases turn with
  | start arrival =>
    obtain ⟨_, _, hstart, rfl⟩ := Concurrent.next_start_eq_some.1 h
    cases hstart
    exact iff_of_true .refl (by rintro _ _ _ ⟨⟩)
  | surroundings op =>
    obtain ⟨_, hcall, rfl⟩ := Concurrent.next_surroundings_eq_some.1 h
    have hstep : Step cfg p.shared op _ := (Option.some.inj hcall).symm
    exact iff_of_true (frozen_of_step hstep) (by rintro _ _ _ ⟨⟩)
  | step i outcome =>
    obtain ⟨phase, db', phase', hphase, hadvance, rfl⟩ := Concurrent.next_step_eq_some.1 h
    have hiff := @frozen_advance_iff cfg policies p.shared i phase outcome _ hadvance
    refine hiff.trans ⟨?_, fun hguard => hguard i outcome phase rfl hphase⟩
    rintro honDraft _ _ _ ⟨⟩ hphase'
    cases hphase.symm.trans hphase'
    exact honDraft

end Evidence

/-- Over a run of any requests and calls, no expense gains or loses a receipt while it
    is submitted if and only if no row of a receipt of a submitted expense is written. -/
theorem evidence_frozen_iff {cfg : Config} {policies : List ExpensePolicy} {p : Pool Db Phase}
    {tr : List (Turn Request Outcome Operation × Pool Db Phase)}
    (hrun : Run (requests cfg policies).Step p tr) :
    (∀ step ∈ Run.transitions p tr, Frozen step.1.shared step.2.2.shared) ↔
      ∀ step ∈ Run.transitions p tr, Concurrent.onStep OnDraft step.1 step.2.1 := by
  refine forall₂_congr (fun step hmem => ?_)
  exact frozen_iff (hrun.of_mem_transitions hmem).2

/-! ## An upload around a submission -/

namespace Sample

def stored : Db := runAll Sample.config [Sample.createExpense] Sample.db

def receiptReference : String := "EXA1700000000001AAAAAA"

def upload : Turn Request Outcome Operation :=
  .start (.upload Sample.authOwner Sample.expenseReference receiptReference)

def goOn : Turn Request Outcome Operation := .step 0 (.runs Sample.now)

def submission : Turn Request Outcome Operation := .surroundings Sample.submit

/-- The row of the receipt is saved before the submission. -/
def uploadEarly : List (Turn Request Outcome Operation) := [upload, goOn, goOn, submission]

/-- The draft is found before the submission, and the row is still to be saved. -/
def uploadPending : List (Turn Request Outcome Operation) := [upload, goOn, submission]

end Sample

/-- A receipt that is stored before the submission is there afterwards. -/
theorem evidence_frozen_sample :
    ∃ (tr : List (Turn Request Outcome Operation × Pool Db Phase)) (p : Pool Db Phase),
      tr.map Prod.fst = Sample.uploadEarly ∧ p ∈ Run.states (Pool.idle Sample.stored) tr ∧
      isSubmitted p.shared 1 = true ∧ evidence p.shared 1 = [⟨Sample.receiptReference, 1⟩] ∧
      ∀ step ∈ Run.transitions (Pool.idle Sample.stored) tr,
        Frozen step.1.shared step.2.2.shared := by
  have hexec : ((requests Sample.config []).exec OnDraft Sample.uploadEarly
      (Pool.idle Sample.stored)).any (fun p => isSubmitted p.shared 1 = true ∧
        evidence p.shared 1 = [⟨Sample.receiptReference, 1⟩]) = true := by
    decide +kernel
  obtain ⟨p, hexec, hp⟩ := (Option.any_eq_true _ _).1 hexec
  obtain ⟨hsubmitted, hevidence⟩ := of_decide_eq_true hp
  obtain ⟨tr, hrun, hturns, hmem⟩ := Concurrent.run_of_exec hexec
  refine ⟨tr, p, hturns, hmem, hsubmitted, hevidence, (evidence_frozen_iff hrun.of_guarded).2 ?_⟩
  exact fun _ hstep => (hrun.of_mem_transitions hstep).2.1

theorem not_frozen_of_mem {db db' : Db} {expenseId : Nat} {a : ExpenseAttachment}
    (hsubmitted : isSubmitted db expenseId = true) (hbefore : a ∉ evidence db expenseId)
    (hafter : a ∈ evidence db' expenseId) : ¬ Frozen db db' :=
  fun h => hbefore ((h expenseId (.inl hsubmitted) a).1 hafter)

/-- An upload that found a draft adds its receipt to the submitted expense. -/
theorem late_receipt_added :
    ∃ p p', Reaches (requests Sample.config []).Step (Pool.idle Sample.stored) p ∧
      (requests Sample.config []).Step p Sample.goOn p' ∧ isSubmitted p.shared 1 = true ∧
      evidence p.shared 1 = [] ∧ evidence p'.shared 1 = [⟨Sample.receiptReference, 1⟩] ∧
      ¬ Frozen p.shared p'.shared := by
  have hexec : ((requests Sample.config []).exec Concurrent.anyStep
      Sample.uploadPending (Pool.idle Sample.stored)).any (fun p =>
        ((requests Sample.config []).next p Sample.goOn).any (fun p' =>
          isSubmitted p.shared 1 = true ∧ evidence p.shared 1 = [] ∧
            evidence p'.shared 1 = [⟨Sample.receiptReference, 1⟩])) = true := by
    decide +kernel
  obtain ⟨p, hexec, hp⟩ := (Option.any_eq_true _ _).1 hexec
  obtain ⟨p', hnext, hp'⟩ := (Option.any_eq_true _ _).1 hp
  obtain ⟨hsubmitted, hbefore, hafter⟩ := of_decide_eq_true hp'
  refine ⟨p, p', (Concurrent.reaches_of_exec hexec).of_guarded, hnext, hsubmitted, hbefore, hafter,
    not_frozen_of_mem hsubmitted (a := ⟨Sample.receiptReference, 1⟩) ?_ ?_⟩
  · rw [hbefore]
    exact List.not_mem_nil
  · rw [hafter]
    exact List.mem_cons_self

end Expentra.Requests
