-- SUMMARY: The policy exceptions of an expense: what a submitter gave as justifications is what its readers are shown.
import Expentra.Expense.Discussion
import Mathlib.Data.List.DropRight

/-!
# Policy exceptions

A submission that breaks a policy carries a justification for it. The listener of the
submission writes the justifications to the audit log, one entry each, and the page of the
expense reads the exceptions back from there.
-/

namespace Expentra

open Library

/-- The author is shown by reference and email. -/
structure ExpensePolicyExceptionItem where
  reference : String
  policyReference : String
  policyName : Option String
  justification : String
  createdAt : Instant
  author : Option (String × String)
deriving DecidableEq

namespace ExpenseCommentService

/-- `policyNameByReference` -/
def policyNameOf (policies : List ExpensePolicy) (reference : String) : Option String :=
  (policies.find? (fun policy => policy.reference = reference)).map (·.name)

/-- The exception an entry of the audit log is shown as, unless it lacks its policy or its text. -/
def exceptionItem (db : Db) (policies : List ExpensePolicy) (audit : AuditLog) :
    Option ExpensePolicyExceptionItem :=
  let policyReference := (audit.metadata.string? "policyReference").getD ""
  let justification := ((audit.metadata.string? "justification").map Js.trim).getD ""
  if policyReference = "" ∨ justification = "" then none
  else some
    { reference := audit.reference
      policyReference
      policyName := policyNameOf policies policyReference
      justification
      createdAt := audit.createdAt
      author := audit.actorId.bind (actorOf db) }

def isViolationOf (reference : String) (audit : AuditLog) : Bool :=
  audit.resourceReference = reference && audit.action = .POLICY_VIOLATION

def listPolicyExceptions (t : DiscussionTables) (policies : List ExpensePolicy) (authUser : AuthUser)
    (expenseReference : String) : Except HttpException (List ExpensePolicyExceptionItem) :=
  (loadReadableExpense t.db authUser expenseReference).map (fun expense =>
    (inOrder (·.createdAt) (t.audits.filter (isViolationOf expense.reference))).filterMap
      (exceptionItem t.db policies))

end ExpenseCommentService

/-! ## Trimmed text -/

/-- What is left when the end is cut does not start with what was cut from the front. -/
theorem dropWhile_rdropWhile_dropWhile {α : Type} (p : α → Bool) (l : List α) :
    ((l.dropWhile p).rdropWhile p).dropWhile p = (l.dropWhile p).rdropWhile p := by
  refine List.dropWhile_eq_self_iff.2 fun hl => ?_
  have hcut : (l.dropWhile p).rdropWhile p <+: l.dropWhile p := List.rdropWhile_prefix p _
  rw [hcut.getElem hl]
  exact List.dropWhile_get_zero_not p l (hl.trans_le hcut.length_le)

theorem Js.trim_trim (s : String) : Js.trim (Js.trim s) = Js.trim s := by
  have htrim : ∀ s : String, Js.trim s =
      String.ofList ((s.toList.dropWhile isWhitespace).rdropWhile isWhitespace) := fun _ => rfl
  rw [htrim (Js.trim s), htrim s, String.toList_ofList, dropWhile_rdropWhile_dropWhile,
    List.rdropWhile_idempotent]

/-! ## The log -/

/-- The listeners of the events of an expense. -/
inductive ExpenseListener where
  | submitted
  | approved
  | rejected
  | reopened
  | reimbursed
deriving DecidableEq

/-- A run of a listener: the event, the database at the time, and what becomes of its saves. -/
structure ListenerRun where
  listener : ExpenseListener
  env : AuditEnv
  db : Db
  payload : ExpenseEvent

namespace ListenerRun

open DomainAuditListener

def rows (run : ListenerRun) : List AuditLog :=
  match run.listener with
  | .submitted => onExpenseSubmitted run.env run.db run.payload
  | .approved => onExpenseApproved run.env run.db run.payload
  | .rejected => onExpenseRejected run.env run.db run.payload
  | .reopened => onExpenseReopened run.env run.db run.payload
  | .reimbursed => onExpenseReimbursed run.env run.db run.payload

/-- The run gets to the justifications of the expense. -/
def justifies (run : ListenerRun) (reference : String) : Bool :=
  (run.listener = .submitted || run.listener = .approved) && (run.env.saved 0).isSome &&
    (run.db.expenses.find? run.payload.expenseId).any (fun expense => expense.reference = reference)

/-- What the submitter wrote for a policy, as it is to be shown. -/
def exceptionOf (run : ListenerRun) (db : Db) (policies : List ExpensePolicy)
    (entry : (String × String) × Nat) : Option ExpensePolicyExceptionItem :=
  if entry.1.1 = "" then none
  else (run.env.saved (entry.2 + 1)).map (fun stamp =>
    { reference := stamp.reference
      policyReference := entry.1.1
      policyName := ExpenseCommentService.policyNameOf policies entry.1.1
      justification := entry.1.2
      createdAt := stamp.createdAt
      author := ExpenseCommentService.actorOf db run.payload.userId })

/-- The justifications of the expense whose saves went through. -/
def exceptions (run : ListenerRun) (db : Db) (policies : List ExpensePolicy) (reference : String) :
    List ExpensePolicyExceptionItem :=
  if run.justifies reference then
    (justifications run.payload.policyJustifications).zipIdx.filterMap (run.exceptionOf db policies)
  else []

end ListenerRun

namespace ExpenseCommentService

open DomainAuditListener AuditService

section Exceptions

variable {db : Db} {policies : List ExpensePolicy} {reference : String} {run : ListenerRun}

theorem mem_justifications {entry : String × String} {given : Option (List (String × String))}
    (h : entry ∈ justifications given) : Js.trim entry.2 = entry.2 ∧ entry.2 ≠ "" := by
  obtain ⟨raw, -, hraw⟩ := List.mem_filterMap.1 h
  split at hraw
  · cases hraw
  · next hne =>
    cases hraw
    exact ⟨Js.trim_trim raw.2, hne⟩

/-- A justification is read back as it was written. -/
theorem exceptionItem_toRow {correlationId : Option String} {actorId : Nat} {entry : String × String}
    {stamp : Stamp} (htrim : Js.trim entry.2 = entry.2) (hne : entry.2 ≠ "") :
    exceptionItem db policies (toRow correlationId (justificationInput reference actorId entry) stamp) =
      if entry.1 = "" then none else some ⟨stamp.reference, entry.1, policyNameOf policies entry.1,
        entry.2, stamp.createdAt, actorOf db actorId⟩ := by
  obtain ⟨hpolicy, htext⟩ := justificationRow correlationId reference actorId entry stamp
  unfold exceptionItem
  rw [hpolicy, htext]
  simp only [Option.map_some, Option.getD_some, htrim, hne, or_false]
  rfl

/-- The entries the listener writes for justifications are shown as what was justified. -/
theorem filterMap_recorded {entries : List ((String × String) × Nat)}
    (hentries : ∀ entry ∈ entries, Js.trim entry.1.2 = entry.1.2 ∧ entry.1.2 ≠ "") :
    (entries.flatMap (fun entry => tryRecord run.env.correlationId
      (justificationInput reference run.payload.userId entry.1) (run.env.saved (entry.2 + 1)))).filterMap
        (exceptionItem db policies) = entries.filterMap (run.exceptionOf db policies) := by
  induction entries with
  | nil => rfl
  | cons entry rest ih =>
    obtain ⟨⟨htrim, hne⟩, hrest⟩ := List.forall_mem_cons.1 hentries
    rw [List.flatMap_cons, List.filterMap_append, ih hrest, List.filterMap_cons, ListenerRun.exceptionOf]
    cases run.env.saved (entry.2 + 1) with
    | none => simp [tryRecord]
    | some stamp =>
      simp only [tryRecord, Option.map_some, Option.toList_some, List.filterMap_cons, List.filterMap_nil,
        exceptionItem_toRow htrim hne]
      split <;> rfl

theorem filter_recordPolicyJustifications {env : AuditEnv} {expenseReference : String} {actorId : Nat}
    {given : Option (List (String × String))} :
    (recordPolicyJustifications env expenseReference actorId given).filter (isViolationOf reference) =
      if expenseReference = reference then recordPolicyJustifications env expenseReference actorId given
      else [] := by
  have hrows : ∀ audit ∈ recordPolicyJustifications env expenseReference actorId given,
      audit.resourceReference = expenseReference ∧ audit.action = .POLICY_VIOLATION := by
    intro audit haudit
    obtain ⟨entry, -, hentry⟩ := List.mem_flatMap.1 haudit
    obtain ⟨stamp, -, rfl⟩ := Option.map_eq_some_iff.1 (Option.mem_toList.1 hentry)
    exact ⟨rfl, rfl⟩
  split
  · next heq =>
    refine List.filter_eq_self.2 fun audit haudit => ?_
    simp [isViolationOf, hrows audit haudit, heq]
  · next hne =>
    refine List.filter_eq_nil_iff.2 fun audit haudit => ?_
    simp [isViolationOf, hrows audit haudit, hne]

/-- The entry of the event itself is no exception. -/
theorem filter_recordExpenseEvent {env : AuditEnv} {payload : ExpenseEvent} {action : AuditAction}
    {actorId : Nat} {metadata : Metadata} (haction : action ≠ .POLICY_VIOLATION) :
    (recordExpenseEvent env db payload action actorId metadata).1.filter (isViolationOf reference) = [] := by
  unfold recordExpenseEvent
  split
  · rfl
  · refine List.filter_eq_nil_iff.2 fun audit haudit => ?_
    obtain ⟨stamp, -, rfl⟩ := Option.map_eq_some_iff.1 (Option.mem_toList.1 haudit)
    simp [isViolationOf, toRow, expenseEventInput, haction]

/-- A listener that justifies adds its justifications to what is shown, and nothing else. -/
theorem filterMap_recordWithJustifications {action : AuditAction} {actorId : Nat}
    (haction : action ≠ .POLICY_VIOLATION) (hlistener : run.listener = .submitted ∨ run.listener = .approved) :
    ((recordWithJustifications run.env run.db run.payload action actorId).filter
      (isViolationOf reference)).filterMap (exceptionItem db policies) =
        run.exceptions db policies reference := by
  have hevent : (recordExpenseEvent run.env run.db run.payload action actorId []).1.filter
      (isViolationOf reference) = [] := filter_recordExpenseEvent haction
  have hkind : (run.listener = .submitted || run.listener = .approved) = true := by simpa using hlistener
  unfold recordWithJustifications ListenerRun.exceptions ListenerRun.justifies
  rw [hkind, Bool.true_and]
  unfold recordExpenseEvent at hevent ⊢
  cases hfind : run.db.expenses.find? run.payload.expenseId with
  | none => simp
  | some expense =>
    rw [hfind] at hevent
    cases hsaved : run.env.saved 0 with
    | none => simp [tryRecord]
    | some stamp =>
      rw [hsaved] at hevent
      simp only [Option.map_some, Option.isSome_some, Bool.true_and, Option.any_some, decide_eq_true_eq]
      rw [List.filter_append, hevent, List.nil_append, filter_recordPolicyJustifications]
      split
      · exact filterMap_recorded fun entry hentry => mem_justifications (List.fst_mem_of_mem_zipIdx hentry)
      · rfl

/-- Any other listener adds nothing. -/
theorem filterMap_recordExpenseEvent {action : AuditAction} {actorId : Nat} {metadata : Metadata}
    (haction : action ≠ .POLICY_VIOLATION) (hsubmitted : run.listener ≠ .submitted)
    (happroved : run.listener ≠ .approved) :
    ((recordExpenseEvent run.env run.db run.payload action actorId metadata).1.filter
      (isViolationOf reference)).filterMap (exceptionItem db policies) =
        run.exceptions db policies reference := by
  rw [filter_recordExpenseEvent haction]
  simp [ListenerRun.exceptions, ListenerRun.justifies, hsubmitted, happroved]

/-- Each run of a listener adds its own justifications to what is shown. -/
theorem filterMap_rows : (run.rows.filter (isViolationOf reference)).filterMap (exceptionItem db policies) =
    run.exceptions db policies reference := by
  unfold ListenerRun.rows
  cases hlistener : run.listener with
  | submitted => exact filterMap_recordWithJustifications (by decide) (.inl hlistener)
  | approved => exact filterMap_recordWithJustifications (by decide) (.inr hlistener)
  | rejected => exact filterMap_recordExpenseEvent (by decide) (by simp [hlistener]) (by simp [hlistener])
  | reopened => exact filterMap_recordExpenseEvent (by decide) (by simp [hlistener]) (by simp [hlistener])
  | reimbursed => exact filterMap_recordExpenseEvent (by decide) (by simp [hlistener]) (by simp [hlistener])

/-- The log holds the rows of these runs, in any order, and no other entry of an exception. -/
def LoggedBy (audits : List AuditLog) (runs : List ListenerRun) : Prop :=
  ∃ others : List AuditLog, audits.Perm (runs.flatMap ListenerRun.rows ++ others) ∧
    ∀ audit ∈ others, audit.action ≠ .POLICY_VIOLATION

theorem perm_exceptions {audits : List AuditLog} {runs : List ListenerRun} (h : LoggedBy audits runs) :
    ((audits.filter (isViolationOf reference)).filterMap (exceptionItem db policies)).Perm
      (runs.flatMap (fun run => run.exceptions db policies reference)) := by
  obtain ⟨others, hperm, hothers⟩ := h
  have hnone : others.filter (isViolationOf reference) = [] :=
    List.filter_eq_nil_iff.2 fun audit haudit => by simp [isViolationOf, hothers audit haudit]
  refine ((hperm.filter _).filterMap _).trans (List.Perm.of_eq ?_)
  rw [List.filter_append, hnone, List.append_nil, List.filter_flatMap, List.filterMap_flatMap]
  exact congrArg (runs.flatMap ·) (funext fun run => filterMap_rows)

end Exceptions

/-- The exceptions of an expense: the justifications that were saved for it, each once, in order. -/
structure ExceptionsShown (t : DiscussionTables) (policies : List ExpensePolicy) (runs : List ListenerRun)
    (row : Expense) (items : List ExpensePolicyExceptionItem) : Prop where
  perm : items.Perm (runs.flatMap (fun run => run.exceptions t.db policies row.reference))
  sorted : items.Pairwise (fun left right => left.createdAt ≤ right.createdAt)

/-- Whatever the listeners have logged, in any order and with any save failing, the exceptions of
    an expense are the justifications its submitter gave. -/
theorem exceptions_shown {t : DiscussionTables} {policies : List ExpensePolicy} {runs : List ListenerRun}
    {authUser : AuthUser} {expenseReference : String} {items : List ExpensePolicyExceptionItem}
    (hlogged : LoggedBy t.audits runs)
    (hlist : listPolicyExceptions t policies authUser expenseReference = .ok items) :
    ∃ row ∈ t.db.expenses, row.reference = normalizeEntityReference expenseReference ∧
      ExceptionsShown t policies runs row items := by
  obtain ⟨expense, hload, rfl⟩ := Except.map_eq_ok.1 hlist
  obtain ⟨row, hrow, href, rfl⟩ := loadReadableExpense_ok hload
  refine ⟨row, hrow, href, ((perm_inOrder _ _).filterMap _).trans (perm_exceptions hlogged), ?_⟩
  refine List.pairwise_filterMap.2 ((sorted_inOrder _ _).imp fun {left right} hle l hl r hr => ?_)
  have htime : ∀ {audit : AuditLog} {item : ExpensePolicyExceptionItem},
      exceptionItem t.db policies audit = some item → item.createdAt = audit.createdAt := by
    intro audit item hitem
    unfold exceptionItem at hitem
    dsimp only at hitem
    split at hitem
    · cases hitem
    · cases hitem
      rfl
  rw [htime hl, htime hr]
  exact hle

end ExpenseCommentService

namespace Sample

/-- The second of three saves throws, and the last justification is blank. -/
def justified : ListenerRun where
  listener := .submitted
  env := ⟨none, fun n => if n = 2 then none else some ⟨"AUD1700000000001AAAAAA", now⟩⟩
  db := runAll config [createExpense, submit] db
  payload := ⟨1, 1, none, none, none, some [("POL1700000000001AAAAAA", " The client came. "),
    ("POL1700000000002AAAAAA", "The client stayed."), ("POL1700000000003AAAAAA", " ")]⟩

def justifiedTables : ExpenseCommentService.DiscussionTables where
  db := justified.db
  audits := justified.rows
  approvalReference _ := "APR1700000000001AAAAAA"

end Sample

open ExpenseCommentService in
theorem exceptions_shown_sample : ∃ items,
    listPolicyExceptions Sample.justifiedTables [] Sample.authOwner Sample.expenseReference = .ok items ∧
    items.map (·.justification) = ["The client came."] ∧
    ∃ row ∈ Sample.justifiedTables.db.expenses,
      row.reference = normalizeEntityReference Sample.expenseReference ∧
        ExceptionsShown Sample.justifiedTables [] [Sample.justified] row items := by
  have hshown : (listPolicyExceptions Sample.justifiedTables [] Sample.authOwner
      Sample.expenseReference).map (fun items => items.map (·.justification)) =
        .ok ["The client came."] := by
    decide +kernel
  obtain ⟨items, hlist, hitems⟩ := Except.map_eq_ok.1 hshown
  have hlogged : LoggedBy Sample.justifiedTables.audits [Sample.justified] :=
    ⟨[], List.Perm.of_eq (by simp [Sample.justifiedTables]), List.forall_mem_nil _⟩
  exact ⟨items, hlist, hitems, exceptions_shown hlogged hlist⟩

end Expentra
