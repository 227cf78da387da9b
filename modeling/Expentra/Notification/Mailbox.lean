-- SUMMARY: The inbox of a user is a mailbox: in every run it has what was delivered, read as far as the user has read it.
import Expentra.Library.Paging
import Expentra.Notification.Accounted

/-!
# The inbox as a mailbox

A mailbox knows three operations: a notification is delivered, one is read, all are read. The
rows of the database are the mailboxes of all users together; every turn of the pipeline is
one of these operations on the mailbox of one user, or changes no mailbox.
-/

namespace Expentra

open Library Library.Concurrent NotificationInboxService NotificationDispatchService

/-! ## The abstract mailbox -/

/-- The notifications in the order of their delivery, and whether they were read. -/
abbrev Mailbox := List (String × Bool)

inductive MailboxEvent where
  | deliver (reference : String)
  | readOne (reference : String)
  | readAll
deriving DecidableEq, Repr

namespace Mailbox

def apply (mailbox : Mailbox) : MailboxEvent → Mailbox
  | .deliver reference => mailbox ++ [(reference, false)]
  | .readOne reference => mailbox.map (fun entry => (entry.1, entry.2 || entry.1 = reference))
  | .readAll => mailbox.map (fun entry => (entry.1, true))

def unread (mailbox : Mailbox) : Nat := mailbox.countP (fun entry => !entry.2)

end Mailbox

/-! ## The mailboxes of the database -/

/-- The mailbox of a user. -/
def NotificationDb.mailbox (db : NotificationDb) (userId : Nat) : Mailbox :=
  (db.notifications.rows.filter (isInApp userId)).map (fun n => (n.reference, n.readAt.isSome))

/-- What a step of `dispatchInApp` means for the mailbox of a user. -/
def deliveredBy (userId : Nat) (params : DispatchInAppParams) : MailOutcome → Option MailboxEvent
  | .saves reference _ => if params.userId = userId then some (.deliver reference) else none
  | _ => none

/-- What a turn means for the mailbox of a user. -/
def mailboxEvent (userId : Nat) (p : Pool MailState MailThread) :
    Turn MailArrival MailOutcome MailChange → Option MailboxEvent
  | .step i outcome =>
    match p.threads[i]? with
    | some (.dispatch params _) => deliveredBy userId params outcome
    | _ => none
  | .surroundings (.markRead authUser reference _) =>
    if authUser.id = userId then some (.readOne (normalizeEntityReference reference)) else none
  | .surroundings (.markAllRead authUser _) => if authUser.id = userId then some .readAll else none
  | _ => none

/-- The mailbox after an event, if there is one. -/
def Mailbox.follow (mailbox : Mailbox) (event : Option MailboxEvent) : Mailbox :=
  match event with
  | some event => mailbox.apply event
  | none => mailbox

variable {env : NotificationEnv} {userId : Nat} {s s' : MailState} {db db' : NotificationDb}

theorem countUnread_eq (db : NotificationDb) (userId : Nat) :
    countUnread db userId = (db.mailbox userId).unread := by
  rw [countUnread, Mailbox.unread, NotificationDb.mailbox, List.countP_map, List.countP_filter]
  refine List.countP_congr fun n _ => ?_
  rw [Function.comp_apply, Bool.and_comm]
  cases n.readAt <;> rfl

/-- A function on the rows that keeps which mailbox they are in. -/
theorem mailbox_map {rows : List Notification} {f : Notification → Notification}
    (hf : ∀ n ∈ rows, isInApp userId (f n) = isInApp userId n) :
    ((rows.map f).filter (isInApp userId)).map (fun n => (n.reference, n.readAt.isSome)) =
      (rows.filter (isInApp userId)).map (fun n => ((f n).reference, (f n).readAt.isSome)) := by
  rw [List.filter_map, List.map_map]
  congr 1
  refine List.filter_congr fun n hn => ?_
  exact hf n hn

/-- Replacing a row by one of the same mailbox. -/
theorem mailbox_replace {n : Notification}
    (hsame : ∀ m ∈ db.notifications, m.reference = n.reference →
      isInApp userId n = isInApp userId m) :
    NotificationDb.mailbox { db with notifications := db.notifications.replace n } userId =
      (db.notifications.rows.filter (isInApp userId)).map (fun m =>
        (m.reference, if m.reference = n.reference then n.readAt.isSome else m.readAt.isSome)) := by
  have hrows : (db.notifications.replace n).rows =
      db.notifications.rows.map (fun m => if m.reference = n.reference then n else m) := rfl
  rw [NotificationDb.mailbox, hrows, mailbox_map]
  · refine List.map_congr_left fun m _ => ?_
    split
    · next heq => rw [heq]
    · rfl
  · intro m hm
    split
    · next heq => exact hsame m hm heq
    · rfl

/-- Marking a row as sent or failed leaves the mailboxes alone. -/
theorem mailbox_updateRow {reference : String} {assign : Notification → Notification}
    (hreference : ∀ n, (assign n).reference = n.reference)
    (hinApp : ∀ n, isInApp userId (assign n) = isInApp userId n)
    (hread : ∀ n, (assign n).readAt = n.readAt) :
    (updateRow db reference assign).mailbox userId = db.mailbox userId := by
  unfold updateRow
  split
  · next n hn =>
    have hmem := Table.mem_of_find? hn
    have honly : ∀ m ∈ db.notifications, m.reference = (assign n).reference → m = n :=
      fun m hm heq => Table.eq_of_key_eq hm hmem (heq.trans (hreference n))
    rw [mailbox_replace, NotificationDb.mailbox]
    · refine List.map_congr_left fun m hm => ?_
      split
      · next heq => rw [honly m (List.mem_filter.1 hm).1 heq, hread]
      · rfl
    · intro m hm heq
      rw [honly m hm heq, hinApp]
  · rfl

theorem mailbox_insertNotification {n : Notification}
    (hinsert : MailThread.insertNotification s n = some s') :
    s'.db.mailbox userId = s.db.mailbox userId ++
      if isInApp userId n then [(n.reference, n.readAt.isSome)] else [] := by
  obtain ⟨notifications, hnew, rfl⟩ := Option.map_eq_some_iff.1 hinsert
  have hrows : notifications.rows = s.db.notifications.rows ++ [n] := (Table.insert?_eq_some.1 hnew).2
  change (notifications.rows.filter (isInApp userId)).map _ = _
  rw [hrows, List.filter_append, List.map_append, NotificationDb.mailbox]
  congr 1
  cases hin : isInApp userId n <;> simp [hin]

theorem setRead_isSome (now : Instant) (n : Notification) : (setRead now n).readAt.isSome = true := by
  unfold setRead
  split
  · rfl
  · next hsome => simpa [Option.isNone_iff_eq_none, Option.isSome_iff_ne_none] using hsome

theorem isInApp_setRead (now : Instant) (n : Notification) :
    isInApp userId (setRead now n) = isInApp userId n := by
  unfold setRead
  split <;> rfl

/-- A user reads a notification of another user, which changes nothing, or one of the own. -/
theorem mailbox_markRead {authUser : AuthUser} {reference : String} {now : Instant}
    {read : Notification × NotificationDb} (h : markRead db authUser reference now = .ok read) :
    read.2.mailbox userId = (db.mailbox userId).follow
      (if authUser.id = userId then some (.readOne (normalizeEntityReference reference)) else none) := by
  obtain ⟨found, hfound, hok⟩ := Except.bind_eq_ok.1 h
  obtain ⟨hmem, hkey⟩ := findEntityByReference_eq_ok hfound
  split at hok
  · cases hok
  · next howner =>
    cases hok
    have honly : ∀ m ∈ db.notifications, m.reference = (setRead now found).reference → m = found :=
      fun m hm heq => Table.eq_of_key_eq hm hmem (heq.trans (setRead_reference now found))
    rw [mailbox_replace (fun m hm heq => by rw [honly m hm heq, isInApp_setRead])]
    split
    · rw [Mailbox.follow, Mailbox.apply, NotificationDb.mailbox, List.map_map]
      refine List.map_congr_left fun m _ => Prod.ext rfl ?_
      change (if m.reference = (setRead now found).reference then _ else _) =
        (m.readAt.isSome || decide (m.reference = normalizeEntityReference reference))
      rw [setRead_reference, hkey, setRead_isSome]
      split
      · next heq => rw [decide_eq_true heq, Bool.or_true]
      · next hne => rw [decide_eq_false hne, Bool.or_false]
    · next hother =>
      -- the notification that was read is in another mailbox
      refine List.map_congr_left fun m hm => ?_
      obtain ⟨hm, hin⟩ := List.mem_filter.1 hm
      split
      · next heq =>
        rw [honly m hm heq] at hin
        have huser := of_decide_eq_true (Bool.and_eq_true_iff.1 hin).1
        exact absurd ((not_not.1 howner).symm.trans huser) hother
      · rfl

theorem mailbox_markAllRead {authUser : AuthUser} {now : Instant} :
    (markAllRead db authUser now).2.mailbox userId = (db.mailbox userId).follow
      (if authUser.id = userId then some .readAll else none) := by
  have hrows : (markAllRead db authUser now).2.notifications.rows =
      db.notifications.rows.map (fun n => if isInApp authUser.id n then setRead now n else n) := rfl
  rw [NotificationDb.mailbox, hrows, mailbox_map]
  · split
    · next huser =>
      rw [Mailbox.follow, Mailbox.apply, NotificationDb.mailbox, List.map_map]
      refine List.map_congr_left fun n hn => ?_
      rw [if_pos (by rw [huser]; exact (List.mem_filter.1 hn).2), setRead_reference, setRead_isSome]
      rfl
    · next hother =>
      rw [Mailbox.follow, NotificationDb.mailbox]
      refine List.map_congr_left fun n hn => ?_
      rw [if_neg]
      intro hin
      have howner := of_decide_eq_true (Bool.and_eq_true_iff.1 (List.mem_filter.1 hn).2).1
      exact hother ((of_decide_eq_true (Bool.and_eq_true_iff.1 hin).1).symm.trans howner)
  · intro n _
    split
    · exact isInApp_setRead now n
    · rfl

/-! ## The turns -/

theorem mailbox_addJob {data : EmailNotificationJobData} (hadd : MailThread.addJob s data = some s') :
    s'.db.mailbox userId = s.db.mailbox userId := by
  obtain ⟨jobs, -, rfl⟩ := Option.map_eq_some_iff.1 hadd
  rfl

theorem mailbox_insertPreferences {other : Nat}
    (hinsert : MailThread.insertPreferences s other = some s') :
    s'.db.mailbox userId = s.db.mailbox userId := by
  obtain ⟨preferences, -, rfl⟩ := Option.map_eq_some_iff.1 hinsert
  rfl

/-- Scheduling an email delivers nothing to the inbox. -/
theorem mailbox_schedule {params : ScheduleEmailParams} {phase phase' : SchedulePhase}
    {outcome : MailOutcome}
    (hstep : MailThread.advanceSchedule s params phase outcome = some (s', phase')) :
    s'.db.mailbox userId = s.db.mailbox userId := by
  unfold MailThread.advanceSchedule at hstep
  split at hstep
  · split at hstep <;> cases hstep <;> rfl
  · obtain ⟨s₁, hinsert, heq⟩ := Option.map_eq_some_iff.1 hstep
    cases heq
    exact mailbox_insertPreferences hinsert
  · next reference now =>
    obtain ⟨s₁, hinsert, heq⟩ := Option.map_eq_some_iff.1 hstep
    cases heq
    have hmail : isInApp userId (emailRow params reference now) = false := Bool.and_false _
    rw [mailbox_insertNotification hinsert, hmail]
    exact List.append_nil _
  · obtain ⟨s₁, hadd, heq⟩ := Option.map_eq_some_iff.1 hstep
    cases heq
    exact mailbox_addJob hadd
  · split at hstep
    · obtain ⟨s₁, hadd, heq⟩ := Option.map_eq_some_iff.1 hstep
      cases heq
      exact mailbox_addJob hadd
    · cases hstep
      rfl
  · cases hstep
    rfl
  · cases hstep
    rfl
  · cases hstep
    rfl
  · cases hstep

/-- A notification is delivered to the mailbox of its receiver. -/
theorem mailbox_dispatch {params : DispatchInAppParams} {phase phase' : DispatchPhase}
    {outcome : MailOutcome}
    (hstep : MailThread.advanceDispatch s params phase outcome = some (s', phase')) :
    s'.db.mailbox userId = (s.db.mailbox userId).follow (deliveredBy userId params outcome) := by
  unfold MailThread.advanceDispatch at hstep
  split at hstep
  · split at hstep <;> cases hstep <;> rfl
  · obtain ⟨s₁, hinsert, heq⟩ := Option.map_eq_some_iff.1 hstep
    cases heq
    exact mailbox_insertPreferences hinsert
  · next reference now =>
    obtain ⟨s₁, hinsert, heq⟩ := Option.map_eq_some_iff.1 hstep
    cases heq
    have hmail : isInApp userId (inAppRow params reference now) = decide (params.userId = userId) :=
      Bool.and_true _
    rw [mailbox_insertNotification hinsert, hmail]
    by_cases huser : params.userId = userId
    · simp only [deliveredBy, huser, decide_true, if_true]
      rfl
    · simp only [deliveredBy, huser, decide_false, if_false, Bool.false_eq_true]
      exact List.append_nil _
  · cases hstep
    rfl
  · cases hstep
    rfl
  · cases hstep
    rfl
  · cases hstep

/-- An attempt of an email changes no mailbox. -/
theorem mailbox_attempt {jobId number : Nat} {data : EmailNotificationJobData}
    {phase phase' : AttemptPhase} {outcome : MailOutcome}
    (hstep : MailThread.advanceAttempt env s jobId number data phase outcome = some (s', phase')) :
    s'.db.mailbox userId = s.db.mailbox userId := by
  have hsent : ∀ now, (markSent s.db data.notificationReference now).mailbox userId =
      s.db.mailbox userId :=
    fun now => mailbox_updateRow (fun _ => rfl) (fun _ => rfl) (fun _ => rfl)
  unfold MailThread.advanceAttempt at hstep
  split at hstep
  · dsimp only at hstep
    split at hstep <;> cases hstep <;> rfl
  · cases hstep
    rfl
  · cases hstep
    exact hsent _
  · cases hstep
    dsimp only
    split
    · exact hsent _
    · rfl
  · unfold MailThread.report at hstep
    split at hstep
    · split at hstep
      · cases hstep
        rfl
      · cases hstep
    · cases hstep
  · cases hstep
    rfl
  · cases hstep
    exact mailbox_updateRow (fun _ => rfl) (fun _ => rfl) (fun _ => rfl)
  · cases hstep
    rfl
  · cases hstep

/-- A change besides is what its user does to the own mailbox. -/
theorem mailbox_applyChange (change : MailChange)
    (hchange : MailThread.applyChange s change = some s') (p : Pool MailState MailThread) :
    s'.db.mailbox userId = (s.db.mailbox userId).follow
      (mailboxEvent userId p (.surroundings change)) := by
  cases change with
  | markRead authUser reference now =>
    have hread : (markRead s.db authUser reference now).toOption.map
        (fun read => { s with db := read.2 }) = some s' := hchange
    have hmail : ∀ read, (markRead s.db authUser reference now).toOption = some read →
        read.2.mailbox userId = (s.db.mailbox userId).follow
          (mailboxEvent userId p (.surroundings (.markRead authUser reference now))) :=
      fun read hsome => mailbox_markRead (eq_ok_of_toOption hsome)
    refine (Option.map_eq_some_iff.1 hread).elim (fun read hpair => ?_)
    rw [← hpair.2]
    exact hmail read hpair.1
  | markAllRead authUser now =>
    rw [(Option.some.inj hchange).symm]
    exact mailbox_markAllRead
  | savePreferences preferences =>
    rw [(Option.some.inj hchange).symm]
    rfl
  | stall jobId =>
    obtain ⟨_, -, -, rfl⟩ := MailThread.applyChange_stall hchange
    rfl

/-- Every turn is an operation on the mailbox of a user, or leaves it alone. -/
theorem mailbox_next {p p' : Pool MailState MailThread} {turn : Turn MailArrival MailOutcome MailChange}
    (h : (mail env).Step p turn p') :
    p'.shared.db.mailbox userId = (p.shared.db.mailbox userId).follow (mailboxEvent userId p turn) := by
  cases turn with
  | start arrival =>
    obtain ⟨s, t, hstart, rfl⟩ := next_start_eq_some.1 h
    cases arrival with
    | scheduleEmail params =>
      cases hstart
      rfl
    | dispatchInApp params =>
      cases hstart
      rfl
    | deliver jobId =>
      change MailThread.deliver p.shared jobId = some (s, t) at hstart
      unfold MailThread.deliver at hstart
      split at hstart
      · split at hstart
        · cases hstart
          rfl
        · cases hstart
      · cases hstart
  | step i outcome =>
    obtain ⟨t, s, t', hi, hmove, rfl⟩ := next_step_eq_some.1 h
    rw [mailboxEvent, hi]
    match t, hmove with
    | .schedule params phase, hmove =>
      obtain ⟨_, hadvance, heq⟩ := Option.map_eq_some_iff.1 hmove
      cases heq
      exact mailbox_schedule hadvance
    | .dispatch params phase, hmove =>
      obtain ⟨_, hadvance, heq⟩ := Option.map_eq_some_iff.1 hmove
      cases heq
      exact mailbox_dispatch hadvance
    | .attempt jobId number data phase, hmove =>
      obtain ⟨_, hadvance, heq⟩ := Option.map_eq_some_iff.1 hmove
      cases heq
      exact mailbox_attempt hadvance
  | surroundings change =>
    obtain ⟨s, hchange, rfl⟩ := next_surroundings_eq_some.1 h
    exact mailbox_applyChange change hchange p

/-! ## The list -/

/-- The query for a page, counted from zero. -/
def ListNotificationsQuery.at (query : ListNotificationsQuery) (page : Nat) : ListNotificationsQuery :=
  { query with page := some (page + 1) }

/-- The pages of a list have the entries of a mailbox, each once, and the newest first. -/
structure PagesShow (db : NotificationDb) (authUser : AuthUser) (query : ListNotificationsQuery)
    (entries : Mailbox) (pages : Nat → NotificationList) : Prop where
  total : (pages 0).listMeta.total = entries.length
  entries : (((List.range (pages 0).listMeta.totalPages).flatMap (fun page => (pages page).data)).map
    (·.reference)).Perm (entries.map Prod.fst)
  newest : ((List.range (pages 0).listMeta.totalPages).flatMap (fun page => (pages page).data)).Pairwise
    (fun left right => right.createdAt ≤ left.createdAt)

/-- The entries a list asks for. -/
def Mailbox.asked (query : ListNotificationsQuery) (mailbox : Mailbox) : Mailbox :=
  mailbox.filter (fun entry =>
    if query.unreadOnly then !entry.2 else if query.readOnly then entry.2 else true)

theorem listed_perm (authUser : AuthUser) (query : ListNotificationsQuery) :
    ((listed db authUser query).map (·.reference)).Perm
      (((db.mailbox authUser.id).asked query).map Prod.fst) := by
  have hasked : ((db.mailbox authUser.id).asked query).map Prod.fst =
      (db.notifications.rows.filter (fun n => isInApp authUser.id n && isListed query n)).map
        (·.reference) := by
    rw [Mailbox.asked, NotificationDb.mailbox, List.filter_map, List.map_map, List.filter_filter]
    congr 1
    refine List.filter_congr fun n _ => ?_
    rw [Bool.and_comm]
    congr 1
    change (if query.unreadOnly then !n.readAt.isSome else if query.readOnly then n.readAt.isSome
      else true) = isListed query n
    rw [Option.not_isSome]
    rfl
  rw [hasked]
  exact (List.perm_insertionSort _ _).map _

theorem sorted_listed (authUser : AuthUser) (query : ListNotificationsQuery) :
    (listed db authUser query).Pairwise (fun left right => right.createdAt ≤ left.createdAt) := by
  have htotal : Std.Total (fun left right : Notification => right.createdAt ≤ left.createdAt) :=
    ⟨fun left right => Int.le_total right.createdAt left.createdAt⟩
  have htrans : IsTrans Notification (fun left right => right.createdAt ≤ left.createdAt) :=
    ⟨fun _ _ _ hab hbc => Int.le_trans hbc hab⟩
  exact List.pairwise_insertionSort _ _

theorem limit_pos (query : ListNotificationsQuery) : 0 < (resolvePage query).limit := by
  change 0 < (min 100 (max 1 (ExpenseQueryService.orDefault query.limit 20))).toNat
  omega

theorem resolvePage_at (query : ListNotificationsQuery) (page : Nat) :
    resolvePage (query.at page) = ⟨page + 1, (resolvePage query).limit, page * (resolvePage query).limit⟩ := by
  have hpage : (max 1 (ExpenseQueryService.orDefault (some ((page : Int) + 1)) 1)).toNat = page + 1 := by
    have hne : ¬ ((page : Int) + 1 = 0) := by omega
    rw [ExpenseQueryService.orDefault]
    simp only [hne, if_false]
    omega
  simp only [resolvePage, ListNotificationsQuery.at, hpage, Nat.add_sub_cancel]

/-- The list, page by page. -/
theorem pagesShow {authUser : AuthUser} {query : ListNotificationsQuery}
    {pages : Nat → NotificationList}
    (hpages : ∀ page, listInApp db authUser (query.at page) = .ok (pages page)) :
    PagesShow db authUser query ((db.mailbox authUser.id).asked query) pages := by
  have hone : ∀ page, (pages page).data =
      pageAt (resolvePage query).limit (listed db authUser query) page ∧
      (pages page).listMeta.total = (listed db authUser query).length ∧
      (pages page).listMeta.totalPages =
        pageCount (resolvePage query).limit (listed db authUser query).length := by
    intro page
    have hpage := hpages page
    unfold listInApp at hpage
    split at hpage
    · cases hpage
    · rw [resolvePage_at] at hpage
      obtain hlist := Except.ok.inj hpage
      rw [← hlist]
      refine ⟨rfl, rfl, ?_⟩
      change (if (listed db authUser query).length = 0 then 0 else _) = _
      split
      · next hzero =>
        rw [pageCount, hzero]
        exact (Nat.div_eq_of_lt (by have := limit_pos query; omega)).symm
      · rfl
  have hall : (List.range (pages 0).listMeta.totalPages).flatMap (fun page => (pages page).data) =
      listed db authUser query := by
    have hdata : (fun page => (pages page).data) =
        pageAt (resolvePage query).limit (listed db authUser query) := funext fun page => (hone page).1
    rw [hdata, (hone 0).2.2, flatMap_pages (limit_pos query)]
  constructor
  · rw [(hone 0).2.1, ← List.length_map (·.reference), (listed_perm authUser query).length_eq,
      List.length_map]
  · rw [hall]
    exact listed_perm authUser query
  · rw [hall]
    exact sorted_listed authUser query

/-! ## Runs -/

/-- What a run means for the mailbox of a user. -/
def mailboxEvents (userId : Nat) (p : Pool MailState MailThread)
    (tr : List (Turn MailArrival MailOutcome MailChange × Pool MailState MailThread)) :
    List MailboxEvent :=
  (Run.steps p tr).filterMap (fun step => mailboxEvent userId step.1 step.2)

theorem mailbox_run {p : Pool MailState MailThread}
    {tr : List (Turn MailArrival MailOutcome MailChange × Pool MailState MailThread)}
    (hrun : Run (mail env).Step p tr) (userId : Nat) :
    (Run.last p tr).shared.db.mailbox userId =
      (mailboxEvents userId p tr).foldl Mailbox.apply (p.shared.db.mailbox userId) := by
  induction hrun with
  | nil => rfl
  | @cons p p' turn rest hstep _ ih =>
    rw [Run.last_cons, ih, mailbox_next hstep, mailboxEvents, mailboxEvents, Run.steps_cons,
      List.filterMap_cons]
    cases mailboxEvent userId p turn <;> rfl

/-- What a user is shown after a run: the mailbox that the deliveries and the readings of the
    run, and nothing else, have made of the one before. -/
structure InboxFollows (db db' : NotificationDb) (authUser : AuthUser) (events : List MailboxEvent) :
    Prop where
  mailbox : db'.mailbox authUser.id = events.foldl Mailbox.apply (db.mailbox authUser.id)
  unread : countUnread db' authUser.id =
    (events.foldl Mailbox.apply (db.mailbox authUser.id)).unread
  pages : ∀ query pages, (∀ page, listInApp db' authUser (query.at page) = .ok (pages page)) →
    PagesShow db' authUser query
      ((events.foldl Mailbox.apply (db.mailbox authUser.id)).asked query) pages
  readAll : ∀ now, (markAllRead db' authUser now).1 = countUnread db' authUser.id ∧
    countUnread (markAllRead db' authUser now).2 authUser.id = 0

/-- For every interleaving of the calls of the pipeline, from every state. -/
theorem inbox_follows {p : Pool MailState MailThread}
    {tr : List (Turn MailArrival MailOutcome MailChange × Pool MailState MailThread)}
    (hrun : Run (mail env).Step p tr) (authUser : AuthUser) :
    InboxFollows p.shared.db (Run.last p tr).shared.db authUser (mailboxEvents authUser.id p tr) := by
  have hmailbox := mailbox_run hrun authUser.id
  constructor
  · exact hmailbox
  · rw [countUnread_eq, hmailbox]
  · intro query pages hpages
    rw [← hmailbox]
    exact pagesShow hpages
  · intro now
    refine ⟨rfl, ?_⟩
    rw [countUnread_eq, mailbox_markAllRead, if_pos rfl, Mailbox.follow, Mailbox.apply, Mailbox.unread,
      List.countP_map, List.countP_eq_zero]
    intro entry _
    exact Bool.false_ne_true

namespace Sample

def inAppNotice (userId : Nat) : DispatchInAppParams where
  userId := userId
  notificationType := .EXPENSE_REIMBURSED
  title := "Expense reimbursed"
  body := "Your expense has been marked as reimbursed."
  data := some [("expenseReference", .str "EXP1700000000001AAAAAA")]

/-- Two notices for one user and one for another; the user reads the first. -/
def noticesRead : List (Turn MailArrival MailOutcome MailChange) :=
  [.start (.dispatchInApp (inAppNotice authOwner.id)), .start (.dispatchInApp (inAppNotice authOwner.id)),
    .start (.dispatchInApp (inAppNotice 2)), .step 0 .returns, .step 0 .returns,
    .step 1 .returns, .step 2 .returns, .step 2 .returns,
    .step 1 (.saves "NTF1700000000001AAAAAA" 1700000000000),
    .step 2 (.saves "NTF1700000000002AAAAAA" 1700000000000),
    .step 0 (.saves "NTF1700000000003AAAAAA" 1700000000001),
    .surroundings (.markRead authOwner "NTF1700000000001AAAAAA" 1700000000002)]

end Sample

theorem inbox_follows_sample : ∃ tr,
    Run (mail Sample.mailEnv).Step (Pool.idle .empty) tr ∧
      InboxFollows MailState.empty.db (Run.last (Pool.idle .empty) tr).shared.db Sample.authOwner
        (mailboxEvents Sample.authOwner.id (Pool.idle .empty) tr) ∧
      (Run.last (Pool.idle .empty) tr).shared.db.mailbox Sample.authOwner.id =
        [("NTF1700000000001AAAAAA", true), ("NTF1700000000003AAAAAA", false)] := by
  have hrun : ((mail Sample.mailEnv).exec Concurrent.anyStep Sample.noticesRead
      (Pool.idle .empty)).any (fun p => p.shared.db.mailbox Sample.authOwner.id =
        [("NTF1700000000001AAAAAA", true), ("NTF1700000000003AAAAAA", false)]) = true := by
    decide +kernel
  obtain ⟨p, hexec, hp⟩ := (Option.any_eq_true _ _).1 hrun
  obtain ⟨tr, htr, rfl⟩ := exists_run_of_exec hexec
  exact ⟨tr, htr.of_guarded, inbox_follows htr.of_guarded Sample.authOwner, of_decide_eq_true hp⟩

end Expentra
