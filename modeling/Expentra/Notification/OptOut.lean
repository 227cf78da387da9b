-- SUMMARY: Nobody is notified on a channel that is off for them, in any interleaving of the calls of the dispatcher.
import Expentra.Notification.Accounted

/-!
# Channels that are off

The preferences are asked once for each notification, before its row is saved. A call that
asked while the channel was on may save its row later; no other call does.
-/

namespace Expentra

open Library Library.Concurrent NotificationInboxService NotificationDispatchService

section OptOut

variable (userId : Nat) (channel : NotificationChannel) (type : NotificationType)

/-- The notifications that are of the user, the channel and the type. -/
def Notification.Concerns (n : Notification) : Prop :=
  n.userId = userId ∧ n.channel = channel ∧ n.type = type

/-- The user has preferences, and they say that the channel is off for the type. -/
def IsOff (s : MailState) : Prop :=
  ∃ preferences, s.db.preferences.find? userId = some preferences ∧
    isEnabled channel type preferences = false

/-- A call that has found the channel to be on and has not saved its row yet. -/
def MailThread.IsSaving : MailThread → Prop
  | .schedule params .saving =>
    params.userId = userId ∧ channel = .EMAIL ∧ params.notificationType = type
  | .dispatch params .saving =>
    params.userId = userId ∧ channel = .IN_APP ∧ params.notificationType = type
  | _ => False

/-- A request that turns the channel on. -/
def MailChange.TurnsOn : MailChange → Prop
  | .savePreferences preferences =>
    preferences.userId = userId ∧ isEnabled channel type preferences = true
  | _ => False

instance : DecidablePred (MailChange.TurnsOn userId channel type) := fun change =>
  match change with
  | .savePreferences preferences =>
    inferInstanceAs (Decidable (preferences.userId = userId ∧ isEnabled channel type preferences = true))
  | .markRead .. => isFalse (fun h => h)
  | .markAllRead .. => isFalse (fun h => h)
  | .stall _ => isFalse (fun h => h)

/-- The channel is off, and no row was added to those there were. -/
structure StaysOff (known : List String) (s : MailState) : Prop where
  off : IsOff userId channel type s
  rows : ∀ reference n, s.db.notifications.find? reference = some n →
    n.Concerns userId channel type → reference ∈ known

end OptOut

variable {env : NotificationEnv} {userId : Nat} {channel : NotificationChannel}
  {type : NotificationType} {known : List String} {s s' : MailState}

/-- A change of the rows that keeps whose they are. -/
theorem StaysOff.of_rows (h : StaysOff userId channel type known s)
    (hpreferences : s'.db.preferences = s.db.preferences)
    (hrows : ∀ reference n', s'.db.notifications.find? reference = some n' →
      ∃ n, s.db.notifications.find? reference = some n ∧ n'.userId = n.userId ∧
        n'.channel = n.channel ∧ n'.type = n.type) : StaysOff userId channel type known s' := by
  constructor
  · rw [IsOff, hpreferences]
    exact h.off
  · rintro reference n' hn' ⟨huser, hchannel, htype⟩
    obtain ⟨n, hn, huser', hchannel', htype'⟩ := hrows reference n' hn'
    exact h.rows reference n hn ⟨huser'.symm.trans huser, hchannel'.symm.trans hchannel,
      htype'.symm.trans htype⟩

theorem StaysOff.of_db (h : StaysOff userId channel type known s) (hdb : s'.db = s.db) :
    StaysOff userId channel type known s' :=
  h.of_rows (by rw [hdb]) (fun _ n hn => ⟨n, by rw [← hdb, hn], rfl, rfl, rfl⟩)

/-- A new row is of another user, channel or type. -/
theorem StaysOff.of_insert (h : StaysOff userId channel type known s) {n : Notification}
    (hn : ¬ n.Concerns userId channel type)
    (hinsert : MailThread.insertNotification s n = some s') :
    StaysOff userId channel type known s' := by
  have hfind := fun {reference m} => @MailInvariant.find?_insertNotification s s' n m reference hinsert
  obtain ⟨notifications, -, rfl⟩ := Option.map_eq_some_iff.1 hinsert
  refine ⟨h.off, fun reference m hm hconcerns => ?_⟩
  rcases hfind hm with ⟨-, rfl⟩ | hold
  · exact absurd hconcerns hn
  · exact h.rows reference m hold hconcerns

/-- The preferences of the user exist: only those of other users are inserted. -/
theorem StaysOff.insertPreferences (h : StaysOff userId channel type known s) {other : Nat}
    (hinsert : MailThread.insertPreferences s other = some s') :
    other ≠ userId ∧ StaysOff userId channel type known s' := by
  obtain ⟨preferences, hnew, rfl⟩ := Option.map_eq_some_iff.1 hinsert
  obtain ⟨old, hold, hoff⟩ := h.off
  have hne : other ≠ userId := by
    rintro rfl
    exact (Table.insert?_eq_some.1 hnew).1 old (Table.mem_of_find? hold) (Table.key_of_find? hold)
  refine ⟨hne, ⟨old, ?_, hoff⟩, h.rows⟩
  exact (Table.find?_insert_ne hnew (Ne.symm hne)).trans hold

/-- What `check` finds for the user. -/
theorem StaysOff.check (h : StaysOff userId channel type known s) {enabled : Bool}
    (hcheck : MailThread.check s.db userId channel type = some enabled) : enabled = false := by
  obtain ⟨old, hold, hoff⟩ := h.off
  rw [MailThread.check, hold] at hcheck
  exact (Option.some.inj hcheck).symm.trans hoff

/-- A step of `scheduleEmail`. -/
theorem staysOff_schedule (h : StaysOff userId channel type known s) {params : ScheduleEmailParams}
    {phase phase' : SchedulePhase} {outcome : MailOutcome}
    (hidle : ¬ (MailThread.schedule params phase).IsSaving userId channel type)
    (hstep : MailThread.advanceSchedule s params phase outcome = some (s', phase')) :
    StaysOff userId channel type known s' ∧
      ¬ (MailThread.schedule params phase').IsSaving userId channel type := by
  unfold MailThread.advanceSchedule at hstep
  split at hstep
  · split at hstep
    · next enabled hcheck =>
      cases hstep
      refine ⟨h, ?_⟩
      split
      · next htrue =>
        rintro ⟨rfl, rfl, rfl⟩
        cases htrue.symm.trans (h.check hcheck)
      · exact fun hno => hno
    · cases hstep
      exact ⟨h, fun hno => hno⟩
  · obtain ⟨s₁, hinsert, heq⟩ := Option.map_eq_some_iff.1 hstep
    cases heq
    obtain ⟨hne, hoff⟩ := h.insertPreferences hinsert
    refine ⟨hoff, ?_⟩
    split
    · rintro ⟨huser, -⟩
      exact hne huser
    · exact fun hno => hno
  · next reference now =>
    obtain ⟨s₁, hinsert, heq⟩ := Option.map_eq_some_iff.1 hstep
    cases heq
    refine ⟨h.of_insert ?_ hinsert, fun hno => hno⟩
    rintro ⟨huser, hchannel, htype⟩
    exact hidle ⟨huser, hchannel.symm, htype⟩
  · obtain ⟨s₁, hadd, heq⟩ := Option.map_eq_some_iff.1 hstep
    cases heq
    obtain ⟨jobs, -, rfl⟩ := Option.map_eq_some_iff.1 hadd
    exact ⟨h.of_db rfl, fun hno => hno⟩
  · split at hstep
    · obtain ⟨s₁, hadd, heq⟩ := Option.map_eq_some_iff.1 hstep
      cases heq
      obtain ⟨jobs, -, rfl⟩ := Option.map_eq_some_iff.1 hadd
      exact ⟨h.of_db rfl, fun hno => hno⟩
    · cases hstep
      exact ⟨h, fun hno => hno⟩
  · cases hstep
    exact ⟨h, fun hno => hno⟩
  · cases hstep
    exact ⟨h, fun hno => hno⟩
  · cases hstep
    exact ⟨h, fun hno => hno⟩
  · cases hstep

/-- A step of `dispatchInApp`. -/
theorem staysOff_dispatch (h : StaysOff userId channel type known s) {params : DispatchInAppParams}
    {phase phase' : DispatchPhase} {outcome : MailOutcome}
    (hidle : ¬ (MailThread.dispatch params phase).IsSaving userId channel type)
    (hstep : MailThread.advanceDispatch s params phase outcome = some (s', phase')) :
    StaysOff userId channel type known s' ∧
      ¬ (MailThread.dispatch params phase').IsSaving userId channel type := by
  unfold MailThread.advanceDispatch at hstep
  split at hstep
  · split at hstep
    · next enabled hcheck =>
      cases hstep
      refine ⟨h, ?_⟩
      split
      · next htrue =>
        rintro ⟨rfl, rfl, rfl⟩
        cases htrue.symm.trans (h.check hcheck)
      · exact fun hno => hno
    · cases hstep
      exact ⟨h, fun hno => hno⟩
  · obtain ⟨s₁, hinsert, heq⟩ := Option.map_eq_some_iff.1 hstep
    cases heq
    obtain ⟨hne, hoff⟩ := h.insertPreferences hinsert
    refine ⟨hoff, ?_⟩
    split
    · rintro ⟨huser, -⟩
      exact hne huser
    · exact fun hno => hno
  · next reference now =>
    obtain ⟨s₁, hinsert, heq⟩ := Option.map_eq_some_iff.1 hstep
    cases heq
    refine ⟨h.of_insert ?_ hinsert, fun hno => hno⟩
    rintro ⟨huser, hchannel, htype⟩
    exact hidle ⟨huser, hchannel.symm, htype⟩
  · cases hstep
    exact ⟨h, fun hno => hno⟩
  · cases hstep
    exact ⟨h, fun hno => hno⟩
  · cases hstep
    exact ⟨h, fun hno => hno⟩
  · cases hstep

/-! ## Rows that are marked -/

/-- What marking a row as sent, failed or read leaves alone. -/
structure Notification.SameReceiver (n n' : Notification) : Prop where
  reference : n'.reference = n.reference
  userId : n'.userId = n.userId
  channel : n'.channel = n.channel
  type : n'.type = n.type

theorem StaysOff.of_replace (h : StaysOff userId channel type known s) {n n' : Notification}
    (hn : s.db.notifications.find? n.reference = some n) (hsame : n.SameReceiver n') :
    StaysOff userId channel type known
      { s with db := { s.db with notifications := s.db.notifications.replace n' } } := by
  refine h.of_rows rfl (fun reference m hm => ?_)
  by_cases hreference : reference = n'.reference
  · subst hreference
    have hold : s.db.notifications.find? n'.reference = some n := by rw [hsame.reference, hn]
    obtain rfl := Option.some.inj ((Table.find?_replace_self hold).symm.trans hm)
    exact ⟨n, hold, hsame.userId, hsame.channel, hsame.type⟩
  · exact ⟨m, (Table.find?_replace_ne hreference).symm.trans hm, rfl, rfl, rfl⟩

theorem StaysOff.of_updateRow (h : StaysOff userId channel type known s) {reference : String}
    {assign : Notification → Notification} (hsame : ∀ n : Notification, n.SameReceiver (assign n)) :
    StaysOff userId channel type known { s with db := updateRow s.db reference assign } := by
  unfold updateRow
  split
  · next n hn => exact h.of_replace ((Table.key_of_find? hn).symm ▸ hn) (hsame n)
  · exact h

theorem sameReceiver_setRead (now : Instant) (n : Notification) : n.SameReceiver (setRead now n) := by
  unfold setRead
  split <;> exact ⟨rfl, rfl, rfl, rfl⟩

/-- An attempt adds no row. -/
theorem staysOff_attempt (h : StaysOff userId channel type known s) {jobId number : Nat}
    {data : EmailNotificationJobData} {phase phase' : AttemptPhase} {outcome : MailOutcome}
    (hstep : MailThread.advanceAttempt env s jobId number data phase outcome = some (s', phase')) :
    StaysOff userId channel type known s' := by
  have hsent : ∀ now, StaysOff userId channel type known
      { s with db := markSent s.db data.notificationReference now } :=
    fun now => h.of_updateRow (fun _ => ⟨rfl, rfl, rfl, rfl⟩)
  unfold MailThread.advanceAttempt at hstep
  split at hstep
  · dsimp only at hstep
    split at hstep
    · cases hstep
      exact h.of_db rfl
    · cases hstep
      exact h.of_db rfl
  · cases hstep
    exact h
  · cases hstep
    exact hsent _
  · cases hstep
    split
    · exact hsent _
    · exact h
  · unfold MailThread.report at hstep
    split at hstep
    · split at hstep
      · cases hstep
        exact h.of_db rfl
      · cases hstep
    · cases hstep
  · cases hstep
    exact h
  · cases hstep
    exact h.of_updateRow (fun _ => ⟨rfl, rfl, rfl, rfl⟩)
  · cases hstep
    exact h
  · cases hstep

theorem staysOff_deliver (h : StaysOff userId channel type known s) {jobId : Nat} {t : MailThread}
    (hstart : MailThread.deliver s jobId = some (s', t)) :
    StaysOff userId channel type known s' ∧ ¬ t.IsSaving userId channel type := by
  unfold MailThread.deliver at hstart
  split at hstart
  · split at hstart
    · cases hstart
      exact ⟨h.of_db rfl, fun hno => hno⟩
    · cases hstart
  · cases hstart

/-! ## The preferences of a user -/

/-- Without preferences of one's own every channel is on. -/
theorem isEnabled_defaultPreference (userId : Nat) (channel : NotificationChannel)
    (type : NotificationType) : isEnabled channel type (defaultPreference userId) = true := by
  cases channel <;> rfl

/-- A channel is off for those whom `isChannelEnabled` says so of. -/
theorem isChannelEnabled_eq_false_iff :
    (isChannelEnabled s.db userId channel type).1 = false ↔ IsOff userId channel type s := by
  unfold isChannelEnabled getPreferences IsOff
  cases s.db.preferences.find? userId with
  | some existing => simp
  | none => simp [isEnabled_defaultPreference]

/-- A request for preferences that switch a channel off leaves it off. -/
theorem isOff_updatePreferences {input : UpdateNotificationPreferencesInput}
    (hoff : isEnabled channel type (updatePreferences s.db userId input).1 = false) :
    IsOff userId channel type { s with db := (updatePreferences s.db userId input).2 } := by
  have huser : (updatePreferences s.db userId input).1.userId = userId := by
    change (getPreferences s.db userId).1.userId = userId
    unfold getPreferences
    split
    · next existing hfound => exact Table.key_of_find? hfound
    · rfl
  obtain ⟨saved, hsaved⟩ : ∃ saved, (updatePreferences s.db userId input).1 = saved := ⟨_, rfl⟩
  have hself : ((getPreferences s.db userId).2.preferences.upsert saved).find? saved.userId =
      some saved := Table.find?_upsert_self
  rw [hsaved] at huser hoff
  rw [huser, ← hsaved] at hself
  exact ⟨_, hself, hsaved ▸ hoff⟩

/-- The two statements that ask for the preferences of a user are `isChannelEnabled`: one that
    finds them, -/
theorem isChannelEnabled_of_check {enabled : Bool}
    (h : MailThread.check s.db userId channel type = some enabled) :
    isChannelEnabled s.db userId channel type = (enabled, s.db) := by
  obtain ⟨existing, hfound, rfl⟩ := Option.map_eq_some_iff.1 h
  rw [isChannelEnabled, getPreferences, hfound]

/-- and one that inserts the default when there are none. -/
theorem isChannelEnabled_of_insertPreferences
    (h : MailThread.check s.db userId channel type = none)
    (hinsert : MailThread.insertPreferences s userId = some s') :
    isChannelEnabled s.db userId channel type =
      (isEnabled channel type (defaultPreference userId), s'.db) := by
  obtain ⟨preferences, hnew, rfl⟩ := Option.map_eq_some_iff.1 hinsert
  rw [isChannelEnabled, getPreferences, Option.map_eq_none_iff.1 h]
  simp only [Table.upsert, hnew]

/-! ## Changes -/

theorem staysOff_markRead (h : StaysOff userId channel type known s) {authUser : AuthUser}
    {reference : String} {now : Instant}
    (hchange : MailThread.applyChange s (.markRead authUser reference now) = some s') :
    StaysOff userId channel type known s' := by
  have hread : (markRead s.db authUser reference now).toOption.map
      (fun read => { s with db := read.2 }) = some s' := hchange
  have hrow : ∀ read, (markRead s.db authUser reference now).toOption = some read →
      ∃ n n' : Notification, s.db.notifications.find? n.reference = some n ∧ n.SameReceiver n' ∧
        read.2 = { s.db with notifications := s.db.notifications.replace n' } := by
    intro read hsome
    obtain ⟨found, hfound, hok⟩ := Except.bind_eq_ok.1 (eq_ok_of_toOption hsome)
    split at hok
    · cases hok
    · cases hok
      exact ⟨found, _, Table.find?_of_mem (findEntityByReference_eq_ok hfound).1,
        sameReceiver_setRead now found, rfl⟩
  refine (Option.map_eq_some_iff.1 hread).elim (fun read hpair => ?_)
  rw [← hpair.2]
  obtain ⟨n, n', hn, hsame, hdb⟩ := hrow read hpair.1
  rw [hdb]
  exact h.of_replace hn hsame

theorem staysOff_markAllRead (h : StaysOff userId channel type known s) {authUser : AuthUser}
    {now : Instant} (hchange : MailThread.applyChange s (.markAllRead authUser now) = some s') :
    StaysOff userId channel type known s' := by
  rw [(Option.some.inj hchange).symm]
  refine h.of_rows rfl (fun reference n' hn' => ?_)
  have hmodify := @Table.find?_modify _ _ _ s.db.notifications reference _ _
    (setReadIf_reference (isInApp authUser.id) now)
  obtain ⟨n, hn, rfl⟩ := Option.map_eq_some_iff.1 (hmodify.symm.trans hn')
  refine ⟨n, hn, ?_⟩
  split
  · have hsame := sameReceiver_setRead now n
    exact ⟨hsame.userId, hsame.channel, hsame.type⟩
  · exact ⟨rfl, rfl, rfl⟩

theorem staysOff_savePreferences (h : StaysOff userId channel type known s)
    {preferences : NotificationPreference}
    (hkeeps : ¬ (MailChange.savePreferences preferences).TurnsOn userId channel type) :
    StaysOff userId channel type known
      { s with db := { s.db with preferences := s.db.preferences.upsert preferences } } := by
  refine ⟨?_, h.rows⟩
  by_cases huser : preferences.userId = userId
  · refine ⟨preferences, ?_, ?_⟩
    · rw [← huser]
      exact Table.find?_upsert_self
    · exact Bool.eq_false_iff.2 (fun htrue => hkeeps ⟨huser, htrue⟩)
  · obtain ⟨old, hold, hoff⟩ := h.off
    exact ⟨old, (Table.find?_upsert_ne (Ne.symm huser)).trans hold, hoff⟩

theorem staysOff_stall (h : StaysOff userId channel type known s) {jobId : Nat}
    (hchange : MailThread.applyChange s (.stall jobId) = some s') :
    StaysOff userId channel type known s' := by
  obtain ⟨_, -, -, rfl⟩ := MailThread.applyChange_stall hchange
  exact h.of_db rfl

/-! ## The result -/

/-- The invariant has an outline while nobody turns the channel on. -/
theorem staysOff_outline (hessential : channel = .EMAIL → type ∉ ESSENTIAL_AUTH_EMAIL_TYPES) :
    ((mail env).avoiding (MailChange.TurnsOn userId channel type)).Outline anyStep
      (StaysOff userId channel type known)
      (fun _ _ t => ¬ t.IsSaving userId channel type) where
  start := by
    intro s arrival s' t h hstart
    cases arrival with
    | scheduleEmail params =>
      cases hstart
      refine ⟨h, fun _ => ?_, fun _ _ hu => hu⟩
      unfold MailThread.scheduled
      split
      · next hlisted =>
        rintro ⟨-, rfl, rfl⟩
        exact hessential rfl (List.contains_iff_mem.1 hlisted)
      · exact fun hno => hno
    | dispatchInApp params =>
      cases hstart
      exact ⟨h, fun _ hno => hno, fun _ _ hu => hu⟩
    | deliver jobId =>
      obtain ⟨hoff, hidle⟩ := staysOff_deliver h hstart
      exact ⟨hoff, fun _ => hidle, fun _ _ hu => hu⟩
  step := by
    intro i s t outcome s' t' h hidle _ hstep
    have hboth : StaysOff userId channel type known s' ∧ ¬ t'.IsSaving userId channel type := by
      match t, hstep with
      | .schedule params phase, hstep =>
        obtain ⟨_, hadvance, heq⟩ := Option.map_eq_some_iff.1 hstep
        cases heq
        exact staysOff_schedule h hidle hadvance
      | .dispatch params phase, hstep =>
        obtain ⟨_, hadvance, heq⟩ := Option.map_eq_some_iff.1 hstep
        cases heq
        exact staysOff_dispatch h hidle hadvance
      | .attempt jobId number data phase, hstep =>
        obtain ⟨_, hadvance, heq⟩ := Option.map_eq_some_iff.1 hstep
        cases heq
        exact ⟨staysOff_attempt h hadvance, fun hno => hno⟩
    exact ⟨hboth.1, hboth.2, fun _ _ _ hu => hu⟩
  surroundings := by
    intro s change s' h hchange
    have hallowed : ¬ change.TurnsOn userId channel type ∧
        MailThread.applyChange s change = some s' := by
      change (if change.TurnsOn userId channel type then none else
        MailThread.applyChange s change) = some s' at hchange
      split at hchange
      · cases hchange
      · next hallowed => exact ⟨hallowed, hchange⟩
    refine ⟨?_, fun _ _ hu => hu⟩
    cases change with
    | markRead authUser reference now => exact staysOff_markRead h hallowed.2
    | markAllRead authUser now => exact staysOff_markAllRead h hallowed.2
    | savePreferences preferences =>
      rw [(Option.some.inj hallowed.2).symm]
      exact staysOff_savePreferences h hallowed.1
    | stall jobId => exact staysOff_stall h hallowed.2

/-- From any state in which a channel is off for a user, as long as it is not turned on and
    no call is under way that has asked before: the notifications the user has on the channel
    stay those there are. Two types of emails are not subject to preferences. -/
theorem opt_out_respected {p p' : Pool MailState MailThread}
    (hessential : channel = .EMAIL → type ∉ ESSENTIAL_AUTH_EMAIL_TYPES)
    (hoff : IsOff userId channel type p.shared)
    (hidle : ∀ t ∈ p.threads, ¬ t.IsSaving userId channel type)
    (hreach : Reaches (Guarded (Avoids (MailChange.TurnsOn userId channel type)) (mail env).Step) p p') :
    ∀ n ∈ p'.shared.db.notifications, n.Concerns userId channel type →
      ∃ n₀ ∈ p.shared.db.notifications, n₀.reference = n.reference := by
  have hstart : StaysOff userId channel type (p.shared.db.notifications.rows.map (·.reference))
      p.shared :=
    ⟨hoff, fun reference n hn _ =>
      List.mem_map.2 ⟨n, Table.mem_of_find? hn, Table.key_of_find? hn⟩⟩
  have hholds := (staysOff_outline hessential).reaches_anyStep
    (p := p) ⟨hstart, fun i t ht => hidle t (List.mem_of_getElem? ht)⟩ (reaches_avoiding hreach)
  intro n hn hconcerns
  obtain ⟨n₀, hn₀, hsame⟩ :=
    List.mem_map.1 (hholds.shared.rows n.reference n (Table.find?_of_mem hn) hconcerns)
  exact ⟨n₀, hn₀, hsame⟩

namespace Sample

/-- Emails of approvals are off for the user, everything else is on. -/
def noApprovalEmails : NotificationPreference :=
  ⟨3, true, true, [("EXPENSE_APPROVED", .obj [("email", .bool false)])]⟩

def optedOut : MailState :=
  { MailState.empty with db := ⟨∅, (∅ : Table NotificationPreference.userId).upsert noApprovalEmails⟩ }

def approvalEmail : ScheduleEmailParams where
  userId := 3
  notificationType := .EXPENSE_APPROVED
  to_ := "owner@expentra.test"
  template := some "Expense Approved"
  data := none
  attachments := []

def approvalInApp : DispatchInAppParams where
  userId := 3
  notificationType := .EXPENSE_APPROVED
  title := "Expense approved"
  body := "Your expense was approved."
  data := none

def approvalNotified : List (Turn MailArrival MailOutcome MailChange) :=
  [.start (.scheduleEmail approvalEmail), .start (.dispatchInApp approvalInApp), .step 0 .returns,
    .step 1 .returns, .step 1 (.saves "NTF1700000000002AAAAAA" 1700000000000)]

end Sample

/-- The approval is shown in the application and not mailed. -/
theorem opt_out_respected_sample : ∃ p,
    (mail Sample.mailEnv).execGuarded (Avoids (MailChange.TurnsOn 3 .EMAIL .EXPENSE_APPROVED))
        Sample.approvalNotified (Pool.idle Sample.optedOut) = some p ∧
      (∀ n ∈ p.shared.db.notifications, n.Concerns 3 .EMAIL .EXPENSE_APPROVED →
        ∃ n₀ ∈ Sample.optedOut.db.notifications, n₀.reference = n.reference) ∧
      p.shared.db.notifications.rows.map (·.channel) = [.IN_APP] := by
  have hrun : ((mail Sample.mailEnv).execGuarded
      (Avoids (MailChange.TurnsOn 3 .EMAIL .EXPENSE_APPROVED)) Sample.approvalNotified
      (Pool.idle Sample.optedOut)).any
        (fun p => p.shared.db.notifications.rows.map (·.channel) = [.IN_APP]) = true := by
    decide +kernel
  obtain ⟨p, hexec, hp⟩ := (Option.any_eq_true _ _).1 hrun
  exact ⟨p, hexec, opt_out_respected (fun _ => by decide)
    ⟨Sample.noApprovalEmails, rfl, by decide +kernel⟩ (fun _ ht => absurd ht List.not_mem_nil)
    (reaches_of_execGuarded hexec), of_decide_eq_true hp⟩

end Expentra
