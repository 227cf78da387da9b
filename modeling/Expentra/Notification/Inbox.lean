-- SUMMARY: Notifications, the preferences of their receivers, and the inbox: listing, marking as read, choosing channels.
import Expentra.Audit.Log
import Expentra.Expense.Query
import Expentra.Policy.CategoryCaps

/-!
# The inbox

A notification is a row of one user on one channel. The inbox lists the rows of the channel
of the application; the rows of the other channel stand for emails. A user has at most one
row of preferences, which is created when it is first read.
-/

namespace Expentra

open Library

inductive NotificationType where
  | EXPENSE_SUBMITTED | EXPENSE_APPROVED | EXPENSE_REJECTED | EXPENSE_PENDING_FINANCE
  | EXPENSE_ESCALATED | EXPENSE_REIMBURSED | BUDGET_OVERSPEND | BUDGET_THRESHOLD
  | EMAIL_VERIFICATION | PASSWORD_RESET_REQUEST | USER_DEPARTMENT_CHANGED
  | DEPARTMENT_MANAGER_CHANGED | EXPORT_READY | USER_SUSPENDED
deriving DecidableEq, Repr

def NotificationType.value : NotificationType → String
  | .EXPENSE_SUBMITTED => "EXPENSE_SUBMITTED"
  | .EXPENSE_APPROVED => "EXPENSE_APPROVED"
  | .EXPENSE_REJECTED => "EXPENSE_REJECTED"
  | .EXPENSE_PENDING_FINANCE => "EXPENSE_PENDING_FINANCE"
  | .EXPENSE_ESCALATED => "EXPENSE_ESCALATED"
  | .EXPENSE_REIMBURSED => "EXPENSE_REIMBURSED"
  | .BUDGET_OVERSPEND => "BUDGET_OVERSPEND"
  | .BUDGET_THRESHOLD => "BUDGET_THRESHOLD"
  | .EMAIL_VERIFICATION => "EMAIL_VERIFICATION"
  | .PASSWORD_RESET_REQUEST => "PASSWORD_RESET_REQUEST"
  | .USER_DEPARTMENT_CHANGED => "USER_DEPARTMENT_CHANGED"
  | .DEPARTMENT_MANAGER_CHANGED => "DEPARTMENT_MANAGER_CHANGED"
  | .EXPORT_READY => "EXPORT_READY"
  | .USER_SUSPENDED => "USER_SUSPENDED"

inductive NotificationChannel where
  | EMAIL
  | IN_APP
deriving DecidableEq, Repr

inductive NotificationStatus where
  | PENDING
  | SENT
  | FAILED
deriving DecidableEq, Repr

/-- A row of `notifications`. -/
structure Notification where
  reference : String
  userId : Nat
  type : NotificationType
  channel : NotificationChannel
  payload : Metadata
  status : NotificationStatus
  sentAt : Option Instant
  readAt : Option Instant
  errorMessage : Option String
  createdAt : Instant
deriving DecidableEq

/-- A row of `notification_preferences`. The preferences of a type are whatever JSON the
    request sent for it. -/
structure NotificationPreference where
  userId : Nat
  emailEnabled : Bool
  inAppEnabled : Bool
  typePreferences : Metadata
deriving DecidableEq

structure NotificationDb where
  notifications : Table Notification.reference
  preferences : Table NotificationPreference.userId

structure ListNotificationsQuery where
  unreadOnly : Bool
  readOnly : Bool
  page : Option Int
  limit : Option Int
deriving DecidableEq, Repr

structure NotificationListMeta where
  page : Nat
  limit : Nat
  total : Nat
  totalPages : Nat
  unreadCount : Nat
deriving DecidableEq, Repr

structure NotificationList where
  data : List Notification
  listMeta : NotificationListMeta
deriving DecidableEq

structure UpdateNotificationPreferencesInput where
  emailEnabled : Option Bool
  inAppEnabled : Option Bool
  typePreferences : Option Metadata

/-- `{ ...left, ...right }`; the order of the properties means nothing in a `jsonb` column. -/
def Metadata.spread (left right : Metadata) : Metadata :=
  left.filter (fun field => !(right.map Prod.fst).contains field.1) ++ right

namespace NotificationInboxService

variable (db : NotificationDb)

/-! ## Preferences -/

/-- The row `create` makes for a user, with the defaults of the columns. -/
def defaultPreference (userId : Nat) : NotificationPreference := ⟨userId, true, true, []⟩

/-- `getPreferences`: the row, which is created when there is none. -/
def getPreferences (userId : Nat) : NotificationPreference × NotificationDb :=
  match db.preferences.find? userId with
  | some existing => (existing, db)
  | none =>
    (defaultPreference userId,
      { db with preferences := db.preferences.upsert (defaultPreference userId) })

/-- The preferences `updatePreferences` saves. The preferences of a type are replaced as a
    whole. -/
def updatedPreferences (preferences : NotificationPreference)
    (input : UpdateNotificationPreferencesInput) : NotificationPreference where
  userId := preferences.userId
  emailEnabled := input.emailEnabled.getD preferences.emailEnabled
  inAppEnabled := input.inAppEnabled.getD preferences.inAppEnabled
  typePreferences := match input.typePreferences with
    | some typePreferences => preferences.typePreferences.spread typePreferences
    | none => preferences.typePreferences

def updatePreferences (userId : Nat) (input : UpdateNotificationPreferencesInput) :
    NotificationPreference × NotificationDb :=
  let (preferences, db) := getPreferences db userId
  let updated := updatedPreferences preferences input
  (updated, { db with preferences := db.preferences.upsert updated })

/-- The switch of a channel. -/
def globalEnabled (channel : NotificationChannel) (preferences : NotificationPreference) : Bool :=
  match channel with
  | .EMAIL => preferences.emailEnabled
  | .IN_APP => preferences.inAppEnabled

/-- `'email'` or `'inApp'`, the name of a channel in the preferences. -/
def channelKey : NotificationChannel → String
  | .EMAIL => "email"
  | .IN_APP => "inApp"

/-- What `isChannelEnabled` makes of the preferences: a type is enabled unless its own
    preference says `false`. -/
def isEnabled (channel : NotificationChannel) (type : NotificationType)
    (preferences : NotificationPreference) : Bool :=
  globalEnabled channel preferences &&
    match (Json.obj preferences.typePreferences).get? type.value with
    | none => true
    | some typePref =>
      !CategoryCaps.isTruthy (some typePref) || typePref.get? (channelKey channel) ≠ some (.bool false)

/-- `isChannelEnabled` -/
def isChannelEnabled (userId : Nat) (channel : NotificationChannel) (type : NotificationType) :
    Bool × NotificationDb :=
  let (preferences, db) := getPreferences db userId
  (isEnabled channel type preferences, db)

/-! ## Reading -/

/-- The notifications of the channel of the application. -/
def isInApp (userId : Nat) (notification : Notification) : Bool :=
  notification.userId = userId && notification.channel = .IN_APP

def countUnread (userId : Nat) : Nat :=
  db.notifications.rows.countP (fun n => isInApp userId n && n.readAt.isNone)

/-- The filter of a list. -/
def isListed (query : ListNotificationsQuery) (notification : Notification) : Bool :=
  if query.unreadOnly then notification.readAt.isNone
  else if query.readOnly then notification.readAt.isSome
  else true

def resolvePage (query : ListNotificationsQuery) : Pagination :=
  let page := (max 1 (ExpenseQueryService.orDefault query.page 1)).toNat
  let limit := (min 100 (max 1 (ExpenseQueryService.orDefault query.limit 20))).toNat
  { page, limit, skip := (page - 1) * limit }

/-- The rows of a list, the newest first. Every query takes rows of one time in the order of the
    table, which PostgreSQL leaves open. -/
def listed (authUser : AuthUser) (query : ListNotificationsQuery) : List Notification :=
  (db.notifications.rows.filter (fun n => isInApp authUser.id n && isListed query n)).insertionSort
    (fun left right => right.createdAt ≤ left.createdAt)

def listInApp (authUser : AuthUser) (query : ListNotificationsQuery) :
    Except HttpException NotificationList :=
  let pagination := resolvePage query
  if query.unreadOnly && query.readOnly then
    .error (.badRequest "Cannot filter unread and read notifications at the same time")
  else
    let rows := listed db authUser query
    .ok ⟨(rows.drop pagination.skip).take pagination.limit,
      { page := pagination.page
        limit := pagination.limit
        total := rows.length
        totalPages := if rows.length = 0 then 0
          else (rows.length + pagination.limit - 1) / pagination.limit
        unreadCount := countUnread db authUser.id }⟩

/-- A notification with the time it was read at, if it has none yet. -/
def setRead (now : Instant) (notification : Notification) : Notification :=
  if notification.readAt.isNone then { notification with readAt := some now } else notification

def markRead (authUser : AuthUser) (reference : String) (now : Instant) :
    Except HttpException (Notification × NotificationDb) := do
  let notification ← findEntityByReference db.notifications.rows (·.reference) reference
    "Notification not found"
  if notification.userId ≠ authUser.id then throw (.notFound "Notification not found")
  let read := setRead now notification
  pure (read, { db with notifications := db.notifications.replace read })

theorem setRead_reference (now : Instant) (notification : Notification) :
    (setRead now notification).reference = notification.reference := by
  unfold setRead
  split <;> rfl

theorem setReadIf_reference (p : Notification → Bool) (now : Instant) (notification : Notification) :
    (if p notification then setRead now notification else notification).reference =
      notification.reference := by
  split
  · exact setRead_reference now notification
  · rfl

/-- `markAllRead`: how many rows were updated. -/
def markAllRead (authUser : AuthUser) (now : Instant) : Nat × NotificationDb :=
  (countUnread db authUser.id, { db with
    notifications := db.notifications.modify
      (fun n => if isInApp authUser.id n then setRead now n else n)
      (setReadIf_reference (isInApp authUser.id) now) })

end NotificationInboxService

end Expentra
