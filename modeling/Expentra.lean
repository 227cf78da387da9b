import Expentra.Approval.ActionableQueue
import Expentra.Approval.Authority
import Expentra.Approval.Chain
import Expentra.Approval.Decisions
import Expentra.Approval.Delegates
import Expentra.Approval.Delegation
import Expentra.Approval.Healing
import Expentra.Approval.Impact
import Expentra.Approval.LevelExport
import Expentra.Approval.Levels
import Expentra.Approval.Pending
import Expentra.Approval.Refusals
import Expentra.Approval.Routes
import Expentra.Approval.Routing
import Expentra.Approval.Soundness
import Expentra.Approval.Stuck
import Expentra.Audit.Log
import Expentra.Authorization.Ability
import Expentra.Authorization.AccessPolicy
import Expentra.Authorization.Assignment
import Expentra.Authorization.Escalation
import Expentra.Budget.Administration
import Expentra.Budget.Alerts
import Expentra.Budget.Concurrency
import Expentra.Budget.Counters
import Expentra.Budget.DepartmentChange
import Expentra.Budget.Edits
import Expentra.Budget.Ledger
import Expentra.Budget.Overspend
import Expentra.Budget.Period
import Expentra.Budget.Reconciliation
import Expentra.Budget.Service
import Expentra.Budget.Summaries
import Expentra.Budget.Sync
import Expentra.Budget.Utilization
import Expentra.Budget.YearWindow
import Expentra.Core.Calendar
import Expentra.Core.Formatting
import Expentra.Core.Javascript
import Expentra.Core.Json
import Expentra.Core.JsonText
import Expentra.Core.LetterCase
import Expentra.Core.Number
import Expentra.Core.NumberText
import Expentra.Core.Redis
import Expentra.Dashboard.Dashboards
import Expentra.Dashboard.SpendOverTime
import Expentra.Database.Entities
import Expentra.Database.Store
import Expentra.Department.Approvers
import Expentra.Department.ListExport
import Expentra.Department.Manager
import Expentra.Department.ManagerHistory
import Expentra.Department.Membership
import Expentra.Department.PendingCounts
import Expentra.Expense.BudgetFlags
import Expentra.Expense.BulkOperations
import Expentra.Expense.Compliance
import Expentra.Expense.Dates
import Expentra.Expense.Discussion
import Expentra.Expense.Draft
import Expentra.Expense.DraftEdits
import Expentra.Expense.DraftPrivacy
import Expentra.Expense.Evidence
import Expentra.Expense.Exceptions
import Expentra.Expense.Listing
import Expentra.Expense.Lists
import Expentra.Expense.Preview
import Expentra.Expense.Query
import Expentra.Expense.Queues
import Expentra.Expense.Receipts
import Expentra.Expense.Reimbursement
import Expentra.Expense.Requests
import Expentra.Expense.Resubmission
import Expentra.Expense.Submit
import Expentra.Expense.SubmitStatements
import Expentra.Expense.Support
import Expentra.Expense.Timestamps
import Expentra.Expense.Twin
import Expentra.Export.Amounts
import Expentra.Export.Completeness
import Expentra.Export.Csv
import Expentra.Export.Generation
import Expentra.Export.Listings
import Expentra.Export.Queue
import Expentra.Export.Search
import Expentra.Export.Served
import Expentra.Idempotency.AtMostOnce
import Expentra.Idempotency.BodyHash
import Expentra.Idempotency.Interceptor
import Expentra.Idempotency.Isolation
import Expentra.Identity.Auth
import Expentra.Identity.AuthOperations
import Expentra.Identity.Codes
import Expentra.Identity.Coherence
import Expentra.Identity.Departments
import Expentra.Identity.Directory
import Expentra.Identity.Mutations
import Expentra.Identity.OneTime
import Expentra.Identity.RoleCalls
import Expentra.Identity.RoleCreation
import Expentra.Identity.Roles
import Expentra.Identity.Sessions
import Expentra.Identity.Sso
import Expentra.Identity.SsoBinding
import Expentra.Identity.Suspension
import Expentra.Identity.Tokens
import Expentra.Identity.Transfers
import Expentra.Identity.UserCalls
import Expentra.Identity.Users
import Expentra.Identity.Validations
import Expentra.Library.Batch
import Expentra.Library.Cache
import Expentra.Library.GroupBy
import Expentra.Library.History
import Expentra.Library.Interleaving
import Expentra.Library.Locking
import Expentra.Library.Lookahead
import Expentra.Library.Paging
import Expentra.Library.Process
import Expentra.Library.Query
import Expentra.Library.Run
import Expentra.Library.Scan
import Expentra.Library.SelfDelimiting
import Expentra.Library.SlidingWindow
import Expentra.Library.Table
import Expentra.Library.Taking
import Expentra.Library.Tickets
import Expentra.Library.Transaction
import Expentra.Library.Traversal
import Expentra.Notification.Accounted
import Expentra.Notification.Email
import Expentra.Notification.Inbox
import Expentra.Notification.Mailbox
import Expentra.Notification.OptOut
import Expentra.Outbox.Delivery
import Expentra.Outbox.HandledOnce
import Expentra.Outbox.Processed
import Expentra.Outbox.Relay
import Expentra.Outbox.RelayPass
import Expentra.Policy.ActivePolicies
import Expentra.Policy.Catalog
import Expentra.Policy.CategoryCaps
import Expentra.Policy.Condition
import Expentra.Policy.Engine
import Expentra.Policy.Normalization
import Expentra.Policy.RoundTrip
import Expentra.Policy.Storage
import Expentra.Policy.Verdicts
import Expentra.RateLimiter.SlidingWindow
import Expentra.Receipt.Files
import Expentra.Receipt.Kept
import Expentra.Receipt.Storage
import Expentra.Report.Agreement
import Expentra.Report.Months
import Expentra.Report.Payout
import Expentra.Report.Periods
import Expentra.Report.Spending
import Expentra.Report.Summary
import Expentra.Report.Yearly
import Expentra.System.Effects
import Expentra.System.Operations
import Expentra.System.Serials
