import Heritage.Store.Transaction
import Heritage.Store.Retry
import Heritage.Store.Table
import Heritage.Store.Search
import Heritage.Store.Counters
import Heritage.Store.Aggregate
import Heritage.Store.History
import Heritage.Store.Grouping
import Heritage.Store.Loops
import Heritage.Store.Tenure
import Heritage.Store.Paging
import Heritage.Store.Noninterference
import Heritage.Text.Trim
import Heritage.Text.Runs
import Heritage.Text.Csv
import Heritage.Text.Rfc4180
import Heritage.Text.Decimal
import Heritage.Calendar.Digits
import Heritage.Calendar.Gregorian
import Heritage.Calendar.DateTime
import Heritage.Shared.Identity
import Heritage.Shared.Contact
import Heritage.Shared.Access
import Heritage.Shared.PrismaErrors
import Heritage.Shared.SerializableTransaction
import Heritage.Payments.Tables
import Heritage.Payments.Errors
import Heritage.Payments.Calculations
import Heritage.Payments.NextDue
import Heritage.Payments.Repository
import Heritage.Payments.Ledger
import Heritage.Payments.Service
import Heritage.Payments.System
import Heritage.Payments.Commits
import Heritage.Payments.Inversion
import Heritage.Payments.Refinement
import Heritage.Payments.Integrity
import Heritage.Payments.Persistence
import Heritage.Payments.Totals
import Heritage.Payments.Plans
import Heritage.Payments.BookingList
import Heritage.Payments.Solvency
import Heritage.Payments.Capacity
import Heritage.Payments.Summary
import Heritage.Payments.Replay
import Heritage.Payments.Enumeration
import Heritage.Payments.Chains
import Heritage.Payments.ExactlyOnce
import Heritage.Exports.Schemas
import Heritage.Exports.Dates
import Heritage.Exports.Tables
import Heritage.Exports.Csv
import Heritage.Exports.Repository
import Heritage.Exports.Joins
import Heritage.Exports.Summaries
import Heritage.Exports.Records
import Heritage.Exports.Rows
import Heritage.Exports.Service
import Heritage.Exports.Filters
import Heritage.Exports.Printed
import Heritage.Exports.Audited
import Heritage.Exports.Origin
import Heritage.Exports.Accepted
import Heritage.Exports.Amounts
import Heritage.Exports.Figures
import Heritage.Exports.Reconciliation
import Heritage.Bookings.Service
import Heritage.Bookings.System
import Heritage.Bookings.Cancelled
import Heritage.Proposals.Repository
import Heritage.Proposals.Service
import Heritage.Proposals.Retries
import Heritage.Proposals.Responses
import Heritage.Proposals.System
import Heritage.Proposals.Writes
import Heritage.Proposals.Lifecycle
import Heritage.Journeys.Creation
import Heritage.Journeys.Retries
import Heritage.Journeys.System
import Heritage.Journeys.Commits
import Heritage.Journeys.Persistence
import Heritage.Journeys.Invariants
import Heritage.Journeys.Responses
import Heritage.Journeys.Bookings
import Heritage.Journeys.TravelStatus
import Heritage.Journeys.TravelTruth
import Heritage.Leads.Tables
import Heritage.Leads.Repository
import Heritage.Leads.Service
import Heritage.Leads.System
import Heritage.Leads.Commits
import Heritage.Leads.Contactable
import Heritage.Leads.Frozen
import Heritage.Leads.Options
import Heritage.Clients.Repository
import Heritage.Clients.Service
import Heritage.Clients.System
import Heritage.Clients.Commits
import Heritage.Clients.Duplicates
import Heritage.Clients.Spellings
import Heritage.Clients.Normalized
import Heritage.Clients.Edits
import Heritage.Clients.Conversions
import Heritage.Clients.Replay
import Heritage.Clients.Schemas
import Heritage.Clients.DateOfBirth
import Heritage.Clients.EditSessions
import Heritage.Assignments.Repository
import Heritage.Assignments.Service
import Heritage.Assignments.System
import Heritage.Assignments.Tenures
import Heritage.Assignments.Commits
import Heritage.Assignments.Inheritance
import Heritage.Assignments.History
import Heritage.Invitations.Tables
import Heritage.Invitations.Repository
import Heritage.Invitations.Service
import Heritage.Activation.Repository
import Heritage.Activation.Service
import Heritage.Activation.RateLimit
import Heritage.Activation.FixedWindows
import Heritage.Activation.Source
import Heritage.Activation.Endpoint
import Heritage.Invitations.System
import Heritage.Invitations.Commits
import Heritage.Invitations.Evidence
import Heritage.Invitations.Verified
import Heritage.Conversations.Repository
import Heritage.Conversations.Service
import Heritage.Conversations.System
import Heritage.Conversations.Commits
import Heritage.Conversations.Answerable
import Heritage.Conversations.Views
import Heritage.Conversations.Noninterference
import Heritage.Invitations.Tokens
import Heritage.Invitations.Identities
import Heritage.Invitations.Resends
import Heritage.Portal.Pages
import Heritage.Portal.ProposalReview
import Heritage.Portal.BookingList
import Heritage.Staff.Repository
import Heritage.Staff.Service
import Heritage.Staff.System
import Heritage.Staff.Administrators
import Heritage.Staff.Sessions
import Heritage.Office.System
import Heritage.Office.Access
import Heritage.Office.Admission
import Heritage.Office.Freshness
import Heritage.Office.Lists
import Heritage.Office.Visibility
import Heritage.Store.Trail
import Heritage.Assignments.Audits
import Heritage.Payments.Audits
import Heritage.Journeys.Audits
import Heritage.Invitations.Audits
import Heritage.Office.Entries
import Heritage.Office.AuditTrail
import Heritage.Bookings.StatusPanel
import Heritage.Journeys.StatusPanels
import Heritage.Leads.Life
import Heritage.Office.LeadLives
