import OdooMcp.Effect.Interleaving
import OdooMcp.Effect.Relational
import OdooMcp.Server.AccountingWrite
import OdooMcp.Storage.Execution
import OdooMcp.HashChain
import OdooMcp.Redaction
import OdooMcp.Storage.AuditSystem
import OdooMcp.Storage.AuditTamper
import OdooMcp.Storage.SameStore
import OdooMcp.Policy.Guarantees
import OdooMcp.Policy.Phases
import OdooMcp.Policy.WriteSystem
import OdooMcp.Policy.Replay
import OdooMcp.Policy.Confidentiality
import OdooMcp.Adapters.AccountingReader
import OdooMcp.Adapters.AccountingEffects
import OdooMcp.Adapters.PayrollGuard
import OdooMcp.Adapters.PayrollSnapshot
import OdooMcp.Effect.Statements
import OdooMcp.Shared.Schema
import OdooMcp.Shared.Keyring
import OdooMcp.Shared.Lifecycle
import OdooMcp.Shared.Auth
import OdooMcp.Shared.Connections
import OdooMcp.Shared.System
import OdooMcp.Shared.Moves
import OdooMcp.Shared.Authority
import OdooMcp.Workflows.Sources
import OdooMcp.Adapters.AccountingReads
import OdooMcp.Cursor
import OdooMcp.Adapters.AccountingPages
import OdooMcp.Adapters.PagedReads
import OdooMcp.Workflows.PageLoop
import OdooMcp.Workflows.Termination
import OdooMcp.Workflows.Keyset
import OdooMcp.Adapters.PayrollCursors
import OdooMcp.Effect.Ensemble
import OdooMcp.Arithmetic
import OdooMcp.Buckets
import OdooMcp.Effect.Steady
import OdooMcp.Pagination
import OdooMcp.Adapters.PayrollPages
import OdooMcp.Adapters.PayrollListings
import OdooMcp.Adapters.PayrollEntries
import OdooMcp.Workflows.PayrollEvidence
import OdooMcp.Workflows.PayrollPaging
import OdooMcp.DateTimeText
import OdooMcp.Storage.Migrations
import OdooMcp.Storage.ConcurrentMigrations
import OdooMcp.Workflows.BankMatching
import OdooMcp.Workflows.BankIndex
import OdooMcp.Workflows.BankDecisions
import OdooMcp.Workflows.BankProposal
import OdooMcp.Tally
import OdooMcp.Workflows.ReportReads
import OdooMcp.Workflows.TrialBalance
import OdooMcp.Workflows.FinancialStatements
import OdooMcp.Workflows.StatementEquations
import OdooMcp.Workflows.AgedBalance
import OdooMcp.Workflows.AsOfResiduals
import OdooMcp.Workflows.OpenDocuments
import OdooMcp.Workflows.AsOfReports
import OdooMcp.Workflows.AgedTotal
import OdooMcp.Effect.Interference
import OdooMcp.Adapters.CreditNotes
import OdooMcp.Effect.Crash
import OdooMcp.Storage.MigrationRecovery
import OdooMcp.Adapters.ContractSegments
import OdooMcp.Grouping
import OdooMcp.Workflows.PayrollComparisons
import OdooMcp.Workflows.PayrollTotals
import OdooMcp.Workflows.PayrollChanges
import OdooMcp.Workflows.PayrollFindings
import OdooMcp.Workflows.PayrollLines
import OdooMcp.Workflows.PayrollExchange
import OdooMcp.Workflows.PayrollChanged
import OdooMcp.Median
import OdooMcp.Workflows.PayrollStatistics
import OdooMcp.DecimalRounding
import OdooMcp.Workflows.PayrollAnomalies
import OdooMcp.DecimalSums
import OdooMcp.Workflows.OffsetPages
import OdooMcp.Workflows.Cashbook
import OdooMcp.Workflows.CashbookContinuity
import OdooMcp.Workflows.JournalListing
import OdooMcp.Workflows.JournalPaging
import OdooMcp.BestByKey
import OdooMcp.Workflows.RateHistory
import OdooMcp.Workflows.RateHistoryPages
import OdooMcp.DecimalQuotients
import OdooMcp.Workflows.JournalDrafts
import OdooMcp.AutoTable
import OdooMcp.Lifecycle
import OdooMcp.Storage.Proposals
import OdooMcp.Storage.ProposalRuns
import OdooMcp.DateTimeOrder
import OdooMcp.Shared.Expiry
import OdooMcp.Storage.AuditSecrecy
import OdooMcp.Policy.CompactProjection
import OdooMcp.Effect.Frame
import OdooMcp.Shared.Rotation
import OdooMcp.Shared.Seals
import OdooMcp.Effect.Scoped
import OdooMcp.Effect.Custody
import OdooMcp.Server.ToolCalls
import OdooMcp.Server.ReadTools
import OdooMcp.Server.WriteTools
import OdooMcp.Server.Adapters
import OdooMcp.Storage.Reporting
import OdooMcp.Server.Disclosure
import OdooMcp.Effect.Exclusion
import OdooMcp.Server.PayslipLocks
import OdooMcp.Shared.AuthorityLog
import OdooMcp.Shared.Frames
import OdooMcp.Shared.OwnConnection
import OdooMcp.Shared.Withdrawals
import OdooMcp.Shared.Lifetimes
