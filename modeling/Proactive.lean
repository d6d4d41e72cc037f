import Proactive.Library.Transaction
import Proactive.Library.Triple
import Proactive.Library.Run
import Proactive.Library.Outcome
import Proactive.Library.Pairs
import Proactive.Library.Process
import Proactive.Library.Interleaving
import Proactive.Library.Table
import Proactive.Library.UniqueIndex
import Proactive.Library.Ranking
import Proactive.Library.GreedyBudget
import Proactive.Library.Separated
import Proactive.Library.Settling
import Proactive.Library.Sha256
import Proactive.Library.Characters
import Proactive.Library.Regex
import Proactive.Store.Models
import Proactive.Store.Database
import Proactive.Store.Reader
import Proactive.Store.Sync
import Proactive.Store.Freshness
import Proactive.Store.DiagnosticsTables
import Proactive.Store.Upkeep
import Proactive.Store.Timeline
import Proactive.Store.Announcement
import Proactive.Store.Upsert
import Proactive.Store.Fallbacks
import Proactive.Store.Consistency
import Proactive.Store.Claim
import Proactive.Store.Delivery
import Proactive.Store.Situations
import Proactive.Store.Lifecycle
import Proactive.Store.Receipts
import Proactive.Store.Serialization
import Proactive.Store.Lapsing
import Proactive.Store.DaemonStatus
import Proactive.Store.IsoDate
import Proactive.Store.FreeDatedDedupe
import Proactive.Store.MemoryModelV2
import Proactive.Store.MemoryModels
import Proactive.Store.Memory
import Proactive.Store.MemoryIntegrity
import Proactive.Store.MemoryIdentity
import Proactive.Store.EntityStability
import Proactive.Library.Like
import Proactive.Library.Grouping
import Proactive.Library.Trim
import Proactive.Store.MemoryQueries
import Proactive.Store.PathFilter
import Proactive.Store.SourceTruth
import Proactive.Store.Starvation
import Proactive.Store.BudgetedLeasing
import Proactive.Situations.Dates
import Proactive.Situations.DeadlineText
import Proactive.Situations.Anchors
import Proactive.Situations.IsoText
import Proactive.Situations.OverlapTruth
import Proactive.Situations.PersonalOccasion
import Proactive.Situations.OccasionDates
import Proactive.Situations.OccasionGroups
import Proactive.Situations.Policy
import Proactive.Situations.Budget
import Proactive.Situations.CalendarSweep
import Proactive.Situations.ConflictIdentity
import Proactive.Situations.Cooldown
import Proactive.Situations.Inputs
import Proactive.Situations.ReplyDeadline
import Proactive.Situations.CalendarConflict
import Proactive.Situations.Engine
import Proactive.Situations.LapsedOccasions
import Proactive.Situations.Currency
import Proactive.Server.Responses
import Proactive.Delivery.Evaluation
import Proactive.Delivery.Fallback
import Proactive.Delivery.Daemon
import Proactive.Server.Check
import Proactive.Server.AllClear
import Proactive.Library.Keyset
import Proactive.Server.Pagination
import Proactive.Situations.Selection
import Proactive.Situations.Reservation
import Proactive.Server.Receipt
import Proactive.Sources.Transport
import Proactive.Sources.ReadBudget
import Proactive.Sources.GmailModels
import Proactive.Sources.GmailProjection
import Proactive.Sources.HtmlText
import Proactive.Sources.MimeWalk
import Proactive.Sources.BodyWalk
import Proactive.Sources.Gmail
import Proactive.Sources.GmailRequests
import Proactive.Sources.GmailReads
import Proactive.Sources.GmailPartition
import Proactive.Sources.Calendar
import Proactive.Sources.GoogleEvaluation
import Proactive.Sources.StoredDiagnostics
import Proactive.Sources.Exclusion
import Proactive.Sources.Containment
import Proactive.Sources.CredentialModels
import Proactive.Sources.Credentials
import Proactive.Sources.CredentialTombstone
import Proactive.Sources.CredentialSteps
import Proactive.Sources.CredentialRace
import Proactive.Sources.CredentialAtomicity
import Proactive.Sources.CredentialAuthority
import Proactive.Library.TimedLease
import Proactive.Store.LazySyncLease
import Proactive.Sources.LazySync
import Proactive.Library.Lexicographic
import Proactive.Situations.Timestamps
import Proactive.Situations.CivilDates
import Proactive.Situations.YearlyDates
import Proactive.Library.UnitFile
import Proactive.Cli.ServiceUnit
import Proactive.Cli.Service
import Proactive.Cli.ServiceRollback
import Proactive.Library.Walk
import Proactive.Cli.ProcessTree
import Proactive.Library.Postcondition
import Proactive.Cli.LaunchAgent
import Proactive.Cli.Darwin
import Proactive.Cli.DarwinRollback
import Proactive.Cli.DarwinActions
import Proactive.Library.Crowd
import Proactive.Library.Ledger
import Proactive.Store.SyncLedger
import Proactive.Store.PrivateFile
import Proactive.Store.PrivateFileSharing
import Proactive.Store.PrivateFileRuns
import Proactive.Store.Migrate
import Proactive.Store.MigrateRuns
import Proactive.Store.Repetition
import Proactive.Situations.Repetition
import Proactive.Delivery.Repetition
import Proactive.Library.DirectoryTree
import Proactive.Store.PrivateParent
import Proactive.Store.PrivateParentRuns
