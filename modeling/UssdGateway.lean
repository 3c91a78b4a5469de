import UssdGateway.Exports.CsvWriters
import UssdGateway.Exports.Downloads
import UssdGateway.Exports.ExclusiveExports
import UssdGateway.Exports.LegsExport
import UssdGateway.Exports.LiveExport
import UssdGateway.Gateway.Attribution
import UssdGateway.Gateway.BackgroundLegs
import UssdGateway.Gateway.Backstop
import UssdGateway.Gateway.CanonicalDials
import UssdGateway.Gateway.DbInit
import UssdGateway.Gateway.DialPrefixes
import UssdGateway.Gateway.EndNotices
import UssdGateway.Gateway.EnvelopeRoundTrip
import UssdGateway.Gateway.ExpiryClaims
import UssdGateway.Gateway.InlineDialing
import UssdGateway.Gateway.InputRaces
import UssdGateway.Gateway.LogBatches
import UssdGateway.Gateway.MenuReplies
import UssdGateway.Gateway.PasswordLogs
import UssdGateway.Gateway.PushOutcomes
import UssdGateway.Gateway.ReplyRoundTrip
import UssdGateway.Gateway.RoutingStability
import UssdGateway.Gateway.Sandbox
import UssdGateway.Gateway.SessionEnds
import UssdGateway.Gateway.SweepFairness
import UssdGateway.Gateway.WriterLoop
import UssdGateway.Portal.DrivenSessions
import UssdGateway.Portal.EndOfAccess
import UssdGateway.Portal.HistoryFloor
import UssdGateway.Portal.Impersonation
import UssdGateway.Portal.LoginRedirects
import UssdGateway.Portal.NewestLink
import UssdGateway.Portal.NoLockout
import UssdGateway.Portal.PasswordGuesses
import UssdGateway.Portal.RedirectChains
import UssdGateway.Portal.ResetMails
import UssdGateway.Portal.RoleSeeds
import UssdGateway.Portal.SandboxQuota
import UssdGateway.Portal.SandboxTraffic
import UssdGateway.Portal.ShortcodeLabels
import UssdGateway.Portal.ShortcodeRights
import UssdGateway.Portal.ShortcodesAlone
import UssdGateway.Portal.SimulatedReplies
import UssdGateway.Portal.SimulatedTrails
import UssdGateway.Portal.ViewerCap
import UssdGateway.Reports.AclSql
import UssdGateway.Reports.ArchiveSearch
import UssdGateway.Reports.BillableSummary
import UssdGateway.Reports.BillableUnits
import UssdGateway.Reports.CountMatchesRows
import UssdGateway.Reports.DailyScheduler
import UssdGateway.Reports.DuplicateFix
import UssdGateway.Reports.Overview
import UssdGateway.Reports.PunctualNights
import UssdGateway.Reports.RollupCoverage
import UssdGateway.Reports.RowsAlike
import UssdGateway.Reports.SessionsBilledOnce
import UssdGateway.Reports.SummaryPage
import UssdGateway.Reports.TodayAgrees
import UssdGateway.Reports.WriterTiming
import UssdGateway.SessionLogs.PartitionRuns
import UssdGateway.SessionLogs.SteadyRunway
