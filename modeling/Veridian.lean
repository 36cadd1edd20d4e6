import Veridian.Lib.Sorting
import Veridian.Lib.Text
import Veridian.Lib.Assoc
import Veridian.Lib.Sql
import Veridian.Lib.Rules
import Veridian.Lib.Machine
import Veridian.Lib.Replacing
import Veridian.Lib.Interleave
import Veridian.Lib.Owned
import Veridian.Lib.Rewrite
import Veridian.Host
import Veridian.Access.Principal
import Veridian.Access.WorkspaceGuard
import Veridian.Access.Handlers
import Veridian.Access.Resources
import Veridian.Access.TenantIsolation
import Veridian.Filters.Entity
import Veridian.Events.Event
import Veridian.Filters.Evaluator
import Veridian.Filters.Meaning
import Veridian.Events.DeriveChannel
import Veridian.Events.Payload
import Veridian.Events.Handler
import Veridian.Events.Frame
import Veridian.Events.Emitted
import Veridian.Filters.Compiler
import Veridian.Filters.Agreement
import Veridian.Events.Buffer
import Veridian.Events.BufferRuns
import Veridian.Events.SessionsView
import Veridian.Events.SessionAggregates
import Veridian.Backfill.ChannelBackfill
import Veridian.Voip.PhoneCallEvent
import Veridian.Backfill.ChannelAgreement
import Veridian.Auth.Sessions
import Veridian.Auth.SessionSteps
import Veridian.Auth.Revocation
import Veridian.Backfill.WorkspaceLock
import Veridian.Lib.Calendar
import Veridian.Backfill.LookbackCoverage
import Veridian.Events.EventsTable
import Veridian.Events.Ingestion
import Veridian.Events.Resends
import Veridian.Webhooks.Dispatcher
import Veridian.Filters.SetClause
import Veridian.Filters.Service
import Veridian.Backfill.Mutations
import Veridian.Lib.Assign
import Veridian.Backfill.Rerun
import Veridian.Lib.Substitute
import Veridian.Database.Qualify
import Veridian.Backfill.Literals
import Veridian.Events.IdentityStitch
import Veridian.Events.FirstTouch
import Veridian.Lib.Window
import Veridian.Webhooks.DeliveryWorker
import Veridian.Webhooks.DeliveryRuns
import Veridian.Webhooks.TwentyBudget
import Veridian.Webhooks.TwentyEventMapper
import Veridian.Webhooks.TwentyConnector
import Veridian.Webhooks.TwentyFlush
import Veridian.Webhooks.TwentyTimeline
import Veridian.Webhooks.DrainQueue
import Veridian.Webhooks.DrainIsolation
import Veridian.Webhooks.TwentyRate
import Veridian.Webhooks.ConnectorRetries
import Veridian.Backfill.TaskRows
import Veridian.Backfill.TaskFinality
import Veridian.Lib.Json
import Veridian.Filters.Version
import Veridian.Users.UserRows
import Veridian.Users.LostUpdates
import Veridian.Invitations.Invitation
import Veridian.Invitations.Endings
import Veridian.Members.Members
import Veridian.Members.LastOwner
import Veridian.Members.Removal
import Veridian.Lib.FixedWidth
import Veridian.Common.DateTime
import Veridian.Filters.FilterRows
import Veridian.Common.DashboardWidget
import Veridian.Workspaces.Workspace
import Veridian.Workspaces.Timestamps
import Veridian.Workspaces.SettingsCalls
import Veridian.Workspaces.LostUpdates
import Veridian.Workspaces.KillSwitch
import Veridian.Workspaces.DashboardLayout
import Veridian.Admin.Provisioning
import Veridian.Admin.Compensation
import Veridian.Admin.AdsConversions
import Veridian.Sdk.SessionState
import Veridian.Sdk.GoalAttribution
import Veridian.Sdk.Tabs
import Veridian.Sdk.PageNumbers
import Veridian.Sdk.Heartbeat
import Veridian.Sdk.PageTime
import Veridian.Analytics.Catalog
import Veridian.Lib.Funnel
import Veridian.Lib.Grouping
import Veridian.Analytics.FilterBuilder
import Veridian.Analytics.Goals
import Veridian.Analytics.Funnel
import Veridian.Analytics.Conversions
import Veridian.Analytics.MergeState
import Veridian.Analytics.FunnelSegments
import Veridian.Analytics.FunnelConversions
import Veridian.Lib.Checked
import Veridian.Analytics.Metrics
import Veridian.Analytics.QueryDto
import Veridian.Analytics.FilteredTotals
import Veridian.Analytics.CacheService
import Veridian.Analytics.Invalidation
import Veridian.Analytics.QueryBuilder
import Veridian.Analytics.Parameters
import Veridian.Analytics.QueryService
import Veridian.Admin.WidgetData
import Veridian.Analytics.CacheKey
import Veridian.Analytics.KeyParts
import Veridian.Analytics.CacheSoundness
import Veridian.Sdk.HeartbeatLoop
import Veridian.Sdk.SessionRuns
import Veridian.Sdk.OfflineQueue
import Veridian.Sdk.SessionLife
import Veridian.Sdk.Storage
import Veridian.Access.KeyRevocation
import Veridian.Backfill.SummaryTruth
import Veridian.Events.Shutdown
import Veridian.Migrations.WorkspacesReplacing
import Veridian.Migrations.Lock
import Veridian.Filters.ConsoleTester
import Veridian.Gsc.PropertySync
import Veridian.Auth.PasswordReset
import Veridian.Sso.LoginTokens
import Veridian.Subscriptions.Scheduler
import Veridian.Webhooks.FilterEngine
import Veridian.Webhooks.DispatchIsolation
import Veridian.Lib.JsonNumbers
import Veridian.Lib.JsonParse
import Veridian.Webhooks.DeliveryPayload
import Veridian.Voip.VoipSync
import Veridian.Webhooks.Definitions
import Veridian.Admin.TrackingProbes
import Veridian.Admin.TrackingVerification
import Veridian.Admin.QuietCleanup
import Veridian.Subscriptions.Slots
import Veridian.Subscriptions.SlotRuns
import Veridian.Subscriptions.FormerMembers
import Veridian.Smtp.Settings
import Veridian.Assistant.RateLimiter
import Veridian.Assistant.Jobs
import Veridian.Gsc.DashboardSite
import Veridian.Setup.InitialAdmin
import Veridian.Webhooks.TestDelivery
import Veridian.Filters.ConditionText
import Veridian.Events.ReferralCode
import Veridian.Webhooks.PersonLookup
import Veridian.Webhooks.TimelineIds
import Veridian.Admin.FreeSlug
import Veridian.Admin.ProbeOrigin
import Veridian.Common.SsrfGuard
import Veridian.Events.KnownDomains
import Veridian.Webhooks.AcquisitionAgreement
import Veridian.Lib.KeyedFold
import Veridian.Tunnel.Aggregator
import Veridian.Lib.Keyset
import Veridian.Export.UserEvents
import Veridian.Common.WidgetInput
import Veridian.Workspaces.IntegrationKeys
import Veridian.Lib.Base64
import Veridian.Sdk.CrossDomain
import Veridian.Lib.Markup
import Veridian.Subscriptions.ReportHtml
import Veridian.Lib.Forest
import Veridian.Console.Explore
import Veridian.Voip.PhoneE164
import Veridian.Analytics.Extremes
import Veridian.Lib.Like
import Veridian.Analytics.TextFilters
import Veridian.Analytics.DateBuckets
import Veridian.Analytics.GapFilling
import Veridian.Analytics.ComparisonPeriods
