import Osds.Lib.Runs
import Osds.Audit.Events
import Osds.Billing.Models
import Osds.Billing.Machine
import Osds.Billing.Notices
import Osds.Billing.Entitlements
import Osds.Billing.Reports
import Osds.Billing.Transitions
import Osds.Billing.Jobs
import Osds.Billing.Payments
import Osds.Billing.ReportSteps
import Osds.Billing.System
import Osds.Billing.EffectiveTier
import Osds.Billing.Purchase
import Osds.Billing.CheckoutGuard
import Osds.Billing.Recovery
import Osds.Billing.ClockJob
import Osds.Billing.Superseded
import Osds.Billing.PaymentRef
import Osds.Billing.Delivery
import Osds.Billing.Transactions
import Osds.Billing.ConcurrentReports
import Osds.Directory.Site
import Osds.Lib.Rewriting
import Osds.Directory.Configuration
import Osds.Directory.PublicUrls
import Osds.Audit.Noninterference
import Osds.Audit.RedactionLaw
import Osds.Audit.Deliveries
import Osds.Audit.Drain
import Osds.Audit.StaleRecords
import Osds.Audit.SubjectOrder
import Osds.Audit.MailDrain
import Osds.Audit.Retention
import Osds.Billing.Cancellation
import Osds.Billing.HiddenByExpiry
import Osds.Billing.RowInvariants
import Osds.Billing.TimedStates
import Osds.Billing.LifecycleMarks
import Osds.Billing.TriggerBlock
import Osds.Billing.ClockDrain
import Osds.Billing.Renewals
import Osds.Billing.RenewalNotices
import Osds.Directory.ImportWorker
import Osds.Directory.Rollback
import Osds.Claims.Changes
import Osds.Claims.Closing
import Osds.Claims.Guesses
import Osds.Claims.Notices
import Osds.Directory.LeadNotices
import Osds.Directory.SitemapFreshness
import Osds.Directory.SearchIndex
import Osds.Directory.Reapplied
import Osds.Directory.OwnerSignIn
import Osds.Tenants.SettingsSaves
import Osds.Directory.MediaAssets
import Osds.Tenants.OperatorInvites
import Osds.Billing.TierChanges
import Osds.Audit.RateLimits
import Osds.Directory.LeadCapture
import Osds.Directory.PatchLaw
import Osds.Network.ClientIp
import Osds.Network.Egress
import Osds.Adapters.Webhook
import Osds.Adapters.Stripe
import Osds.Directory.CsvHeader
import Osds.Directory.ImportRows
import Osds.Directory.FieldSchema
import Osds.Directory.CustomFields
import Osds.Directory.OwnerEdit
import Osds.Billing.TierConfig
import Osds.Tenants.MailPassword
import Osds.Claims.DomainEmail
import Osds.Directory.Suppression
import Osds.Worker.RetentionJobs
import Osds.Logging.SecretPaths
import Osds.Logging.AdapterLog
import Osds.Adapters.WebhookEndpoint
import Osds.Billing.Inbound
import Osds.Directory.OwnerSessions
import Osds.Directory.UpsertCommands
import Osds.Adapters.MailAttempts
