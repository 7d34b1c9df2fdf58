import HivePoint.ForStd.List
import HivePoint.ForStd.Prog
import HivePoint.ForStd.RelyGuarantee
import HivePoint.ForStd.Pool
import HivePoint.ForStd.Crew
import HivePoint.ForStd.Table
import HivePoint.ForStd.GroupedSum
import HivePoint.ForStd.TokenBucket
import HivePoint.ForStd.Lease
import HivePoint.ForStd.Reminder
import HivePoint.ForStd.SlidingWindow
import HivePoint.ForStd.Tiling
import HivePoint.ForStd.Text
import HivePoint.ForStd.InetAddress
import HivePoint.ForStd.Url
import HivePoint.ForStd.Urlencoded
import HivePoint.ForStd.Zoom
import HivePoint.ForStd.Calendar
import HivePoint.ForStd.Regex
import HivePoint.ForStd.Json
import HivePoint.Native.BillingReconciliation
import HivePoint.Native.UsageService
import HivePoint.Native.UsageIngestWorker
import HivePoint.Native.BillingManagedRetry
import HivePoint.Native.BillingOverageCollection
import HivePoint.Native.GatewayBurstLimiter
import HivePoint.Native.BackgroundJobLease
import HivePoint.Native.UsageMigrations
import HivePoint.Native.AuthService
import HivePoint.Native.ExternalUrl
import HivePoint.Native.OutboundRequests
import HivePoint.Native.GatewayUpstream
import HivePoint.Native.GatewayService
import HivePoint.Native.PlansService
import HivePoint.Native.ProductsService
import HivePoint.Native.VersionsService
import HivePoint.Native.AdminService
import HivePoint.Native.OperationalMonitoring
import HivePoint.Native.OperationalAlertDelivery
import HivePoint.Native.EnvSchema
import HivePoint.Native.OpenApiServer
import HivePoint.Spec.Statements
import HivePoint.Spec.EachStatement
import HivePoint.Spec.Interference
import HivePoint.Spec.Transactions
import HivePoint.Spec.Materialization
import HivePoint.Spec.OverageWorker
import HivePoint.Spec.BillingSteps
import HivePoint.Spec.UsageLedger
import HivePoint.Spec.Entitlement
import HivePoint.Spec.Quota
import HivePoint.Spec.Consumption
import HivePoint.Spec.PaymentOutcomes
import HivePoint.Spec.BillingCalls
import HivePoint.Spec.Cancellation
import HivePoint.Spec.InvoiceFinality
import HivePoint.Spec.GracePeriod
import HivePoint.Spec.PeriodOrder
import HivePoint.Spec.Reconciliation
import HivePoint.Spec.BurstLimit
import HivePoint.Spec.BurstAdvice
import HivePoint.Spec.RateLimit
import HivePoint.Spec.UsageRuns
import HivePoint.Spec.UsageQueue
import HivePoint.Spec.Settlement
import HivePoint.Spec.Renewals
import HivePoint.Spec.DraftSync
import HivePoint.Spec.LiveSubscriptions
import HivePoint.Spec.SettledPeriods
import HivePoint.Spec.ProjectedOverage
import HivePoint.Spec.RenewalCalendar
import HivePoint.Spec.SettlementBounds
import HivePoint.Spec.DeliveryOrder
import HivePoint.Spec.OverageFrame
import HivePoint.Spec.RetrySchedule
import HivePoint.Spec.Leases
import HivePoint.Spec.EndpointUsage
import HivePoint.Spec.EndpointRanking
import HivePoint.Spec.AuthCalls
import HivePoint.Spec.TokenRotation
import HivePoint.Spec.PasswordSessions
import HivePoint.Spec.PrivateAddress
import HivePoint.Spec.UpstreamPath
import HivePoint.Spec.OutboundUrls
import HivePoint.Spec.Authorization
import HivePoint.Spec.GatewayRefusals
import HivePoint.Spec.AlertStatements
import HivePoint.Spec.AlertStates
import HivePoint.Spec.AlertDelivery
import HivePoint.Spec.AlertCooldown
import HivePoint.Spec.FailedPurchases
import HivePoint.Spec.PaidRetries
import HivePoint.Spec.UpstreamQuery
import HivePoint.Spec.ResponseBody
import HivePoint.Spec.AlertTargets
import HivePoint.Spec.OverageTerms
import HivePoint.Spec.OverageCharges
import HivePoint.Spec.ProcessedJobs
import HivePoint.Spec.StripeCustomers
import HivePoint.Spec.AuditTrail
import HivePoint.Spec.PublicCatalogue
import HivePoint.Spec.RetryDelays
import HivePoint.Spec.ServerPatterns
import HivePoint.Spec.ServerUrl
import HivePoint.Spec.MetricsPage
import HivePoint.Spec.MetricsHistory
import HivePoint.Spec.SellerOverview
import HivePoint.Spec.Roles
import HivePoint.Spec.KeyLifecycle
import HivePoint.Spec.PaidRequests
