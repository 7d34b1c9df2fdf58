import HivePoint.ForStd.Table
import HivePoint.ForStd.Text

/-!
# Database rows

The models of `prisma/schema.prisma` that the billing and usage services read and
write, column by column, with their primary keys and unique columns. Instants are
time values in milliseconds; `null` is `none`.
-/

namespace HivePoint

/-- Primary keys (uuids) and the identifiers Stripe hands out. -/
abbrev Id := String

/-! ### Enumerations -/

inductive Role where
  | buyer | seller | admin
  deriving DecidableEq, Repr

inductive ProductStatus where
  | draft | published | hidden
  deriving DecidableEq, Repr

inductive VersionStatus where
  | draft | published
  deriving DecidableEq, Repr

inductive PlanPeriod where
  | month
  deriving DecidableEq, Repr

inductive SubscriptionStatus where
  | pending | active | canceled | pastDue
  deriving DecidableEq, Repr

inductive InvoiceStatus where
  | draft | paid | pastDue | void
  deriving DecidableEq, Repr

inductive InvoiceKind where
  | subscription | overage
  deriving DecidableEq, Repr

inductive BillingProvider where
  | mock | stripe
  deriving DecidableEq, Repr

inductive UsageIngestJobStatus where
  | pending | failed | processed
  deriving DecidableEq, Repr

/-! ### Rows -/

structure User where
  id : Id
  email : String
  stripeCustomerId : Option String
  deriving DecidableEq

structure ApiProduct where
  id : Id
  ownerId : Id
  title : String
  description : String
  category : String
  tags : List String
  status : ProductStatus
  createdAt : Int
  updatedAt : Int
  deriving DecidableEq

structure ApiVersion where
  id : Id
  productId : Id
  version : String
  status : VersionStatus
  openApiUrl : Text
  openApiSnapshot : Option Text
  openApiFetchedAt : Option Int
  createdAt : Int
  deriving DecidableEq

structure Plan where
  id : Id
  productId : Id
  name : String
  priceCents : Int
  currency : String
  period : PlanPeriod
  quotaRequests : Int
  rateLimitRpm : Option Int
  allowOverage : Bool
  overageUnitRequests : Option Int
  overagePriceCents : Option Int
  isActive : Bool
  createdAt : Int
  deriving DecidableEq

structure Subscription where
  id : Id
  userId : Id
  planId : Id
  paymentProvider : BillingProvider
  externalSubscriptionId : Option String
  status : SubscriptionStatus
  currentPeriodStart : Option Int
  currentPeriodEnd : Option Int
  gracePeriodEndsAt : Option Int
  cancelAtPeriodEnd : Bool
  createdAt : Int
  deriving DecidableEq

/-- The columns of `Invoice` that `billing-managed-retry.policy.ts` groups as
    `ManagedRetryState`. -/
structure ManagedRetryState where
  managedRetryCount : Nat
  managedNextRetryAt : Option Int
  managedLastRetryAt : Option Int
  managedRetryExhaustedAt : Option Int
  managedLastRetryError : Option String
  deriving DecidableEq

structure Invoice extends ManagedRetryState where
  id : Id
  subscriptionId : Id
  paymentProvider : BillingProvider
  kind : InvoiceKind
  externalCheckoutSessionId : Option String
  externalInvoiceId : Option String
  overageSourceInvoiceId : Option String
  overageProcessedAt : Option Int
  overageRequests : Option Int
  overageUnits : Option Int
  amountCents : Int
  currency : String
  status : InvoiceStatus
  attemptCount : Int
  nextPaymentAttemptAt : Option Int
  periodStart : Int
  periodEnd : Int
  createdAt : Int
  deriving DecidableEq

structure ApiKey where
  id : Id
  userId : Id
  keyHash : String
  isActive : Bool
  revokedAt : Option Int
  deriving DecidableEq

structure UsageRecord where
  id : Id
  subscriptionId : Id
  sourceJobId : Option String
  aggregatedAt : Option Int
  occurredAt : Int
  endpoint : String
  requestCount : Int
  deriving DecidableEq

structure UsageIngestJob where
  id : Id
  subscriptionId : Id
  occurredAt : Int
  endpoint : String
  requestCount : Int
  status : UsageIngestJobStatus
  attempts : Nat
  availableAt : Int
  processedAt : Option Int
  lastError : Option String
  createdAt : Int
  deriving DecidableEq

structure UsageDailyAggregate where
  subscriptionId : Id
  bucketDate : Int
  requestCount : Int
  deriving DecidableEq

structure UsageEndpointDailyAggregate where
  subscriptionId : Id
  bucketDate : Int
  endpoint : String
  requestCount : Int
  deriving DecidableEq

/-- The JSON of `AuditLog.details`, as each action writes it. -/
inductive AuditDetails where
  | hideProduct (changed : Bool) (previousStatus nextStatus : ProductStatus)
  | hideVersion (changed : Bool) (previousStatus nextStatus : VersionStatus)
  | revokeKey (changed wasActive : Bool) (previousRevokedAt : Option Int)
  deriving DecidableEq

structure AuditLog where
  id : Id
  requestId : Option String
  actorUserId : Option Id
  actorEmail : Option String
  actorRole : Option Role
  action : String
  resourceType : String
  resourceId : Id
  details : Option AuditDetails
  createdAt : Int
  deriving DecidableEq

structure ProductView where
  id : Id
  productId : Id
  viewerUserId : Option Id
  viewedAt : Int
  deriving DecidableEq

/-! ### Keys and unique columns -/

instance : Row User Id where
  key := (·.id)
  uniques := [fun r => some r.email, (·.stripeCustomerId)]

instance : Row ApiProduct Id where
  key := (·.id)
  uniques := []

instance : Row ApiVersion Id where
  key := (·.id)
  uniques := []

instance : Row Plan Id where
  key := (·.id)
  uniques := []

instance : Row Subscription Id where
  key := (·.id)
  uniques := [(·.externalSubscriptionId)]

instance : Row Invoice Id where
  key := (·.id)
  uniques := [(·.externalCheckoutSessionId), (·.externalInvoiceId), (·.overageSourceInvoiceId)]

instance : Row ApiKey Id where
  key := (·.id)
  uniques := []

instance : Row UsageRecord Id where
  key := (·.id)
  uniques := [(·.sourceJobId)]

instance : Row UsageIngestJob Id where
  key := (·.id)
  uniques := []

instance : Row UsageDailyAggregate (Id × Int) where
  key r := (r.subscriptionId, r.bucketDate)
  uniques := []

instance : Row UsageEndpointDailyAggregate (Id × Int × String) where
  key r := (r.subscriptionId, r.bucketDate, r.endpoint)
  uniques := []

instance : Row AuditLog Id where
  key := (·.id)
  uniques := []

end HivePoint
