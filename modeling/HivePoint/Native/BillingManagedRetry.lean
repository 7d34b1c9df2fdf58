import HivePoint.ForStd.Crew
import HivePoint.Native.SubscriptionsService
import HivePoint.Native.StripePaymentProvider

/-!
# BillingManagedRetryService

The worker of `billing-managed-retry.service.ts` that retries the payment of past-due
invoices. The lease is taken before a cycle starts; a cycle is a `BatchJob`.
-/

namespace HivePoint

/-- The columns that `processDueRetries` selects. -/
structure DueRetry where
  id : Id
  externalInvoiceId : String
  managedRetryCount : Nat
  deriving DecidableEq

/-- The part of the selection's `where` about the invoice's own columns. -/
def isDueForRetry (now : Int) (invoice : Invoice) : Bool :=
  invoice.paymentProvider = .stripe && invoice.status = .pastDue &&
    invoice.externalInvoiceId.isSome && invoice.managedRetryExhaustedAt.isNone &&
    (invoice.managedNextRetryAt.any (· ≤ now) ||
      (invoice.managedNextRetryAt.isNone && invoice.managedRetryCount = 0))

/-- The part of the selection's `where` about the joined subscription. -/
def isRetryableSubscription (subscription : Subscription) : Bool :=
  subscription.status = .pastDue && subscription.currentPeriodStart.isSome

/-- `managedNextRetryAt: 'asc'` (where the database puts `NULL` last), `createdAt: 'asc'`. -/
def retryOrder (left right : Invoice) : Bool :=
  match left.managedNextRetryAt, right.managedNextRetryAt with
  | some a, some b => a < b || (a = b && left.createdAt ≤ right.createdAt)
  | some _, none => true
  | none, some _ => false
  | none, none => left.createdAt ≤ right.createdAt

/-- The due invoices, before the batch is cut off. An invoice with an empty external id is
    skipped by the loop. -/
def World.dueRetries (w : World) (now : Int) : List Invoice :=
  w.invoices.rows.filter fun invoice =>
    isDueForRetry now invoice &&
      (w.subscriptions.find? invoice.subscriptionId).any isRetryableSubscription

section Config

variable (config : AppConfig)

/-- The selection of `processDueRetries`. -/
def selectDueRetries (env : Env) (w : World) : Except Err (List DueRetry) :=
  match env.dbError with
  | some m => .error (.database m)
  | none =>
    .ok <| (((w.dueRetries env.now).mergeSort retryOrder).take
      config.billingManagedRetryBatchSize).filterMap fun invoice =>
        match invoice.externalInvoiceId with
        | some externalInvoiceId =>
          if externalInvoiceId = "" then none
          else some ⟨invoice.id, externalInvoiceId, invoice.managedRetryCount⟩
        | none => none

/-- The columns of the schedule after an attempt. -/
def recordRetryAttempt (invoice : DueRetry) (attemptedAt : Int) (errorMessage : Option String) :
    Op Unit :=
  updateInvoice invoice.id fun row =>
    { row with
      toManagedRetryState :=
        createManagedRetryStateAfterAttempt invoice.managedRetryCount attemptedAt
          config.billingManagedRetryDelaysMinutes errorMessage }

/-- What `processInvoiceRetry` does with Stripe's answer. -/
def applyRetryResult (invoice : DueRetry) (attemptedAt : Int)
    (result : RetryInvoicePaymentResult) : Op Unit := do
  if result.status = .paid then
    let _ ← markInvoicePaid
      { invoiceId := invoice.id
        paymentProvider := .stripe
        externalInvoiceId := some result.externalInvoiceId
        externalSubscriptionId := result.externalSubscriptionId
        attemptCount := some result.attemptCount }
  else
    let _ ← markInvoiceFailed config
      { invoiceId := invoice.id
        paymentProvider := .stripe
        externalInvoiceId := some result.externalInvoiceId
        externalSubscriptionId := result.externalSubscriptionId
        invoiceStatus := some (if result.status = .void then .void else .pastDue)
        attemptCount := some result.attemptCount
        nextPaymentAttemptAt := result.nextPaymentAttemptAt }
    if result.status = .pastDue then recordRetryAttempt config invoice attemptedAt none

/-- The `catch` of `processInvoiceRetry`. -/
def recordFailedAttempt (invoice : DueRetry) (attemptedAt : Int) (error : Err) : Op Unit := do
  recordRetryAttempt config invoice attemptedAt
    (some (describeError "Unknown renewal retry error" error))
  throw error

def processInvoiceRetry (invoice : DueRetry) : Op Unit := do
  let attemptedAt ← clock
  tryCatch
    (do
      let result ← retryInvoicePayment invoice.externalInvoiceId
      applyRetryResult config invoice attemptedAt result)
    (recordFailedAttempt config invoice attemptedAt)

/-- One cycle of the worker. -/
def managedRetryJob : BatchJob DueRetry World Env Err where
  queries := [selectDueRetries config]
  handle := processInvoiceRetry config

def processDueRetries : Op Unit := (managedRetryJob config).cycle

end Config

end HivePoint
