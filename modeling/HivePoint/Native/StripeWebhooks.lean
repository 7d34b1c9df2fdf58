import HivePoint.Native.SubscriptionsService
import HivePoint.Native.StripeSnapshot

/-!
# StripeWebhooksService

The handlers of `stripe-webhooks.service.ts`. `handleWebhook` starts where the
signature has been checked and the event constructed.
-/

namespace HivePoint

/-- `invoiceDetails?.subscription`, when it is a string. -/
def externalSubscriptionIdOf (invoice : StripeInvoice) : Option String :=
  invoice.subscriptionDetails.bind (·.subscription)

/-- Is the error one that a handler swallows? -/
def isIgnoredNotFound : Err → Bool
  | .app e => e.code = .invoiceNotFound || e.code = .subscriptionNotFound
  | _ => false

/-- `try { ... } catch (error) { this.ignoreNotFound(error) }` -/
def ignoringNotFound (op : Op Unit) : Op Unit :=
  tryCatch op fun error => if isIgnoredNotFound error then pure () else throw error

def resolveSubscriptionMetadata (externalSubscriptionId : Option String) : Op (Option String) :=
  match externalSubscriptionId with
  | none => pure none
  | some id =>
    if id = "" then pure none
    else do
      let subscription ← callStripe (.retrieveSubscription id) (·.retrieveSubscription id)
      return subscription.metadataInvoiceId

def resolveMetadataInvoiceId (invoice : StripeInvoice) (externalSubscriptionId : Option String)
    (allowMetadataInvoiceId : Bool) : Op (Option String) :=
  match ownMetadataInvoiceId invoice with
  | some id => pure (some id)
  | none =>
    if !allowMetadataInvoiceId then pure none
    else resolveSubscriptionMetadata externalSubscriptionId

/-- What a webhook about `invoice` hands to `syncInvoiceFromExternal`. -/
def webhookSyncParams (invoice : StripeInvoice) (metadataInvoiceId : Option String)
    (status : InvoiceStatus) : SyncInvoiceParams where
  paymentProvider := .stripe
  externalInvoiceId := invoice.id
  externalSubscriptionId := externalSubscriptionIdOf invoice
  metadataInvoiceId := metadataInvoiceId
  allowMetadataInvoiceId := shouldAllowMetadataInvoiceId invoice
  amountCents := invoice.total.1
  currency := invoice.currency.toUpper
  periodStart := invoice.periodStart * 1000
  periodEnd := invoice.periodEnd * 1000
  status := status
  attemptCount := some (invoice.attemptCount.getD 0)
  nextPaymentAttemptAt := nextPaymentAttemptDate invoice

def handleCheckoutCompleted (session : CheckoutSession) : Op Unit :=
  match session.metadataInvoiceId with
  | none => pure ()
  | some invoiceId =>
    if invoiceId = "" then pure ()
    else ignoringNotFound do
      recordExternalCheckout
        { invoiceId
          paymentProvider := .stripe
          externalCheckoutSessionId := some session.id
          externalSubscriptionId := session.subscription }
      if session.mode = .setup || session.subscription.isNone then
        let _ ← markInvoicePaid
          { invoiceId, paymentProvider := .stripe, externalCheckoutSessionId := some session.id }

def handleSubscriptionDeleted (subscription : StripeSubscription) : Op Unit :=
  ignoringNotFound (markSubscriptionCanceledByExternalId subscription.id)

section Config

variable (config : AppConfig)

def handleCheckoutExpired (session : CheckoutSession) : Op Unit :=
  match session.metadataInvoiceId with
  | none => pure ()
  | some invoiceId =>
    if invoiceId = "" then pure ()
    else ignoringNotFound do
      let _ ← markInvoiceFailed config
        { invoiceId
          paymentProvider := .stripe
          externalCheckoutSessionId := some session.id
          externalSubscriptionId := session.subscription }

def syncInvoice (invoice : StripeInvoice) (status : InvoiceStatus) : Op Unit := do
  let metadataInvoiceId ← resolveMetadataInvoiceId invoice (externalSubscriptionIdOf invoice)
    (shouldAllowMetadataInvoiceId invoice)
  ignoringNotFound do
    let _ ← syncInvoiceFromExternal config (webhookSyncParams invoice metadataInvoiceId status)

def handleInvoiceDraft (invoice : StripeInvoice) : Op Unit := syncInvoice config invoice .draft

def handleInvoicePaid (invoice : StripeInvoice) : Op Unit := syncInvoice config invoice .paid

def handleInvoiceFailed (invoice : StripeInvoice) : Op Unit := syncInvoice config invoice .pastDue

/-- What a subscription snapshot hands to `syncSubscriptionFromExternal`. -/
def snapshotSyncParams (subscription : StripeSubscription) : SyncSubscriptionParams where
  externalSubscriptionId := subscription.id
  cancelAtPeriodEnd := subscription.cancelAtPeriodEnd
  status := some (mapStripeSubscriptionStatus subscription.status)
  currentPeriodStart := some (extractStripeSubscriptionPeriod subscription).currentPeriodStart
  currentPeriodEnd := some (extractStripeSubscriptionPeriod subscription).currentPeriodEnd

def handleSubscriptionUpdated (subscription : StripeSubscription) : Op Unit :=
  ignoringNotFound (syncSubscriptionFromExternal config (snapshotSyncParams subscription))

def handleWebhook : StripeEvent → Op Unit
  | .checkoutSessionCompleted session => handleCheckoutCompleted session
  | .checkoutSessionExpired session => handleCheckoutExpired config session
  | .invoiceCreated invoice | .invoiceFinalized invoice => handleInvoiceDraft config invoice
  | .invoicePaid invoice => handleInvoicePaid config invoice
  | .invoicePaymentFailed invoice => handleInvoiceFailed config invoice
  | .customerSubscriptionUpdated subscription => handleSubscriptionUpdated config subscription
  | .customerSubscriptionDeleted subscription => handleSubscriptionDeleted subscription
  | .other => pure ()

end Config

end HivePoint
