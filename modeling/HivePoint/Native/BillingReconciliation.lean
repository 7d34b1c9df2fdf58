import HivePoint.Native.StripeWebhooks

/-!
# BillingReconciliationService

`reconcileSubscription` of `billing-reconciliation.service.ts`, and the cycle around
it. The lease that keeps cycles apart is taken before `reconcileStripeState` starts
and is not part of the model; nothing below relies on it.
-/

namespace HivePoint

def isStripeNotFound : Err → Bool
  | .stripe e => e.type = "StripeInvalidRequestError" && e.code = some "resource_missing"
  | _ => false

def mapStripeInvoiceStatus (invoice : StripeInvoice) (subscriptionStatus : SubscriptionStatus) :
    InvoiceStatus :=
  if invoice.status = some .paid then .paid
  else if invoice.status = some .void || invoice.status = some .uncollectible then .void
  else if subscriptionStatus = .pastDue then .pastDue
  else .draft

/-- Here the subscription's metadata comes with the snapshot. -/
def reconciledMetadataInvoiceId (invoice : StripeInvoice) (subscriptionMetadata : Option String)
    (allowMetadataInvoiceId : Bool) : Option String :=
  match ownMetadataInvoiceId invoice with
  | some id => some id
  | none => if !allowMetadataInvoiceId then none else subscriptionMetadata

def resolveLatestInvoice : LatestInvoice → Op (Option StripeInvoice)
  | .null => pure none
  | .expanded invoice => pure (some invoice)
  | .id invoiceId => do
    if invoiceId = "" then return none
    else
      let invoice ← callStripe (.retrieveInvoice invoiceId) (·.retrieveInvoice invoiceId)
      return some invoice

/-- What the snapshot's latest invoice hands to `syncInvoiceFromExternal`. -/
def reconciledSyncParams (subscription : StripeSubscription) (latestInvoice : StripeInvoice) :
    SyncInvoiceParams where
  paymentProvider := .stripe
  externalInvoiceId := latestInvoice.id
  externalSubscriptionId := some subscription.id
  metadataInvoiceId := reconciledMetadataInvoiceId latestInvoice subscription.metadataInvoiceId
    (shouldAllowMetadataInvoiceId latestInvoice)
  allowMetadataInvoiceId := shouldAllowMetadataInvoiceId latestInvoice
  amountCents := latestInvoice.total.1
  currency := latestInvoice.currency.toUpper
  periodStart := latestInvoice.periodStart * 1000
  periodEnd := latestInvoice.periodEnd * 1000
  status := mapStripeInvoiceStatus latestInvoice (mapStripeSubscriptionStatus subscription.status)
  attemptCount := some (latestInvoice.attemptCount.getD 0)
  nextPaymentAttemptAt := nextPaymentAttemptDate latestInvoice

section Config

variable (config : AppConfig)

/-- The part of `reconcileSubscription` after the snapshot has been retrieved. -/
def reconcileSnapshot (subscription : StripeSubscription) : Op Unit := do
  syncSubscriptionFromExternal config (snapshotSyncParams subscription)
  match ← resolveLatestInvoice subscription.latestInvoice with
  | none => return
  | some latestInvoice =>
    let _ ← syncInvoiceFromExternal config (reconciledSyncParams subscription latestInvoice)

/-- The `retrieve` of `reconcileSubscription`, inside its `try`. -/
def retrieveSnapshot (externalSubscriptionId : String) : Op (Option StripeSubscription) :=
  tryCatch
    (do
      let subscription ← callStripe (.retrieveSubscription externalSubscriptionId)
        (·.retrieveSubscription externalSubscriptionId)
      return some subscription)
    fun error => do
      if isStripeNotFound error then
        markSubscriptionCanceledByExternalId externalSubscriptionId
        return none
      else throw error

def reconcileSubscription (externalSubscriptionId : String) : Op Unit := do
  match ← retrieveSnapshot externalSubscriptionId with
  | none => return
  | some subscription => reconcileSnapshot config subscription

end Config

end HivePoint
