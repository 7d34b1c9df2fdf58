import HivePoint.Native.World

/-!
# Reading Stripe objects

`stripe-subscription-period.ts`, and the private helpers that `StripeWebhooksService`
and `BillingReconciliationService` carry word for word in two copies.
-/

namespace HivePoint

/-! ### The billing period of a subscription -/

structure StripeSubscriptionPeriod where
  currentPeriodStart : Option Int
  currentPeriodEnd : Option Int
  deriving DecidableEq

/-- The periods of the items that carry two numbers. -/
def itemPeriods (subscription : StripeSubscription) : List (Int × Int) :=
  subscription.items.filterMap fun item => do
    let start ← item.currentPeriodStart
    let finish ← item.currentPeriodEnd
    pure (start, finish)

/-- The hull of the item periods; `null` ends when no item has one. -/
def extractStripeSubscriptionPeriod (subscription : StripeSubscription) :
    StripeSubscriptionPeriod where
  currentPeriodStart := ((itemPeriods subscription).map (·.1)).min?.map (· * 1000)
  currentPeriodEnd := ((itemPeriods subscription).map (·.2)).max?.map (· * 1000)

example : extractStripeSubscriptionPeriod
    { id := "sub_1", status := .active, cancelAtPeriodEnd := false, metadataInvoiceId := none
      latestInvoice := .null, customer := none
      items := [⟨some 200, some 300⟩, ⟨none, some 900⟩, ⟨some 100, some 250⟩] } =
    ⟨some 100000, some 300000⟩ := by decide

/-! ### Statuses -/

def mapStripeSubscriptionStatus : StripeSubscriptionStatus → SubscriptionStatus
  | .active | .trialing => .active
  | .canceled => .canceled
  | .pastDue | .unpaid => .pastDue
  | .incomplete | .incompleteExpired | .paused => .pending

/-! ### Invoice metadata -/

/-- `Boolean(invoice.metadata?.invoiceId) || billing_reason === ...` -/
def shouldAllowMetadataInvoiceId (invoice : StripeInvoice) : Bool :=
  truthy invoice.metadataInvoiceId || invoice.billingReason = some .subscription ||
    invoice.billingReason = some .subscriptionCreate

/-- The local invoice id that the Stripe invoice itself names, on the invoice first and
    then on its subscription details. -/
def ownMetadataInvoiceId (invoice : StripeInvoice) : Option String :=
  if truthy invoice.metadataInvoiceId then invoice.metadataInvoiceId
  else
    match invoice.subscriptionDetails with
    | some details => if truthy details.metadataInvoiceId then details.metadataInvoiceId else none
    | none => none

/-- `next_payment_attempt ? new Date(next_payment_attempt * 1000) : null` -/
def nextPaymentAttemptDate (invoice : StripeInvoice) : Option Int :=
  match invoice.nextPaymentAttempt with
  | none | some 0 => none
  | some seconds => some (seconds * 1000)

end HivePoint
