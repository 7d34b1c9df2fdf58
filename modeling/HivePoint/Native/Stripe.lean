import HivePoint.Native.Schema

/-!
# Stripe objects

What the services read of Stripe's objects, and Stripe itself as the environment of
the program: `StripeApi` answers each request, `StripeRequest` names it in the log.
Timestamps of Stripe objects are in seconds.
-/

namespace HivePoint

/-! ### Objects -/

/-- `Stripe.Subscription.Status`. -/
inductive StripeSubscriptionStatus where
  | active | canceled | incomplete | incompleteExpired | pastDue | paused | trialing | unpaid
  deriving DecidableEq, Repr

/-- `Stripe.Invoice.Status`. -/
inductive StripeInvoiceStatus where
  | draft | «open» | paid | uncollectible | void
  deriving DecidableEq, Repr

/-- `Stripe.Invoice.BillingReason`. -/
inductive BillingReason where
  | automaticPendingInvoiceItemInvoice | manual | quoteAccept | subscription
  | subscriptionCreate | subscriptionCycle | subscriptionThreshold | subscriptionUpdate | upcoming
  deriving DecidableEq, Repr

/-- `invoice.parent.subscription_details`. -/
structure SubscriptionDetails where
  /-- `metadata?.invoiceId` -/
  metadataInvoiceId : Option String
  /-- `subscription`, when it is a string -/
  subscription : Option String
  deriving DecidableEq

/-- An amount in cents. Stripe's amounts have at most eight digits. -/
abbrev StripeAmount := { cents : Int // -99999999 ≤ cents ∧ cents ≤ 99999999 }

structure StripeInvoice where
  id : String
  status : Option StripeInvoiceStatus
  billingReason : Option BillingReason
  total : StripeAmount
  currency : String
  attemptCount : Option Int
  nextPaymentAttempt : Option Int
  periodStart : Int
  periodEnd : Int
  /-- `metadata?.invoiceId` -/
  metadataInvoiceId : Option String
  /-- `parent?.subscription_details` -/
  subscriptionDetails : Option SubscriptionDetails
  /-- the root `subscription`, when it is a string -/
  subscription : Option String
  deriving DecidableEq

/-- The billing period of one subscription item; `none` is a value that is not a number. -/
structure StripeSubscriptionItem where
  currentPeriodStart : Option Int
  currentPeriodEnd : Option Int
  deriving DecidableEq

/-- `subscription.latest_invoice`: absent, an id, or expanded. -/
inductive LatestInvoice where
  | null
  | id (invoiceId : String)
  | expanded (invoice : StripeInvoice)
  deriving DecidableEq

structure StripeSubscription where
  id : String
  status : StripeSubscriptionStatus
  cancelAtPeriodEnd : Bool
  /-- `items.data` -/
  items : List StripeSubscriptionItem
  /-- `metadata?.invoiceId` -/
  metadataInvoiceId : Option String
  latestInvoice : LatestInvoice
  /-- `customer`, when it is a string -/
  customer : Option String
  deriving DecidableEq

inductive CheckoutMode where
  | payment | setup | subscription
  deriving DecidableEq

/-- `Stripe.Checkout.Session`. -/
structure CheckoutSession where
  id : String
  mode : CheckoutMode
  /-- `metadata?.invoiceId` -/
  metadataInvoiceId : Option String
  /-- `subscription`, when it is a string -/
  subscription : Option String
  deriving DecidableEq

/-- The webhook events that `StripeWebhooksService` handles; every other type is `other`. -/
inductive StripeEvent where
  | checkoutSessionCompleted (session : CheckoutSession)
  | checkoutSessionExpired (session : CheckoutSession)
  | invoiceCreated (invoice : StripeInvoice)
  | invoiceFinalized (invoice : StripeInvoice)
  | invoicePaid (invoice : StripeInvoice)
  | invoicePaymentFailed (invoice : StripeInvoice)
  | customerSubscriptionUpdated (subscription : StripeSubscription)
  | customerSubscriptionDeleted (subscription : StripeSubscription)
  | other
  deriving DecidableEq

/-! ### Requests and answers -/

/-- `{ type, code, message }` of an error the Stripe client throws. -/
structure StripeError where
  type : String
  code : Option String
  message : String
  deriving DecidableEq

/-- What becomes of a request: carried out and answered, carried out with the answer
    lost on the way (the caller sees an error), or refused without effect. -/
inductive Answer (α : Type) where
  | ok (value : α)
  | lost
  | failed (error : StripeError)

/-- `invoiceItems.create` -/
structure CreateInvoiceItemParams where
  customer : String
  subscription : Option String
  currency : String
  amount : Int
  description : String
  metadataInvoiceId : Id
  deriving DecidableEq

/-- `invoices.create` (`auto_advance: false`, `collection_method: 'charge_automatically'`) -/
structure CreateInvoiceParams where
  customer : String
  subscription : Option String
  metadataInvoiceId : Id
  deriving DecidableEq

/-- `checkout.sessions.create`, apart from the two redirect addresses, which the configuration
    fixes. -/
structure CreateCheckoutSessionParams where
  mode : CheckoutMode
  customer : String
  clientReferenceId : Id
  /-- `metadata`, which `subscription_data` repeats -/
  metadataInvoiceId : Id
  metadataSubscriptionId : Id
  metadataUserId : Id
  metadataPlanId : Id
  /-- the one of `line_items`: its currency, amount, product name and description -/
  lineItem : Option (String × Int × String × String)
  deriving DecidableEq

/-- What is read of the session that `checkout.sessions.create` returns. -/
structure CreatedCheckoutSession where
  id : String
  url : Option String
  deriving DecidableEq

inductive StripeRequest where
  | retrieveSubscription (id : String)
  | retrieveInvoice (id : String)
  | payInvoice (id : String)
  | finalizeInvoice (id : String)
  | createInvoiceItem (params : CreateInvoiceItemParams)
  | createInvoice (params : CreateInvoiceParams)
  | createCustomer (email : String) (userId : Id)
  /-- `subscriptions.update` with `cancel_at_period_end: true` -/
  | cancelSubscriptionAtPeriodEnd (id : String)
  | createCheckoutSession (params : CreateCheckoutSessionParams)
  | createPortalSession (customer : String)
  deriving DecidableEq

/-- Stripe's answers at one moment. -/
structure StripeApi where
  retrieveSubscription : String → Answer StripeSubscription
  retrieveInvoice : String → Answer StripeInvoice
  payInvoice : String → Answer StripeInvoice
  finalizeInvoice : String → Answer StripeInvoice
  createInvoiceItem : CreateInvoiceItemParams → Answer Unit
  createInvoice : CreateInvoiceParams → Answer StripeInvoice
  /-- the id of the new customer -/
  createCustomer : String → Id → Answer String
  cancelSubscriptionAtPeriodEnd : String → Answer StripeSubscription
  createCheckoutSession : CreateCheckoutSessionParams → Answer CreatedCheckoutSession
  /-- the address of the new session -/
  createPortalSession : String → Answer String

end HivePoint
