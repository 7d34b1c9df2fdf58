import HivePoint.Native.StripeSnapshot

/-!
# StripePaymentProvider

The requests for money of `stripe-payment.provider.ts`, `createPayment`,
`retryInvoicePayment` and `createManagedInvoice`, the customer portal, and the cancellation
of a Stripe subscription. None sends an idempotency key, so Stripe carries out every request
it receives.
-/

namespace HivePoint

structure RetryInvoicePaymentResult where
  externalInvoiceId : String
  externalSubscriptionId : Option String
  amountCents : Int
  currency : String
  periodStart : Int
  periodEnd : Int
  status : InvoiceStatus
  attemptCount : Int
  nextPaymentAttemptAt : Option Int
  deriving DecidableEq

def mapInvoiceStatus (invoice : StripeInvoice) : InvoiceStatus :=
  match invoice.status with
  | some .paid => .paid
  | some .void | some .uncollectible => .void
  | _ => .pastDue

def extractExternalSubscriptionId (invoice : StripeInvoice) : Option String :=
  (invoice.subscriptionDetails.bind (·.subscription)).or invoice.subscription

def toInvoiceResult (invoice : StripeInvoice) : RetryInvoicePaymentResult where
  externalInvoiceId := invoice.id
  externalSubscriptionId := extractExternalSubscriptionId invoice
  amountCents := invoice.total.1
  currency := invoice.currency.toUpper
  periodStart := invoice.periodStart * 1000
  periodEnd := invoice.periodEnd * 1000
  status := mapInvoiceStatus invoice
  attemptCount := invoice.attemptCount.getD 0
  nextPaymentAttemptAt := nextPaymentAttemptDate invoice

def retryInvoicePayment (externalInvoiceId : String) : Op RetryInvoicePaymentResult := do
  let invoice ← callStripe (.payInvoice externalInvoiceId) (·.payInvoice externalInvoiceId)
  return toInvoiceResult invoice

structure ScheduleSubscriptionCancelResult where
  cancelAtPeriodEnd : Bool
  currentPeriodEnd : Option Int
  deriving DecidableEq

def scheduleSubscriptionCancelAtPeriodEnd (externalSubscriptionId : String) :
    Op ScheduleSubscriptionCancelResult := do
  let subscription ← callStripe (.cancelSubscriptionAtPeriodEnd externalSubscriptionId)
    (·.cancelSubscriptionAtPeriodEnd externalSubscriptionId)
  return {
    cancelAtPeriodEnd := subscription.cancelAtPeriodEnd
    currentPeriodEnd := (extractStripeSubscriptionPeriod subscription).currentPeriodEnd }

structure CreateManagedInvoiceParams where
  invoiceId : Id
  externalSubscriptionId : Option String
  userId : Id
  userEmail : String
  amountCents : Int
  currency : String
  description : String
  periodStart : Int
  periodEnd : Int
  deriving DecidableEq

def resolveSubscriptionCustomer (externalSubscriptionId : String) : Op String := do
  let subscription ← callStripe (.retrieveSubscription externalSubscriptionId)
    (·.retrieveSubscription externalSubscriptionId)
  match subscription.customer with
  | some customer => return customer
  | none => throw (.app ⟨.internalError, "STRIPE_SUBSCRIPTION_CUSTOMER_MISSING", 500, []⟩)

/-- `prisma.user.update({ where: { id }, data: { stripeCustomerId } })` on a state. -/
def World.updateStripeCustomer (w : World) (userId : Id) (customerId : String) :
    Except Err World :=
  if (w.users.find? userId).isNone then .error .recordNotFound
  else
    match w.users.update? userId fun u => { u with stripeCustomerId := some customerId } with
    | some t => .ok { w with users := t }
    | none => .error (.uniqueConstraint [])

def ensureCustomer (userId : Id) (userEmail : String) : Op String := do
  match ← read fun w => w.users.find? userId with
  | none => throw (.app ⟨.notFound, "USER_NOT_FOUND", 404, []⟩)
  | some user =>
    if truthy user.stripeCustomerId then return user.stripeCustomerId.getD ""
    else
      let email := if user.email = "" then userEmail else user.email
      let customerId ← callStripe (.createCustomer email user.id) (·.createCustomer email user.id)
      mutate fun _ w => (w.updateStripeCustomer user.id customerId).map ((), ·)
      return customerId

/-! ### Checkout -/

structure CreatePaymentParams where
  invoiceId : Id
  subscriptionId : Id
  userId : Id
  userEmail : String
  planId : Id
  planName : String
  productTitle : String
  amountCents : Int
  currency : String
  setupOnly : Bool
  deriving DecidableEq

structure CreatePaymentResult where
  paymentLink : String
  provider : BillingProvider
  externalPaymentId : Option String
  deriving DecidableEq

/-- `text.includes(part)` -/
def includesText (text part : String) : Bool := part.toList <:+: text.toList

/-- The request of `createPayment`: a plan without a price only collects a payment method. -/
def checkoutSessionParams (customerId : String) (params : CreatePaymentParams) :
    CreateCheckoutSessionParams where
  mode := if params.setupOnly then .setup else .subscription
  customer := customerId
  clientReferenceId := params.invoiceId
  metadataInvoiceId := params.invoiceId
  metadataSubscriptionId := params.subscriptionId
  metadataUserId := params.userId
  metadataPlanId := params.planId
  lineItem :=
    if params.setupOnly then none
    else some (params.currency.toLower, params.amountCents, params.productTitle,
      "Plan: " ++ params.planName)

/-- What `createPayment` throws when Stripe refuses the session. -/
def handleCreatePaymentError (error : Err) (customerId currency : String) : Err :=
  match error with
  | .stripe e =>
    if e.type = "StripeInvalidRequestError" &&
        includesText e.message "You cannot combine currencies on a single customer" then
      .app ⟨.conflict,
        "Stripe customer already has billing activity in another currency. Use a fresh account or a plan with the same currency.",
        409, [("customerId", customerId), ("requestedCurrency", currency.toUpper)]⟩
    else error
  | _ => error

def stripeCreatePayment (params : CreatePaymentParams) : Op CreatePaymentResult := do
  let customerId ← ensureCustomer params.userId params.userEmail
  let create := checkoutSessionParams customerId params
  let session ← tryCatch
    (callStripe (.createCheckoutSession create) (·.createCheckoutSession create))
    fun error => throw (handleCreatePaymentError error customerId params.currency)
  if truthy session.url then
    return {
      paymentLink := session.url.getD ""
      provider := .stripe
      externalPaymentId := some session.id }
  else throw (.app ⟨.internalError, "STRIPE_CHECKOUT_URL_MISSING", 500, []⟩)

/-! ### The customer portal -/

structure CreateCustomerPortalSessionParams where
  userId : Id
  userEmail : String
  deriving DecidableEq

structure CreateCustomerPortalSessionResult where
  url : String
  deriving DecidableEq

def createCustomerPortalSession (params : CreateCustomerPortalSessionParams) :
    Op CreateCustomerPortalSessionResult := do
  let customerId ← ensureCustomer params.userId params.userEmail
  let url ← callStripe (.createPortalSession customerId) (·.createPortalSession customerId)
  return ⟨url⟩

/-! ### Managed invoices -/

/-- Pay an invoice that is not paid yet, and look it up when that throws. -/
def payOrRetrieve (invoice : StripeInvoice) : Op StripeInvoice :=
  if invoice.status ≠ some .paid then
    tryCatch (callStripe (.payInvoice invoice.id) (·.payInvoice invoice.id)) fun _ =>
      callStripe (.retrieveInvoice invoice.id) (·.retrieveInvoice invoice.id)
  else return invoice

/-- The `try` of `createManagedInvoice`: finalize a draft and pay. A `finalizeInvoice` that
    throws skips the payment. -/
def finalizeAndPay (invoice : StripeInvoice) : Op StripeInvoice :=
  if invoice.status = some .draft then do
    let finalized ← tryCatch
      (do
        let finalized ← callStripe (.finalizeInvoice invoice.id) (·.finalizeInvoice invoice.id)
        return some finalized)
      fun _ => pure none
    match finalized with
    | some finalized => payOrRetrieve finalized
    | none => callStripe (.retrieveInvoice invoice.id) (·.retrieveInvoice invoice.id)
  else payOrRetrieve invoice

def createManagedInvoice (params : CreateManagedInvoiceParams) : Op RetryInvoicePaymentResult := do
  let customer ←
    if truthy params.externalSubscriptionId then
      resolveSubscriptionCustomer (params.externalSubscriptionId.getD "")
    else ensureCustomer params.userId params.userEmail
  let subscription :=
    if truthy params.externalSubscriptionId then params.externalSubscriptionId else none
  let item : CreateInvoiceItemParams :=
    { customer, subscription, currency := params.currency.toLower, amount := params.amountCents
      description := params.description, metadataInvoiceId := params.invoiceId }
  callStripe (.createInvoiceItem item) (·.createInvoiceItem item)
  let create : CreateInvoiceParams :=
    { customer, subscription, metadataInvoiceId := params.invoiceId }
  let invoice ← callStripe (.createInvoice create) (·.createInvoice create)
  let invoice ← finalizeAndPay invoice
  return toInvoiceResult invoice

end HivePoint
