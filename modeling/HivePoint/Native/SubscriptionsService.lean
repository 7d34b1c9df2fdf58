import HivePoint.Native.Config
import HivePoint.Native.Time
import HivePoint.Native.ManagedRetryPolicy
import HivePoint.Native.StripePaymentProvider

/-!
# SubscriptionsService

The writers of `Subscription` and `Invoice` rows in `subscriptions.service.ts`. Each
function is the sequence of its awaited statements. A field that a call leaves
`undefined` is `none`; for the period of `syncSubscriptionFromExternal`, where `null`
and `undefined` differ, `undefined` is `none` and `null` is `some none`.
-/

namespace HivePoint

def invoiceNotFound : Err := .app ⟨.invoiceNotFound, "INVOICE_NOT_FOUND", 404, []⟩

def subscriptionNotFound : Err := .app ⟨.subscriptionNotFound, "SUBSCRIPTION_NOT_FOUND", 404, []⟩

/-- `invoice.findUnique({ where: { id }, select: { ..., subscription: { ... } } })` -/
def World.findInvoiceWithSubscription (w : World) (id : Id) : Option (Invoice × Subscription) := do
  let invoice ← w.invoices.find? id
  let subscription ← w.subscriptions.find? invoice.subscriptionId
  pure (invoice, subscription)

/-- `subscription.findUnique({ where: { externalSubscriptionId } })` -/
def World.findSubscriptionByExternalId (w : World) (externalSubscriptionId : String) :
    Option Subscription :=
  w.subscriptions.findBy? (·.externalSubscriptionId) externalSubscriptionId

/-- `invoice.findUnique({ where: { externalInvoiceId } })` -/
def World.findInvoiceByExternalId (w : World) (externalInvoiceId : String) : Option Invoice :=
  w.invoices.findBy? (·.externalInvoiceId) externalInvoiceId

/-! ### Cancellation by the buyer -/

structure AuthenticatedUser where
  id : Id
  email : String
  role : Role
  deriving DecidableEq

def notOwner : Err := .app ⟨.notOwner, "NOT_OWNER", 403, []⟩

/-- Tell Stripe about the cancellation of a subscription it bills, and return the period end
    it answers; `none` is `undefined`. -/
def scheduleCancellation (subscription : Subscription) : Op (Option (Option Int)) :=
  if subscription.paymentProvider = .stripe && truthy subscription.externalSubscriptionId then do
    let result ← scheduleSubscriptionCancelAtPeriodEnd
      (subscription.externalSubscriptionId.getD "")
    return some result.currentPeriodEnd
  else return none

/-- The row that `cancelSubscription` writes. -/
def cancelingSubscription (currentPeriodEnd : Option (Option Int)) (row : Subscription) :
    Subscription :=
  { row with
    cancelAtPeriodEnd := true
    currentPeriodEnd := currentPeriodEnd.getD row.currentPeriodEnd }

def cancelSubscription (subscriptionId : Id) (user : AuthenticatedUser) : Op Id := do
  match ← read fun w => w.subscriptions.find? subscriptionId with
  | none => throw subscriptionNotFound
  | some subscription =>
    if user.role ≠ .admin && subscription.userId ≠ user.id then throw notOwner
    else
      let currentPeriodEnd ← scheduleCancellation subscription
      updateSubscription subscriptionId (cancelingSubscription currentPeriodEnd)
      return subscription.id

/-! ### Grace period and retry state -/

def hasManagedRetryState (state : ManagedRetryState) : Bool :=
  state.managedRetryCount > 0 || state.managedNextRetryAt.isSome ||
    state.managedLastRetryAt.isSome || state.managedRetryExhaustedAt.isSome ||
    truthy state.managedLastRetryError

section Config

variable (config : AppConfig)

def resolveGracePeriodEndsAt (now : Int) (status : SubscriptionStatus)
    (currentPeriodStart currentPeriodEnd existingGracePeriodEndsAt : Option Int) : Option Int :=
  if status ≠ .pastDue then none
  else if currentPeriodStart.isNone then none
  else if config.billingGracePeriodDays ≤ 0 then none
  else
    let graceBase :=
      match currentPeriodEnd with
      | some periodEnd => if periodEnd > now then periodEnd else now
      | none => now
    let gracePeriodEndsAt := addUTCDays graceBase config.billingGracePeriodDays
    match existingGracePeriodEndsAt with
    | some existing =>
      if existing > gracePeriodEndsAt then some existing else some gracePeriodEndsAt
    | none => some gracePeriodEndsAt

def shouldUseManagedRenewalRetry (invoiceKind : InvoiceKind) (paymentProvider : BillingProvider)
    (invoiceStatus : InvoiceStatus) (currentPeriodStart : Option Int) : Bool :=
  config.billingManagedRetryEnabled && invoiceKind = .subscription && paymentProvider = .stripe &&
    invoiceStatus = .pastDue && currentPeriodStart.isSome

/-- The retry state a failure report writes; `none` leaves the columns alone. -/
def resolveManagedRetryState (now : Int) (invoiceKind : InvoiceKind)
    (paymentProvider : BillingProvider) (invoiceStatus currentInvoiceStatus : InvoiceStatus)
    (currentPeriodStart : Option Int) (currentState : ManagedRetryState) :
    Option ManagedRetryState :=
  if !shouldUseManagedRenewalRetry config invoiceKind paymentProvider invoiceStatus
      currentPeriodStart then
    if hasManagedRetryState currentState then some clearManagedRetryState else none
  else if currentInvoiceStatus = .pastDue && hasManagedRetryState currentState then none
  else some (createInitialManagedRetryState now config.billingManagedRetryDelaysMinutes)

/-! ### Payment outcomes -/

/-- The invoice is paid under an external id, and the report names a different one. -/
def isPaidUnderOtherId (invoice : Invoice) (externalInvoiceId : Option String) : Bool :=
  invoice.status = .paid && truthy invoice.externalInvoiceId && truthy externalInvoiceId &&
    invoice.externalInvoiceId ≠ externalInvoiceId

structure MarkInvoicePaidParams where
  invoiceId : Id
  paymentProvider : BillingProvider
  externalCheckoutSessionId : Option String := none
  externalInvoiceId : Option String := none
  externalSubscriptionId : Option String := none
  attemptCount : Option Int := none

/-- The row that `markInvoicePaid` writes, from the invoice it read. -/
def paidInvoice (params : MarkInvoicePaidParams) (invoice row : Invoice) : Invoice :=
  { row with
    status := .paid
    paymentProvider := params.paymentProvider
    externalCheckoutSessionId :=
      params.externalCheckoutSessionId.or invoice.externalCheckoutSessionId
    externalInvoiceId := params.externalInvoiceId.or invoice.externalInvoiceId
    attemptCount := params.attemptCount.getD invoice.attemptCount
    nextPaymentAttemptAt := none
    toManagedRetryState :=
      if hasManagedRetryState invoice.toManagedRetryState then clearManagedRetryState
      else row.toManagedRetryState }

/-- The row of the paid invoice's subscription that `markInvoicePaid` writes. -/
def activatedSubscription (params : MarkInvoicePaidParams) (invoice : Invoice)
    (subscription row : Subscription) : Subscription :=
  { row with
    status := .active
    paymentProvider := params.paymentProvider
    externalSubscriptionId := params.externalSubscriptionId.or subscription.externalSubscriptionId
    currentPeriodStart := some invoice.periodStart
    currentPeriodEnd := some invoice.periodEnd
    gracePeriodEndsAt := none }

/-- Returns whether the report was ignored. -/
def markInvoicePaid (params : MarkInvoicePaidParams) : Op Bool := do
  match ← read fun w => w.findInvoiceWithSubscription params.invoiceId with
  | none => throw invoiceNotFound
  | some (invoice, subscription) =>
    if isPaidUnderOtherId invoice params.externalInvoiceId then
      return true
    else
      updateInvoice invoice.id (paidInvoice params invoice)
      if invoice.kind = .overage then
        return false
      else
        updateSubscription subscription.id (activatedSubscription params invoice subscription)
        return false

structure MarkInvoiceFailedParams where
  invoiceId : Id
  paymentProvider : BillingProvider
  externalCheckoutSessionId : Option String := none
  externalInvoiceId : Option String := none
  externalSubscriptionId : Option String := none
  invoiceStatus : Option InvoiceStatus := none
  attemptCount : Option Int := none
  nextPaymentAttemptAt : Option Int := none

/-- The row that `markInvoiceFailed` writes, from the invoice it read. -/
def failedInvoice (params : MarkInvoiceFailedParams) (managedRetryState : Option ManagedRetryState)
    (invoice row : Invoice) : Invoice :=
  let invoiceStatus := params.invoiceStatus.getD .void
  { row with
    status := invoiceStatus
    paymentProvider := params.paymentProvider
    externalCheckoutSessionId :=
      params.externalCheckoutSessionId.or invoice.externalCheckoutSessionId
    externalInvoiceId := params.externalInvoiceId.or invoice.externalInvoiceId
    attemptCount :=
      params.attemptCount.getD (if invoiceStatus = .pastDue then max 1 invoice.attemptCount else 0)
    nextPaymentAttemptAt := if invoiceStatus = .pastDue then params.nextPaymentAttemptAt else none
    toManagedRetryState := managedRetryState.getD row.toManagedRetryState }

/-- The row of the failed invoice's subscription that `markInvoiceFailed` writes. -/
def pastDueSubscription (now : Int) (params : MarkInvoiceFailedParams)
    (subscription row : Subscription) : Subscription :=
  { row with
    status := .pastDue
    paymentProvider := params.paymentProvider
    externalSubscriptionId := params.externalSubscriptionId.or subscription.externalSubscriptionId
    gracePeriodEndsAt :=
      resolveGracePeriodEndsAt config now .pastDue subscription.currentPeriodStart
        subscription.currentPeriodEnd subscription.gracePeriodEndsAt }

/-- Returns whether the report was ignored. -/
def markInvoiceFailed (params : MarkInvoiceFailedParams) : Op Bool := do
  match ← read fun w => w.findInvoiceWithSubscription params.invoiceId with
  | none => throw invoiceNotFound
  | some (invoice, subscription) =>
    if isPaidUnderOtherId invoice params.externalInvoiceId then
      return true
    else
      let now ← clock
      let managedRetryState :=
        resolveManagedRetryState config now invoice.kind params.paymentProvider
          (params.invoiceStatus.getD .void) invoice.status subscription.currentPeriodStart
          invoice.toManagedRetryState
      updateInvoice invoice.id (failedInvoice params managedRetryState invoice)
      if invoice.kind = .overage then
        return false
      else
        let now ← clock
        updateSubscription subscription.id (pastDueSubscription config now params subscription)
        return false

def mockSucceed (invoiceId : Id) : Op Unit := do
  let _ ← markInvoicePaid { invoiceId, paymentProvider := .mock }

def mockFail (invoiceId : Id) : Op Unit := do
  let _ ← markInvoiceFailed config { invoiceId, paymentProvider := .mock }

end Config

/-! ### Synchronisation with Stripe -/

structure RecordExternalCheckoutParams where
  invoiceId : Id
  paymentProvider : BillingProvider
  externalCheckoutSessionId : Option String := none
  externalSubscriptionId : Option String := none

def recordExternalCheckout (params : RecordExternalCheckoutParams) : Op Unit := do
  match ← read fun w => w.findInvoiceWithSubscription params.invoiceId with
  | none => throw invoiceNotFound
  | some (invoice, subscription) =>
    updateInvoice invoice.id fun row =>
      { row with
        paymentProvider := params.paymentProvider
        externalCheckoutSessionId :=
          params.externalCheckoutSessionId.or invoice.externalCheckoutSessionId }
    if truthy params.externalSubscriptionId then
      updateSubscription subscription.id fun row =>
        { row with
          paymentProvider := params.paymentProvider
          externalSubscriptionId :=
            params.externalSubscriptionId.or subscription.externalSubscriptionId }

structure SyncInvoiceParams where
  paymentProvider : BillingProvider
  externalInvoiceId : String
  externalSubscriptionId : Option String
  externalCheckoutSessionId : Option String := none
  metadataInvoiceId : Option String
  allowMetadataInvoiceId : Bool
  amountCents : Int
  currency : String
  periodStart : Int
  periodEnd : Int
  status : InvoiceStatus
  attemptCount : Option Int
  nextPaymentAttemptAt : Option Int

/-- The invoice that `invoice.create` adds for an external invoice nobody knew. -/
def externalInvoice (params : SyncInvoiceParams) (subscriptionId : Id) (env : Env) : Invoice where
  id := env.uuid
  subscriptionId := subscriptionId
  paymentProvider := params.paymentProvider
  kind := .subscription
  externalCheckoutSessionId := params.externalCheckoutSessionId
  externalInvoiceId := some params.externalInvoiceId
  overageSourceInvoiceId := none
  overageProcessedAt := none
  overageRequests := none
  overageUnits := none
  amountCents := params.amountCents
  currency := params.currency
  status := .draft
  attemptCount := 0
  nextPaymentAttemptAt := none
  toManagedRetryState := clearManagedRetryState
  periodStart := params.periodStart
  periodEnd := params.periodEnd
  createdAt := env.now

/-- May an invoice found through metadata stand for the external invoice? -/
def acceptsExternalId (externalInvoiceId : String) (invoice : Invoice) : Bool :=
  !truthy invoice.externalInvoiceId || invoice.externalInvoiceId = some externalInvoiceId

/-- The last resort of `resolveInvoiceForExternalSync`: add an invoice to the
    subscription that the external invoice names. -/
def createInvoiceForExternalSync (params : SyncInvoiceParams) : Op Id := do
  if !truthy params.externalSubscriptionId then
    throw subscriptionNotFound
  else
    match ← read fun w =>
        params.externalSubscriptionId.bind w.findSubscriptionByExternalId with
    | none => throw subscriptionNotFound
    | some subscription =>
      mutate fun env w =>
        (w.createInvoice (externalInvoice params subscription.id env)).map (env.uuid, ·)

def resolveInvoiceForExternalSync (params : SyncInvoiceParams) : Op Id := do
  match ← read fun w => w.findInvoiceByExternalId params.externalInvoiceId with
  | some invoice => return invoice.id
  | none =>
    if params.allowMetadataInvoiceId && truthy params.metadataInvoiceId then
      match ← read fun w => params.metadataInvoiceId.bind w.invoices.find? with
      | some invoice =>
        if acceptsExternalId params.externalInvoiceId invoice then return invoice.id
        else createInvoiceForExternalSync params
      | none => createInvoiceForExternalSync params
    else createInvoiceForExternalSync params

/-- The row that a `DRAFT` sync writes, from the invoice it read: one that has left
    `DRAFT` keeps its status and retry metadata. -/
def draftInvoice (params : SyncInvoiceParams) (invoice row : Invoice) : Invoice :=
  let shouldPreserveCurrentStatus := invoice.status ≠ .draft
  { row with
    paymentProvider := params.paymentProvider
    externalCheckoutSessionId :=
      params.externalCheckoutSessionId.or row.externalCheckoutSessionId
    externalInvoiceId := some params.externalInvoiceId
    amountCents := params.amountCents
    currency := params.currency
    status := if shouldPreserveCurrentStatus then invoice.status else .draft
    attemptCount :=
      if shouldPreserveCurrentStatus then invoice.attemptCount else params.attemptCount.getD 0
    nextPaymentAttemptAt :=
      if shouldPreserveCurrentStatus then invoice.nextPaymentAttemptAt
      else params.nextPaymentAttemptAt
    periodStart := params.periodStart
    periodEnd := params.periodEnd }

section Config

variable (config : AppConfig)

/-- Returns the id of the local invoice. -/
def syncInvoiceFromExternal (params : SyncInvoiceParams) : Op Id := do
  let invoiceId ← resolveInvoiceForExternalSync params
  match ← read fun w => w.invoices.find? invoiceId with
  | none => throw invoiceNotFound
  | some currentInvoice =>
    match params.status with
    | .draft =>
      updateInvoice invoiceId (draftInvoice params currentInvoice)
      return invoiceId
    | .paid =>
      let _ ← markInvoicePaid
        { invoiceId
          paymentProvider := params.paymentProvider
          externalCheckoutSessionId := params.externalCheckoutSessionId
          externalInvoiceId := some params.externalInvoiceId
          externalSubscriptionId := params.externalSubscriptionId
          attemptCount := params.attemptCount }
      return invoiceId
    | .pastDue | .void =>
      let _ ← markInvoiceFailed config
        { invoiceId
          paymentProvider := params.paymentProvider
          externalCheckoutSessionId := params.externalCheckoutSessionId
          externalInvoiceId := some params.externalInvoiceId
          externalSubscriptionId := params.externalSubscriptionId
          invoiceStatus := some params.status
          attemptCount := params.attemptCount
          nextPaymentAttemptAt := params.nextPaymentAttemptAt }
      return invoiceId

def markSubscriptionCanceledByExternalId (externalSubscriptionId : String) : Op Unit := do
  match ← read fun w => w.findSubscriptionByExternalId externalSubscriptionId with
  | none => throw subscriptionNotFound
  | some subscription =>
    updateSubscription subscription.id fun row =>
      { row with status := .canceled, gracePeriodEndsAt := none, cancelAtPeriodEnd := false }

structure SyncSubscriptionParams where
  externalSubscriptionId : String
  cancelAtPeriodEnd : Bool
  status : Option SubscriptionStatus := none
  currentPeriodStart : Option (Option Int) := none
  currentPeriodEnd : Option (Option Int) := none

/-- The row that `syncSubscriptionFromExternal` writes, from the subscription it read. -/
def syncedSubscription (now : Int) (params : SyncSubscriptionParams)
    (subscription row : Subscription) : Subscription :=
  { row with
    cancelAtPeriodEnd := params.cancelAtPeriodEnd
    status := params.status.getD row.status
    gracePeriodEndsAt :=
      match params.status with
      | some status =>
        resolveGracePeriodEndsAt config now status
          (params.currentPeriodStart.getD subscription.currentPeriodStart)
          (params.currentPeriodEnd.getD subscription.currentPeriodEnd)
          subscription.gracePeriodEndsAt
      | none => row.gracePeriodEndsAt
    currentPeriodStart := params.currentPeriodStart.getD row.currentPeriodStart
    currentPeriodEnd := params.currentPeriodEnd.getD row.currentPeriodEnd }

def syncSubscriptionFromExternal (params : SyncSubscriptionParams) : Op Unit := do
  match ← read fun w => w.findSubscriptionByExternalId params.externalSubscriptionId with
  | none => throw subscriptionNotFound
  | some subscription =>
    let now ← clock
    updateSubscription subscription.id (syncedSubscription config now params subscription)

/-! ### Subscribing -/

def planNotFound : Err := .app ⟨.planNotFound, "PLAN_NOT_FOUND", 404, []⟩

def planInactive : Err := .app ⟨.planInactive, "PLAN_INACTIVE", 400, []⟩

def productNotPublic : Err := .app ⟨.productNotPublic, "PRODUCT_NOT_PUBLIC", 403, []⟩

def productNotReady : Err := .app ⟨.productNotReady, "PRODUCT_NOT_READY", 409, []⟩

/-- What `subscribe` throws when the user has this subscription to the product. -/
def existingSubscription (existing : Subscription) : Err :=
  if existing.status = .active then .app ⟨.alreadySubscribed, "ALREADY_SUBSCRIBED", 409, []⟩
  else .app ⟨.subscriptionPending, "SUBSCRIPTION_PENDING", 409, []⟩

/-- `plan.findUnique({ where: { id }, select: { ..., product: { ... } } })` -/
def World.findPlanWithProduct (w : World) (planId : Id) : Option (Plan × ApiProduct) := do
  let plan ← w.plans.find? planId
  let product ← w.products.find? plan.productId
  pure (plan, product)

/-- `apiVersion.findFirst({ where: { productId, status: PUBLISHED } })` -/
def World.findPublishedVersion (w : World) (productId : Id) : Option ApiVersion :=
  w.apiVersions.rows.find? fun v => v.productId = productId && v.status = .published

def getInvoicePeriod (now : Int) : Int × Int := (now, addUTCMonths now 1)

/-- `status: { in: [ACTIVE, PENDING] }` -/
def isLive (status : SubscriptionStatus) : Bool := status = .active || status = .pending

/-- The `where` of the transaction's look at existing subscriptions. -/
def World.isLiveFor (w : World) (userId productId : Id) (subscription : Subscription) : Bool :=
  subscription.userId = userId && isLive subscription.status &&
    (w.plans.find? subscription.planId).any (·.productId = productId)

def World.findLiveSubscription (w : World) (userId productId : Id) : Option Subscription :=
  w.subscriptions.rows.find? (w.isLiveFor userId productId)

/-- The subscription that `subscribe` creates. -/
def pendingSubscription (userId : Id) (plan : Plan) (env : Env) : Subscription where
  id := env.uuid
  userId := userId
  planId := plan.id
  paymentProvider := config.paymentProvider
  externalSubscriptionId := none
  status := .pending
  currentPeriodStart := none
  currentPeriodEnd := none
  gracePeriodEndsAt := none
  cancelAtPeriodEnd := false
  createdAt := env.now

/-- The invoice that `subscribe` creates for it. -/
def firstInvoice (plan : Plan) (periodStart periodEnd : Int) (env : Env) : Invoice where
  id := env.nextUuid
  subscriptionId := env.uuid
  paymentProvider := config.paymentProvider
  kind := .subscription
  externalCheckoutSessionId := none
  externalInvoiceId := none
  overageSourceInvoiceId := none
  overageProcessedAt := none
  overageRequests := none
  overageUnits := none
  amountCents := plan.priceCents
  currency := plan.currency
  status := .draft
  attemptCount := 0
  nextPaymentAttemptAt := none
  toManagedRetryState := clearManagedRetryState
  periodStart := periodStart
  periodEnd := periodEnd
  createdAt := env.now

/-- Has another transaction added a subscription of the user to the product since `seen`? -/
def World.boughtSince (w seen : World) (userId productId : Id) : Bool :=
  w.subscriptions.rows.any fun row =>
    row.userId = userId && (w.plans.find? row.planId).any (·.productId = productId) &&
      (seen.subscriptions.find? row.id).isNone

/-- The end of the transaction of `subscribe`. It has looked for a live subscription in the
    snapshot `seen`, and adds its rows to the state `w` in which it commits. SERIALIZABLE, it is
    refused when another such transaction has come in between; the single statements that
    change the status of a row are not in its way. -/
def World.subscribe (env : Env) (w seen : World) (userId : Id) (plan : Plan)
    (periodStart periodEnd : Int) : Except Err ((Id × Id) × World) :=
  match seen.findLiveSubscription userId plan.productId with
  | some existing => .error (existingSubscription existing)
  | none =>
    if w.boughtSince seen userId plan.productId then .error couldNotSerialize
    else do
      let subscription := pendingSubscription config userId plan env
      let w ← w.createSubscription subscription
      let invoice := firstInvoice config plan periodStart periodEnd env
      let w ← w.createInvoice invoice
      .ok ((subscription.id, invoice.id), w)

/-- `MockPaymentProvider.createPayment` -/
def mockCreatePayment (params : CreatePaymentParams) : CreatePaymentResult where
  paymentLink := "http://localhost:" ++ toString config.port ++ "/billing/mock/pay?invoiceId=" ++
    params.invoiceId
  provider := .mock
  externalPaymentId := none

/-- `activePaymentProvider.createPayment` -/
def createPayment (params : CreatePaymentParams) : Op CreatePaymentResult :=
  match config.paymentProvider with
  | .mock => pure (mockCreatePayment config params)
  | .stripe => stripeCreatePayment params

structure SubscribeResult where
  subscriptionId : Id
  invoiceId : Id
  paymentLink : String
  deriving DecidableEq

/-- The payment of a subscription that has been created; if it throws, the invoice has
    failed. -/
def requestPayment (user : AuthenticatedUser) (plan : Plan) (product : ApiProduct)
    (subscriptionId invoiceId : Id) : Op SubscribeResult :=
  tryCatch
    (do
      let payment ← createPayment config
        { invoiceId
          subscriptionId
          userId := user.id
          userEmail := user.email
          planId := plan.id
          planName := plan.name
          productTitle := product.title
          amountCents := plan.priceCents
          currency := plan.currency
          setupOnly := config.paymentProvider = .stripe && plan.priceCents = 0 }
      if truthy payment.externalPaymentId then
        updateInvoice invoiceId fun row =>
          { row with externalCheckoutSessionId := payment.externalPaymentId }
      return { subscriptionId, invoiceId, paymentLink := payment.paymentLink })
    fun error => do
      let _ ← markInvoiceFailed config { invoiceId, paymentProvider := config.paymentProvider }
      throw error

def subscribe (user : AuthenticatedUser) (planId : Id) : Op SubscribeResult := do
  match ← read fun w => w.findPlanWithProduct planId with
  | none => throw planNotFound
  | some (plan, product) =>
    if !plan.isActive then throw planInactive
    else if product.status ≠ .published then throw productNotPublic
    else
      match ← read fun w => w.findPublishedVersion plan.productId with
      | none => throw productNotReady
      | some _ =>
        let now ← clock
        let (periodStart, periodEnd) := getInvoicePeriod now
        -- the transaction's snapshot is that of its first statement, which asks for the lock
        let seen ← read id
        let (subscriptionId, invoiceId) ← mutate fun env w =>
          w.subscribe config env seen user.id plan periodStart periodEnd
        requestPayment config user plan product subscriptionId invoiceId

end Config

end HivePoint
