import HivePoint.ForStd.Crew
import HivePoint.Native.SubscriptionsService
import HivePoint.Native.StripePaymentProvider
import HivePoint.Native.UsageService

/-!
# BillingOverageCollectionService

The worker of `billing-overage-collection.service.ts`: it settles the usage of ended
periods (`materializeSourceInvoice`) and charges the overage invoices that come of it
(`collectOverageInvoice`). The lease is taken before a cycle starts; a cycle is a
`BatchJob`.
-/

namespace HivePoint

/-! ### Settlement -/

structure Settlement where
  overageRequests : Int
  overageUnits : Int
  amountCents : Int
  deriving DecidableEq

def buildSettlement (plan : Plan) (usedRequests : Int) : Settlement :=
  match plan.overageUnitRequests, plan.overagePriceCents with
  | some overageUnitRequests, some overagePriceCents =>
    if !plan.allowOverage || overageUnitRequests = 0 || overagePriceCents = 0 ||
        usedRequests ≤ plan.quotaRequests then ⟨0, 0, 0⟩
    else
      let overageRequests := usedRequests - plan.quotaRequests
      let overageUnits := ceilDiv overageRequests overageUnitRequests
      ⟨overageRequests, overageUnits, overageUnits * overagePriceCents⟩
  | _, _ => ⟨0, 0, 0⟩

def isLocalManagedStripeSubscription (subscription : Subscription) (plan : Plan) : Bool :=
  subscription.paymentProvider = .stripe && !truthy subscription.externalSubscriptionId &&
    plan.priceCents = 0 && subscription.currentPeriodEnd.isSome

def addPlanPeriod (periodStart : Int) : PlanPeriod → Int
  | .month => addUTCMonths periodStart 1

/-- The invoice columns that the two `invoice.create` of the worker leave to their defaults. -/
def newInvoice (id subscriptionId : Id) (now : Int) : Invoice where
  id := id
  subscriptionId := subscriptionId
  paymentProvider := .stripe
  kind := .subscription
  externalCheckoutSessionId := none
  externalInvoiceId := none
  overageSourceInvoiceId := none
  overageProcessedAt := none
  overageRequests := none
  overageUnits := none
  amountCents := 0
  currency := ""
  status := .draft
  attemptCount := 0
  nextPaymentAttemptAt := none
  toManagedRetryState := clearManagedRetryState
  periodStart := 0
  periodEnd := 0
  createdAt := now

/-- The invoice that charges a settlement. -/
def overageInvoice (source : Invoice) (plan : Plan) (settlement : Settlement) (id : Id)
    (now : Int) : Invoice :=
  { newInvoice id source.subscriptionId now with
    kind := .overage
    overageSourceInvoiceId := some source.id
    overageRequests := some settlement.overageRequests
    overageUnits := some settlement.overageUnits
    amountCents := settlement.amountCents
    currency := plan.currency
    status := .draft
    periodStart := source.periodStart
    periodEnd := source.periodEnd }

/-- The invoice of the next period of a locally managed subscription. -/
def renewalInvoice (source : Invoice) (plan : Plan) (id : Id) (now : Int) : Invoice :=
  { newInvoice id source.subscriptionId now with
    kind := .subscription
    amountCents := plan.priceCents
    currency := plan.currency
    status := .paid
    periodStart := source.periodEnd
    periodEnd := addPlanPeriod source.periodEnd plan.period }

/-- A transaction that has read a row as `row` and writes it now: SERIALIZABLE, it is refused
    when the row has been written since. -/
def assertUnwritten {ρ : Type} [DecidableEq ρ] (current : Option ρ) (row : ρ) : Except Err Unit :=
  if current = some row then .ok () else .error couldNotSerialize

/-- Charge the overage of the source invoice's period, once. Whether it has been charged was
    read in `seen`. -/
def settleOverage (env : Env) (seen : World) (source : Invoice) (plan : Plan) (usedRequests : Int)
    (w : World) : Except Err World :=
  let settlement := buildSettlement plan usedRequests
  let derived := seen.invoices.findBy? (·.overageSourceInvoiceId) source.id
  if settlement.amountCents > 0 && derived.isNone then
    w.createInvoice (overageInvoice source plan settlement env.uuid env.now)
  else .ok w

/-- Renew a locally managed subscription, or cancel it at the end of its period. -/
def rollForward (env : Env) (source : Invoice) (subscription : Subscription) (plan : Plan)
    (w : World) : Except Err World :=
  if !isLocalManagedStripeSubscription subscription plan then .ok w
  else if subscription.cancelAtPeriodEnd then do
    assertUnwritten (w.subscriptions.find? subscription.id) subscription
    w.updateSubscription subscription.id fun row =>
      { row with status := .canceled, cancelAtPeriodEnd := false, gracePeriodEndsAt := none }
  else if subscription.status ≠ .canceled then do
    assertUnwritten (w.subscriptions.find? subscription.id) subscription
    let renewal := renewalInvoice source plan env.nextUuid env.now
    let w ← w.createInvoice renewal
    w.updateSubscription subscription.id fun row =>
      { row with
        status := .active
        currentPeriodStart := some renewal.periodStart
        currentPeriodEnd := some renewal.periodEnd
        gracePeriodEndsAt := none }
  else .ok w

/-- `sumUsageForWindow` inside a serializable transaction, where its statements see one
    state. -/
def World.sumUsageForWindow (env : Env) (w : World) (subscriptionId : Id)
    (periodStart periodEnd : Int) : Except Err Int :=
  ((HivePoint.sumUsageForWindow subscriptionId periodStart periodEnd : Op Int).exec env w).1

/-- The end of the transaction of `materializeSourceInvoice`: whether the invoice was processed,
    and the state it leaves. All that it reads it has read in the snapshot `seen`; its writes
    change the state `w` in which it commits. -/
def World.materializeSourceInvoice (env : Env) (w seen : World) (sourceInvoiceId : Id)
    (processedAt : Int) : Except Err (Bool × World) :=
  match seen.findInvoiceWithSubscription sourceInvoiceId with
  | none => .ok (false, w)
  | some (source, subscription) =>
    match seen.plans.find? subscription.planId with
    | none => .ok (false, w)
    | some plan =>
      if source.kind ≠ .subscription || source.status ≠ .paid || source.paymentProvider ≠ .stripe ||
          source.overageProcessedAt.isSome then .ok (false, w)
      else do
        -- the row that is marked below
        assertUnwritten (w.invoices.find? source.id) source
        let usedRequests ←
          seen.sumUsageForWindow env subscription.id source.periodStart source.periodEnd
        let w ← settleOverage env seen source plan usedRequests w
        let w ← rollForward env source subscription plan w
        let w ← w.updateInvoice source.id fun row =>
          { row with overageProcessedAt := some processedAt }
        .ok (true, w)

/-- Its isolation level is SERIALIZABLE: it sees the state of its first statement and writes at
    its commit. A record of usage that is committed in between is not in its way. -/
def materializeSourceInvoice (sourceInvoiceId : Id) (processedAt : Int) : Op Bool := do
  let seen ← read id
  mutate fun env w => w.materializeSourceInvoice env seen sourceInvoiceId processedAt

/-! ### Collection -/

/-- What `collectOverageInvoice` reads. -/
structure OverageInvoiceDetails where
  invoice : Invoice
  subscription : Subscription
  user : User
  plan : Plan
  product : ApiProduct

def World.findOverageInvoice (w : World) (invoiceId : Id) : Option OverageInvoiceDetails := do
  let (invoice, subscription) ← w.findInvoiceWithSubscription invoiceId
  let user ← w.users.find? subscription.userId
  let plan ← w.plans.find? subscription.planId
  let product ← w.products.find? plan.productId
  pure ⟨invoice, subscription, user, plan, product⟩

/-- The guard of `collectOverageInvoice`. -/
def isCollectable (invoice : Invoice) : Bool :=
  invoice.kind = .overage && invoice.status = .draft && !truthy invoice.externalInvoiceId

section Description

-- `Date.prototype.toISOString`
variable (toISOString : Int → String)

def buildOverageDescription (details : OverageInvoiceDetails) : String :=
  let invoice := details.invoice
  let suffix :=
    match invoice.overageRequests, invoice.overageUnits with
    | some requests, some units =>
      if requests ≠ 0 && units ≠ 0 then
        " (" ++ toString requests ++ " requests across " ++ toString units ++ " units)"
      else ""
    | _, _ => ""
  "Overage charges for " ++ details.product.title ++ " / " ++ details.plan.name ++ " from " ++
    toISOString invoice.periodStart ++ " to " ++ toISOString invoice.periodEnd ++ suffix

/-- What `collectOverageInvoice` hands to `createManagedInvoice`. -/
def managedInvoiceParams (details : OverageInvoiceDetails) : CreateManagedInvoiceParams where
  invoiceId := details.invoice.id
  externalSubscriptionId := details.subscription.externalSubscriptionId
  userId := details.user.id
  userEmail := details.user.email
  amountCents := details.invoice.amountCents
  currency := details.invoice.currency
  description := buildOverageDescription toISOString details
  periodStart := details.invoice.periodStart
  periodEnd := details.invoice.periodEnd

variable (config : AppConfig)

/-- What `collectOverageInvoice` does with the result of `createManagedInvoice`. -/
def recordCollection (invoiceId : Id) (result : RetryInvoicePaymentResult) : Op Unit := do
  if result.status = .paid then
    let _ ← markInvoicePaid
      { invoiceId
        paymentProvider := .stripe
        externalInvoiceId := some result.externalInvoiceId
        externalSubscriptionId := result.externalSubscriptionId
        attemptCount := some result.attemptCount }
  else
    let _ ← markInvoiceFailed config
      { invoiceId
        paymentProvider := .stripe
        externalInvoiceId := some result.externalInvoiceId
        externalSubscriptionId := result.externalSubscriptionId
        invoiceStatus := some (if result.status = .void then .void else .pastDue)
        attemptCount := some result.attemptCount
        nextPaymentAttemptAt := result.nextPaymentAttemptAt }

/-- Returns whether the invoice was charged. -/
def collectOverageInvoice (invoiceId : Id) : Op Bool := do
  match ← read fun w => w.findOverageInvoice invoiceId with
  | none => return false
  | some details =>
    if !isCollectable details.invoice then return false
    else
      let result ← createManagedInvoice (managedInvoiceParams toISOString details)
      recordCollection config details.invoice.id result
      return true

/-! ### The cycle -/

/-- What the worker does with an invoice of one of its two batches. -/
inductive OverageTask where
  | materialize (sourceInvoiceId : Id) (processedAt : Int)
  | collect (invoiceId : Id)
  deriving DecidableEq

/-- `periodEnd: 'asc'`, `createdAt: 'asc'` -/
def periodOrder (left right : Invoice) : Bool :=
  left.periodEnd < right.periodEnd ||
    (left.periodEnd = right.periodEnd && left.createdAt ≤ right.createdAt)

def isDueSource (now : Int) (invoice : Invoice) : Bool :=
  invoice.paymentProvider = .stripe && invoice.kind = .subscription && invoice.status = .paid &&
    invoice.overageProcessedAt.isNone && invoice.periodEnd ≤ now

def isPendingOverage (invoice : Invoice) : Bool :=
  invoice.paymentProvider = .stripe && invoice.kind = .overage && invoice.status = .draft &&
    invoice.externalInvoiceId.isNone

def selectDueSourceInvoices (env : Env) (w : World) : Except Err (List OverageTask) :=
  match env.dbError with
  | some m => .error (.database m)
  | none =>
    .ok <| (((w.invoices.rows.filter (isDueSource env.now)).mergeSort periodOrder).take
      config.billingOverageCollectionBatchSize).map fun invoice => .materialize invoice.id env.now

def selectPendingOverageInvoices (env : Env) (w : World) : Except Err (List OverageTask) :=
  match env.dbError with
  | some m => .error (.database m)
  | none =>
    .ok <| (((w.invoices.rows.filter isPendingOverage).mergeSort
      fun left right => left.createdAt ≤ right.createdAt).take
        config.billingOverageCollectionBatchSize).map fun invoice => .collect invoice.id

def handleOverageTask : OverageTask → Op Unit
  | .materialize sourceInvoiceId processedAt => do
    let _ ← materializeSourceInvoice sourceInvoiceId processedAt
  | .collect invoiceId => do
    let _ ← collectOverageInvoice toISOString config invoiceId

def overageCollectionJob : BatchJob OverageTask World Env Err where
  queries := [selectDueSourceInvoices config, selectPendingOverageInvoices config]
  handle := handleOverageTask toISOString config

def processDueOverageCollection : Op Unit := (overageCollectionJob toISOString config).cycle

end Description

end HivePoint
