import HivePoint.ForStd.Binary64
import HivePoint.Native.UsageAggregation
import HivePoint.Native.Config

/-!
# UsageService

The doors through which usage comes in, from `usage.service.ts`: ingestion
(`ingestUsage`), authorization (`authorizeUsageInternal`) with or without consumption,
and the buyer's summary (`getSummary`).
-/

namespace HivePoint

/-! ### The usage window -/

/-- `{ gte, lt }` -/
structure UsageWindow where
  gte : Int
  lt : Int
  deriving DecidableEq

def getUsageWindow (subscription : Subscription) (occurredAt : Int) : Option UsageWindow :=
  match subscription.currentPeriodStart with
  | none => none
  | some currentPeriodStart =>
    if currentPeriodStart > occurredAt then none
    else if subscription.status = .pastDue then
      match subscription.gracePeriodEndsAt with
      | none => none
      | some gracePeriodEndsAt =>
        if gracePeriodEndsAt ≤ occurredAt then none
        else some ⟨currentPeriodStart, gracePeriodEndsAt⟩
    else
      match subscription.currentPeriodEnd with
      | none => none
      | some currentPeriodEnd =>
        if currentPeriodEnd ≤ occurredAt then none
        else some ⟨currentPeriodStart, currentPeriodEnd⟩

/-- The `OR` of the authorization queries. A comparison with `null` is not true. -/
def isAuthorizable (occurredAt : Int) (subscription : Subscription) : Bool :=
  (subscription.status = .active &&
      subscription.currentPeriodStart.any (· ≤ occurredAt) &&
      subscription.currentPeriodEnd.any (· > occurredAt)) ||
    (subscription.status = .pastDue &&
      subscription.currentPeriodStart.any (· ≤ occurredAt) &&
      subscription.gracePeriodEndsAt.any (· > occurredAt))

/-- `desc`, where the database puts `NULL` first. -/
def compareDesc : Option Int → Option Int → Ordering
  | none, none => .eq
  | none, some _ => .lt
  | some _, none => .gt
  | some a, some b => compare b a

/-- The `orderBy` of the authorization queries. -/
def authorizationOrder (left right : Subscription) : Ordering :=
  (compareDesc left.gracePeriodEndsAt right.gracePeriodEndsAt).then <|
    (compareDesc left.currentPeriodEnd right.currentPeriodEnd).then <|
      compare right.createdAt left.createdAt

/-- `findFirst`: a row that no other row comes before. -/
def findFirst (order : Subscription → Subscription → Ordering) :
    List Subscription → Option Subscription
  | [] => none
  | row :: rows =>
    match findFirst order rows with
    | none => some row
    | some first => if order first row = .lt then some first else some row

structure SubscriptionWithPlan where
  subscription : Subscription
  plan : Plan
  product : ApiProduct

/-- The joined `plan` and `plan.product` of a subscription. -/
def World.withPlan (w : World) (subscription : Subscription) : Option SubscriptionWithPlan := do
  let plan ← w.plans.find? subscription.planId
  let product ← w.products.find? plan.productId
  pure ⟨subscription, plan, product⟩

/-- The rows among which the authorization queries choose. -/
def World.authorizableSubscriptions (w : World) (userId productId : Id) (occurredAt : Int) :
    List Subscription :=
  w.subscriptions.rows.filter fun s =>
    s.userId = userId && (w.plans.find? s.planId).any (·.productId = productId) &&
      isAuthorizable occurredAt s

/-- `subscription.findFirst` of the authorization queries. -/
def World.findAuthorizableSubscription (w : World) (userId productId : Id) (occurredAt : Int) :
    Option SubscriptionWithPlan :=
  (findFirst authorizationOrder (w.authorizableSubscriptions userId productId occurredAt)).bind
    w.withPlan

/-! ### Plans and overage -/

structure PlanDto where
  id : Id
  name : String
  quotaRequests : Int
  rateLimitRpm : Option Int
  allowOverage : Bool
  overageUnitRequests : Option Int
  overagePriceCents : Option Int
  deriving DecidableEq

def serializePlan (plan : Plan) : PlanDto where
  id := plan.id
  name := plan.name
  quotaRequests := plan.quotaRequests
  rateLimitRpm := plan.rateLimitRpm
  allowOverage := plan.allowOverage
  overageUnitRequests := plan.overageUnitRequests
  overagePriceCents := plan.overagePriceCents

structure ProductDto where
  id : Id
  title : String
  deriving DecidableEq

def serializeProduct (product : ApiProduct) : ProductDto := ⟨product.id, product.title⟩

/-- `Math.ceil(a / b)` of integers. -/
def ceilDiv (a b : Int) : Int := -(-a / b)

structure OverageState where
  overageEnabled : Bool
  overageUnitRequests : Option Int
  overagePriceCents : Option Int
  overageRequests : Int
  projectedOverageAmountCents : Int
  deriving DecidableEq

def getOverageState (plan : Plan) (usedRequests : Int) : OverageState :=
  let none_ : OverageState :=
    ⟨plan.allowOverage, plan.overageUnitRequests, plan.overagePriceCents, 0, 0⟩
  match plan.overageUnitRequests, plan.overagePriceCents with
  | some overageUnitRequests, some overagePriceCents =>
    if !plan.allowOverage || overageUnitRequests = 0 || overagePriceCents = 0 ||
        usedRequests ≤ plan.quotaRequests then none_
    else
      let overageRequests := usedRequests - plan.quotaRequests
      { none_ with
        overageRequests
        projectedOverageAmountCents :=
          ceilDiv overageRequests overageUnitRequests * overagePriceCents }
  | _, _ => none_

def rateLimitWindowSeconds : Int := 60

def getRateLimitWindowStart (occurredAt periodStart : Int) : Int :=
  let rateLimitWindowStart := occurredAt - rateLimitWindowSeconds * 1000
  if rateLimitWindowStart > periodStart then rateLimitWindowStart else periodStart

/-! ### Authorization -/

inductive DenialReason where
  | invalidApiKey | noActiveSubscription | quotaExceeded | rateLimitExceeded
  deriving DecidableEq

/-- `AuthorizeUsageResponseDto`; a field that a response leaves out is `none`. The overage
    fields are those of `toAuthorizeOverageState`. -/
structure AuthorizeUsageResponse where
  allowed : Bool
  reason : Option DenialReason := none
  apiKeyId : Option Id := none
  subscriptionId : Option Id := none
  userId : Option Id := none
  periodStart : Option Int := none
  periodEnd : Option Int := none
  usedRequests : Option Int := none
  requestedRequests : Int
  quotaRequests : Option Int := none
  remainingRequests : Option Int := none
  rateLimitRpm : Option Int := none
  remainingRateLimitRequests : Option Int := none
  overageState : Option OverageState := none
  usageRecorded : Bool
  plan : Option PlanDto := none
  product : Option ProductDto := none
  deriving DecidableEq

structure AuthorizeUsageInput where
  apiKey : String
  productId : Id
  endpoint : String
  requestCount : Int
  occurredAt : Option Int
  consume : Option Bool

structure ConsumptionParams where
  apiKeyId : Id
  userId : Id
  productId : Id
  endpoint : String
  requestCount : Int
  occurredAt : Int
  deriving DecidableEq

/-- The refusal without a subscription inside the consuming transaction. -/
def noActiveSubscription (params : ConsumptionParams) : AuthorizeUsageResponse where
  allowed := false
  reason := some .noActiveSubscription
  apiKeyId := some params.apiKeyId
  userId := some params.userId
  requestedRequests := params.requestCount
  usageRecorded := false

/-- The fields that the answers about a subscription share. -/
def subscriptionResponse (params : ConsumptionParams) (found : SubscriptionWithPlan)
    (usageWindow : UsageWindow) (usedRequests : Int) (remainingRateLimitRequests : Option Int)
    (overageState : OverageState) : AuthorizeUsageResponse where
  allowed := true
  apiKeyId := some params.apiKeyId
  subscriptionId := some found.subscription.id
  userId := some found.subscription.userId
  periodStart := some usageWindow.gte
  periodEnd := some usageWindow.lt
  usedRequests := some usedRequests
  requestedRequests := params.requestCount
  quotaRequests := some found.plan.quotaRequests
  remainingRequests := some (max 0 (found.plan.quotaRequests - usedRequests))
  rateLimitRpm := found.plan.rateLimitRpm
  remainingRateLimitRequests := remainingRateLimitRequests
  overageState := some overageState
  usageRecorded := false
  plan := some (serializePlan found.plan)
  product := some (serializeProduct found.product)

/-- `usageRecord.aggregate` over the rate limit window, which includes `occurredAt`. -/
def sumRateLimitUsage {m : Type → Type} [DbClient m] (subscriptionId : Id)
    (windowStart occurredAt : Int) : m Int :=
  DbClient.query fun w => w.sumRecords subscriptionId fun r =>
    windowStart ≤ r.occurredAt && r.occurredAt ≤ occurredAt

/-- The part of the consuming transaction after the row has been locked. -/
def consumeLocked (params : ConsumptionParams) (found : SubscriptionWithPlan)
    (usageWindow : UsageWindow) : TxM AuthorizeUsageResponse := do
  let usedRequests ← sumUsageForWindow found.subscription.id usageWindow.gte usageWindow.lt
  let nextUsedRequests := usedRequests + params.requestCount
  let denied (reason : DenialReason) (remainingRateLimitRequests : Option Int) :
      AuthorizeUsageResponse :=
    { subscriptionResponse params found usageWindow usedRequests remainingRateLimitRequests
        (getOverageState found.plan usedRequests) with
      allowed := false, reason := some reason }
  let granted (remainingRateLimitRequests : Option Int) : TxM AuthorizeUsageResponse := do
    recordUsageInTransaction
      { subscriptionId := found.subscription.id
        occurredAt := params.occurredAt
        endpoint := params.endpoint
        requestCount := params.requestCount }
    return { subscriptionResponse params found usageWindow nextUsedRequests
        remainingRateLimitRequests (getOverageState found.plan nextUsedRequests) with
      usageRecorded := true }
  if !found.plan.allowOverage && nextUsedRequests > found.plan.quotaRequests then
    return denied .quotaExceeded none
  else
    match found.plan.rateLimitRpm with
    | none => granted none
    | some rateLimitRpm => do
      let usedRateLimitRequests ← sumRateLimitUsage found.subscription.id
        (getRateLimitWindowStart params.occurredAt usageWindow.gte) params.occurredAt
      if usedRateLimitRequests + params.requestCount > rateLimitRpm then
        return denied .rateLimitExceeded (some (max 0 (rateLimitRpm - usedRateLimitRequests)))
      else
        granted (some (max 0 (rateLimitRpm - usedRateLimitRequests - params.requestCount)))

/-- The consuming transaction after it has read the subscription. -/
def consumeFound (tx : TxId) (params : ConsumptionParams) :
    Option SubscriptionWithPlan → TxM AuthorizeUsageResponse
  | none => return noActiveSubscription params
  | some found =>
    if (getUsageWindow found.subscription params.occurredAt).isNone then
      return noActiveSubscription params
    else do
      selectForUpdate tx found.subscription.id
      -- `found` is still the row as it was read before the lock
      match getUsageWindow found.subscription params.occurredAt with
      | none => return noActiveSubscription params
      | some usageWindow => consumeLocked params found usageWindow

/-- The body of the consuming transaction `tx`. -/
def consume (tx : TxId) (params : ConsumptionParams) : TxM AuthorizeUsageResponse := do
  let found ← DbClient.query fun w =>
    w.findAuthorizableSubscription params.userId params.productId params.occurredAt
  consumeFound tx params found

def authorizeUsageWithConsumption (tx : TxId) (params : ConsumptionParams) :
    Op AuthorizeUsageResponse :=
  transaction tx (consume tx params)

/-- The answer without consumption, for a subscription that has a usage window. -/
def previewUsage (params : ConsumptionParams) (found : SubscriptionWithPlan)
    (usageWindow : UsageWindow) : Op AuthorizeUsageResponse := do
  let usedRequests ← sumUsageForWindow found.subscription.id usageWindow.gte usageWindow.lt
  let nextUsedRequests := usedRequests + params.requestCount
  let denied (reason : DenialReason) (remainingRateLimitRequests : Option Int) :
      AuthorizeUsageResponse :=
    { subscriptionResponse params found usageWindow usedRequests remainingRateLimitRequests
        (getOverageState found.plan usedRequests) with
      allowed := false, reason := some reason }
  let granted (remainingRateLimitRequests : Option Int) : AuthorizeUsageResponse :=
    subscriptionResponse params found usageWindow usedRequests remainingRateLimitRequests
      (getOverageState found.plan nextUsedRequests)
  if !found.plan.allowOverage && nextUsedRequests > found.plan.quotaRequests then
    return denied .quotaExceeded none
  else
    match found.plan.rateLimitRpm with
    | none => return granted none
    | some rateLimitRpm => do
      let usedRateLimitRequests ← sumRateLimitUsage found.subscription.id
        (getRateLimitWindowStart params.occurredAt usageWindow.gte) params.occurredAt
      let remaining := max 0 (rateLimitRpm - usedRateLimitRequests)
      if usedRateLimitRequests + params.requestCount > rateLimitRpm then
        return denied .rateLimitExceeded (some remaining)
      else return granted (some remaining)

section Crypto

-- `hashApiKey` is SHA-256 over the key and the salt
variable (hashApiKey : String → String → String) (config : AppConfig)

def authorizeUsageInternal (tx : TxId) (input : AuthorizeUsageInput) :
    Op AuthorizeUsageResponse := do
  match ← read fun w => w.products.find? input.productId with
  | none => throw (.app ⟨.productNotFound, "PRODUCT_NOT_FOUND", 404, []⟩)
  | some product =>
    match ← read fun w => w.apiKeys.rows.find? fun k =>
        k.keyHash = hashApiKey input.apiKey config.apiKeySalt && k.isActive &&
          k.revokedAt.isNone with
    | none =>
      return { allowed := false, reason := some .invalidApiKey
               requestedRequests := input.requestCount, usageRecorded := false
               product := some (serializeProduct product) }
    | some apiKey => do
      let occurredAt ←
        match input.occurredAt with
        | some occurredAt => pure occurredAt
        | none => clock
      let params : ConsumptionParams :=
        { apiKeyId := apiKey.id, userId := apiKey.userId, productId := input.productId
          endpoint := input.endpoint, requestCount := input.requestCount, occurredAt }
      let denied : AuthorizeUsageResponse :=
        { noActiveSubscription params with product := some (serializeProduct product) }
      match ← read fun w =>
          w.findAuthorizableSubscription apiKey.userId input.productId occurredAt with
      | none => return denied
      | some found =>
        match getUsageWindow found.subscription occurredAt with
        | none => return denied
        | some usageWindow =>
          if input.consume.getD false then authorizeUsageWithConsumption tx params
          else previewUsage params found usageWindow

end Crypto

/-! ### Ingestion -/

structure RecordUsageInput where
  subscriptionId : Id
  endpoint : String
  requestCount : Int
  occurredAt : Option Int

def validateUsageRecordInput (input : RecordUsageInput) : Op UsageRecordWriteInput := do
  match ← read fun w => w.subscriptions.find? input.subscriptionId with
  | none => throw (.app ⟨.subscriptionNotFound, "SUBSCRIPTION_NOT_FOUND", 404, []⟩)
  | some subscription =>
    let occurredAt ←
      match input.occurredAt with
      | some occurredAt => pure occurredAt
      | none => clock
    if (getUsageWindow subscription occurredAt).isNone then
      throw (.app ⟨.subscriptionNotActive, "SUBSCRIPTION_NOT_ACTIVE", 400, []⟩)
    else
      return { subscriptionId := subscription.id, occurredAt, endpoint := input.endpoint
               requestCount := input.requestCount }

def createUsageRecord (tx : TxId) (input : RecordUsageInput) : Op Unit := do
  let validatedRecord ← validateUsageRecordInput input
  recordUsage tx validatedRecord

/-- `usageIngestJob.create` on a state. -/
def World.createUsageIngestJob (w : World) (row : UsageIngestJob) : Except Err World :=
  if ¬FitsInt4 row.requestCount then .error integerOutOfRange
  else
    match w.usageIngestJobs.insert? row with
    | some t => .ok { w with usageIngestJobs := t }
    | none => .error (.uniqueConstraint [])

def enqueueUsageRecord (input : RecordUsageInput) : Op Unit := do
  let validatedRecord ← validateUsageRecordInput input
  let availableAt ← clock
  DbClient.command fun env w =>
    w.createUsageIngestJob
      { id := env.uuid
        subscriptionId := validatedRecord.subscriptionId
        occurredAt := validatedRecord.occurredAt
        endpoint := validatedRecord.endpoint
        requestCount := validatedRecord.requestCount
        status := .pending
        attempts := 0
        availableAt
        processedAt := none
        lastError := none
        createdAt := env.now }

section Config

variable (config : AppConfig)

def assertUsageSecret (providedSecret : Option String) : Op Unit :=
  if !truthy providedSecret || providedSecret ≠ some config.usageIngestSecret then
    throw (.app ⟨.usageIngestForbidden, "USAGE_INGEST_FORBIDDEN", 403, []⟩)
  else pure ()

/-- `authorizeUsage`. The transaction that consumes is `tx`. -/
def authorizeUsage (hashApiKey : String → String → String) (tx : TxId) (input : AuthorizeUsageInput)
    (providedSecret : Option String) : Op AuthorizeUsageResponse := do
  assertUsageSecret config providedSecret
  authorizeUsageInternal hashApiKey config tx input

def ingestUsage (tx : TxId) (input : RecordUsageInput) (providedSecret : Option String) :
    Op Unit := do
  assertUsageSecret config providedSecret
  if !config.usageIngestQueueEnabled then createUsageRecord tx input
  else enqueueUsageRecord input

end Config

/-! ### The summary -/

structure UsageSummaryItem where
  subscriptionId : Id
  status : SubscriptionStatus
  periodStart : Int
  periodEnd : Int
  gracePeriodEndsAt : Option Int
  usedRequests : Int
  quotaRequests : Int
  percent : Int
  overageState : OverageState
  plan : PlanDto
  product : ProductDto
  topEndpoints : List UsageEndpointBreakdownItem
  deriving DecidableEq

/-- `Math.min(100, Math.floor((used / quota) * 100))`. The quotient is a double, and so is the
    product. -/
def usagePercent (usedRequests quotaRequests : Int) : Int :=
  if quotaRequests > 0 then
    min 100 ⌊Binary64.round (Binary64.round (usedRequests / quotaRequests) * 100)⌋
  else 0

/-- The subscriptions that `getSummary` lists at `occurredAt`, with their windows. -/
def World.summarySubscriptions (w : World) (userId : Id) (occurredAt : Int) :
    List (SubscriptionWithPlan × UsageWindow) :=
  (w.subscriptions.rows.filter fun s =>
      s.userId = userId && (s.status = .active || s.status = .pastDue)).filterMap fun s => do
    let usageWindow ← getUsageWindow s occurredAt
    let found ← w.withPlan s
    pure (found, usageWindow)

def summaryItem (localeCompare : String → String → Ordering) (found : SubscriptionWithPlan)
    (usageWindow : UsageWindow) : Op UsageSummaryItem := do
  let subscription := found.subscription
  let usedRequests ← sumUsageForWindow subscription.id usageWindow.gte usageWindow.lt
  let topEndpoints ←
    listEndpointUsageForWindow localeCompare subscription.id usageWindow.gte usageWindow.lt 5
  return { subscriptionId := subscription.id
           status := subscription.status
           periodStart := usageWindow.gte
           periodEnd := usageWindow.lt
           gracePeriodEndsAt := subscription.gracePeriodEndsAt
           usedRequests
           quotaRequests := found.plan.quotaRequests
           percent := usagePercent usedRequests found.plan.quotaRequests
           overageState := getOverageState found.plan usedRequests
           plan := serializePlan found.plan
           product := serializeProduct found.product
           topEndpoints }

/-- `Promise.all` over the items: their statements are sent in some order, here the order
    of the items. -/
def getSummary (localeCompare : String → String → Ordering) (userId : Id) :
    Op (List UsageSummaryItem) := do
  let occurredAt ← clock
  let listed ← read fun w => w.summarySubscriptions userId occurredAt
  listed.mapM fun (found, usageWindow) => summaryItem localeCompare found usageWindow

end HivePoint
