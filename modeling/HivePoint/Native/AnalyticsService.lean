import HivePoint.ForStd.Binary64
import HivePoint.ForStd.OrderedMap
import HivePoint.Native.PlansService
import HivePoint.Native.Time

/-!
# AnalyticsService

`getSellerOverview` of `analytics.service.ts`: the rows that its queries select, and the overview
that it makes of them, map by map.
-/

namespace HivePoint

/-- `ANALYTICS_WINDOW_DAYS` -/
def analyticsWindowDays : Int := 30

/-! ### The rows -/

/-- A product with what is selected of its plans and versions. -/
structure AnalyticsProduct where
  id : Id
  title : String
  status : ProductStatus
  plans : List Id
  /-- of `versions`: the id, the version and the creation of the latest published one -/
  latestPublishedVersion : Option (Id × String × Int)
  deriving DecidableEq

structure AnalyticsSubscription where
  userId : Id
  status : SubscriptionStatus
  createdAt : Int
  planId : Id
  priceCents : Int
  deriving DecidableEq

structure AnalyticsUsage where
  endpoint : String
  requestCount : Int
  planId : Id
  deriving DecidableEq

/-- What the queries return. -/
structure AnalyticsRows where
  products : List AnalyticsProduct
  /-- the number of views of a product -/
  viewCounts : List (Id × Nat)
  subscriptions : List AnalyticsSubscription
  /-- the plans of the subscriptions whose invoices failed -/
  failedInvoices : List Id
  usageRecords : List AnalyticsUsage

/-! ### Queries -/

def World.latestPublishedVersionOf (w : World) (productId : Id) : Option (Id × String × Int) :=
  (((w.apiVersions.rows.filter fun v => v.productId = productId && v.status = .published).mergeSort
    fun a b => b.createdAt ≤ a.createdAt).head?).map fun v => (v.id, v.version, v.createdAt)

/-- `apiProduct.findMany` -/
def World.analyticsProducts (w : World) (user : AuthenticatedUser) : List AnalyticsProduct :=
  ((w.products.rows.filter fun product => user.role = .admin || product.ownerId = user.id).mergeSort
    fun a b => b.createdAt ≤ a.createdAt).map fun product =>
      { id := product.id
        title := product.title
        status := product.status
        plans := (w.plans.rows.filter (·.productId = product.id)).map (·.id)
        latestPublishedVersion := w.latestPublishedVersionOf product.id }

/-- `productView.groupBy` with `_count`: one row for each product that was viewed. -/
def World.analyticsViewCounts (w : World) (windowStart : Int) (productIds : List Id) :
    List (Id × Nat) :=
  let views := w.productViews.filter fun view =>
    view.productId ∈ productIds && windowStart ≤ view.viewedAt
  (views.map (·.productId)).dedup.map fun productId =>
    (productId, views.countP (·.productId = productId))

/-- `subscription.findMany` with the price of the plan. -/
def World.analyticsSubscriptions (w : World) (planIds : List Id) : List AnalyticsSubscription :=
  (w.subscriptions.rows.filter (·.planId ∈ planIds)).filterMap fun s =>
    (w.plans.find? s.planId).map fun plan =>
      ⟨s.userId, s.status, s.createdAt, s.planId, plan.priceCents⟩

/-- `invoice.findMany` with the plan of the subscription. -/
def World.analyticsFailedInvoices (w : World) (windowStart : Int) (planIds : List Id) : List Id :=
  (w.invoices.rows.filter fun invoice =>
    windowStart ≤ invoice.createdAt && (invoice.status = .pastDue || invoice.status =
      .void)).filterMap
      fun invoice =>
        ((w.subscriptions.find? invoice.subscriptionId).map (·.planId)).filter (· ∈ planIds)

/-- `usageRecord.findMany` with the plan of the subscription. -/
def World.analyticsUsageRecords (w : World) (windowStart : Int) (planIds : List Id) :
    List AnalyticsUsage :=
  (w.usageRecords.rows.filter (windowStart ≤ ·.occurredAt)).filterMap fun record =>
    (((w.subscriptions.find? record.subscriptionId).map (·.planId)).filter (· ∈ planIds)).map
      fun planId => ⟨record.endpoint, record.requestCount, planId⟩

/-! ### The overview -/

/-- `Number(x.toFixed(1))`, for `x` that is not negative: the nearest tenth, the larger one of
    two. From `10 ^ 21` on, `toFixed` writes the number itself. -/
def toFixedOne (x : ℚ) : ℚ := if x < 10 ^ 21 then Binary64.round (⌊x * 10 + 1 / 2⌋ / 10) else x

/-- `conversionRate30d`, a double -/
def conversionRate (subscriptions30d views30d : Nat) : ℚ :=
  if views30d > 0 then
    toFixedOne (Binary64.round (Binary64.round (subscriptions30d / views30d) * 100))
  else 0

structure SellerProductAnalytics where
  productId : Id
  title : String
  status : ProductStatus
  views30d : Nat
  subscriptions30d : Nat
  conversionRate30d : ℚ
  activeClients : Nat
  pastDueClients : Nat
  failedPayments30d : Nat
  requests30d : Int
  latestPublishedVersion : Option (Id × String × Int)
  topEndpoints : List (String × Int)
  deriving DecidableEq

structure SellerAnalyticsTotals where
  productCount : Nat
  publishedProductCount : Nat
  views30d : Nat
  subscriptions30d : Nat
  activeClients : Nat
  pastDueClients : Nat
  failedPayments30d : Nat
  requests30d : Int
  mrrCents : Int
  deriving DecidableEq

structure SellerAnalyticsOverview where
  windowDays : Int
  totals : SellerAnalyticsTotals
  products : List SellerProductAnalytics
  deriving DecidableEq

/-- `planIdToProductId` -/
def planIdToProductId (products : List AnalyticsProduct) : OrderedMap Id Id :=
  products.foldl (fun m product => product.plans.foldl (fun m plan => m.set plan product.id) m)
    .empty

/-- `set.add(value)` -/
def addToSet (set : List Id) (value : Id) : List Id := if value ∈ set then set else set ++ [value]

/-- The maps that the loop over the subscriptions fills. -/
structure SubscriptionTally where
  subscriptions30dByProductId : OrderedMap Id Nat
  activeClientsByProductId : OrderedMap Id (List Id)
  pastDueClientsByProductId : OrderedMap Id (List Id)
  activeMrrCents : Int

/-- `map.set(key, (map.get(key) ?? 0) + amount)` -/
def addAmount {κ M : Type} [DecidableEq κ] [Add M] [Zero M] (m : OrderedMap κ M) (key : κ)
    (amount : M) :
    OrderedMap κ M :=
  m.set key ((m.get? key).getD 0 + amount)

/-- The set under `key`, with `value` in it. -/
def addClient (m : OrderedMap Id (List Id)) (key value : Id) : OrderedMap Id (List Id) :=
  m.set key (addToSet ((m.get? key).getD []) value)

section Build

variable (windowStart : Int) (productOf : OrderedMap Id Id)

/-- One round of `subscriptions.forEach`. -/
def SubscriptionTally.add (tally : SubscriptionTally) (subscription : AnalyticsSubscription) :
    SubscriptionTally :=
  match productOf.get? subscription.planId with
  | none => tally
  | some productId =>
    { subscriptions30dByProductId :=
        if windowStart ≤ subscription.createdAt then
          addAmount tally.subscriptions30dByProductId productId 1
        else tally.subscriptions30dByProductId
      activeMrrCents :=
        if subscription.status = .active then tally.activeMrrCents + subscription.priceCents
        else tally.activeMrrCents
      activeClientsByProductId :=
        if subscription.status = .active ∨ subscription.status = .pastDue then
          addClient tally.activeClientsByProductId productId subscription.userId
        else tally.activeClientsByProductId
      pastDueClientsByProductId :=
        if subscription.status = .pastDue then
          addClient tally.pastDueClientsByProductId productId subscription.userId
        else tally.pastDueClientsByProductId }

def tallySubscriptions (subscriptions : List AnalyticsSubscription) : SubscriptionTally :=
  subscriptions.foldl (·.add windowStart productOf ·) ⟨.empty, .empty, .empty, 0⟩

/-- One round of `failedInvoices.forEach`. -/
def addFailedPayment (m : OrderedMap Id Nat) (planId : Id) : OrderedMap Id Nat :=
  match productOf.get? planId with
  | none => m
  | some productId => addAmount m productId 1

/-- `failedPaymentsByProductId` -/
def tallyFailedPayments (failedInvoices : List Id) : OrderedMap Id Nat :=
  failedInvoices.foldl (addFailedPayment productOf) .empty

/-- `requestsByProductId` and `topEndpointsByProductId` -/
structure UsageTally where
  requestsByProductId : OrderedMap Id Int
  topEndpointsByProductId : OrderedMap Id (OrderedMap String Int)

def UsageTally.add (tally : UsageTally) (record : AnalyticsUsage) : UsageTally :=
  match productOf.get? record.planId with
  | none => tally
  | some productId =>
    { requestsByProductId := addAmount tally.requestsByProductId productId record.requestCount
      topEndpointsByProductId :=
        tally.topEndpointsByProductId.set productId
          (addAmount ((tally.topEndpointsByProductId.get? productId).getD .empty) record.endpoint
            record.requestCount) }

def tallyUsage (usageRecords : List AnalyticsUsage) : UsageTally :=
  usageRecords.foldl (·.add productOf ·) ⟨.empty, .empty⟩

/-- The five endpoints with the most requests. -/
def topEndpoints (endpoints : OrderedMap String Int) : List (String × Int) :=
  (endpoints.entries.mergeSort fun a b => b.2 - a.2 ≤ 0).take 5

/-- The item of a product. -/
def productAnalytics (rows : AnalyticsRows) (product : AnalyticsProduct) : SellerProductAnalytics :=
  let tally := tallySubscriptions windowStart productOf rows.subscriptions
  let failedPayments := tallyFailedPayments productOf rows.failedInvoices
  let usage := tallyUsage productOf rows.usageRecords
  -- `new Map(entries)`: the last entry of a key counts
  let viewsByProductId := OrderedMap.collect (·.1) (fun _ row => row.2) rows.viewCounts
  let views30d := (viewsByProductId.get? product.id).getD 0
  let subscriptions30d := (tally.subscriptions30dByProductId.get? product.id).getD 0
  { productId := product.id
    title := product.title
    status := product.status
    views30d
    subscriptions30d
    conversionRate30d := conversionRate subscriptions30d views30d
    activeClients := ((tally.activeClientsByProductId.get? product.id).getD []).length
    pastDueClients := ((tally.pastDueClientsByProductId.get? product.id).getD []).length
    failedPayments30d := (failedPayments.get? product.id).getD 0
    requests30d := (usage.requestsByProductId.get? product.id).getD 0
    latestPublishedVersion := product.latestPublishedVersion
    topEndpoints := topEndpoints ((usage.topEndpointsByProductId.get? product.id).getD .empty) }

/-- One round of `items.reduce`. -/
def SellerAnalyticsTotals.add (acc : SellerAnalyticsTotals) (item : SellerProductAnalytics) :
    SellerAnalyticsTotals :=
  { acc with
    views30d := acc.views30d + item.views30d
    subscriptions30d := acc.subscriptions30d + item.subscriptions30d
    activeClients := acc.activeClients + item.activeClients
    pastDueClients := acc.pastDueClients + item.pastDueClients
    failedPayments30d := acc.failedPayments30d + item.failedPayments30d
    requests30d := acc.requests30d + item.requests30d }

end Build

section Service

def emptyOverview : SellerAnalyticsOverview :=
  ⟨analyticsWindowDays, ⟨0, 0, 0, 0, 0, 0, 0, 0, 0⟩, []⟩

/-- What `getSellerOverview` makes of the rows of at least one product. -/
def buildOverview (windowStart : Int) (rows : AnalyticsRows) : SellerAnalyticsOverview :=
  let productOf := planIdToProductId rows.products
  let items := rows.products.map (productAnalytics windowStart productOf rows)
  let totals := items.foldl (·.add ·)
    { productCount := rows.products.length
      publishedProductCount := (rows.products.filter (·.status = .published)).length
      views30d := 0
      subscriptions30d := 0
      activeClients := 0
      pastDueClients := 0
      failedPayments30d := 0
      requests30d := 0
      mrrCents := (tallySubscriptions windowStart productOf rows.subscriptions).activeMrrCents }
  { windowDays := analyticsWindowDays
    totals
    products := items.mergeSort fun a b => b.requests30d - a.requests30d ≤ 0 }

def getSellerOverview (user : AuthenticatedUser) : Op SellerAnalyticsOverview := do
  let now ← clock
  let windowStart := addUTCDays now (-analyticsWindowDays)
  let products ← read (·.analyticsProducts user)
  if products.length = 0 then return emptyOverview
  else
    let productIds := products.map (·.id)
    let planIds := (planIdToProductId products).keys
    let viewCounts ← read (·.analyticsViewCounts windowStart productIds)
    let subscriptions ← read (·.analyticsSubscriptions planIds)
    let failedInvoices ← read (·.analyticsFailedInvoices windowStart planIds)
    let usageRecords ← read (·.analyticsUsageRecords windowStart planIds)
    return buildOverview windowStart
      ⟨products, viewCounts, subscriptions, failedInvoices, usageRecords⟩

end Service

end HivePoint
