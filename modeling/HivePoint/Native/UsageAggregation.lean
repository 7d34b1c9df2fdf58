import HivePoint.Native.Transaction
import HivePoint.Native.Time

/-!
# UsageAggregationService

The ledger of usage records with its daily aggregates, and the hybrid sum over a
window, from `usage-aggregation.service.ts`. A record with `aggregatedAt` set is
counted in the aggregate of its UTC day; older ones wait for the backfill.
-/

namespace HivePoint

structure UsageRecordWriteInput where
  subscriptionId : Id
  occurredAt : Int
  endpoint : String
  requestCount : Int
  sourceJobId : Option String := none
  deriving DecidableEq

/-! ### UTC days -/

def getUtcDayStart (date : Int) : Int := setUTCMidnight date

def getNextUtcDayStart (date : Int) : Int := addUTCDays (getUtcDayStart date) 1

def isUtcDayBoundary (date : Int) : Bool :=
  getUTCHours date = 0 && getUTCMinutes date = 0 && getUTCSeconds date = 0 &&
    getUTCMilliseconds date = 0

/-- Where a window is cut: a partial day, whole days, a partial day. -/
structure WindowCut where
  fullDaysStart : Int
  fullDaysEnd : Int
  startPartialEnd : Int
  endPartialStart : Int

def cutWindow (periodStart periodEnd : Int) : WindowCut :=
  let fullDaysStart :=
    if isUtcDayBoundary periodStart then periodStart else getNextUtcDayStart periodStart
  let fullDaysEnd := getUtcDayStart periodEnd
  let startPartialEnd := if fullDaysStart < periodEnd then fullDaysStart else periodEnd
  let endPartialStart := if fullDaysEnd > startPartialEnd then fullDaysEnd else startPartialEnd
  { fullDaysStart, fullDaysEnd, startPartialEnd, endPartialStart }

/-! ### Sums on a state -/

/-- `SUM("requestCount")`, 0 over no rows. -/
def sumRequestCount {ρ : Type} (requestCount : ρ → Int) (rows : List ρ) : Int :=
  (rows.map requestCount).sum

/-- `usageRecord.aggregate` over the records of a subscription that meet `where_`. -/
def World.sumRecords (w : World) (subscriptionId : Id) (where_ : UsageRecord → Bool) : Int :=
  sumRequestCount (·.requestCount)
    (w.usageRecords.rows.filter fun r => r.subscriptionId = subscriptionId && where_ r)

/-- `usageDailyAggregate.aggregate` over the buckets of a subscription in `[gte, lt)`. -/
def World.sumBuckets (w : World) (subscriptionId : Id) (gte lt : Int) : Int :=
  sumRequestCount (·.requestCount)
    (w.usageDailyAggregates.rows.filter fun b =>
      b.subscriptionId = subscriptionId && (gte ≤ b.bucketDate && b.bucketDate < lt))

/-! ### Writes on a state -/

def World.createUsageRecord (w : World) (row : UsageRecord) : Except Err World :=
  if ¬FitsInt4 row.requestCount then .error integerOutOfRange
  else
    match w.usageRecords.insert? row with
    | some t => .ok { w with usageRecords := t }
    | none =>
      -- the index of the primary key is checked first
      .error (.uniqueConstraint
        (if (w.usageRecords.find? row.id).isSome then ["id"] else ["sourceJobId"]))

/-- What a bucket counts, 0 if there is none. -/
def World.dailyCount (w : World) (key : Id × Int) : Int :=
  ((w.usageDailyAggregates.find? key).map (·.requestCount)).getD 0

/-- The count is a new row's, or added to the one that is there; the sum has to fit. -/
def World.upsertDailyAggregate (w : World) (row : UsageDailyAggregate) : Except Err World :=
  if ¬FitsInt4 (w.dailyCount (Row.key row) + row.requestCount) then .error integerOutOfRange
  else
    match w.usageDailyAggregates.upsert? row fun b =>
        { b with requestCount := b.requestCount + row.requestCount } with
    | some t => .ok { w with usageDailyAggregates := t }
    | none => .error (.uniqueConstraint [])

/-- What the bucket of an endpoint counts, 0 if there is none. -/
def World.endpointDailyCount (w : World) (key : Id × Int × String) : Int :=
  ((w.usageEndpointDailyAggregates.find? key).map (·.requestCount)).getD 0

def World.upsertEndpointDailyAggregate (w : World) (row : UsageEndpointDailyAggregate) :
    Except Err World :=
  if ¬FitsInt4 (w.endpointDailyCount (Row.key row) + row.requestCount) then
    .error integerOutOfRange
  else
    match w.usageEndpointDailyAggregates.upsert? row fun b =>
        { b with requestCount := b.requestCount + row.requestCount } with
    | some t => .ok { w with usageEndpointDailyAggregates := t }
    | none => .error (.uniqueConstraint [])

/-- The record that `recordUsageInTransaction` creates. -/
def newUsageRecord (input : UsageRecordWriteInput) (aggregatedAt : Int)
    (id : Id) : UsageRecord where
  id := id
  subscriptionId := input.subscriptionId
  sourceJobId := input.sourceJobId
  aggregatedAt := some aggregatedAt
  occurredAt := input.occurredAt
  endpoint := input.endpoint
  requestCount := input.requestCount

/-- What it adds to the bucket of the record's UTC day. -/
def dailyBucket (input : UsageRecordWriteInput) : UsageDailyAggregate where
  subscriptionId := input.subscriptionId
  bucketDate := getUtcDayStart input.occurredAt
  requestCount := input.requestCount

/-- What it adds to the bucket of the record's endpoint on that day. -/
def endpointDailyBucket (input : UsageRecordWriteInput) : UsageEndpointDailyAggregate where
  subscriptionId := input.subscriptionId
  bucketDate := getUtcDayStart input.occurredAt
  endpoint := input.endpoint
  requestCount := input.requestCount

/-! ### The service -/

section Client

variable {m : Type → Type} [Monad m] [MonadLiftT Op m] [DbClient m]

def recordUsageInTransaction (input : UsageRecordWriteInput) : m Unit := do
  let aggregatedAt ← liftM clock
  DbClient.command fun env w => w.createUsageRecord (newUsageRecord input aggregatedAt env.uuid)
  DbClient.command fun _ w => w.upsertDailyAggregate (dailyBucket input)
  DbClient.command fun _ w => w.upsertEndpointDailyAggregate (endpointDailyBucket input)

def sumRawUsage (subscriptionId : Id) (gte lt : Int) : m Int :=
  DbClient.query fun w => w.sumRecords subscriptionId fun r =>
    gte ≤ r.occurredAt && r.occurredAt < lt

/-- `sumRawUsage` with `aggregatedAt: null`. -/
def sumPendingRawUsage (subscriptionId : Id) (gte lt : Int) : m Int :=
  DbClient.query fun w => w.sumRecords subscriptionId fun r =>
    r.aggregatedAt.isNone && (gte ≤ r.occurredAt && r.occurredAt < lt)

def sumDailyAggregateUsage (subscriptionId : Id) (gte lt : Int) : m Int :=
  DbClient.query fun w => w.sumBuckets subscriptionId gte lt

/-- The result of a query over `[gte, lt)`, which is sent if the slice is not empty. -/
def querySlice {α : Type} (query : Int → Int → m α) (empty : α) (gte lt : Int) : m α :=
  if gte < lt then query gte lt else pure empty

/-- The usage of whole days: the aggregates, and the records that are not in them yet. -/
def sumFullDays (subscriptionId : Id) (gte lt : Int) : m Int := do
  let aggregated ← sumDailyAggregateUsage subscriptionId gte lt
  let raw ← sumPendingRawUsage subscriptionId gte lt
  pure (aggregated + raw)

def sumUsageForWindow (subscriptionId : Id) (periodStart periodEnd : Int) : m Int :=
  if periodStart ≥ periodEnd then pure 0
  else do
    let cut := cutWindow periodStart periodEnd
    let startPartial ← querySlice (sumRawUsage subscriptionId) 0 periodStart cut.startPartialEnd
    let fullDays ← querySlice (sumFullDays subscriptionId) 0 cut.fullDaysStart cut.fullDaysEnd
    let endPartial ← querySlice (sumRawUsage subscriptionId) 0 cut.endPartialStart periodEnd
    pure (startPartial + fullDays + endPartial)

/-! ### Usage by endpoint -/

structure UsageEndpointBreakdownItem where
  endpoint : String
  requestCount : Int
  deriving DecidableEq

/-- `target.set(endpoint, (target.get(endpoint) ?? 0) + requestCount)`, on the entries of a
    `Map` in insertion order. -/
def addEndpointRow (target : List UsageEndpointBreakdownItem) (row : UsageEndpointBreakdownItem) :
    List UsageEndpointBreakdownItem :=
  if target.any (·.endpoint = row.endpoint) then
    target.map fun item =>
      if item.endpoint = row.endpoint then
        { item with requestCount := item.requestCount + row.requestCount }
      else item
  else target ++ [row]

def addEndpointUsage (target rows : List UsageEndpointBreakdownItem) :
    List UsageEndpointBreakdownItem :=
  rows.foldl addEndpointRow target

/-- `usageRecord.groupBy({ by: ['endpoint'], ... })` -/
def World.groupRecordsByEndpoint (w : World) (subscriptionId : Id) (where_ : UsageRecord → Bool) :
    List UsageEndpointBreakdownItem :=
  addEndpointUsage []
    ((w.usageRecords.rows.filter fun r => r.subscriptionId = subscriptionId && where_ r).map
      fun r => ⟨r.endpoint, r.requestCount⟩)

/-- `usageEndpointDailyAggregate.groupBy({ by: ['endpoint'], ... })` -/
def World.groupBucketsByEndpoint (w : World) (subscriptionId : Id) (gte lt : Int) :
    List UsageEndpointBreakdownItem :=
  addEndpointUsage []
    ((w.usageEndpointDailyAggregates.rows.filter fun b =>
        b.subscriptionId = subscriptionId && (gte ≤ b.bucketDate && b.bucketDate < lt)).map
      fun b => ⟨b.endpoint, b.requestCount⟩)

def groupRawUsageByEndpoint (subscriptionId : Id) (gte lt : Int) :
    m (List UsageEndpointBreakdownItem) :=
  DbClient.query fun w => w.groupRecordsByEndpoint subscriptionId fun r =>
    gte ≤ r.occurredAt && r.occurredAt < lt

/-- The aggregates of whole days, followed by `groupRawUsageByEndpoint` with
    `aggregatedAt: null`. -/
def groupFullDaysByEndpoint (subscriptionId : Id) (gte lt : Int) :
    m (List UsageEndpointBreakdownItem) := do
  let aggregated ← DbClient.query fun w => w.groupBucketsByEndpoint subscriptionId gte lt
  let raw ← DbClient.query fun w => w.groupRecordsByEndpoint subscriptionId fun r =>
    r.aggregatedAt.isNone && (gte ≤ r.occurredAt && r.occurredAt < lt)
  pure (aggregated ++ raw)

/-- `right.requestCount - left.requestCount || left.endpoint.localeCompare(right.endpoint)`,
    as "not after". -/
def endpointOrder (localeCompare : String → String → Ordering)
    (left right : UsageEndpointBreakdownItem) : Bool :=
  right.requestCount < left.requestCount ||
    (right.requestCount = left.requestCount &&
      (localeCompare left.endpoint right.endpoint).isLE)

def listEndpointUsageForWindow (localeCompare : String → String → Ordering) (subscriptionId : Id)
    (periodStart periodEnd : Int) (limit : Nat) : m (List UsageEndpointBreakdownItem) :=
  if periodStart ≥ periodEnd then pure []
  else do
    let cut := cutWindow periodStart periodEnd
    let startPartial ←
      querySlice (groupRawUsageByEndpoint subscriptionId) [] periodStart cut.startPartialEnd
    let fullDays ←
      querySlice (groupFullDaysByEndpoint subscriptionId) [] cut.fullDaysStart cut.fullDaysEnd
    let endPartial ←
      querySlice (groupRawUsageByEndpoint subscriptionId) [] cut.endPartialStart periodEnd
    let endpointUsage := addEndpointUsage [] (startPartial ++ fullDays ++ endPartial)
    pure ((endpointUsage.mergeSort (endpointOrder localeCompare)).take limit)

end Client

/-- `recordUsage`: its own transaction `tx`. -/
def recordUsage (tx : TxId) (input : UsageRecordWriteInput) : Op Unit :=
  transaction tx (recordUsageInTransaction input)

end HivePoint
