import HivePoint.ForStd.Prog
import HivePoint.Native.Schema

/-!
# GatewayBurstLimiterService

The token bucket of `gateway-burst-limiter.service.ts`, kept in the table
`GatewayBurstBucket`. Its numbers are doubles, as is the column `tokens`: each operation is
exact and then rounded by `round`, which is `Binary64.round` in the program and `id` where the
arithmetic is taken to be exact. The transaction is SERIALIZABLE: it takes effect as one
statement, or fails.
-/

namespace HivePoint

/-! ### Data -/

structure GatewayBurstBucket where
  key : Id
  tokens : ℚ
  lastRefillAt : Int
  deriving DecidableEq

instance : Row GatewayBurstBucket Id where
  key := (·.key)
  uniques := []

/-- The values of `AppConfigService` that the limiter reads. `env.schema.ts` accepts
    positive values only, and its integers are safe. -/
structure GatewayBurstConfig where
  gatewayBurstLimitEnabled : Bool
  gatewayBurstWindowSeconds : Nat
  gatewayBurstMultiplier : ℚ
  gatewayBurstMinRequests : Int
  gatewayBurstMaxRequests : Int
  windowSeconds_pos : 0 < gatewayBurstWindowSeconds
  multiplier_pos : 0 < gatewayBurstMultiplier
  minRequests_pos : 0 < gatewayBurstMinRequests
  maxRequests_pos : 0 < gatewayBurstMaxRequests
  maxRequests_safe : gatewayBurstMaxRequests ≤ 9007199254740991

structure GatewayBurstLimitDecision where
  allowed : Bool
  burstLimit : Option Int
  remainingBurstRequests : Option Int
  burstWindowSeconds : Option Nat
  retryAfterSeconds : Option Int
  deriving DecidableEq

structure CheckAndConsumeParams where
  key : Id
  requestCount : Int
  rateLimitRpm : Option Int
  now : Option Int

inductive BurstError where
  /-- Prisma `P2034` -/
  | transactionConflict
  /-- Prisma `P2025` -/
  | recordNotFound
  | database (message : String)
  deriving DecidableEq

def isRetryableTransactionError (error : BurstError) : Bool := error = .transactionConflict

/-- What a statement of the limiter meets. -/
structure BurstEnv where
  /-- `Date.now()` -/
  now : Int
  /-- why the database does not commit the transaction -/
  transactionError : Option BurstError

abbrev BurstOp := Prog (Table GatewayBurstBucket) BurstEnv BurstError

/-! ### The bucket -/

section Config

variable (round : ℚ → ℚ) (config : GatewayBurstConfig)

def resolveBurstLimit (rateLimitRpm : Option Int) : Option Int :=
  match rateLimitRpm with
  | none => none
  | some rateLimitRpm =>
    if !config.gatewayBurstLimitEnabled || rateLimitRpm ≤ 0 then none
    else
      let burstLimit := ⌈round (round (round (rateLimitRpm * config.gatewayBurstWindowSeconds) *
        config.gatewayBurstMultiplier) / 60)⌉
      some (min config.gatewayBurstMaxRequests (max config.gatewayBurstMinRequests burstLimit))

def refillRatePerSecond (burstLimit : Int) : ℚ :=
  round (burstLimit / config.gatewayBurstWindowSeconds)

def refillTokens (tokens : ℚ) (lastRefillAt now burstLimit : Int) (refillRatePerSecond : ℚ) : ℚ :=
  let elapsedMilliseconds := max 0 (now - lastRefillAt)
  min burstLimit (round (tokens + round (round (elapsedMilliseconds / 1000) * refillRatePerSecond)))

/-- The locked row and the table, which holds it; a unique violation of the `create` is
    ignored. The loop makes up to `attempts` attempts. -/
def lockBucketRow (key : Id) (burstLimit now : Int) :
    Nat → Table GatewayBurstBucket → GatewayBurstBucket × Table GatewayBurstBucket
  | 0, buckets => (⟨key, burstLimit, now⟩, buckets)
  | attempts + 1, buckets =>
    let buckets :=
      match buckets.find? key with
      | some _ => buckets
      | none => (buckets.insert? ⟨key, burstLimit, now⟩).getD buckets
    match buckets.find? key with
    | some lockedBucket => (lockedBucket, buckets)
    | none => lockBucketRow key burstLimit now attempts buckets

/-- `gatewayBurstBucket.update({ where: { key }, data: { tokens, lastRefillAt: now } })` -/
def updateBucket (key : Id) (tokens : ℚ) (now : Int) (buckets : Table GatewayBurstBucket) :
    Except BurstError (Table GatewayBurstBucket) :=
  match buckets.find? key with
  | none => .error .recordNotFound
  | some _ =>
    match buckets.update? key fun b => { b with tokens, lastRefillAt := now } with
    | some buckets => .ok buckets
    | none => .error .recordNotFound

/-- The answer when `refilledTokens` are not enough. -/
def deniedDecision (burstLimit requestCount : Int) (refilledTokens : ℚ) :
    GatewayBurstLimitDecision where
  allowed := false
  burstLimit := some burstLimit
  remainingBurstRequests := some (max 0 ⌊refilledTokens⌋)
  burstWindowSeconds := some config.gatewayBurstWindowSeconds
  retryAfterSeconds := some
    (max 1 ⌈round (round (requestCount - refilledTokens) /
      refillRatePerSecond round config burstLimit)⌉)

/-- The answer when `remainingTokens` are left. -/
def allowedDecision (burstLimit : Int) (remainingTokens : ℚ) : GatewayBurstLimitDecision where
  allowed := true
  burstLimit := some burstLimit
  remainingBurstRequests := some (max 0 ⌊remainingTokens⌋)
  burstWindowSeconds := some config.gatewayBurstWindowSeconds
  retryAfterSeconds := none

/-- The body of the transaction. -/
def consumeBucket (burstLimit : Int) (key : Id) (requestCount now : Int)
    (buckets : Table GatewayBurstBucket) :
    Except BurstError (GatewayBurstLimitDecision × Table GatewayBurstBucket) := do
  let (bucket, buckets) := lockBucketRow key burstLimit now 2 buckets
  let refilledTokens := refillTokens round bucket.tokens bucket.lastRefillAt now burstLimit
    (refillRatePerSecond round config burstLimit)
  if refilledTokens < requestCount then do
    let buckets ← updateBucket key refilledTokens now buckets
    pure (deniedDecision round config burstLimit requestCount refilledTokens, buckets)
  else do
    let remainingTokens := round (refilledTokens - requestCount)
    let buckets ← updateBucket key remainingTokens now buckets
    pure (allowedDecision config burstLimit remainingTokens, buckets)

/-! ### The service -/

/-- `new Date(params.now ?? Date.now())` -/
def resolveNow (now : Option Int) : BurstOp Int :=
  match now with
  | some now => pure now
  | none => Prog.stmt fun env buckets => (.ok env.now, buckets)

/-- One `$transaction`. -/
def consumeTransaction (burstLimit : Int) (key : Id) (requestCount now : Int) :
    BurstOp GatewayBurstLimitDecision :=
  Prog.stmt fun env buckets =>
    match env.transactionError with
    | some error => (.error error, buckets)
    | none =>
      match consumeBucket round config burstLimit key requestCount now buckets with
      | .ok (decision, buckets') => (.ok decision, buckets')
      | .error error => (.error error, buckets)

/-- `MAX_TRANSACTION_RETRIES` -/
def maxTransactionRetries : Nat := 3

/-- The retry loop, with `attempts` attempts left. -/
def retryTransaction (burstLimit : Int) (key : Id) (requestCount now : Int) :
    Nat → BurstOp GatewayBurstLimitDecision
  | 0 =>
    return { allowed := false
             burstLimit := some burstLimit
             remainingBurstRequests := some 0
             burstWindowSeconds := some config.gatewayBurstWindowSeconds
             retryAfterSeconds := some 1 }
  | attempts + 1 =>
    tryCatch (consumeTransaction round config burstLimit key requestCount now) fun error =>
      if isRetryableTransactionError error && attempts > 0 then
        retryTransaction burstLimit key requestCount now attempts
      else throw error

def checkAndConsume (params : CheckAndConsumeParams) : BurstOp GatewayBurstLimitDecision :=
  let unlimited : GatewayBurstLimitDecision := ⟨true, none, none, none, none⟩
  match resolveBurstLimit round config params.rateLimitRpm with
  | none => return unlimited
  | some burstLimit =>
    -- `!burstLimit`
    if burstLimit = 0 then return unlimited
    else do
      let now ← resolveNow params.now
      if params.requestCount > burstLimit then
        return { allowed := false
                 burstLimit := some burstLimit
                 remainingBurstRequests := some burstLimit
                 burstWindowSeconds := some config.gatewayBurstWindowSeconds
                 retryAfterSeconds := none }
      else
        retryTransaction round config burstLimit params.key params.requestCount now
          maxTransactionRetries

end Config

end HivePoint
