import HivePoint.ForStd.Zoom
import HivePoint.Native.GatewayBurstLimiter
import HivePoint.Native.GatewayUpstream
import HivePoint.Native.UsageService

/-!
# GatewayService

`execute` of `gateway.service.ts`, up to the headers and the body of the upstream's response:
the checks, the burst limiter, the usage and the upstream request, one after another.
-/

namespace HivePoint

/-! ### State and environment -/

/-- What the steps of a dispatch act on. -/
structure GatewayWorld where
  db : World
  buckets : Table GatewayBurstBucket
  net : NetLog

/-- What the steps meet. Time passes from one to the next, and so may the database fail one of
them and not another. -/
structure GatewayEnv where
  /-- up to the reading of the clock -/
  entry : Env
  /-- the preliminary authorization -/
  preliminary : Env
  burst : BurstEnv
  /-- the authorization that consumes -/
  consumption : Env
  net : NetEnv

abbrev GatewayOp := Prog GatewayWorld GatewayEnv Err

def GatewayWorld.dbLens : Lens GatewayWorld World where
  get := (·.db)
  set db s := { s with db }
  get_set _ _ := rfl
  set_set _ _ _ := rfl
  set_get _ := rfl

def GatewayWorld.bucketsLens : Lens GatewayWorld (Table GatewayBurstBucket) where
  get := (·.buckets)
  set buckets s := { s with buckets }
  get_set _ _ := rfl
  set_set _ _ _ := rfl
  set_get _ := rfl

def GatewayWorld.netLens : Lens GatewayWorld NetLog where
  get := (·.net)
  set net s := { s with net }
  get_set _ _ := rfl
  set_set _ _ _ := rfl
  set_get _ := rfl

/-- An error of the limiter as it leaves `checkAndConsume`. -/
def BurstError.toErr : BurstError → Err
  | .transactionConflict =>
    .database
      "Transaction failed due to a write conflict or a deadlock. Please retry your transaction"
  | .recordNotFound => .recordNotFound
  | .database message => .database message

section Parts

variable {α : Type}

def onDatabase (phase : GatewayEnv → Env) (op : Op α) : GatewayOp α :=
  op.zoom GatewayWorld.dbLens phase id

def onBuckets (op : BurstOp α) : GatewayOp α :=
  op.zoom GatewayWorld.bucketsLens (·.burst) BurstError.toErr

def onNetwork (op : NetOp α) : GatewayOp α :=
  op.zoom GatewayWorld.netLens (·.net) id

end Parts

/-! ### Refusals -/

def mapAuthorizationFailure : Option DenialReason → Err
  | some .invalidApiKey => .app ⟨.invalidApiKey, "INVALID_API_KEY", 401, []⟩
  | some .noActiveSubscription => .app ⟨.noActiveSubscription, "NO_ACTIVE_SUBSCRIPTION", 403, []⟩
  | some .quotaExceeded => .app ⟨.quotaExceeded, "QUOTA_EXCEEDED", 429, []⟩
  | some .rateLimitExceeded => .app ⟨.rateLimitExceeded, "RATE_LIMIT_EXCEEDED", 429, []⟩
  | none => .app ⟨.forbidden, "GATEWAY_ACCESS_DENIED", 403, []⟩

/-- An entry of `details` that may be `null`. -/
def nullable {α : Type} [ToString α] : Option α → String
  | none => "null"
  | some a => toString a

def mapBurstLimitFailure (decision : GatewayBurstLimitDecision) : Err :=
  .app { code := .rateLimitExceeded, message := "RATE_LIMIT_EXCEEDED", httpStatus := 429
         details := [("policy", "gateway-burst"), ("burstLimit", nullable decision.burstLimit),
           ("remainingBurstRequests", nullable decision.remainingBurstRequests),
           ("burstWindowSeconds", nullable decision.burstWindowSeconds),
           ("retryAfterSeconds", nullable decision.retryAfterSeconds)] }

/-! ### The steps -/

/-- `apiVersion.findFirst` of the gateway: the published version that was created last. -/
def World.findLatestPublishedVersion (w : World) (productId : Id) : Option ApiVersion :=
  ((w.apiVersions.rows.filter fun v => v.productId = productId && v.status = .published).mergeSort
    fun a b => b.createdAt ≤ a.createdAt).head?

/-- The first steps: the API key and the version to which the request goes. -/
def findVersion (input : GatewayDispatchInput) (providedApiKey : Option Text) :
    GatewayOp (Text × ApiVersion) :=
  -- the empty text is falsy
  match (providedApiKey.map Text.trim).filter (· ≠ []) with
  | none => throw (.app ⟨.unauthorized, "API_KEY_REQUIRED", 401, []⟩)
  | some apiKey => do
    match ← onDatabase (·.entry) (read fun w => w.products.find? input.productId) with
    | none => throw (.app ⟨.productNotFound, "PRODUCT_NOT_FOUND", 404, []⟩)
    | some product =>
      if product.status ≠ .published then
        throw (.app ⟨.productNotPublic, "PRODUCT_NOT_PUBLIC", 403, []⟩)
      else
        match ← onDatabase (·.entry)
            (read fun w => w.findLatestPublishedVersion input.productId) with
        | none => throw (.app ⟨.versionNotFound, "VERSION_NOT_FOUND", 404, []⟩)
        | some version => return (apiKey, version)

/-- The subscription of an authorization that allows the request. -/
def checkAuthorization (authorization : AuthorizeUsageResponse) : GatewayOp Id :=
  if !authorization.allowed then throw (mapAuthorizationFailure authorization.reason)
  else
    match authorization.subscriptionId.filter (· ≠ "") with
    | none => throw (.app ⟨.subscriptionNotActive, "SUBSCRIPTION_NOT_ACTIVE", 403, []⟩)
    | some subscriptionId => return subscriptionId

/-- `round` is the rounding of the limiter's arithmetic. -/
def checkBurstLimit (round : ℚ → ℚ) (burstConfig : GatewayBurstConfig)
    (params : CheckAndConsumeParams) : GatewayOp GatewayBurstLimitDecision := do
  let decision ← onBuckets (checkAndConsume round burstConfig params)
  if !decision.allowed then throw (mapBurstLimitFailure decision)
  else return decision

/-- `usage` of the result. -/
structure GatewayUsage where
  subscriptionId : Id
  requestCount : Int
  remainingRequests : Option Int
  rateLimitRpm : Option Int
  remainingRateLimitRequests : Option Int
  burstLimit : Option Int
  remainingBurstRequests : Option Int
  burstWindowSeconds : Option Nat
  usageRecorded : Bool
  periodEnd : Option Int

structure GatewayExecutionResult where
  ok : Bool
  status : Nat
  method : GatewayMethod
  upstreamUrl : Text
  usage : GatewayUsage

/-- The input of both authorizations, up to `consume`. -/
def authorizeInput (input : GatewayDispatchInput) (apiKey : Text) (occurredAt : Int)
    (consume : Bool) : AuthorizeUsageInput where
  apiKey := String.ofList apiKey
  productId := input.productId
  endpoint := String.ofList (normalizePath input.path)
  requestCount := input.requestCount
  occurredAt := some occurredAt
  consume := some consume

section Service

variable (api : UrlApi) (hashApiKey : String → String → String)
  (extractServerUrl : Option Text → Option Text) (round : ℚ → ℚ)
  (config : GatewayConfig) (burstConfig : GatewayBurstConfig) (usageConfig : AppConfig)

/-- `authorizeGatewayUsage` with `occurredAt`. -/
def authorizeGatewayUsage (phase : GatewayEnv → Env) (tx : TxId) (apiKey : Text)
    (input : GatewayDispatchInput) (occurredAt : Int) (consume : Bool) :
    GatewayOp AuthorizeUsageResponse :=
  onDatabase phase <| authorizeUsageInternal hashApiKey usageConfig tx
    (authorizeInput input apiKey occurredAt consume)

/-- What the steps before the burst limiter have found. -/
structure GatewayAdmission where
  apiKey : Text
  version : ApiVersion
  occurredAt : Int
  subscriptionId : Id
  rateLimitRpm : Option Int

/-- The steps of `execute` before the burst limiter, with the preliminary authorization. -/
def admitRequest (tx : TxId) (input : GatewayDispatchInput) (providedApiKey : Option Text) :
    GatewayOp GatewayAdmission := do
  let (apiKey, version) ← findVersion input providedApiKey
  let occurredAt ← onDatabase (·.entry) clock
  let preliminaryAuthorization ← authorizeGatewayUsage hashApiKey usageConfig (·.preliminary) tx
    apiKey input occurredAt false
  let subscriptionId ← checkAuthorization preliminaryAuthorization
  let rateLimitRpm := preliminaryAuthorization.rateLimitRpm
  return { apiKey, version, occurredAt, subscriptionId, rateLimitRpm }

/-- The steps of `execute` after the authorization that consumes. -/
def forwardRequest (input : GatewayDispatchInput) (admission : GatewayAdmission)
    (burstLimitDecision : GatewayBurstLimitDecision) (authorization : AuthorizeUsageResponse) :
    GatewayOp GatewayExecutionResult := do
  let subscriptionId ← checkAuthorization authorization
  let (upstreamUrl, response) ← onNetwork <| contactUpstream api config extractServerUrl
    admission.version.openApiSnapshot admission.version.openApiUrl (normalizePath input.path) input
  return { ok := response.ok
           status := response.status
           method := input.method
           upstreamUrl
           usage :=
             { subscriptionId
               requestCount := input.requestCount
               remainingRequests := authorization.remainingRequests
               rateLimitRpm := authorization.rateLimitRpm
               remainingRateLimitRequests := authorization.remainingRateLimitRequests
               burstLimit := burstLimitDecision.burstLimit
               remainingBurstRequests := burstLimitDecision.remainingBurstRequests
               burstWindowSeconds := burstLimitDecision.burstWindowSeconds
               usageRecorded := authorization.usageRecorded
               periodEnd := authorization.periodEnd } }

/-- The transaction that consumes is `tx`. -/
def execute (tx : TxId) (input : GatewayDispatchInput) (providedApiKey : Option Text) :
    GatewayOp GatewayExecutionResult := do
  let admission ← admitRequest hashApiKey usageConfig tx input providedApiKey
  let burstLimitDecision ← checkBurstLimit round burstConfig
    { key := admission.subscriptionId
      requestCount := input.requestCount
      rateLimitRpm := admission.rateLimitRpm
      now := none }
  let authorization ← authorizeGatewayUsage hashApiKey usageConfig (·.consumption) tx
    admission.apiKey input admission.occurredAt true
  forwardRequest api extractServerUrl config input admission burstLimitDecision authorization

end Service

end HivePoint
