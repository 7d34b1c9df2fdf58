import HivePoint.Native.OutboundRequests

/-!
# The upstream side of the gateway

The functions of `gateway.service.ts` that find the product's base URL, make the URL of the
upstream request out of it and the path and query of the caller, send the request, and read the
body of the response. What `extractServerUrl` reads out of the stored OpenAPI document is a
parameter.
-/

namespace HivePoint

/-! ### The path -/

def normalizePath (path : Text) : Text :=
  let trimmed := path.trim
  if trimmed.startsWith "/".toList then trimmed else '/' :: trimmed

/-! ### The URL -/

/-- `[pathOnly, inlineQuery] = path.split('?', 2)` -/
def pathOnly (path : Text) : Text := ((path.splitOn '?').take 2).headD []

def inlineQuery (path : Text) : Option Text := ((path.splitOn '?').take 2)[1]?

def normalizedBasePath (baseUrl : Url) : Text :=
  if Text.endsWith baseUrl.pathname "/".toList then baseUrl.pathname.dropLast else baseUrl.pathname

/-- `searchParams` with the entries of the query record, each with `String(value)` -/
def searchParams (api : UrlApi) (path : Text) (query : List (Text × Text)) : List (Text × Text) :=
  query.foldl (fun params entry => Url.setParam params entry.1 entry.2)
    (api.parseQuery ((inlineQuery path).getD []))

/-- `baseUrl` as `buildUpstreamUrl` leaves it. -/
def upstreamUrl (api : UrlApi) (baseUrl : Url) (path : Text) (query : List (Text × Text)) : Url :=
  let normalizedPath :=
    if Text.startsWith (pathOnly path) "/".toList then pathOnly path else '/' :: pathOnly path
  let url := baseUrl.setPathname
    (Url.collapseSlashes (normalizedBasePath baseUrl ++ normalizedPath))
  url.setSearch (api.formatQuery (searchParams api path query))

/-! ### The request -/

inductive GatewayMethod where
  | get | post | put | patch | delete
  deriving DecidableEq

/-- A body: a string, bytes, or another value by its `JSON.stringify`. -/
inductive GatewayBody where
  | text (body : Text)
  | bytes (body : List UInt8)
  | json (body : Text)

structure GatewayDispatchInput where
  productId : Id
  path : Text
  method : GatewayMethod
  query : List (Text × Text)
  body : Option GatewayBody
  requestCount : Int

/-- The values of `AppConfigService` that the gateway reads. -/
structure GatewayConfig where
  allowPrivateNetworkTargets : Bool
  gatewayRequestBodyLimitBytes : Nat

def buildRequestBody (method : GatewayMethod) (body : Option GatewayBody) : Option GatewayBody :=
  if method = .get then none else body

def getBodySizeBytes : Option GatewayBody → Nat
  | none => 0
  | some (.text body) => byteLength body
  | some (.bytes body) => body.length
  | some (.json body) => byteLength body

section Config

variable (api : UrlApi) (config : GatewayConfig)

def assertRequestBodySize (body : Option GatewayBody) : NetOp Unit :=
  if getBodySizeBytes body ≤ config.gatewayRequestBodyLimitBytes then return ()
  else
    throw (.app
      { code := .gatewayRequestBodyTooLarge, message := "GATEWAY_REQUEST_BODY_TOO_LARGE"
        httpStatus := 413
        details := [("actualBytes", toString (getBodySizeBytes body)),
          ("limitBytes", toString config.gatewayRequestBodyLimitBytes)] })

def upstreamUrlOptions : SafeExternalUrlOptions where
  allowPrivateNetworkTargets := config.allowPrivateNetworkTargets
  message := "UPSTREAM_URL_NOT_ALLOWED"
  httpStatus := 502

def gatewayTargetNotConfigured : Err :=
  .app ⟨.gatewayTargetNotConfigured, "GATEWAY_TARGET_NOT_CONFIGURED", 502, []⟩

def resolveUpstreamBaseUrl (extractServerUrl : Option Text → Option Text)
    (openApiSnapshot : Option Text) (openApiUrl : Text) : NetOp Text :=
  -- the empty text is falsy
  match (extractServerUrl openApiSnapshot).filter (· ≠ []) with
  | none => throw gatewayTargetNotConfigured
  | some serverUrl =>
    match api.parseRelative serverUrl openApiUrl with
    | none => throw gatewayTargetNotConfigured
    | some url => do
      let resolvedUrl := api.serialize url
      let _ ← checkUrl api (upstreamUrlOptions config) resolvedUrl
      return resolvedUrl

def buildUpstreamUrl (upstreamBaseUrl path : Text) (query : List (Text × Text)) : NetOp Text := do
  let baseUrl ← newUrl api upstreamBaseUrl
  let upstreamUrl := api.serialize (upstreamUrl api baseUrl path query)
  let _ ← checkUrl api (upstreamUrlOptions config) upstreamUrl
  return upstreamUrl

def fetchUpstream (upstreamUrl : Text) (input : GatewayDispatchInput) : NetOp RemoteResponse := do
  assertRequestBodySize config (buildRequestBody input.method input.body)
  tryCatch (fetch api upstreamUrl) fun _ =>
    throw (.app ⟨.gatewayUpstreamUnavailable, "GATEWAY_UPSTREAM_UNAVAILABLE", 502,
      [("upstreamUrl", String.ofList upstreamUrl)]⟩)

/-- The steps of `execute` from the resolution of the base URL to the upstream's response, with
the URL of the request. -/
def contactUpstream (extractServerUrl : Option Text → Option Text)
    (openApiSnapshot : Option Text) (openApiUrl normalizedPath : Text)
    (input : GatewayDispatchInput) : NetOp (Text × RemoteResponse) := do
  let upstreamBaseUrl ← resolveUpstreamBaseUrl api config extractServerUrl openApiSnapshot
    openApiUrl
  let upstreamUrl ← buildUpstreamUrl api config upstreamBaseUrl normalizedPath input.query
  let response ← fetchUpstream api config upstreamUrl input
  return (upstreamUrl, response)

end Config

/-! ### The response body -/

/-- What is read of a `Response`'s body. -/
inductive ResponseBody where
  /-- no `body`: the bytes of `arrayBuffer()` -/
  | buffered (bytes : List UInt8)
  /-- the values that the reader gives until it is done -/
  | stream (values : List (Option (List UInt8)))

def gatewayResponseBodyTooLarge (actualBytes limitBytes : Nat) : AppError where
  code := .gatewayResponseBodyTooLarge
  message := "GATEWAY_RESPONSE_BODY_TOO_LARGE"
  httpStatus := 502
  details := [("actualBytes", toString actualBytes), ("limitBytes", toString limitBytes)]

/-- `Buffer.concat(list, totalLength)` cuts the bytes off, or fills up with zeros. -/
def bufferConcat (list : List (List UInt8)) (totalLength : Nat) : List UInt8 :=
  list.flatten.take totalLength ++ List.replicate (totalLength - list.flatten.length) 0

/-- The variables of the loop of `readResponseBody`. -/
structure BodyReader where
  chunks : List (List UInt8)
  totalBytes : Nat

def BodyReader.start : BodyReader := ⟨[], 0⟩

/-- A program over these variables. Its statements are assignments, and need no answer. -/
abbrev BodyOp := Prog BodyReader Unit AppError

/-- `totalBytes += value.byteLength` -/
def addByteLength (value : List UInt8) : BodyOp Nat :=
  Prog.stmt fun _ reader =>
    let totalBytes := reader.totalBytes + value.length
    (.ok totalBytes, { reader with totalBytes })

/-- `chunks.push(Buffer.from(value))` -/
def pushChunk (value : List UInt8) : BodyOp Unit :=
  Prog.stmt fun _ reader => (.ok (), { reader with chunks := reader.chunks ++ [value] })

/-- `totalBytes > 0 ? Buffer.concat(chunks, totalBytes) : null` -/
def concatChunks : BodyOp (Option (List UInt8)) :=
  Prog.stmt fun _ reader =>
    (.ok (if reader.totalBytes > 0 then some
      (bufferConcat reader.chunks reader.totalBytes) else none),
      reader)

section ResponseBody

variable (gatewayResponseBodyLimitBytes : Nat)

def assertResponseBodySize (sizeBytes : Nat) : BodyOp Unit :=
  if sizeBytes ≤ gatewayResponseBodyLimitBytes then return ()
  else throw (gatewayResponseBodyTooLarge sizeBytes gatewayResponseBodyLimitBytes)

/-- One turn of the loop. -/
def readChunk : Option (List UInt8) → BodyOp Unit
  | none => return ()
  | some value => do
    let totalBytes ← addByteLength value
    assertResponseBodySize gatewayResponseBodyLimitBytes totalBytes
    pushChunk value

/-- The loop. -/
def readChunks : List (Option (List UInt8)) → BodyOp Unit
  | [] => return ()
  | value :: values => do
    readChunk gatewayResponseBodyLimitBytes value
    readChunks values

def readResponseBody : ResponseBody → BodyOp (Option (List UInt8))
  | .buffered bytes => do
    assertResponseBodySize gatewayResponseBodyLimitBytes bytes.length
    return if bytes.length > 0 then some bytes else none
  | .stream values => do
    readChunks gatewayResponseBodyLimitBytes values
    concatChunks

end ResponseBody

end HivePoint
