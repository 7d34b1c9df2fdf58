import HivePoint.Native.ExternalUrl

/-!
# Outbound requests

Programs that check URLs with `assertSafeExternalHttpUrl` and `fetch` them. `fetch` is the
global one, which follows redirects: the remote server chooses the URL of the next request.
With it the snapshot fetch of `versions.service.ts` and the alert delivery of
`operational-alert-delivery.service.ts`.
-/

namespace HivePoint

/-! ### The network -/

/-- What is read of a `Response`. -/
structure RemoteResponse where
  status : Nat
  /-- the `Location` header -/
  location : Option Text
  /-- `await response.text()`, unless it rejects -/
  text : Option Text

/-- `response.ok` -/
def RemoteResponse.ok (response : RemoteResponse) : Bool :=
  200 ≤ response.status && response.status ≤ 299

/-- The URLs that have passed the check and those that a request was sent to, latest first. -/
structure NetLog where
  passed : List Url
  requested : List Url

def NetLog.empty : NetLog := ⟨[], []⟩

/-- The rest of the internet: its answers may change from one request to the next. -/
structure NetEnv where
  /-- the DNS, once so many URLs have passed -/
  lookup : Nat → DnsLookup
  /-- the answer to the first of these requests, which come latest first, unless it fails -/
  remote : List Url → Option RemoteResponse

abbrev NetOp := Prog NetLog NetEnv Err

section Api

variable (api : UrlApi)

/-- `new URL(text)` -/
def newUrl (text : Text) : NetOp Url :=
  match api.parse text with
  | some url => pure url
  | none => throw (.typeError "Invalid URL")

/-- `await assertSafeExternalHttpUrl(text, options)` -/
def checkUrl (options : SafeExternalUrlOptions) (text : Text) : NetOp Url :=
  Prog.stmt fun env log =>
    match assertSafeExternalHttpUrl api (env.lookup log.passed.length) text options with
    | .ok url => (.ok url, { log with passed := url :: log.passed })
    | .error error => (.error (.app error), log)

/-! ### `fetch` -/

/-- Where a response sends the client. -/
inductive Redirect where
  | stay
  /-- a network error -/
  | refused
  | follow (url : Url)

/-- `HTTP-redirect fetch`: a redirect must stay on `http` and `https`, and must not carry
credentials. -/
def redirectOf (url : Url) (response : RemoteResponse) : Redirect :=
  if !([301, 302, 303, 307, 308].contains response.status) then .stay
  else
    match response.location with
    | none => .stay
    | some location =>
      match api.parseRelative location (api.serialize url) with
      | none => .refused
      | some next =>
        if next.protocol ≠ "http:".toList ∧ next.protocol ≠ "https:".toList then .refused
        else if next.username ≠ [] ∨ next.password ≠ [] then .refused
        else .follow next

/-- One request. -/
def sendRequest (url : Url) : NetOp RemoteResponse :=
  Prog.stmt fun env log =>
    let log := { log with requested := url :: log.requested }
    match env.remote log.requested with
    | some response => (.ok response, log)
    | none => (.error (.typeError "fetch failed"), log)

/-- A request with up to `redirects` redirects. -/
def fetchFollowing (redirects : Nat) (url : Url) : NetOp RemoteResponse := do
  let response ← sendRequest url
  match redirectOf api url response with
  | .stay => return response
  | .refused => throw (.typeError "fetch failed")
  | .follow next =>
    match redirects with
    | 0 => throw (.typeError "fetch failed")
    | redirects + 1 => fetchFollowing redirects next

/-- The redirects that `fetch` follows. -/
def maxRedirects : Nat := 20

/-- `await fetch(text)` -/
def fetch (text : Text) : NetOp RemoteResponse := do
  let url ← newUrl api text
  fetchFollowing api maxRedirects url

/-! ### The OpenAPI snapshot -/

/-- `Buffer.byteLength(text, 'utf8')` -/
def byteLength (text : Text) : Nat := (text.map Char.utf8Size).sum

/-- `OPENAPI_MAX_SIZE_BYTES` -/
def openApiMaxSizeBytes : Nat := 2000000

def openApiFetchFailed (openApiUrl : Text) (details : List (String × String)) : Err :=
  .app { code := .validationError, message := "OPENAPI_FETCH_FAILED", httpStatus := 400
         details := details ++ [("url", String.ofList openApiUrl)] }

/-- The body of a response, if it can be a snapshot. -/
def readOpenApiBody (openApiUrl : Text) (response : RemoteResponse) : NetOp Text :=
  if !response.ok then
    throw (openApiFetchFailed openApiUrl
      [("reason", "HTTP_ERROR"), ("status", toString response.status)])
  else
    match response.text with
    | none => throw (.typeError "terminated")
    | some body =>
      if body.trim = [] then throw (openApiFetchFailed openApiUrl [("reason", "EMPTY_BODY")])
      else if byteLength body > openApiMaxSizeBytes then
        throw (openApiFetchFailed openApiUrl
          [("reason", "TOO_LARGE"), ("limitBytes", toString openApiMaxSizeBytes),
            ("actualBytes", toString (byteLength body))])
      else return body

def fetchOpenApiSnapshot (allowPrivateNetworkTargets : Bool) (openApiUrl : Text) : NetOp Text := do
  let _ ← checkUrl api ⟨allowPrivateNetworkTargets, "OPENAPI_URL_NOT_ALLOWED", 400⟩ openApiUrl
  tryCatch
    (do
      let response ← fetch api openApiUrl
      readOpenApiBody openApiUrl response)
    fun error =>
      match error with
      | .app _ => throw error
      | _ => throw (openApiFetchFailed openApiUrl [("reason", "NETWORK_ERROR")])

/-! ### Alerts -/

/-- `deliverAlert`, up to the contents of the notification. -/
def deliverAlert (allowPrivateNetworkTargets : Bool) (targetUrl : Text) : NetOp Unit := do
  let safeUrl ← checkUrl api
    ⟨allowPrivateNetworkTargets, "ALERT_DELIVERY_WEBHOOK_URL_NOT_ALLOWED", 500⟩ targetUrl
  let response ← fetchFollowing api maxRedirects safeUrl
  if response.ok then return ()
  else
    let detail := (response.text.getD []).trim.take 300
    throw (.error (if detail.length > 0 then
        s!"Webhook responded with {response.status}: {String.ofList detail}"
      else s!"Webhook responded with {response.status}"))

end Api

end HivePoint
