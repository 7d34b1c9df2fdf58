import HivePoint.Native.GatewayUpstream
import HivePoint.Spec.UpstreamPath

/-!
# Checked URLs and requested URLs

The three calls that send requests to hosts that users name: each of them checks the URL of its
first request, and leaves the next ones to `fetch`, which takes them from the redirects that the
remote servers answer with.

## Key results

- `exec_fetchFollowing`: the requests that one `fetch` sends
- `OutboundCall.exec_run`: what a call checks and what it requests
- `OutboundCall.allChecked_iff`: the runs in which every requested URL has been checked
-/

namespace HivePoint

/-- Every URL that a request was sent to has passed the check. -/
def NetLog.AllChecked (log : NetLog) : Prop := ∀ url ∈ log.requested, url ∈ log.passed

/-! ### The requests of one `fetch` -/

def Redirect.target : Redirect → Option Url
  | .follow url => some url
  | .stay | .refused => none

/-- The URLs that up to `redirects` redirects lead to, from `url` on, after the requests
`before`. -/
def followed (api : UrlApi) (remote : List Url → Option RemoteResponse) :
    Nat → List Url → Url → List Url
  | 0, _, _ => []
  | redirects + 1, before, url =>
    match (remote (url :: before)).bind fun response => (redirectOf api url response).target with
    | none => []
    | some next => next :: followed api remote redirects (url :: before) next

variable (api : UrlApi)

/-- `fetch` sends a request to its URL and to every one that it is redirected to. -/
theorem exec_fetchFollowing (env : NetEnv) (redirects : Nat) (url : Url) (log : NetLog) :
    ((fetchFollowing api redirects url).exec env log).2 =
      { log with requested := (followed api env.remote redirects log.requested url).reverse ++
          url :: log.requested } := by
  -- by induction on the redirects that are left, over the answer and its redirect
  induction redirects generalizing url log with
  | zero =>
    rw [fetchFollowing, Prog.exec_bind, sendRequest, Prog.exec_stmt]
    cases hremote : env.remote (url :: log.requested) with
    | none => simp [followed, hremote]
    | some response =>
      cases hredirect : redirectOf api url response <;> simp [followed, hremote, hredirect]
  | succ redirects ih =>
    rw [fetchFollowing, Prog.exec_bind, sendRequest, Prog.exec_stmt]
    cases hremote : env.remote (url :: log.requested) with
    | none => simp [followed, hremote]
    | some response =>
      cases hredirect : redirectOf api url response with
      | stay => simp [followed, hremote, hredirect, Redirect.target]
      | refused => simp [followed, hremote, hredirect, Redirect.target]
      | follow next => simp [followed, hremote, hredirect, Redirect.target, ih]

/-! ### The check -/

/-- A url that is parsed was read. -/
private theorem parseUrl_eq_ok {text : Text} {options : SafeExternalUrlOptions} {url : Url}
    (h : parseUrl api text options = .ok url) : api.parse text = some url := by
  unfold parseUrl at h
  cases hparse : api.parse text with
  | none => simp [hparse, throw, throwThe, MonadExceptOf.throw] at h
  | some parsed =>
    simp only [hparse] at h
    split at h
    · exact nomatch h
    · split at h
      · exact nomatch h
      · exact congrArg some (Except.ok.inj h)

/-- What passes the check is the URL that the text parses to. -/
theorem parse_of_assertSafe {lookup : DnsLookup} {text : Text} {options : SafeExternalUrlOptions}
    {url : Url} (h : assertSafeExternalHttpUrl api lookup text options = .ok url) :
    api.parse text = some url := by
  unfold assertSafeExternalHttpUrl at h
  cases hurl : parseUrl api text options with
  | error e =>
    rw [hurl] at h
    exact nomatch h
  | ok parsed =>
    rw [hurl] at h
    have hparsed := parseUrl_eq_ok api hurl
    suffices parsed = url by rw [← this]; exact hparsed
    -- after the parse the url is only checked
    simp only [bind, Except.bind] at h
    split at h
    · exact Except.ok.inj h
    · split at h
      · exact nomatch h
      · split at h
        · exact nomatch h
        · split at h
          · exact nomatch h
          · exact Except.ok.inj h

/-- A url that passed was read, and is remembered. -/
private theorem exec_checkUrl_ok {options : SafeExternalUrlOptions} {text : Text} {env : NetEnv}
    {log log' : NetLog} {url : Url}
    (h : (checkUrl api options text).exec env log = (.ok url, log')) :
    api.parse text = some url ∧ log' = { log with passed := url :: log.passed } := by
  rw [checkUrl, Prog.exec_stmt] at h
  cases hcheck : assertSafeExternalHttpUrl api (env.lookup log.passed.length) text options with
  | error e => simp [hcheck] at h
  | ok url' =>
    simp only [hcheck, Prod.mk.injEq, Except.ok.injEq] at h
    obtain ⟨rfl, rfl⟩ := h
    exact ⟨parse_of_assertSafe api hcheck, rfl⟩

/-- The statements of `p` send no request. -/
def SendsNothing {α : Type} (p : NetOp α) : Prop :=
  p.EachStep fun log log' => log'.requested = log.requested

/-- Where nothing is sent the requests are as before. -/
theorem SendsNothing.exec {α : Type} {p : NetOp α} (h : SendsNothing p) (env : NetEnv)
    (log : NetLog) : (p.exec env log).2.requested = log.requested :=
  h.runs (I := fun log' => log'.requested = log.requested) (fun _ _ hstep hlog => hstep.trans hlog)
    (Prog.runs_exec (E := fun _ => True) env trivial p log) rfl

/-- Checking a url sends nothing. -/
private theorem sendsNothing_checkUrl (options : SafeExternalUrlOptions) (text : Text) :
    SendsNothing (checkUrl api options text) := by
  refine Prog.eachStep_stmt fun env log => ?_
  cases assertSafeExternalHttpUrl api (env.lookup log.passed.length) text options <;> rfl

/-- Reading a url sends nothing. -/
private theorem sendsNothing_newUrl (text : Text) : SendsNothing (newUrl api text) := by
  unfold newUrl
  split <;> trivial

/-! ### The calls -/

/-- A request of a user that makes the server contact other hosts. -/
inductive OutboundCall where
  | dispatch (openApiSnapshot : Option Text) (openApiUrl : Text) (input : GatewayDispatchInput)
  | snapshot (openApiUrl : Text)
  | alert (targetUrl : Text)

namespace OutboundCall

variable (config : GatewayConfig) (extractServerUrl : Option Text → Option Text)

def run : OutboundCall → NetOp Unit
  | .dispatch openApiSnapshot openApiUrl input => do
    let _ ← contactUpstream api config extractServerUrl openApiSnapshot openApiUrl
      (normalizePath input.path) input
  | .snapshot openApiUrl => do
    let _ ← fetchOpenApiSnapshot api config.allowPrivateNetworkTargets openApiUrl
  | .alert targetUrl => deliverAlert api config.allowPrivateNetworkTargets targetUrl

/-- The part of the call before its first request, with the URL of this. -/
def prepare : OutboundCall → NetOp Url
  | .dispatch openApiSnapshot openApiUrl input => do
    let upstreamBaseUrl ← resolveUpstreamBaseUrl api config extractServerUrl openApiSnapshot
      openApiUrl
    let upstreamUrl ← buildUpstreamUrl api config upstreamBaseUrl (normalizePath input.path)
      input.query
    assertRequestBodySize config (buildRequestBody input.method input.body)
    newUrl api upstreamUrl
  | .snapshot openApiUrl =>
    checkUrl api ⟨config.allowPrivateNetworkTargets, "OPENAPI_URL_NOT_ALLOWED", 400⟩ openApiUrl
  | .alert targetUrl =>
    checkUrl api ⟨config.allowPrivateNetworkTargets, "ALERT_DELIVERY_WEBHOOK_URL_NOT_ALLOWED", 500⟩
      targetUrl

/-- Preparing a call sends nothing. -/
private theorem sendsNothing_prepare (call : OutboundCall) :
    SendsNothing (call.prepare api config extractServerUrl) := by
  cases call with
  | dispatch openApiSnapshot openApiUrl input =>
    refine Prog.eachStep_bind ?_ fun base => Prog.eachStep_bind ?_ fun text =>
      Prog.eachStep_bind ?_ fun _ => sendsNothing_newUrl api text
    · unfold resolveUpstreamBaseUrl
      split
      · trivial
      · split
        · trivial
        · exact Prog.eachStep_bind (sendsNothing_checkUrl api _ _) fun _ => trivial
    · exact Prog.eachStep_bind (sendsNothing_newUrl api base) fun _ =>
        Prog.eachStep_bind (sendsNothing_checkUrl api _ _) fun _ => trivial
    · unfold assertRequestBodySize
      split <;> trivial
  | snapshot openApiUrl => exact sendsNothing_checkUrl api _ _
  | alert targetUrl => exact sendsNothing_checkUrl api _ _

/-- `fetch` of a text that parses. -/
private theorem exec_fetch {text : Text} {url : Url} (hparse : api.parse text = some url)
    (env : NetEnv) (log : NetLog) :
    ((fetch api text).exec env log).2 =
      { log with requested := (followed api env.remote maxRedirects log.requested url).reverse ++
          url :: log.requested } := by
  unfold fetch newUrl
  rw [hparse]
  exact exec_fetchFollowing api env maxRedirects url log

/-- A built upstream URL has passed the check. -/
private theorem exec_buildUpstreamUrl_ok {base path text : Text} {query : List (Text × Text)}
    {env : NetEnv} {log log' : NetLog}
    (h : (buildUpstreamUrl api config base path query).exec env log = (.ok text, log')) :
    ∃ url, api.parse text = some url ∧ url ∈ log'.passed := by
  unfold buildUpstreamUrl at h
  rw [Prog.exec_bind] at h
  cases hbase : (newUrl api base).exec env log with
  | mk r log₁ =>
    cases r with
    | error e => simp [hbase] at h
    | ok baseUrl =>
      simp only [hbase] at h
      rw [Prog.exec_bind] at h
      -- the text is checked before it is returned, and names the url that passed
      cases hcheck : (checkUrl api (upstreamUrlOptions config)
          (api.serialize (upstreamUrl api baseUrl path query))).exec env log₁ with
      | mk r log₂ =>
        cases r with
        | error e => simp [hcheck] at h
        | ok url =>
          simp only [hcheck, Prog.exec_pure, Prod.mk.injEq, Except.ok.injEq] at h
          obtain ⟨rfl, rfl⟩ := h
          obtain ⟨hparse, rfl⟩ := exec_checkUrl_ok api hcheck
          exact ⟨url, hparse, List.mem_cons_self⟩

/-- What a call leaves in the log, after the part before its first request has ended with `r` in
`log'`. -/
inductive Leaves (env : NetEnv) (log' : NetLog) : Except Err Url → NetLog → Prop where
  | refused (e : Err) : Leaves env log' (.error e) log'
  | sent (url : Url) (passed : url ∈ log'.passed) : Leaves env log' (.ok url)
      { log' with requested := (followed api env.remote maxRedirects log'.requested url).reverse ++
          url :: log'.requested }

/-- A dispatch that gets to its first request has built and checked its URL before. -/
private theorem exec_run_dispatch {openApiSnapshot : Option Text} {openApiUrl : Text}
    {input : GatewayDispatchInput} {env : NetEnv} {log log' : NetLog} {r : Except Err Url}
    (h : ((dispatch openApiSnapshot openApiUrl input).prepare api config extractServerUrl).exec env
      log = (r, log')) :
    Leaves api env log' r (((dispatch openApiSnapshot openApiUrl input).run api config
      extractServerUrl).exec env log).2 := by
  unfold prepare at h
  unfold run contactUpstream
  rw [Prog.exec_bind_snd env log fun _ _ => rfl, Prog.exec_bind]
  rw [Prog.exec_bind] at h
  -- the base url is resolved, then the url asked for is built, then the size is checked
  cases hbase : (resolveUpstreamBaseUrl api config extractServerUrl openApiSnapshot
      openApiUrl).exec env log with
  | mk r₁ log₁ =>
  cases r₁ with
  | error e =>
    simp only [hbase, Prod.mk.injEq] at h ⊢
    obtain ⟨rfl, rfl⟩ := h
    exact .refused e
  | ok base =>
  simp only [hbase] at h ⊢
  rw [Prog.exec_bind] at h ⊢
  cases htext : (buildUpstreamUrl api config base (normalizePath input.path)
      input.query).exec env log₁ with
  | mk r₂ log₂ =>
  cases r₂ with
  | error e =>
    simp only [htext, Prod.mk.injEq] at h ⊢
    obtain ⟨rfl, rfl⟩ := h
    exact .refused e
  | ok text =>
  simp only [htext] at h ⊢
  obtain ⟨url, hparse, hmem⟩ := exec_buildUpstreamUrl_ok api config htext
  unfold fetchUpstream
  unfold assertRequestBodySize at h ⊢
  by_cases hsize : getBodySizeBytes (buildRequestBody input.method input.body) ≤
      config.gatewayRequestBodyLimitBytes
  · rw [if_pos hsize] at h ⊢
    simp only [pure_bind] at h ⊢
    unfold newUrl at h
    rw [hparse, Prog.exec_pure, Prod.mk.injEq] at h
    obtain ⟨rfl, rfl⟩ := h
    -- only then the request is sent, to the url that was checked
    rw [Prog.exec_bind_snd env log₂ fun _ _ => rfl, Prog.exec_tryCatch_snd env log₂ fun _ _ => rfl,
      exec_fetch api hparse]
    exact .sent url hmem
  · rw [if_neg hsize] at h ⊢
    simp only [Prog.exec_bind, Prog.exec_throw, Prod.mk.injEq] at h ⊢
    obtain ⟨rfl, rfl⟩ := h
    exact .refused _

/-- What one check and the `fetch` after it leave in the log. -/
private theorem leaves_checkUrl {options : SafeExternalUrlOptions} {text : Text} {env : NetEnv}
    {log log' : NetLog} {r : Except Err Url} {rest : Url → NetOp Unit}
    (h : (checkUrl api options text).exec env log = (r, log'))
    (hrest : ∀ url, api.parse text = some url → ∀ log, ((rest url).exec env log).2 =
      { log with requested := (followed api env.remote maxRedirects log.requested url).reverse ++
          url :: log.requested }) :
    Leaves api env log' r ((checkUrl api options text >>= rest).exec env log).2 := by
  rw [Prog.exec_bind, h]
  cases r with
  | error e => exact .refused e
  | ok url =>
    obtain ⟨hparse, rfl⟩ := exec_checkUrl_ok api h
    simp only
    rw [hrest url hparse]
    exact .sent url List.mem_cons_self

/-- Reading a body sends nothing. -/
private theorem exec_readOpenApiBody (openApiUrl : Text) (response : RemoteResponse) (env : NetEnv)
    (log : NetLog) : ((readOpenApiBody openApiUrl response).exec env log).2 = log := by
  unfold readOpenApiBody
  split
  · rfl
  · split
    · rfl
    · split
      · rfl
      · split <;> rfl

/-- What a call requests begins with the URL that it has checked last, and goes on with the
redirects from there. -/
theorem exec_run (call : OutboundCall) {env : NetEnv} {log log' : NetLog} {r : Except Err Url}
    (h : (call.prepare api config extractServerUrl).exec env log = (r, log')) :
    Leaves api env log' r ((call.run api config extractServerUrl).exec env log).2 := by
  cases call with
  | dispatch openApiSnapshot openApiUrl input =>
    exact exec_run_dispatch api config extractServerUrl h
  | snapshot openApiUrl =>
    simp only [run, fetchOpenApiSnapshot, bind_assoc]
    refine leaves_checkUrl api h fun url hparse log => ?_
    -- after the response has come, nothing more is sent
    rw [Prog.exec_bind_snd env log fun _ _ => rfl, Prog.exec_tryCatch_snd env log,
      Prog.exec_bind_snd env log fun _ _ => exec_readOpenApiBody _ _ _ _, exec_fetch api hparse]
    intro e log
    cases e <;> rfl
  | alert targetUrl =>
    simp only [run, deliverAlert]
    refine leaves_checkUrl api h fun url hparse log => ?_
    rw [Prog.exec_bind_snd, exec_fetchFollowing]
    intro response log
    split <;> rfl

/-- A call has checked every URL that it requests exactly if the redirects that `fetch` follows
lead to URLs that the call has checked before its first request. -/
theorem allChecked_iff (call : OutboundCall) (env : NetEnv) :
    ((call.run api config extractServerUrl).exec env .empty).2.AllChecked ↔
      ∀ url log, (call.prepare api config extractServerUrl).exec env .empty = (.ok url, log) →
        ∀ next ∈ followed api env.remote maxRedirects [] url, next ∈ log.passed := by
  cases h : (call.prepare api config extractServerUrl).exec env .empty with
  | mk r log' =>
    have hleaves := exec_run api config extractServerUrl call h
    -- nothing is sent while the call is prepared
    have hnone : log'.requested = [] := by
      have := (sendsNothing_prepare api config extractServerUrl call).exec env .empty
      rwa [h] at this
    generalize ((call.run api config extractServerUrl).exec env .empty).2 = final at hleaves
    cases hleaves with
    | refused e =>
      unfold NetLog.AllChecked
      rw [hnone]
      exact ⟨fun _ url log heq => (nomatch heq), fun _ url hurl => (nomatch hurl)⟩
    -- the first url was checked, so only the redirects are left
    | sent url hpassed =>
      unfold NetLog.AllChecked
      simp only [hnone, List.mem_append, List.mem_reverse, List.mem_singleton, Prod.mk.injEq,
        Except.ok.injEq]
      constructor
      · rintro hall _ _ ⟨rfl, rfl⟩ next hnext
        exact hall next (.inl hnext)
      · intro hall next hnext
        cases hnext with
        | inl hnext => exact hall url log' ⟨rfl, rfl⟩ next hnext
        | inr hnext => rw [hnext]; exact hpassed

end OutboundCall

/-! ### A redirect into the private network -/

/-- `https://api.example/openapi.json` -/
def sampleOpenApiUrl : Url :=
  { sampleBaseUrl with
    path := ["openapi.json".toList]
    path_ne_nil := by decide
    isSegment_of_mem_path := by decide }

/-- `http://169.254.169.254/` -/
def sampleMetadataUrl : Url :=
  { sampleBaseUrl with
    protocol := "http:".toList
    hostname := "169.254.169.254".toList
    path := [[]]
    path_ne_nil := by decide
    isSegment_of_mem_path := by decide }

/-- A runtime that knows the texts of these two URLs. -/
def sampleRedirectApi : UrlApi :=
  { sampleUrlApi with
    parse := fun text =>
      if text = "https://api.example/openapi.json".toList then some sampleOpenApiUrl else none
    parseRelative := fun text _ =>
      if text = "http://169.254.169.254/".toList then some sampleMetadataUrl else none }

/-- A public host whose first answer is a redirect to a private address. -/
def redirectingEnv : NetEnv where
  lookup _ _ := some ["93.184.215.14".toList]
  remote requested :=
    if requested.length = 1 then some ⟨302, some "http://169.254.169.254/".toList, some []⟩
    else some ⟨200, none, some "secret".toList⟩

def sampleGatewayConfig : GatewayConfig where
  allowPrivateNetworkTargets := false
  gatewayRequestBodyLimitBytes := 1000

/-- The log of the snapshot fetch from that host. -/
def redirectedLog : NetLog :=
  (((OutboundCall.snapshot "https://api.example/openapi.json".toList).run sampleRedirectApi
    sampleGatewayConfig fun _ => none).exec redirectingEnv .empty).2

/-- The server contacts an address that the check refuses. -/
theorem not_allChecked :
    sampleMetadataUrl ∈ redirectedLog.requested ∧ isPrivateAddress sampleMetadataUrl.hostname ∧
      ¬redirectedLog.AllChecked := by
  have hrequested : redirectedLog.requested = [sampleMetadataUrl, sampleOpenApiUrl] := by
    decide +kernel
  have hpassed : redirectedLog.passed = [sampleOpenApiUrl] := by decide +kernel
  unfold NetLog.AllChecked
  rw [hrequested, hpassed]
  refine ⟨List.mem_cons_self, by decide +kernel, fun h => ?_⟩
  exact absurd (h sampleMetadataUrl List.mem_cons_self) (by decide)

end HivePoint
