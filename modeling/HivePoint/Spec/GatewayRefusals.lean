import HivePoint.ForStd.Binary64
import HivePoint.Native.GatewayService
import HivePoint.Spec.BurstLimit
import HivePoint.Spec.OutboundUrls
import HivePoint.Spec.PaidAuthorizations

/-!
# What a refused dispatch costs

The gateway takes tokens from the subscription's burst bucket, authorizes the request once more and
records its usage, and looks for the target of the request after that. A request that is refused
after one of these has been paid for. A denial by the burst limiter takes no tokens, but it stores
what it has found, rounded, and with its own clock.

A dispatch is taken through visits: between two of its statements anything may happen to the
database and to the buckets.

## Key results

- `pass_checkBurstLimit`: what the burst limiter does to the buckets
- `result_contactUpstream_iff`: the targets that are refused
- `refusal_costsNothing_iff`: the dispatches whose refusal costs nothing
-/

namespace HivePoint

open Prog

/-! ### Tokens -/

section Tokens

variable {config : GatewayBurstConfig} {buckets buckets' : Table GatewayBurstBucket}
  {key key' : Id} {burstLimit requestCount now : Int} {row : GatewayBurstBucket}

/-- The limiter finds the tokens under `key` that it would have found, from the last refill on. -/
def KeepsTokens (config : GatewayBurstConfig) (key : Id) (burstLimit : Int)
    (buckets buckets' : Table GatewayBurstBucket) : Prop :=
  ∀ t, (∀ row, buckets'.find? key = some row → row.lastRefillAt ≤ t) →
    availableTokens Binary64.round config buckets' key burstLimit t =
      availableTokens Binary64.round config buckets key burstLimit t

/-- Tables with the same row under the key have the same tokens. -/
private theorem KeepsTokens.of_find? (h : buckets'.find? key = buckets.find? key) :
    KeepsTokens config key burstLimit buckets buckets' := by
  intro t _
  simp only [availableTokens, bucketAt, h]

/-- What is found on a row that has been stored at `now`. -/
private theorem availableTokens_stored (hlast : row.lastRefillAt = now)
    (hfind : buckets'.find? key = some row) (t : Int) :
    availableTokens Binary64.round config buckets' key burstLimit t =
      refillTokens Binary64.round row.tokens now t burstLimit
        (refillRatePerSecond Binary64.round config burstLimit) := by
  simp only [availableTokens, bucketAt, hfind, Option.getD_some, hlast]

/-- At the instant of the refill nothing is added. -/
private theorem refillTokens_same (tokens rate : ℚ) (now burstLimit : Int) :
    refillTokens Binary64.round (Binary64.round tokens) now now burstLimit rate =
      min (burstLimit : ℚ) (Binary64.round tokens) := by
  simp [refillTokens, Binary64.round_zero, Binary64.round_round]

/-- A request of at least one token takes some. -/
private theorem not_keepsTokens_of_taken (hcount : 1 ≤ requestCount)
    (hsafe : burstLimit ≤ 9007199254740991)
    (henough : requestCount ≤ availableTokens Binary64.round config buckets key burstLimit now)
    (htokens : row.tokens = Binary64.round
      (availableTokens Binary64.round config buckets key burstLimit now - requestCount))
    (hlast : row.lastRefillAt = now) (hfind : buckets'.find? key = some row) :
    ¬KeepsTokens config key burstLimit buckets buckets' := by
  intro hkeeps
  have hsame := hkeeps now fun row' hrow' => by
    obtain rfl := Option.some.inj (hfind.symm.trans hrow')
    exact hlast.le
  rw [availableTokens_stored hlast hfind, htokens, refillTokens_same] at hsame
  have hle := availableTokens_le Binary64.round config buckets key burstLimit now
  generalize availableTokens Binary64.round config buckets key burstLimit now = level at *
  have hone : (1 : ℚ) ≤ requestCount := by exact_mod_cast hcount
  have hlimit : (burstLimit : ℚ) ≤ 9007199254740991 := by exact_mod_cast hsafe
  -- below `2 ^ 53` the rounding is off by one half at most
  have hbelow : |level - requestCount| < 2 ^ (53 : ℤ) := by
    rw [abs_of_nonneg (sub_nonneg.mpr henough)]
    norm_num
    linarith
  have hround := (abs_le.mp (Binary64.abs_round_sub_le hbelow)).2
  have hmin := min_le_right (burstLimit : ℚ) (Binary64.round (level - requestCount))
  rw [hsame] at hmin
  linarith

/-- The tokens found at `now` are refilled from there on as they would have been without a stop. -/
def RefillsAlike (config : GatewayBurstConfig) (key : Id) (burstLimit now : Int)
    (buckets : Table GatewayBurstBucket) : Prop :=
  ∀ t, now ≤ t →
    refillTokens Binary64.round
        (availableTokens Binary64.round config buckets key burstLimit now) now t burstLimit
        (refillRatePerSecond Binary64.round config burstLimit) =
      availableTokens Binary64.round config buckets key burstLimit t

/-- A denied call stores what it has found. -/
private theorem keepsTokens_denied_iff
    (htokens : row.tokens = availableTokens Binary64.round config buckets key burstLimit now)
    (hlast : row.lastRefillAt = now) (hfind : buckets'.find? key = some row) :
    KeepsTokens config key burstLimit buckets buckets' ↔
      RefillsAlike config key burstLimit now buckets := by
  simp only [KeepsTokens, RefillsAlike, availableTokens_stored hlast hfind, htokens]
  constructor
  · intro h t ht
    refine h t fun row' hrow' => ?_
    obtain rfl := Option.some.inj (hfind.symm.trans hrow')
    exact hlast.trans_le ht
  · intro h t ht
    exact h t (hlast ▸ ht row hfind)

end Tokens

/-! ### Refusals -/

/-- The codes with which the gateway itself refuses a request. -/
def ErrorCode.isGatewayRefusal : ErrorCode → Bool
  | .unauthorized | .productNotFound | .productNotPublic | .versionNotFound | .invalidApiKey
  | .noActiveSubscription | .quotaExceeded | .rateLimitExceeded | .forbidden
  | .subscriptionNotActive | .gatewayTargetNotConfigured | .unsafeExternalUrl
  | .gatewayRequestBodyTooLarge => true
  | _ => false

/-- A dispatch that ends so has been refused before the upstream was contacted. -/
def IsGatewayRefusal {α : Type} (r : Except Err α) : Prop :=
  ∃ e, r = .error (.app e) ∧ e.code.isGatewayRefusal = true

/-- An error of the application with such a code is a refusal. -/
private theorem isGatewayRefusal_app {α : Type} {e : AppError}
    (h : e.code.isGatewayRefusal = true) :
    IsGatewayRefusal (.error (.app e) : Except Err α) := ⟨e, rfl, h⟩

/-- A result is no refusal. -/
private theorem not_isGatewayRefusal_ok {α : Type}
    (a : α) : ¬IsGatewayRefusal (.ok a : Except Err α) :=
  fun ⟨_, h, _⟩ => nomatch h

instance {α : Type} (r : Except Err α) : Decidable (IsGatewayRefusal r) :=
  match r with
  | .error (.app e) =>
    decidable_of_iff (e.code.isGatewayRefusal = true)
      ⟨isGatewayRefusal_app, fun ⟨_, h, hcode⟩ => Err.app.inj (Except.error.inj h) ▸ hcode⟩
  | .error (.database _) | .error (.uniqueConstraint _) | .error .recordNotFound
  | .error (.stripe _) | .error (.typeError _) | .error (.error _) =>
    isFalse fun ⟨_, h, _⟩ => nomatch h
  | .ok a => isFalse (not_isGatewayRefusal_ok a)

/-! ### The target -/

section Target

variable (api : UrlApi) (config : GatewayConfig) (extractServerUrl : Option Text → Option Text)

/-- The check of a URL on what it meets. -/
def checkOn (visit : NetEnv × NetLog) (text : Text) : Except AppError Url :=
  assertSafeExternalHttpUrl api (visit.1.lookup visit.2.passed.length) text
    (upstreamUrlOptions config)

/-- Why the target of a request is refused, on what the checks of its two URLs meet. -/
inductive TargetRefused (version : ApiVersion) (input : GatewayDispatchInput) :
    List (NetEnv × NetLog) → Prop where
  /-- the document names no server -/
  | notConfigured (visits : List (NetEnv × NetLog))
      (hserver : (extractServerUrl version.openApiSnapshot).filter (· ≠ []) = none) :
      TargetRefused version input visits
  /-- its server URL is not a URL -/
  | unresolved (visits : List (NetEnv × NetLog)) (serverUrl : Text)
      (hserver : (extractServerUrl version.openApiSnapshot).filter (· ≠ []) = some serverUrl)
      (hresolved : api.parseRelative serverUrl version.openApiUrl = none) :
      TargetRefused version input visits
  /-- the server URL is not safe -/
  | unsafeServer (visit : NetEnv × NetLog) (visits : List (NetEnv × NetLog)) (serverUrl : Text)
      (resolved : Url) (e : AppError)
      (hserver : (extractServerUrl version.openApiSnapshot).filter (· ≠ []) = some serverUrl)
      (hresolved : api.parseRelative serverUrl version.openApiUrl = some resolved)
      (hcheck : checkOn api config visit (api.serialize resolved) = .error e) :
      TargetRefused version input (visit :: visits)
  /-- the URL of the request is not safe, or its body is too large -/
  | unusable (visit visit' : NetEnv × NetLog) (visits : List (NetEnv × NetLog)) (serverUrl : Text)
      (resolved baseUrl : Url)
      (hserver : (extractServerUrl version.openApiSnapshot).filter (· ≠ []) = some serverUrl)
      (hresolved : api.parseRelative serverUrl version.openApiUrl = some resolved)
      (hbase : checkOn api config visit (api.serialize resolved) = .ok baseUrl)
      (hrefused : (∃ e, checkOn api config visit' (api.serialize (upstreamUrl api baseUrl
          (normalizePath input.path) input.query)) = .error e) ∨
        config.gatewayRequestBodyLimitBytes <
          getBodySizeBytes (buildRequestBody input.method input.body)) :
      TargetRefused version input (visit :: visit' :: visits)

/-- `parseUrl` refuses with one code. -/
private theorem code_of_parseUrl {text : Text} {options : SafeExternalUrlOptions} {e : AppError}
    (h : parseUrl api text options = .error e) : e.code = .unsafeExternalUrl := by
  unfold parseUrl at h
  cases hparse : api.parse text with
  | none =>
    simp only [hparse] at h
    exact Except.error.inj h ▸ rfl
  | some url =>
    simp only [hparse] at h
    split at h
    · exact Except.error.inj h ▸ rfl
    · split at h
      · exact Except.error.inj h ▸ rfl
      · exact nomatch h

/-- `resolveAddresses` refuses with one code. -/
private theorem code_of_resolveAddresses {lookup : DnsLookup} {hostname text : Text}
    {options : SafeExternalUrlOptions} {e : AppError}
    (h : resolveAddresses lookup hostname text options = .error e) :
    e.code = .unsafeExternalUrl := by
  unfold resolveAddresses at h
  split at h
  · exact nomatch h
  · cases hlookup : lookup hostname with
    | none =>
      simp only [hlookup] at h
      exact Except.error.inj h ▸ rfl
    | some addresses =>
      simp only [hlookup] at h
      exact nomatch h

/-- What does not pass the check is refused with its code. -/
private theorem code_of_assertSafe {lookup : DnsLookup} {text : Text}
    {options : SafeExternalUrlOptions} {e : AppError}
    (h : assertSafeExternalHttpUrl api lookup text options = .error e) :
    e.code = .unsafeExternalUrl := by
  -- each check of the four refuses with the same code
  unfold assertSafeExternalHttpUrl at h
  cases hurl : parseUrl api text options with
  | error e' =>
    rw [hurl] at h
    exact Except.error.inj h ▸ code_of_parseUrl api hurl
  | ok url =>
    rw [hurl] at h
    simp only [bind, Except.bind] at h
    split at h
    · exact nomatch h
    · split at h
      · exact Except.error.inj h ▸ rfl
      · cases haddresses : resolveAddresses lookup url.hostname text options with
        | error e' =>
          simp only [haddresses] at h
          exact Except.error.inj h ▸ code_of_resolveAddresses haddresses
        | ok addresses =>
          simp only [haddresses] at h
          split at h
          · exact Except.error.inj h ▸ rfl
          · exact nomatch h

/-- What `fetch` fails with is not one of the gateway's own refusals. -/
private theorem not_isGatewayRefusal_fetchUpstream {text : Text} {input : GatewayDispatchInput}
    (hsize : getBodySizeBytes (buildRequestBody input.method input.body) ≤
      config.gatewayRequestBodyLimitBytes) {visits : List (NetEnv × NetLog)}
    {r : Except Err RemoteResponse}
    (hr : ((fetchUpstream api config text input).pass visits).result = some r) :
    ¬IsGatewayRefusal r := by
  unfold fetchUpstream assertRequestBodySize at hr
  rw [if_pos hsize, pure_bind] at hr
  -- nothing between the size check and the response refuses
  cases hfetch : ((fetch api text).pass visits).result with
  | none =>
    rw [pass_tryCatch_none hfetch] at hr
    cases hr
  | some result =>
    cases result with
    | ok response =>
      rw [pass_tryCatch_ok hfetch, hfetch] at hr
      obtain rfl := Option.some.inj hr
      exact not_isGatewayRefusal_ok response
    -- an error of the network is mapped to a code that is no refusal
    | error e =>
      rw [pass_tryCatch_error hfetch] at hr
      obtain rfl := Option.some.inj hr
      intro hrefusal
      obtain ⟨e', heq, hcode⟩ := hrefusal
      obtain rfl := Err.app.inj (Except.error.inj heq)
      cases hcode

/-- The last part of `contactUpstream` refuses a body that is too large. -/
private theorem result_fetchUpstream_iff {text : Text} {input : GatewayDispatchInput}
    {visits : List (NetEnv × NetLog)} :
    (∃ r, ((do
        let response ← fetchUpstream api config text input
        return (text, response) : NetOp (Text × RemoteResponse)).pass visits).result = some r ∧
      IsGatewayRefusal r) ↔
      config.gatewayRequestBodyLimitBytes <
        getBodySizeBytes (buildRequestBody input.method input.body) := by
  constructor
  -- a refusal must come from the body size, which is checked first
  · intro h
    by_contra hsize
    obtain ⟨r, hr, hrefusal⟩ := h
    have hfetch : ∀ r', ((fetchUpstream api config text input).pass visits).result = some r' →
        ¬IsGatewayRefusal r' :=
      fun r' => not_isGatewayRefusal_fetchUpstream api config (not_lt.mp hsize)
    -- otherwise it comes out of `fetchUpstream`, which does not refuse
    cases hresult : ((fetchUpstream api config text input).pass visits).result with
    | none =>
      rw [pass_bind_none hresult] at hr
      cases hr
    | some result =>
      cases result with
      | ok response =>
        rw [pass_bind_ok hresult] at hr
        obtain rfl := Option.some.inj hr
        exact not_isGatewayRefusal_ok _ hrefusal
      | error e =>
        rw [pass_bind_error hresult] at hr
        obtain rfl := Option.some.inj hr
        obtain ⟨e', heq, hcode⟩ := hrefusal
        exact hfetch _ hresult ⟨e', congrArg _ (Except.error.inj heq), hcode⟩
  · intro hsize
    unfold fetchUpstream assertRequestBodySize
    rw [if_neg (not_le.mpr hsize)]
    exact ⟨_, rfl, _, rfl, rfl⟩

/-- The check of a URL meets the first visit. -/
private theorem result_checkUrl_bind_ok {α : Type} {visit : NetEnv × NetLog} {text : Text}
    {url : Url} (h : checkOn api config visit text = .ok url) (g : Url → NetOp α)
    (visits : List (NetEnv × NetLog)) :
    ((checkUrl api (upstreamUrlOptions config) text >>= g).pass (visit :: visits)).result =
      ((g url).pass visits).result := by
  refine result_stmt_bind_ok ?_
  unfold checkOn at h
  rw [h]

/-- A check that fails ends the request with its error. -/
private theorem result_checkUrl_bind_error {α : Type} {visit : NetEnv × NetLog} {text : Text}
    {e : AppError} (h : checkOn api config visit text = .error e) (g : Url → NetOp α)
    (visits : List (NetEnv × NetLog)) :
    ((checkUrl api (upstreamUrlOptions config) text >>= g).pass (visit :: visits)).result =
      some (.error (.app e)) := by
  refine result_stmt_bind_error ?_
  unfold checkOn at h
  rw [h]

section Found

variable {version : ApiVersion} {input : GatewayDispatchInput} {serverUrl : Text} {resolved : Url}
  (hserver : (extractServerUrl version.openApiSnapshot).filter (· ≠ []) = some serverUrl)
  (hresolved : api.parseRelative serverUrl version.openApiUrl = some resolved)
include hserver hresolved

/-- Without a visit nothing is refused after the server URL has been found. -/
private theorem not_targetRefused_nil :
    ¬TargetRefused api config extractServerUrl version input [] := by
  intro h
  cases h with
  | notConfigured _ hnone => cases hserver.symm.trans hnone
  | unresolved _ serverUrl' hsome hnone =>
    obtain rfl := Option.some.inj (hserver.symm.trans hsome)
    cases hresolved.symm.trans hnone

/-- When the server URL is safe, the rest is decided on the second visit. -/
private theorem targetRefused_cons_iff {visit : NetEnv × NetLog}
    {visits : List (NetEnv × NetLog)} {baseUrl : Url}
    (hbase : checkOn api config visit (api.serialize resolved) = .ok baseUrl) :
    TargetRefused api config extractServerUrl version input (visit :: visits) ↔
      ∃ visit' visits', visits = visit' :: visits' ∧
        ((∃ e, checkOn api config visit' (api.serialize (upstreamUrl api baseUrl
          (normalizePath input.path) input.query)) = .error e) ∨
        config.gatewayRequestBodyLimitBytes <
          getBodySizeBytes (buildRequestBody input.method input.body)) := by
  constructor
  -- the server is the one that was resolved, and its check has succeeded
  · intro h
    cases h with
    | notConfigured _ hnone => cases hserver.symm.trans hnone
    | unresolved _ serverUrl' hsome hnone =>
      obtain rfl := Option.some.inj (hserver.symm.trans hsome)
      cases hresolved.symm.trans hnone
    | unsafeServer _ _ serverUrl' resolved' e hsome hsome' herror =>
      obtain rfl := Option.some.inj (hserver.symm.trans hsome)
      obtain rfl := Option.some.inj (hresolved.symm.trans hsome')
      cases hbase.symm.trans herror
    | unusable _ visit' visits' serverUrl' resolved' baseUrl' hsome hsome' hbase' hrefused =>
      obtain rfl := Option.some.inj (hserver.symm.trans hsome)
      obtain rfl := Option.some.inj (hresolved.symm.trans hsome')
      obtain rfl := Except.ok.inj (hbase.symm.trans hbase')
      exact ⟨visit', visits', rfl, hrefused⟩
  · intro h
    obtain ⟨visit', visits', rfl, hrefused⟩ := h
    exact .unusable visit visit' visits' serverUrl resolved baseUrl hserver hresolved hbase hrefused

end Found

/-- The URL of the request and its body are refused on the visit of the check. -/
private theorem result_checkUrl_fetch_iff {text : Text} {input : GatewayDispatchInput}
    {visits : List (NetEnv × NetLog)} :
    (∃ r, ((checkUrl api (upstreamUrlOptions config) text >>= fun _ => do
        let response ← fetchUpstream api config text input
        return (text, response)).pass visits).result = some r ∧ IsGatewayRefusal r) ↔
      ∃ visit visits', visits = visit :: visits' ∧
        ((∃ e, checkOn api config visit text = .error e) ∨ config.gatewayRequestBodyLimitBytes <
          getBodySizeBytes (buildRequestBody input.method input.body)) := by
  -- no visit is left: neither side has a result
  cases visits with
  | nil =>
    constructor
    · intro h
      obtain ⟨r, hr, -⟩ := h
      cases hr
    · intro h
      obtain ⟨_, _, h, -⟩ := h
      cases h
  | cons visit visits =>
  cases hcheck : checkOn api config visit text with
  | error e =>
    rw [result_checkUrl_bind_error api config hcheck]
    exact ⟨fun _ => ⟨visit, visits, rfl, .inl ⟨e, hcheck⟩⟩,
      fun _ => ⟨_, rfl, isGatewayRefusal_app (code_of_assertSafe api hcheck ▸ rfl)⟩⟩
  | ok url =>
    -- the second check succeeds, so what is left is the body size
    rw [result_checkUrl_bind_ok api config hcheck, result_fetchUpstream_iff]
    constructor
    · exact fun hsize => ⟨visit, visits, rfl, .inr hsize⟩
    · intro h
      obtain ⟨visit', _, heq, h⟩ := h
      obtain ⟨rfl, -⟩ := List.cons.inj heq
      cases h with
      | inl herror =>
        obtain ⟨_, herror⟩ := herror
        cases hcheck.symm.trans herror
      | inr hsize => exact hsize

/-- The upstream part refuses a request exactly if its target is refused. -/
theorem result_contactUpstream_iff (version : ApiVersion) (input : GatewayDispatchInput)
    (visits : List (NetEnv × NetLog)) :
    (∃ r, ((contactUpstream api config extractServerUrl version.openApiSnapshot version.openApiUrl
        (normalizePath input.path) input).pass visits).result = some r ∧ IsGatewayRefusal r) ↔
      TargetRefused api config extractServerUrl version input visits := by
  unfold contactUpstream resolveUpstreamBaseUrl
  -- the cases follow `contactUpstream`: no server, no resolution, the first check, the second
  cases hserver : (extractServerUrl version.openApiSnapshot).filter (· ≠ []) with
  | none =>
    exact ⟨fun _ => .notConfigured visits hserver, fun _ => ⟨_, rfl, isGatewayRefusal_app rfl⟩⟩
  | some serverUrl =>
  cases hresolved : api.parseRelative serverUrl version.openApiUrl with
  | none =>
    simp only [hresolved]
    exact ⟨fun _ => .unresolved visits serverUrl hserver hresolved,
      fun _ => ⟨_, rfl, isGatewayRefusal_app rfl⟩⟩
  | some resolved =>
  simp only [hresolved, bind_assoc, pure_bind]
  cases visits with
  | nil =>
    constructor
    · intro h
      obtain ⟨r, hr, -⟩ := h
      cases hr
    · exact fun h =>
        absurd h (not_targetRefused_nil api config extractServerUrl hserver hresolved)
  | cons visit visits =>
  cases hbase : checkOn api config visit (api.serialize resolved) with
  | error e =>
    rw [result_checkUrl_bind_error api config hbase]
    exact ⟨fun _ => .unsafeServer visit visits serverUrl resolved e hserver hresolved hbase,
      fun _ => ⟨_, rfl, isGatewayRefusal_app (code_of_assertSafe api hbase ▸ rfl)⟩⟩
  | ok baseUrl =>
    rw [result_checkUrl_bind_ok api config hbase,
      targetRefused_cons_iff api config extractServerUrl hserver hresolved hbase]
    -- the check returns the URL that it was given
    have hparse : api.parse (api.serialize resolved) = some baseUrl := parse_of_assertSafe api hbase
    simp only [buildUpstreamUrl, newUrl, hparse, bind_assoc, pure_bind]
    exact result_checkUrl_fetch_iff api config

end Target

/-! ### Admission -/

section Admission

variable {R : GatewayWorld → GatewayWorld → Prop} (hrefl : ∀ s, R s s)
include hrefl

/-- A reading of the database. -/
private theorem eachStep_onDatabase {α : Type} {phase : GatewayEnv → Env} {op : Op α}
    (h : op.EachStep Eq) : (onDatabase phase op).EachStep R :=
  eachStep_zoom_of h fun s w heq => by
    subst heq
    exact hrefl s

/-- The reads of the product and its version are statements of the database. -/
private theorem eachStep_findVersion (input : GatewayDispatchInput) (providedApiKey : Option Text) :
    (findVersion input providedApiKey).EachStep R := by
  have hread : ∀ {α : Type} (f : World → α), (onDatabase (·.entry) (read f)).EachStep R :=
    fun f => eachStep_onDatabase hrefl (eachStep_read (fun _ => rfl) f)
  unfold findVersion
  split
  · trivial
  · refine eachStep_bind (hread _) fun product => ?_
    cases product with
    | none => trivial
    | some product =>
      dsimp only
      split
      · trivial
      · refine eachStep_bind (hread _) fun version => ?_
        cases version with
        | none => trivial
        | some version => trivial

omit hrefl in
/-- `checkAuthorization` sends no statement. -/
theorem eachStep_checkAuthorization (response : AuthorizeUsageResponse) :
    (checkAuthorization response).EachStep R := by
  unfold checkAuthorization
  split
  · trivial
  · split
    · trivial
    · trivial

/-- Before the burst limiter nothing is written. -/
theorem eachStep_admitRequest (hashApiKey : String → String → String) (usageConfig : AppConfig)
    (tx : TxId) (input : GatewayDispatchInput) (providedApiKey : Option Text) :
    (admitRequest hashApiKey usageConfig tx input providedApiKey).EachStep R := by
  refine eachStep_bind (eachStep_findVersion hrefl input providedApiKey) fun found => ?_
  refine eachStep_bind (eachStep_onDatabase hrefl (eachStep_clock fun _ => rfl))
    fun occurredAt => ?_
  refine eachStep_bind (eachStep_onDatabase hrefl
    (eachStep_authorizeUsageInternal_preview hashApiKey usageConfig tx (fun _ => rfl) rfl))
    fun authorization => ?_
  exact eachStep_bind (eachStep_checkAuthorization authorization) fun _ => trivial

end Admission

/-- An authorization that passes the check has been granted to a subscription. -/
theorem returns_checkAuthorization (response : AuthorizeUsageResponse) :
    (checkAuthorization response).Returns fun subscriptionId =>
      response.allowed = true ∧ response.subscriptionId = some subscriptionId := by
  unfold checkAuthorization
  split
  · trivial
  · rename_i hallowed
    split
    · trivial
    · rename_i subscriptionId hid
      exact ⟨by simpa using hallowed, Option.eq_some_of_filter_eq_some hid⟩

/-! ### The burst limiter -/

section Attempts

variable (round : ℚ → ℚ) (config : GatewayBurstConfig)

/-- The buckets on which one of so many attempts is committed: the first that the database does
    not end with a conflict, unless it ends it with another error. -/
def committedOn : Nat → List (BurstEnv × Table GatewayBurstBucket) →
    Option (Table GatewayBurstBucket)
  | 0, _ => none
  | _ + 1, [] => none
  | attempts + 1, (env, buckets) :: visits =>
    match env.transactionError with
    | none => some buckets
    | some error => if error = .transactionConflict then committedOn attempts visits else none

/-- The clock of a call, and the buckets on which it is committed. -/
def committedAt : List (BurstEnv × Table GatewayBurstBucket) →
    Option (Int × Table GatewayBurstBucket)
  | [] => none
  | (env, _) :: visits => (committedOn maxTransactionRetries visits).map (env.now, ·)

/-- What a call does to the buckets: all of its steps change nothing, but for the one that is
    committed, after which it returns. -/
inductive BurstPassage (key : Id) (burstLimit requestCount now : Int) :
    Option (Table GatewayBurstBucket) →
    Passage (Table GatewayBurstBucket) BurstEnv BurstError GatewayBurstLimitDecision → Prop where
  | committed
      {passage : Passage (Table GatewayBurstBucket) BurstEnv BurstError GatewayBurstLimitDecision}
      (buckets buckets' : Table GatewayBurstBucket) (decision : GatewayBurstLimitDecision)
      (hconsume : consumeBucket round config burstLimit key requestCount now buckets =
        .ok (decision, buckets'))
      (hresult : passage.result = some (.ok decision)) (hmem : (buckets, buckets') ∈ passage.steps)
      (hsteps : ∀ step ∈ passage.steps, step.2 = step.1 ∨ step = (buckets, buckets')) :
      BurstPassage key burstLimit requestCount now (some buckets) passage
  | kept
      {passage : Passage (Table GatewayBurstBucket) BurstEnv BurstError GatewayBurstLimitDecision}
      (hresult : ∀ decision, passage.result ≠ some (.ok decision))
      (hsteps : ∀ step ∈ passage.steps, step.2 = step.1) :
      BurstPassage key burstLimit requestCount now none passage

variable {round config} {burstLimit requestCount now : Int} {key : Id}

/-- A step before that changes nothing. -/
private theorem BurstPassage.cons {committed : Option (Table GatewayBurstBucket)}
    {passage : Passage (Table GatewayBurstBucket) BurstEnv BurstError GatewayBurstLimitDecision}
    (h : BurstPassage round config key burstLimit requestCount now committed passage)
    (buckets : Table GatewayBurstBucket) :
    BurstPassage round config key burstLimit requestCount now committed
      { passage with steps := (buckets, buckets) :: passage.steps } := by
  -- one more step that changes nothing
  cases h with
  | committed buckets₁ buckets₂ decision hconsume hresult hmem hsteps =>
    refine .committed buckets₁ buckets₂ decision hconsume hresult (List.mem_cons_of_mem _ hmem) ?_
    intro step hstep
    cases List.mem_cons.mp hstep with
    | inl hfirst => exact .inl (hfirst ▸ rfl)
    | inr hrest => exact hsteps step hrest
  | kept hresult hsteps =>
    refine .kept hresult fun step hstep => ?_
    cases List.mem_cons.mp hstep with
    | inl hfirst => exact hfirst ▸ rfl
    | inr hrest => exact hsteps step hrest

/-- An attempt that is committed ends the call. -/
private theorem retryTransaction_committed {env : BurstEnv} (henv : env.transactionError = none)
    (attempts : Nat) (buckets : Table GatewayBurstBucket)
    (visits : List (BurstEnv × Table GatewayBurstBucket)) :
    BurstPassage round config key burstLimit requestCount now (some buckets)
      ((retryTransaction round config burstLimit key requestCount now (attempts + 1)).pass
        ((env, buckets) :: visits)) := by
  obtain ⟨decision, buckets', -, hconsume, -⟩ :=
    consumeBucket_decision round config burstLimit key requestCount now buckets
  -- the first attempt commits, so no other follows
  have hpass : (consumeTransaction round config burstLimit key requestCount now).pass
      ((env, buckets) :: visits) = ⟨[(buckets, buckets')], some (.ok decision), visits⟩ := by
    rw [consumeTransaction, pass_stmt_cons]
    simp only [henv, hconsume]
  have hok : ((consumeTransaction round config burstLimit key requestCount now).pass
      ((env, buckets) :: visits)).result = some (.ok decision) := by rw [hpass]
  rw [retryTransaction, pass_tryCatch_ok hok, hpass]
  refine .committed buckets buckets' decision hconsume rfl (List.mem_singleton_self _) ?_
  exact fun step hstep => .inr (List.mem_singleton.mp hstep)

variable (round config burstLimit requestCount now key) in
/-- After an attempt that is not committed, the call goes on or fails. -/
private theorem pass_retryTransaction_error {env : BurstEnv} {error : BurstError}
    (henv : env.transactionError = some error) (attempts : Nat)
    (buckets : Table GatewayBurstBucket) (visits : List (BurstEnv × Table GatewayBurstBucket)) :
    ∃ rest, (retryTransaction round config burstLimit key requestCount now (attempts + 1)).pass
        ((env, buckets) :: visits) = { rest with steps := (buckets, buckets) :: rest.steps } ∧
      rest = (if isRetryableTransactionError error && attempts > 0 then
        retryTransaction round config burstLimit key requestCount now attempts
        else throw error).pass visits := by
  -- the attempt fails without writing, and the error decides about the next
  have hpass : (consumeTransaction round config burstLimit key requestCount now).pass
      ((env, buckets) :: visits) = ⟨[(buckets, buckets)], some (.error error), visits⟩ := by
    rw [consumeTransaction, pass_stmt_cons]
    simp only [henv]
  have herror : ((consumeTransaction round config burstLimit key requestCount now).pass
      ((env, buckets) :: visits)).result = some (.error error) := by rw [hpass]
  refine ⟨_, ?_, rfl⟩
  rw [retryTransaction, pass_tryCatch_error herror, hpass]
  rfl

variable (round config burstLimit requestCount now key) in
/-- The attempts up to the one that is committed, if one is. -/
private theorem pass_retryTransaction (attempts : Nat)
    (visits : List (BurstEnv × Table GatewayBurstBucket)) :
    BurstPassage round config key burstLimit requestCount now (committedOn (attempts + 1) visits)
      ((retryTransaction round config burstLimit key requestCount now (attempts + 1)).pass
        visits) := by
  induction attempts generalizing visits with
  | zero =>
    cases visits with
    | nil => exact .kept (fun decision h => (by cases h)) fun step hstep => (by cases hstep)
    | cons visit visits =>
      obtain ⟨env, buckets⟩ := visit
      cases henv : env.transactionError with
      | none =>
        simp only [committedOn, henv]
        exact retryTransaction_committed henv 0 buckets visits
      | some error =>
        -- the last attempt is not repeated
        have hnone : committedOn 1 ((env, buckets) :: visits) = none := by
          simp only [committedOn, henv, ite_self]
        obtain ⟨rest, hpass, hrest⟩ := pass_retryTransaction_error round config burstLimit
          requestCount now key henv 0 buckets visits
        rw [hnone, hpass, hrest, if_neg (by simp)]
        refine BurstPassage.cons (.kept (fun decision h => ?_) fun step hstep => ?_) buckets
        · cases h
        · cases hstep
  | succ attempts ih =>
    cases visits with
    | nil => exact .kept (fun decision h => (by cases h)) fun step hstep => (by cases hstep)
    | cons visit visits =>
      obtain ⟨env, buckets⟩ := visit
      cases henv : env.transactionError with
      | none =>
        simp only [committedOn, henv]
        exact retryTransaction_committed henv (attempts + 1) buckets visits
      | some error =>
        obtain ⟨rest, hpass, hrest⟩ := pass_retryTransaction_error round config burstLimit
          requestCount now key henv (attempts + 1) buckets visits
        rw [hpass, hrest, committedOn, henv]
        dsimp only
        by_cases hconflict : error = .transactionConflict
        · rw [if_pos hconflict, if_pos (by simp [isRetryableTransactionError, hconflict])]
          exact (ih visits).cons buckets
        · rw [if_neg hconflict, if_neg (by simp [isRetryableTransactionError, hconflict])]
          refine BurstPassage.cons (.kept (fun decision h => ?_) fun step hstep => ?_) buckets
          · cases h
          · cases hstep

/-- A call under a burst limit reads its clock and makes its attempts. -/
private theorem pass_checkAndConsume {params : CheckAndConsumeParams} (hnow : params.now = none)
    (hlimit : resolveBurstLimit round config params.rateLimitRpm = some burstLimit)
    (hcount : params.requestCount ≤ burstLimit)
    (visits : List (BurstEnv × Table GatewayBurstBucket)) :
    (committedAt visits = none ∧
      (∀ decision, ((checkAndConsume round config params).pass visits).result ≠
        some (.ok decision)) ∧
      ∀ step ∈ ((checkAndConsume round config params).pass visits).steps, step.2 = step.1) ∨
      ∃ now buckets, committedAt visits = some (now, buckets) ∧
        BurstPassage round config params.key burstLimit params.requestCount now (some buckets)
          ((checkAndConsume round config params).pass visits) := by
  -- the count is not too high, so the transaction is tried
  simp only [checkAndConsume, hlimit, (resolveBurstLimit_pos hlimit).ne', if_false, hnow,
    resolveNow, gt_iff_lt, if_neg (not_lt.mpr hcount)]
  cases visits with
  | nil =>
    exact .inl ⟨rfl, fun decision h => (by cases h), fun step hstep => (by cases hstep)⟩
  | cons visit visits =>
    -- the first visit is the read of the clock
    obtain ⟨env, buckets⟩ := visit
    have hattempts := pass_retryTransaction round config burstLimit params.requestCount env.now
      params.key 2 visits
    -- no attempt of the three is committed, or one is
    cases hcommitted : committedOn (2 + 1) visits with
    | none =>
      rw [hcommitted] at hattempts
      refine .inl ⟨by simp [committedAt, maxTransactionRetries, hcommitted], ?_⟩
      cases hattempts with
      | kept hresult hsteps =>
        refine ⟨hresult, fun step hstep => ?_⟩
        cases List.mem_cons.mp hstep with
        | inl hfirst => exact hfirst ▸ rfl
        | inr hrest => exact hsteps step hrest
    | some buckets₁ =>
      rw [hcommitted] at hattempts
      exact .inr ⟨env.now, buckets₁, by simp [committedAt, maxTransactionRetries, hcommitted],
        hattempts.cons buckets⟩

/-- A request for more than the limit reads the clock and is denied. -/
private theorem pass_checkAndConsume_tooMany {params : CheckAndConsumeParams}
    (hnow : params.now = none)
    (hlimit : resolveBurstLimit round config params.rateLimitRpm = some burstLimit)
    (hcount : burstLimit < params.requestCount)
    (visits : List (BurstEnv × Table GatewayBurstBucket)) :
    (∀ decision, ((checkAndConsume round config params).pass visits).result =
        some (.ok decision) → decision.allowed = false) ∧
      ∀ step ∈ ((checkAndConsume round config params).pass visits).steps, step.2 = step.1 := by
  simp only [checkAndConsume, hlimit, (resolveBurstLimit_pos hlimit).ne', if_false, hnow,
    resolveNow,
    gt_iff_lt, if_pos hcount]
  -- the clock is read, and the limiter denies without a transaction
  cases visits with
  | nil => exact ⟨fun decision h => (by cases h), fun step hstep => (by cases hstep)⟩
  | cons visit visits =>
    constructor
    · intro decision h
      exact Except.ok.inj (Option.some.inj h) ▸ rfl
    · intro step hstep
      exact List.mem_singleton.mp hstep ▸ rfl

end Attempts

section Limiter

variable (round : ℚ → ℚ) (config : GatewayBurstConfig) (params : CheckAndConsumeParams)
  (visits : List (GatewayEnv × GatewayWorld))

/-- The call comes to a transaction, which is committed on `buckets` with the clock `now`. -/
structure BurstCommit (burstLimit now : Int) (buckets : Table GatewayBurstBucket) : Prop where
  limit : resolveBurstLimit round config params.rateLimitRpm = some burstLimit
  count : params.requestCount ≤ burstLimit
  committed : committedAt (visits.map (partVisit GatewayWorld.bucketsLens (·.burst))) =
    some (now, buckets)

/-- The steps change nothing but the table of the buckets, which one of them takes from `buckets`
    to `buckets'`. -/
structure StoresBuckets (buckets buckets' : Table GatewayBurstBucket)
    (steps : List (GatewayWorld × GatewayWorld)) : Prop where
  stored : ∃ s, s.buckets = buckets ∧ (s, { s with buckets := buckets' }) ∈ steps
  all : ∀ step ∈ steps, step.2 = step.1 ∨
    step.1.buckets = buckets ∧ step.2 = { step.1 with buckets := buckets' }

/-- How a dispatch passes the burst limiter. -/
inductive LimiterPassage : Passage GatewayWorld GatewayEnv Err GatewayBurstLimitDecision →
    Prop where
  | unlimited
      {passage : Passage GatewayWorld GatewayEnv Err GatewayBurstLimitDecision}
      (decision : GatewayBurstLimitDecision)
      (hlimit : resolveBurstLimit round config params.rateLimitRpm = none)
      (hresult : passage.result = some (.ok decision))
      (hsteps : ∀ step ∈ passage.steps, step.2 = step.1) : LimiterPassage passage
  /-- the request is too large, or the database does not commit its transaction -/
  | untouched
      {passage : Passage GatewayWorld GatewayEnv Err GatewayBurstLimitDecision}
      (hnone : ∀ burstLimit now buckets,
        ¬BurstCommit round config params visits burstLimit now buckets)
      (hresult : ∀ decision, passage.result ≠ some (.ok decision))
      (hsteps : ∀ step ∈ passage.steps, step.2 = step.1) : LimiterPassage passage
  | denied
      {passage : Passage GatewayWorld GatewayEnv Err GatewayBurstLimitDecision}
      (burstLimit now : Int) (buckets buckets' : Table GatewayBurstBucket)
      (row : GatewayBurstBucket) (decision : GatewayBurstLimitDecision)
      (hcommit : BurstCommit round config params visits burstLimit now buckets)
      (hlow : availableTokens round config buckets params.key burstLimit now < params.requestCount)
      (htokens : row.tokens = availableTokens round config buckets params.key burstLimit now)
      (hlast : row.lastRefillAt = now)
      (hfind : ∀ k, buckets'.find? k = if k = params.key then some row else buckets.find? k)
      (hresult : passage.result = some (.error (mapBurstLimitFailure decision)))
      (hsteps : StoresBuckets buckets buckets' passage.steps) : LimiterPassage passage
  | taken
      {passage : Passage GatewayWorld GatewayEnv Err GatewayBurstLimitDecision}
      (burstLimit now : Int) (buckets buckets' : Table GatewayBurstBucket)
      (row : GatewayBurstBucket) (decision : GatewayBurstLimitDecision)
      (hcommit : BurstCommit round config params visits burstLimit now buckets)
      (henough : params.requestCount ≤
        availableTokens round config buckets params.key burstLimit now)
      (htokens : row.tokens = round
        (availableTokens round config buckets params.key burstLimit now - params.requestCount))
      (hlast : row.lastRefillAt = now)
      (hfind : ∀ k, buckets'.find? k = if k = params.key then some row else buckets.find? k)
      (hresult : passage.result = some (.ok decision))
      (hsteps : StoresBuckets buckets buckets' passage.steps) : LimiterPassage passage

/-- What the gateway makes of an end of the limiter. -/
def burstAnswer : Except BurstError GatewayBurstLimitDecision → Except Err GatewayBurstLimitDecision
  | .ok decision =>
    if decision.allowed then .ok decision else .error (mapBurstLimitFailure decision)
  | .error e => .error e.toErr

/-- After the call of the limiter no statement is sent. -/
private theorem pass_checkBurstLimit_eq :
    ((checkBurstLimit round config params).pass visits).steps =
        ((onBuckets (checkAndConsume round config params)).pass visits).steps ∧
      ((checkBurstLimit round config params).pass visits).result =
        ((checkAndConsume round config params).pass
          (visits.map (partVisit GatewayWorld.bucketsLens (·.burst)))).result.map burstAnswer := by
  -- the answer of the limiter on its own table
  have hzoom : ((onBuckets (checkAndConsume round config params)).pass visits).result =
      ((checkAndConsume round config params).pass (visits.map
        (partVisit GatewayWorld.bucketsLens (·.burst)))).result.map
          (Except.mapError BurstError.toErr) := result_zoom visits
  unfold checkBurstLimit
  cases hinner : ((checkAndConsume round config params).pass
      (visits.map (partVisit GatewayWorld.bucketsLens (·.burst)))).result with
  | none =>
    rw [hinner] at hzoom
    rw [pass_bind_none hzoom]
    exact ⟨rfl, rfl⟩
  | some result =>
    rw [hinner] at hzoom
    cases result with
    | error e =>
      rw [pass_bind_error hzoom]
      exact ⟨rfl, rfl⟩
    | ok decision =>
      rw [pass_bind_ok hzoom]
      -- a denial of the limiter is an error of the dispatch
      cases hallowed : decision.allowed with
      | false => simp [hallowed, burstAnswer, onBuckets]
      | true => simp [hallowed, burstAnswer, onBuckets]

variable {round config params visits}

/-- Steps of the limiter that change nothing. -/
private theorem steps_checkBurstLimit_kept
    (h : ∀ step ∈ ((checkAndConsume round config params).pass
      (visits.map (partVisit GatewayWorld.bucketsLens (·.burst)))).steps, step.2 = step.1) :
    ∀ step ∈ ((checkBurstLimit round config params).pass visits).steps, step.2 = step.1 := by
  intro step hstep
  rw [(pass_checkBurstLimit_eq round config params visits).1] at hstep
  obtain ⟨buckets, hinner, hafter⟩ := exists_step_of_zoom hstep
  rw [hafter, show buckets = _ from h _ hinner]
  rfl

/-- Steps of the limiter one of which stores something. -/
private theorem steps_checkBurstLimit_stored {buckets buckets' : Table GatewayBurstBucket}
    (hmem : (buckets, buckets') ∈ ((checkAndConsume round config params).pass
      (visits.map (partVisit GatewayWorld.bucketsLens (·.burst)))).steps)
    (h : ∀ step ∈ ((checkAndConsume round config params).pass
        (visits.map (partVisit GatewayWorld.bucketsLens (·.burst)))).steps,
      step.2 = step.1 ∨ step = (buckets, buckets')) :
    StoresBuckets buckets buckets' ((checkBurstLimit round config params).pass visits).steps := by
  rw [(pass_checkBurstLimit_eq round config params visits).1]
  constructor
  -- the stored step is one of the limiter's, seen from the dispatch
  · exact exists_step_zoom hmem
  · intro step hstep
    obtain ⟨after, hinner, hafter⟩ := exists_step_of_zoom hstep
    cases h _ hinner with
    -- the other parts of the state stay
    | inl hkept =>
      rw [hafter, show after = _ from hkept]
      exact .inl rfl
    | inr hstored =>
      obtain ⟨hbefore, rfl⟩ := Prod.mk.inj hstored
      exact .inr ⟨hbefore, hafter⟩

/-- A dispatch passes the limiter in one of these ways. -/
theorem pass_checkBurstLimit (hnow : params.now = none)
    (visits : List (GatewayEnv × GatewayWorld)) :
    LimiterPassage round config params visits
      ((checkBurstLimit round config params).pass visits) := by
  have hresult := (pass_checkBurstLimit_eq round config params visits).2
  cases hlimit : resolveBurstLimit round config params.rateLimitRpm with
  | none =>
    refine .unlimited ⟨true, none, none, none, none⟩ hlimit ?_ (steps_checkBurstLimit_kept ?_)
    · rw [hresult]
      simp [checkAndConsume, hlimit, burstAnswer]
    · simp [checkAndConsume, hlimit]
  | some burstLimit =>
  by_cases hcount : params.requestCount ≤ burstLimit
  · cases pass_checkAndConsume hnow hlimit hcount
      (visits.map (partVisit GatewayWorld.bucketsLens (·.burst))) with
    | inl hkept =>
      obtain ⟨hnone, hfails, hsteps⟩ := hkept
      refine .untouched (fun burstLimit' now buckets h => ?_) (fun decision h => ?_)
        (steps_checkBurstLimit_kept hsteps)
      · cases hnone.symm.trans h.committed
      · rw [hresult] at h
        obtain ⟨r, hr, hanswer⟩ := Option.map_eq_some_iff.mp h
        cases r with
        | ok decision' => exact hfails decision' hr
        | error e => cases hanswer
    | inr hcommits =>
      obtain ⟨now, buckets, hcommitted, hpassage⟩ := hcommits
      have hcommit : BurstCommit round config params visits burstLimit now buckets :=
        ⟨hlimit, hcount, hcommitted⟩
      cases hpassage with
      | committed _ buckets' decision hconsume hreturns hmem hsteps =>
      obtain ⟨decision', buckets₁, row, hconsume', hlast, hfind, hcase⟩ :=
        consumeBucket_decision round config burstLimit params.key params.requestCount now buckets
      obtain ⟨rfl, rfl⟩ := Prod.mk.inj (Except.ok.inj (hconsume.symm.trans hconsume'))
      have hstores := steps_checkBurstLimit_stored hmem hsteps
      rw [hreturns] at hresult
      cases hcase with
      | inl hdenied =>
        obtain ⟨hlow, htokens, hdecision⟩ := hdenied
        refine .denied burstLimit now buckets buckets' row decision hcommit hlow htokens hlast hfind
          ?_ hstores
        rw [hresult, hdecision]
        rfl
      | inr htaken =>
        obtain ⟨henough, htokens, hdecision⟩ := htaken
        refine .taken burstLimit now buckets buckets' row decision hcommit henough htokens hlast
          hfind ?_ hstores
        rw [hresult, hdecision]
        rfl
  · -- a request for more than the limit does not come to a transaction
    obtain ⟨hdenies, hsteps⟩ := pass_checkAndConsume_tooMany hnow hlimit (not_le.mp hcount)
      (visits.map (partVisit GatewayWorld.bucketsLens (·.burst)))
    refine .untouched (fun burstLimit' now buckets h => ?_) (fun decision h => ?_)
      (steps_checkBurstLimit_kept hsteps)
    · obtain rfl := Option.some.inj (hlimit.symm.trans h.limit)
      exact hcount h.count
    · rw [hresult] at h
      obtain ⟨r, hr, hanswer⟩ := Option.map_eq_some_iff.mp h
      cases r with
      | ok decision' =>
        rw [burstAnswer, hdenies decision' hr] at hanswer
        cases hanswer
      | error e => cases hanswer

end Limiter

/-! ### After the authorization -/

section Forward

variable {api : UrlApi} {extractServerUrl : Option Text → Option Text} {config : GatewayConfig}
  {input : GatewayDispatchInput} {visits : List (GatewayEnv × GatewayWorld)}

/-- A denial is thrown. -/
private theorem checkAuthorization_denied {response : AuthorizeUsageResponse}
    (h : response.allowed = false) :
    checkAuthorization response = throw (mapAuthorizationFailure response.reason) := by
  simp only [checkAuthorization, h, Bool.not_false, if_true]

/-- A granted authorization goes on, unless its subscription has no id. -/
private theorem checkAuthorization_granted {response : AuthorizeUsageResponse} {id : Id}
    (h : response.allowed = true) (hid : response.subscriptionId = some id) :
    checkAuthorization response =
      if id = "" then throw (.app ⟨.subscriptionNotActive, "SUBSCRIPTION_NOT_ACTIVE", 403, []⟩)
      else pure id := by
  by_cases hempty : id = ""
  · simp [checkAuthorization, h, hid, hempty, Option.filter_some]
  · simp [checkAuthorization, h, hid, hempty, Option.filter_some]

/-- What `mapAuthorizationFailure` makes of a reason is a refusal. -/
private theorem isGatewayRefusal_mapAuthorizationFailure {α : Type} (reason : Option DenialReason) :
    IsGatewayRefusal (.error (mapAuthorizationFailure reason) : Except Err α) := by
  cases reason with
  | none => exact isGatewayRefusal_app rfl
  | some reason => cases reason <;> exact isGatewayRefusal_app rfl

variable (admission : GatewayAdmission) (decision : GatewayBurstLimitDecision)
  {response : AuthorizeUsageResponse}

/-- After the authorization neither usage nor tokens are touched. -/
private theorem eachStep_forwardRequest :
    (forwardRequest api extractServerUrl config input admission decision response).EachStep
      fun s s' => s'.db = s.db ∧ s'.buckets = s.buckets := by
  refine eachStep_bind (eachStep_checkAuthorization response) fun subscriptionId => ?_
  refine eachStep_bind ((eachStep_zoom _ _ _ _).mono fun s s' h => ?_) fun contacted => trivial
  obtain ⟨net, rfl⟩ := h
  exact ⟨rfl, rfl⟩

/-- An authorization that does not allow the request is passed on as a refusal. -/
private theorem pass_forwardRequest_denied (h : response.allowed = false) :
    (forwardRequest api extractServerUrl config input admission decision response).pass visits =
      ⟨[], some (.error (mapAuthorizationFailure response.reason)), visits⟩ := by
  rw [forwardRequest, checkAuthorization_denied h]
  rfl

/-- Of the requests that are allowed, those without an id of their subscription are refused, and
    those whose target is. -/
private theorem result_forwardRequest_iff {id : Id} (h : response.allowed = true)
    (hid : response.subscriptionId = some id) :
    (∃ r, ((forwardRequest api extractServerUrl config input admission decision response).pass
        visits).result = some r ∧ IsGatewayRefusal r) ↔
      response.subscriptionId = some "" ∨ TargetRefused api config extractServerUrl
        admission.version input (visits.map (partVisit GatewayWorld.netLens (·.net))) := by
  rw [forwardRequest, checkAuthorization_granted h hid, hid, Option.some.injEq,
    ← result_contactUpstream_iff]
  -- a subscription without an id is refused after the authorization
  by_cases hempty : id = ""
  · rw [if_pos hempty]
    exact ⟨fun _ => .inl hempty, fun _ => ⟨_, rfl, isGatewayRefusal_app rfl⟩⟩
  rw [if_neg hempty, pure_bind, or_iff_right hempty]
  -- what the network part does, seen from the dispatch
  have hzoom : ((onNetwork (contactUpstream api config extractServerUrl
      admission.version.openApiSnapshot admission.version.openApiUrl (normalizePath input.path)
        input)).pass visits).result = _ := result_zoom visits
  cases hinner : ((contactUpstream api config extractServerUrl admission.version.openApiSnapshot
      admission.version.openApiUrl (normalizePath input.path) input).pass
        (visits.map (partVisit GatewayWorld.netLens fun env : GatewayEnv => env.net))).result with
  | none =>
    rw [hinner] at hzoom
    rw [pass_bind_none hzoom]
    constructor
    · intro hrefused
      obtain ⟨r, hr, -⟩ := hrefused
      cases hr
    · intro hrefused
      obtain ⟨r, hr, -⟩ := hrefused
      cases hr
  | some result =>
    rw [hinner] at hzoom
    cases result with
    | error e =>
      rw [pass_bind_error hzoom]
      constructor
      · intro hrefused
        obtain ⟨r, hr, e', heq, hcode⟩ := hrefused
        obtain rfl := Option.some.inj hr
        exact ⟨_, rfl, e', congrArg _ (Except.error.inj heq), hcode⟩
      · intro hrefused
        obtain ⟨r, hr, e', heq, hcode⟩ := hrefused
        obtain rfl := Option.some.inj hr
        exact ⟨_, rfl, e', congrArg _ (Except.error.inj heq), hcode⟩
    | ok contacted =>
      rw [pass_bind_ok hzoom]
      constructor
      · intro hrefused
        obtain ⟨r, hr, hrefusal⟩ := hrefused
        obtain rfl := Option.some.inj hr
        exact absurd hrefusal (not_isGatewayRefusal_ok _)
      · intro hrefused
        obtain ⟨r, hr, hrefusal⟩ := hrefused
        obtain rfl := Option.some.inj hr
        exact absurd hrefusal (not_isGatewayRefusal_ok _)

end Forward

/-! ### The authorization that consumes -/

section Consumption

variable (hashApiKey : String → String → String) (usageConfig : AppConfig) (tx : TxId)
  (apiKey : Text) (input : GatewayDispatchInput) (occurredAt : Int)

/-- It records nothing and does not allow the request, or it allows it and records something. -/
private theorem pass_authorizeGatewayUsage (visits : List (GatewayEnv × GatewayWorld)) :
    ((∀ step ∈ ((authorizeGatewayUsage hashApiKey usageConfig (·.consumption) tx apiKey input
          occurredAt true).pass visits).steps,
        KeepsUsage step.1.db step.2.db ∧ step.2.buckets = step.1.buckets) ∧
      ∀ response, ((authorizeGatewayUsage hashApiKey usageConfig (·.consumption) tx apiKey input
        occurredAt true).pass visits).result = some (.ok response) → response.allowed = false) ∨
    ∃ response, ((authorizeGatewayUsage hashApiKey usageConfig (·.consumption) tx apiKey input
        occurredAt true).pass visits).result = some (.ok response) ∧
      (response.allowed = true ∧ ∃ id, response.subscriptionId = some id) ∧
      ∃ step ∈ ((authorizeGatewayUsage hashApiKey usageConfig (·.consumption) tx apiKey input
        occurredAt true).pass visits).steps, ¬KeepsUsage step.1.db step.2.db := by
  -- what the authorization returns on the database part
  have hresult : (((authorizeUsageInternal hashApiKey usageConfig tx
      (authorizeInput input apiKey occurredAt true)).zoom GatewayWorld.dbLens (·.consumption)
        id).pass visits).result = _ := result_zoom visits
  -- it leaves the usage alone and grants nothing, or it records and grants
  cases (paysLast_authorizeUsageInternal hashApiKey usageConfig tx
    (show (authorizeInput input apiKey occurredAt true).consume = some true from rfl)).pass
      (visits.map (partVisit GatewayWorld.dbLens fun env : GatewayEnv => env.consumption)) with
  | inl hunpaid =>
    obtain ⟨hsteps, hunrecorded⟩ := hunpaid
    refine .inl ⟨fun step hstep => ?_, fun response hresponse => ?_⟩
    · obtain ⟨w, hinner, hafter⟩ := exists_step_of_zoom hstep
      rw [hafter]
      exact ⟨hsteps _ hinner, rfl⟩
    · rw [authorizeGatewayUsage, onDatabase, hresult] at hresponse
      obtain ⟨r, hr, hmap⟩ := Option.map_eq_some_iff.mp hresponse
      cases r with
      | ok response' => exact Except.ok.inj hmap ▸ hunrecorded _ hr _ rfl
      | error e => cases hmap
  | inr hpaid =>
    obtain ⟨response, hreturns, step, hstep, hrecords⟩ := hpaid
    -- the recording step, seen from the dispatch
    have hstepped : ∃ s : GatewayWorld, s.db = step.1 ∧ (s, GatewayWorld.dbLens.set step.2 s) ∈
        ((authorizeGatewayUsage hashApiKey usageConfig (·.consumption) tx apiKey input occurredAt
          true).pass visits).steps := exists_step_zoom hstep
    obtain ⟨s, hs, hmem⟩ := hstepped
    have hne := hrecords.records_ne
    obtain ⟨record, -, -, hallowed, hid⟩ := hrecords
    -- the record makes the table longer, so the usage is not kept
    refine .inr ⟨response, ?_, ⟨hallowed, _, hid⟩, _, hmem, fun hkeeps => hne ?_⟩
    · rw [authorizeGatewayUsage, onDatabase, hresult, hreturns]
      rfl
    · rw [← hs]
      exact hkeeps.records

end Consumption

/-! ### The cost of a refusal -/

/-- A step leaves the usage tables alone, and the limiter finds the same tokens from the last refill
    on, under the burst limit that the dispatch has met. -/
structure CostsNothing (config : GatewayBurstConfig) (met : Option Int) (s s' : GatewayWorld) :
    Prop where
  usage : KeepsUsage s.db s'.db
  tokens : ∀ key burstLimit, (∀ limit ∈ met, limit = burstLimit) →
    KeepsTokens config key burstLimit s.buckets s'.buckets

/-- A step that keeps usage and buckets costs nothing. -/
theorem CostsNothing.of_eq {config : GatewayBurstConfig} {met : Option Int} {s s' : GatewayWorld}
    (husage : KeepsUsage s.db s'.db) (hbuckets : s'.buckets = s.buckets) :
    CostsNothing config met s s' :=
  ⟨husage, fun _ _ _ => .of_find? (by rw [hbuckets])⟩

/-- A step that changes nothing costs nothing. -/
theorem CostsNothing.of_same {config : GatewayBurstConfig} {met : Option Int}
    {step : GatewayWorld × GatewayWorld} (h : step.2 = step.1) :
    CostsNothing config met step.1 step.2 := by
  rw [h]
  exact .of_eq (.refl _) rfl

section Refusal

variable (api : UrlApi) (hashApiKey : String → String → String)
  (extractServerUrl : Option Text → Option Text)
  (config : GatewayConfig) (burstConfig : GatewayBurstConfig) (usageConfig : AppConfig) (tx : TxId)
  (input : GatewayDispatchInput) (providedApiKey : Option Text)
  (visits : List (GatewayEnv × GatewayWorld))

/-- The call of the burst limiter for an admitted request. -/
def GatewayAdmission.burstParams (admission : GatewayAdmission) (input : GatewayDispatchInput) :
    CheckAndConsumeParams where
  key := admission.subscriptionId
  requestCount := input.requestCount
  rateLimitRpm := admission.rateLimitRpm
  now := none

/-- The steps before the burst limiter, and the visits that they leave. -/
def admissionPassage : Passage GatewayWorld GatewayEnv Err GatewayAdmission :=
  (admitRequest hashApiKey usageConfig tx input providedApiKey).pass visits

/-- The burst limiter, and the visits that it leaves. -/
def limiterPassage (admission : GatewayAdmission) (visits : List (GatewayEnv × GatewayWorld)) :
    Passage GatewayWorld GatewayEnv Err GatewayBurstLimitDecision :=
  (checkBurstLimit Binary64.round burstConfig (admission.burstParams input)).pass visits

/-- The authorization that consumes, and the visits that it leaves. -/
def consumptionPassage (admission : GatewayAdmission)
    (visits : List (GatewayEnv × GatewayWorld)) :
    Passage GatewayWorld GatewayEnv Err AuthorizeUsageResponse :=
  (authorizeGatewayUsage hashApiKey usageConfig (·.consumption) tx admission.apiKey input
    admission.occurredAt true).pass visits

/-- The request has been admitted. -/
def Admits (admission : GatewayAdmission) (rest : List (GatewayEnv × GatewayWorld)) : Prop :=
  (admissionPassage hashApiKey usageConfig tx input providedApiKey visits).result =
      some (.ok admission) ∧
    (admissionPassage hashApiKey usageConfig tx input providedApiKey visits).left = rest

/-- The burst limit under which the limiter has been called. -/
def metLimit : Option Int :=
  (admissionPassage hashApiKey usageConfig tx input providedApiKey visits).result.bind fun r =>
    r.toOption.bind fun admission =>
      resolveBurstLimit Binary64.round burstConfig admission.rateLimitRpm

/-- The authorization denies the request, or ends with a refusal of the gateway. -/
def RefusesAuthorization (r : Except Err AuthorizeUsageResponse) : Prop :=
  IsGatewayRefusal r ∨ ∃ response, r = .ok response ∧ response.allowed = false

/-- The limiter takes tokens for the request, and the authorization that consumes refuses it. -/
def RefusedAfterTokens : Prop :=
  ∃ admission rest burstLimit now buckets,
    Admits hashApiKey usageConfig tx input providedApiKey visits admission rest ∧
    BurstCommit Binary64.round burstConfig (admission.burstParams input) rest burstLimit now
      buckets ∧
    input.requestCount ≤ availableTokens Binary64.round burstConfig buckets admission.subscriptionId
      burstLimit now ∧
    ∃ r, (consumptionPassage hashApiKey usageConfig tx input admission
        (limiterPassage burstConfig input admission rest).left).result = some r ∧
      RefusesAuthorization r

/-- The usage of the request is recorded, and its target is refused, or its subscription has no
    id. -/
def RefusedAfterUsage : Prop :=
  ∃ admission rest decision response,
    Admits hashApiKey usageConfig tx input providedApiKey visits admission rest ∧
    (limiterPassage burstConfig input admission rest).result = some (.ok decision) ∧
    (consumptionPassage hashApiKey usageConfig tx input admission
      (limiterPassage burstConfig input admission rest).left).result = some (.ok response) ∧
    response.allowed = true ∧
    (response.subscriptionId = some "" ∨
      TargetRefused api config extractServerUrl admission.version input
        ((consumptionPassage hashApiKey usageConfig tx input admission
          (limiterPassage burstConfig input admission rest).left).left.map
            (partVisit GatewayWorld.netLens (·.net))))

/-- The limiter denies the request for want of tokens, and the refill that it has stopped does not
    come to the same. -/
def RefilledOtherwise : Prop :=
  ∃ admission rest burstLimit now buckets,
    Admits hashApiKey usageConfig tx input providedApiKey visits admission rest ∧
    BurstCommit Binary64.round burstConfig (admission.burstParams input) rest burstLimit now
      buckets ∧
    availableTokens Binary64.round burstConfig buckets admission.subscriptionId burstLimit now <
      input.requestCount ∧
    ¬RefillsAlike burstConfig admission.subscriptionId burstLimit now buckets

/-- A passage that ends with a refusal of the gateway has cost nothing in any of its steps. -/
def RefusalCostsNothing {α : Type} (met : Option Int)
    (passage : Passage GatewayWorld GatewayEnv Err α) : Prop :=
  ∀ r, passage.result = some r → IsGatewayRefusal r →
    ∀ step ∈ passage.steps, CostsNothing burstConfig met step.1 step.2

/-- The passage ends with a refusal of the gateway. -/
def EndsRefused {α : Type} (passage : Passage GatewayWorld GatewayEnv Err α) : Prop :=
  ∃ r, passage.result = some r ∧ IsGatewayRefusal r

section Lemmas

variable {burstConfig} {α β : Type} {met : Option Int}
  {passage : Passage GatewayWorld GatewayEnv Err α}

/-- If no step costs anything, no refusal does. -/
private theorem refusalCostsNothing_of_steps
    (h : ∀ step ∈ passage.steps, CostsNothing burstConfig met step.1 step.2) :
    RefusalCostsNothing burstConfig met passage := fun _ _ _ => h

/-- With a step that costs something, everything depends on the result. -/
private theorem refusalCostsNothing_iff_of_cost
    (h : ∃ step ∈ passage.steps, ¬CostsNothing burstConfig met step.1 step.2) :
    RefusalCostsNothing burstConfig met passage ↔ ¬EndsRefused passage := by
  constructor
  · intro hcosts hrefused
    obtain ⟨r, hr, hrefusal⟩ := hrefused
    obtain ⟨step, hstep, hcost⟩ := h
    exact hcost (hcosts r hr hrefusal step hstep)
  · intro hnot r hr hrefusal
    exact absurd ⟨r, hr, hrefusal⟩ hnot

/-- A first part that has returned and has cost nothing. -/
private theorem refusalCostsNothing_bind {p : GatewayOp β} {g : β → GatewayOp α} {b : β}
    {visits : List (GatewayEnv × GatewayWorld)} (hresult : (p.pass visits).result = some (.ok b))
    (h : ∀ step ∈ (p.pass visits).steps, CostsNothing burstConfig met step.1 step.2) :
    RefusalCostsNothing burstConfig met ((p >>= g).pass visits) ↔
      RefusalCostsNothing burstConfig met ((g b).pass (p.pass visits).left) := by
  rw [pass_bind_ok hresult]
  constructor
  · intro hcosts r hr hrefusal step hstep
    exact hcosts r hr hrefusal step (List.mem_append_right _ hstep)
  · intro hcosts r hr hrefusal step hstep
    cases List.mem_append.mp hstep with
    | inl hfirst => exact h step hfirst
    | inr hrest => exact hcosts r hr hrefusal step hrest

/-- A first part that has not returned. -/
private theorem steps_bind_stop {p : GatewayOp β} {g : β → GatewayOp α}
    {visits : List (GatewayEnv × GatewayWorld)}
    (hresult : ∀ b, (p.pass visits).result ≠ some (.ok b)) :
    ((p >>= g).pass visits).steps = (p.pass visits).steps := by
  cases hr : (p.pass visits).result with
  | none => rw [pass_bind_none hr]
  | some result =>
    cases result with
    | ok b => exact absurd hr (hresult b)
    | error e => rw [pass_bind_error hr]

end Lemmas

variable {api hashApiKey extractServerUrl config burstConfig usageConfig tx input providedApiKey
  visits}

variable (api extractServerUrl config burstConfig) in
/-- A request that is to be authorized with consumption, and then forwarded. -/
private theorem pass_consumption (admission : GatewayAdmission)
    (decision : GatewayBurstLimitDecision) (visits : List (GatewayEnv × GatewayWorld))
    (met : Option Int) {P : Passage GatewayWorld GatewayEnv Err GatewayExecutionResult}
    (hP : (authorizeGatewayUsage hashApiKey usageConfig (·.consumption) tx admission.apiKey input
        admission.occurredAt true >>= fun authorization =>
      forwardRequest api extractServerUrl config input admission decision authorization).pass
        visits =
        P) :
    ((∀ step ∈ P.steps, CostsNothing burstConfig met step.1 step.2) ∧
      (EndsRefused P ↔ ∃ r, (consumptionPassage hashApiKey usageConfig tx input admission
        visits).result = some r ∧ RefusesAuthorization r) ∧
      ∀ response, (consumptionPassage hashApiKey usageConfig tx input admission visits).result =
        some (.ok response) → response.allowed = false) ∨
    ∃ response, (consumptionPassage hashApiKey usageConfig tx input admission visits).result =
        some (.ok response) ∧ response.allowed = true ∧
      (∃ step ∈ P.steps, ¬CostsNothing burstConfig met step.1 step.2) ∧
      (EndsRefused P ↔ response.subscriptionId = some "" ∨
        TargetRefused api config extractServerUrl admission.version input
          ((consumptionPassage hashApiKey usageConfig tx input admission visits).left.map
            (partVisit GatewayWorld.netLens (·.net)))) := by
  subst hP
  cases pass_authorizeGatewayUsage hashApiKey usageConfig tx admission.apiKey input
    admission.occurredAt visits with
  -- granted: the recording step is in the passage, and what follows may refuse
  | inr hpaid =>
    obtain ⟨response, hresult, hgranted, step, hstep, hrecords⟩ := hpaid
    obtain ⟨hallowed, id, hid⟩ := hgranted
    refine .inr ⟨response, hresult, hallowed, ?_, ?_⟩
    · rw [pass_bind_ok hresult]
      exact ⟨step, List.mem_append_left _ hstep, fun hcosts => hrecords hcosts.usage⟩
    · rw [pass_bind_ok hresult]
      exact result_forwardRequest_iff admission decision hallowed hid
  -- not granted: the passage ends here
  | inl hunpaid =>
    obtain ⟨hsteps, hdenies⟩ := hunpaid
    have hcosts : ∀ step ∈ (consumptionPassage hashApiKey usageConfig tx input admission
        visits).steps, CostsNothing burstConfig met step.1 step.2 := fun step hstep =>
      .of_eq (hsteps step hstep).1 (hsteps step hstep).2
    refine .inl ⟨?_, ?_, hdenies⟩
    -- whatever the authorization returns, no step is added
    · cases hresult :
        (consumptionPassage hashApiKey usageConfig tx input admission visits).result with
      | none => rwa [steps_bind_stop fun b hb => (by cases hresult.symm.trans hb)]
      | some result =>
        cases result with
        | error e => rwa [steps_bind_stop fun b hb => (by cases hresult.symm.trans hb)]
        | ok response =>
          rw [pass_bind_ok hresult, pass_forwardRequest_denied admission decision
            (hdenies response hresult), List.append_nil]
          exact hcosts
    -- the dispatch refuses if and only if the authorization does
    · cases hresult :
        (consumptionPassage hashApiKey usageConfig tx input admission visits).result with
      | none =>
        rw [EndsRefused, pass_bind_none hresult]
        constructor
        · intro h
          obtain ⟨r, hr, -⟩ := h
          cases hr
        · intro h
          obtain ⟨r, hr, -⟩ := h
          cases hr
      | some result =>
        cases result with
        | error e =>
          rw [EndsRefused, pass_bind_error hresult]
          constructor
          · intro h
            obtain ⟨r, hr, e', heq, hcode⟩ := h
            obtain rfl := Option.some.inj hr
            exact ⟨_, rfl, .inl ⟨e', congrArg _ (Except.error.inj heq), hcode⟩⟩
          · intro h
            obtain ⟨r, hr, hrefuses⟩ := h
            obtain rfl := Option.some.inj hr
            cases hrefuses with
            | inl hrefusal =>
              obtain ⟨e', heq, hcode⟩ := hrefusal
              exact ⟨_, rfl, e', congrArg _ (Except.error.inj heq), hcode⟩
            | inr hdenied =>
              obtain ⟨_, heq, -⟩ := hdenied
              cases heq
        | ok response =>
          have hdenied := hdenies response hresult
          rw [EndsRefused, pass_bind_ok hresult,
            pass_forwardRequest_denied admission decision hdenied]
          exact ⟨fun _ => ⟨_, rfl, .inr ⟨response, rfl, hdenied⟩⟩,
            fun _ => ⟨_, rfl, isGatewayRefusal_mapAuthorizationFailure _⟩⟩

/-- A dispatch commits to one bucket, at one limit and time. -/
theorem BurstCommit.unique {params : CheckAndConsumeParams} {burstLimit burstLimit' now now' : Int}
    {buckets buckets' : Table GatewayBurstBucket}
    (h : BurstCommit Binary64.round burstConfig params visits burstLimit now buckets)
    (h' : BurstCommit Binary64.round burstConfig params visits burstLimit' now' buckets') :
    burstLimit' = burstLimit ∧ now' = now ∧ buckets' = buckets := by
  obtain ⟨hnow, hbuckets⟩ := Prod.mk.inj (Option.some.inj (h'.committed.symm.trans h.committed))
  exact ⟨Option.some.inj (h'.limit.symm.trans h.limit), hnow, hbuckets⟩

/-- The steps of a limiter that stores a row cost nothing if the row holds what it held. -/
private theorem costsNothing_stored_iff {key : Id} {burstLimit : Int}
    {buckets buckets' : Table GatewayBurstBucket} {row : GatewayBurstBucket}
    {steps : List (GatewayWorld × GatewayWorld)} (h : StoresBuckets buckets buckets' steps)
    (hfind : ∀ k, buckets'.find? k = if k = key then some row else buckets.find? k) :
    (∀ step ∈ steps, CostsNothing burstConfig (some burstLimit) step.1 step.2) ↔
      KeepsTokens burstConfig key burstLimit buckets buckets' := by
  constructor
  -- the stored step must keep the tokens of the row that it writes
  · intro hcosts
    obtain ⟨s, rfl, hmem⟩ := h.stored
    exact (hcosts _ hmem).tokens key burstLimit fun limit hlimit => (Option.some.inj hlimit).symm
  -- other steps change nothing, and other keys keep their row
  · intro hkeeps step hstep
    cases h.all step hstep with
    | inl hsame => exact .of_same hsame
    | inr hstored =>
      obtain ⟨hbefore, hafter⟩ := hstored
      rw [hafter]
      refine ⟨.refl _, fun k limit hmet => ?_⟩
      obtain rfl : burstLimit = limit := hmet burstLimit rfl
      rw [hbefore]
      by_cases hk : k = key
      · exact hk ▸ hkeeps
      · exact .of_find? ((hfind k).trans (if_neg hk))

/-- A resolved burst limit is a safe integer. -/
private theorem resolveBurstLimit_safe {rateLimitRpm : Option Int} {burstLimit : Int}
    (h : resolveBurstLimit Binary64.round burstConfig rateLimitRpm = some burstLimit) :
    burstLimit ≤ 9007199254740991 := by
  simp only [resolveBurstLimit] at h
  split at h
  · cases h
  · split at h
    · cases h
    · obtain rfl := Option.some.inj h
      exact (min_le_left _ _).trans burstConfig.maxRequests_safe

/-- A dispatch admits one request, and has then one list of visits left. -/
theorem Admits.unique {admission admission' : GatewayAdmission}
    {rest rest' : List (GatewayEnv × GatewayWorld)}
    (h : Admits hashApiKey usageConfig tx input providedApiKey visits admission rest)
    (h' : Admits hashApiKey usageConfig tx input providedApiKey visits admission' rest') :
    admission' = admission ∧ rest' = rest :=
  ⟨Except.ok.inj (Option.some.inj (h'.1.symm.trans h.1)), h'.2.symm.trans h.2⟩

section Admitted

variable {admission : GatewayAdmission} {rest : List (GatewayEnv × GatewayWorld)}
  (hadmits : Admits hashApiKey usageConfig tx input providedApiKey visits admission rest)
include hadmits

/-- What comes after the limiter, for a request that has passed it without taking tokens. -/
private theorem unlimited_iff {decision : GatewayBurstLimitDecision} {met : Option Int}
    (hresult : (limiterPassage burstConfig input admission rest).result = some (.ok decision)) :
    RefusalCostsNothing burstConfig met
        ((authorizeGatewayUsage hashApiKey usageConfig (·.consumption) tx admission.apiKey input
            admission.occurredAt true >>= fun authorization =>
          forwardRequest api extractServerUrl config input admission decision authorization).pass
            (limiterPassage burstConfig input admission rest).left) ↔
      ¬RefusedAfterUsage api hashApiKey extractServerUrl config burstConfig usageConfig tx input
        providedApiKey visits := by
  -- the usage is recorded or not, and only then a refusal costs something
  cases pass_consumption api extractServerUrl config burstConfig admission decision
      (limiterPassage burstConfig input admission rest).left met rfl with
  | inl hunpaid =>
    obtain ⟨hcosts, -, hdenies⟩ := hunpaid
    refine ⟨fun _ h => ?_, fun _ => refusalCostsNothing_of_steps hcosts⟩
    obtain ⟨admission', rest', _, response, hadmits', -, hresponse, hallowed, -⟩ := h
    obtain ⟨rfl, rfl⟩ := hadmits.unique hadmits'
    cases hallowed.symm.trans (hdenies response hresponse)
  | inr hpaid =>
    obtain ⟨response, hresponse, hallowed, hcost, hrefused⟩ := hpaid
    -- recorded: the dispatch must not refuse any more
    rw [refusalCostsNothing_iff_of_cost hcost, hrefused, not_iff_not]
    constructor
    · exact fun h => ⟨admission, rest, decision, response, hadmits, hresult, hresponse, hallowed, h⟩
    · intro h
      obtain ⟨admission', rest', _, response', hadmits', -, hresponse', -, h⟩ := h
      obtain ⟨rfl, rfl⟩ := hadmits.unique hadmits'
      obtain rfl := Except.ok.inj (Option.some.inj (hresponse.symm.trans hresponse'))
      exact h

/-- The end of a request for which tokens have been taken. -/
private theorem endsRefused_taken_iff {decision : GatewayBurstLimitDecision} {burstLimit now : Int}
    {buckets : Table GatewayBurstBucket}
    (hcommit : BurstCommit Binary64.round burstConfig (admission.burstParams input) rest burstLimit
      now buckets)
    (henough : input.requestCount ≤ availableTokens Binary64.round burstConfig buckets
      admission.subscriptionId burstLimit now)
    (hresult : (limiterPassage burstConfig input admission rest).result = some (.ok decision)) :
    EndsRefused
        ((authorizeGatewayUsage hashApiKey usageConfig (·.consumption) tx admission.apiKey input
            admission.occurredAt true >>= fun authorization =>
          forwardRequest api extractServerUrl config input admission decision authorization).pass
            (limiterPassage burstConfig input admission rest).left) ↔
      RefusedAfterTokens hashApiKey burstConfig usageConfig tx input providedApiKey visits ∨
      RefusedAfterUsage api hashApiKey extractServerUrl config burstConfig usageConfig tx input
        providedApiKey visits := by
  cases pass_consumption api extractServerUrl config burstConfig admission decision
      (limiterPassage burstConfig input admission rest).left none rfl with
  | inl hunpaid =>
    obtain ⟨-, hrefused, hdenies⟩ := hunpaid
    rw [hrefused]
    constructor
    · intro h
      obtain ⟨r, hr, hrefuses⟩ := h
      exact .inl ⟨admission, rest, burstLimit, now, buckets, hadmits, hcommit, henough, r, hr,
        hrefuses⟩
    · intro h
      cases h with
      | inl htokens =>
        obtain ⟨admission', rest', _, _, _, hadmits', -, -, h⟩ := htokens
        obtain ⟨rfl, rfl⟩ := hadmits.unique hadmits'
        exact h
      | inr husage =>
        obtain ⟨admission', rest', _, response, hadmits', -, hresponse, hallowed, -⟩ := husage
        obtain ⟨rfl, rfl⟩ := hadmits.unique hadmits'
        cases hallowed.symm.trans (hdenies response hresponse)
  | inr hpaid =>
    obtain ⟨response, hresponse, hallowed, -, hrefused⟩ := hpaid
    rw [hrefused]
    constructor
    · exact fun h =>
        .inr ⟨admission, rest, decision, response, hadmits, hresult, hresponse, hallowed, h⟩
    · intro h
      cases h with
      | inl htokens =>
        obtain ⟨admission', rest', _, _, _, hadmits', -, -, r, hr, hrefuses⟩ := htokens
        obtain ⟨rfl, rfl⟩ := hadmits.unique hadmits'
        obtain rfl := Option.some.inj (hresponse.symm.trans hr)
        -- what is allowed is not refused by the authorization
        cases hrefuses with
        | inl hrefusal => exact absurd hrefusal (not_isGatewayRefusal_ok _)
        | inr hdenied =>
          obtain ⟨response', heq, hdenied⟩ := hdenied
          obtain rfl := Except.ok.inj heq
          cases hallowed.symm.trans hdenied
      | inr husage =>
        obtain ⟨admission', rest', _, response', hadmits', -, hresponse', -, h⟩ := husage
        obtain ⟨rfl, rfl⟩ := hadmits.unique hadmits'
        obtain rfl := Except.ok.inj (Option.some.inj (hresponse.symm.trans hresponse'))
        exact h

/-- Without a committed transaction of the limiter no tokens are touched. -/
private theorem not_refused_of_not_burstCommit (hnone : ∀ burstLimit now buckets,
    ¬BurstCommit Binary64.round burstConfig (admission.burstParams input) rest burstLimit now
      buckets) :
    ¬RefusedAfterTokens hashApiKey burstConfig usageConfig tx input providedApiKey visits ∧
      ¬RefilledOtherwise hashApiKey burstConfig usageConfig tx input providedApiKey visits := by
  constructor
  · intro h
    obtain ⟨admission', rest', _, _, _, hadmits', hcommit, -⟩ := h
    obtain ⟨rfl, rfl⟩ := hadmits.unique hadmits'
    exact hnone _ _ _ hcommit
  · intro h
    obtain ⟨admission', rest', _, _, _, hadmits', hcommit, -⟩ := h
    obtain ⟨rfl, rfl⟩ := hadmits.unique hadmits'
    exact hnone _ _ _ hcommit

/-- Without the limiter's consent no usage is recorded. -/
private theorem not_refusedAfterUsage (hresult : ∀ decision,
    (limiterPassage burstConfig input admission rest).result ≠ some (.ok decision)) :
    ¬RefusedAfterUsage api hashApiKey extractServerUrl config burstConfig usageConfig tx input
      providedApiKey visits := by
  intro h
  obtain ⟨admission', rest', decision, _, hadmits', hdecision, -⟩ := h
  obtain ⟨rfl, rfl⟩ := hadmits.unique hadmits'
  exact hresult decision hdecision

/-- What the limiter does decides on the tokens, and what follows on the usage. -/
private theorem admitted_iff (hcount : 1 ≤ input.requestCount) :
    RefusalCostsNothing burstConfig
        (resolveBurstLimit Binary64.round burstConfig admission.rateLimitRpm)
        ((checkBurstLimit Binary64.round burstConfig (admission.burstParams input) >>=
          fun decision =>
          authorizeGatewayUsage hashApiKey usageConfig (·.consumption) tx admission.apiKey input
            admission.occurredAt true >>= fun authorization =>
          forwardRequest api extractServerUrl config input admission decision authorization).pass
            rest) ↔
      ¬RefusedAfterTokens hashApiKey burstConfig usageConfig tx input providedApiKey visits ∧
      ¬RefusedAfterUsage api hashApiKey extractServerUrl config burstConfig usageConfig tx input
        providedApiKey visits ∧
      ¬RefilledOtherwise hashApiKey burstConfig usageConfig tx input providedApiKey visits := by
  have hlimiter : LimiterPassage Binary64.round burstConfig (admission.burstParams input) rest
      (limiterPassage burstConfig input admission rest) := pass_checkBurstLimit rfl rest
  cases hlimiter with
  | unlimited decision hlimit hresult hsteps =>
    have hnot := not_refused_of_not_burstCommit hadmits
      fun _ _ _ h => (by cases hlimit.symm.trans h.limit)
    rw [refusalCostsNothing_bind hresult fun step hstep => .of_same (hsteps step hstep),
      and_iff_right hnot.1, and_iff_left hnot.2]
    exact unlimited_iff hadmits hresult
  | untouched hnone hresult hsteps =>
    have hnot := not_refused_of_not_burstCommit hadmits hnone
    refine ⟨fun _ => ⟨hnot.1, not_refusedAfterUsage hadmits hresult, hnot.2⟩,
      fun _ => refusalCostsNothing_of_steps ?_⟩
    rw [steps_bind_stop hresult]
    exact fun step hstep => .of_same (hsteps step hstep)
  | denied burstLimit now buckets buckets' row decision hcommit hlow htokens hlast hfind hresult
      hsteps =>
    have hself : buckets'.find? admission.subscriptionId = some row := (hfind _).trans (if_pos rfl)
    have hstop : ∀ decision', (limiterPassage burstConfig input admission rest).result ≠
        some (.ok decision') := fun decision' h => (by cases hresult.symm.trans h)
    have htaken : ¬RefusedAfterTokens hashApiKey burstConfig usageConfig tx input providedApiKey
        visits := by
      intro h
      obtain ⟨admission', rest', _, _, _, hadmits', hcommit', henough, -⟩ := h
      obtain ⟨rfl, rfl⟩ := hadmits.unique hadmits'
      obtain ⟨rfl, rfl, rfl⟩ := hcommit.unique hcommit'
      exact absurd henough (not_le.mpr hlow)
    have hrefilled : RefilledOtherwise hashApiKey burstConfig usageConfig tx input providedApiKey
        visits ↔ ¬RefillsAlike burstConfig admission.subscriptionId burstLimit now buckets := by
      constructor
      · intro h
        obtain ⟨admission', rest', _, _, _, hadmits', hcommit', -, h⟩ := h
        obtain ⟨rfl, rfl⟩ := hadmits.unique hadmits'
        obtain ⟨rfl, rfl, rfl⟩ := hcommit.unique hcommit'
        exact h
      · exact fun h => ⟨admission, rest, burstLimit, now, buckets, hadmits, hcommit, hlow, h⟩
    have hlimit : resolveBurstLimit Binary64.round burstConfig admission.rateLimitRpm =
        some burstLimit := hcommit.limit
    have hkeeps : KeepsTokens burstConfig admission.subscriptionId burstLimit buckets buckets' ↔
        RefillsAlike burstConfig admission.subscriptionId burstLimit now buckets :=
      keepsTokens_denied_iff htokens hlast hself
    have hcosts : _ ↔ KeepsTokens burstConfig admission.subscriptionId burstLimit buckets
        buckets' :=
      costsNothing_stored_iff hsteps hfind
    rw [and_iff_right htaken, and_iff_right (not_refusedAfterUsage hadmits hstop),
      hrefilled, not_not,
      ← hkeeps, ← hcosts, hlimit, RefusalCostsNothing, pass_bind_error hresult]
    constructor
    · exact fun h => h _ rfl (isGatewayRefusal_app rfl)
    · exact fun h _ _ _ => h
  | taken burstLimit now buckets buckets' row decision hcommit henough htokens hlast hfind hresult
      hsteps =>
    have hself : buckets'.find? admission.subscriptionId = some row := (hfind _).trans (if_pos rfl)
    have hlimit : resolveBurstLimit Binary64.round burstConfig admission.rateLimitRpm =
        some burstLimit := hcommit.limit
    have hnotRefilled : ¬RefilledOtherwise hashApiKey burstConfig usageConfig tx input
        providedApiKey
        visits := by
      intro h
      obtain ⟨admission', rest', _, _, _, hadmits', hcommit', hlow, -⟩ := h
      obtain ⟨rfl, rfl⟩ := hadmits.unique hadmits'
      obtain ⟨rfl, rfl, rfl⟩ := hcommit.unique hcommit'
      exact absurd henough (not_le.mpr hlow)
    -- at least one token is gone
    have hcost : ∃ step ∈ ((checkBurstLimit Binary64.round burstConfig
        (admission.burstParams input)).pass rest).steps,
        ¬CostsNothing burstConfig (some burstLimit) step.1 step.2 := by
      by_contra hall
      push Not at hall
      exact not_keepsTokens_of_taken hcount (resolveBurstLimit_safe hlimit) henough htokens hlast
        hself ((costsNothing_stored_iff hsteps hfind).mp hall)
    rw [hlimit, refusalCostsNothing_iff_of_cost, EndsRefused, pass_bind_ok hresult]
    · show ¬EndsRefused ((authorizeGatewayUsage hashApiKey usageConfig (·.consumption) tx
          admission.apiKey input admission.occurredAt true >>= fun authorization =>
        forwardRequest api extractServerUrl config input admission decision authorization).pass
          (limiterPassage burstConfig input admission rest).left) ↔ _
      rw [endsRefused_taken_iff hadmits hcommit henough hresult, not_or,
        and_iff_left hnotRefilled]
    · rw [pass_bind_ok hresult]
      obtain ⟨step, hstep, hstepCosts⟩ := hcost
      exact ⟨step, List.mem_append_left _ hstep, hstepCosts⟩

end Admitted

/-- A refusal costs nothing, unless it comes after tokens have been taken or usage has been
    recorded, or it is a denial of the limiter that has refilled the bucket otherwise. -/
theorem refusal_costsNothing_iff (hcount : 1 ≤ input.requestCount) :
    RefusalCostsNothing burstConfig
        (metLimit hashApiKey burstConfig usageConfig tx input providedApiKey visits)
        ((execute api hashApiKey extractServerUrl Binary64.round config burstConfig usageConfig tx
          input providedApiKey).pass visits) ↔
      ¬RefusedAfterTokens hashApiKey burstConfig usageConfig tx input providedApiKey visits ∧
      ¬RefusedAfterUsage api hashApiKey extractServerUrl config burstConfig usageConfig tx input
        providedApiKey visits ∧
      ¬RefilledOtherwise hashApiKey burstConfig usageConfig tx input providedApiKey visits := by
  have hadmission : ∀ step ∈ (admissionPassage hashApiKey usageConfig tx input providedApiKey
      visits).steps, step.2 = step.1 := fun step hstep =>
    (eachStep_admitRequest (R := fun s s' => s' = s) (fun _ => rfl) hashApiKey usageConfig tx input
      providedApiKey).pass step hstep
  by_cases hadmitted : ∃ admission, (admissionPassage hashApiKey usageConfig tx input
      providedApiKey visits).result = some (.ok admission)
  · obtain ⟨admission, hresult⟩ := hadmitted
    have hadmits : Admits hashApiKey usageConfig tx input providedApiKey visits admission _ :=
      ⟨hresult, rfl⟩
    have hmet : metLimit hashApiKey burstConfig usageConfig tx input providedApiKey visits =
        resolveBurstLimit Binary64.round burstConfig admission.rateLimitRpm := by
      simp [metLimit, hresult, Except.toOption]
    rw [execute, hmet, refusalCostsNothing_bind hresult fun step hstep =>
      .of_same (hadmission step hstep)]
    exact admitted_iff hadmits hcount
  · -- a request that is not admitted comes to none of the debits
    have hstop : ∀ admission, (admissionPassage hashApiKey usageConfig tx input providedApiKey
        visits).result ≠ some (.ok admission) := fun admission h => hadmitted ⟨admission, h⟩
    refine ⟨fun _ => ⟨fun h => ?_, fun h => ?_, fun h => ?_⟩, fun _ => ?_⟩
    · obtain ⟨admission, _, _, _, _, h, -⟩ := h
      exact hstop admission h.1
    · obtain ⟨admission, _, _, _, h, -⟩ := h
      exact hstop admission h.1
    · obtain ⟨admission, _, _, _, _, h, -⟩ := h
      exact hstop admission h.1
    · refine refusalCostsNothing_of_steps fun step hstep => .of_same (hadmission step ?_)
      rwa [execute, steps_bind_stop hstop] at hstep
end Refusal

/-! ### A product without a target, and an empty bucket -/

def sampleDispatch : GatewayDispatchInput where
  productId := "product"
  path := "/search".toList
  method := .get
  query := []
  body := none
  requestCount := 1

/-- A subscription to a product whose published version has no snapshot. -/
def targetlessWorld : GatewayWorld where
  db :=
    { World.empty with
      products := .singleton sampleProduct
      apiVersions := .singleton
        ⟨"version", "product", "1.0.0", .published, "https://api.example/openapi.json".toList, none,
          none, 0⟩
      plans := .singleton { samplePlan with rateLimitRpm := some 120 }
      subscriptions := .singleton (sampleSubscription .active)
      apiKeys := .singleton ⟨"key", "buyer", "hash", true, none⟩ }
  buckets := .empty
  net := .empty

def sampleGatewayEnv : GatewayEnv where
  entry := .available 50 "x"
  preliminary := .available 51 "x"
  burst := ⟨52, none⟩
  consumption := .available 53 "record"
  net := ⟨fun _ _ => none, fun _ => none⟩

/-- The dispatch of the buyer. -/
def targetlessDispatch : GatewayOp GatewayExecutionResult :=
  execute sampleUrlApi (fun _ _ => "hash") (fun _ => none) Binary64.round sampleGatewayConfig
    sampleBurstConfig sampleConfig 0 sampleDispatch (some "key".toList)

/-- What it meets when it is alone. -/
def targetlessVisits (s : GatewayWorld) : List (GatewayEnv × GatewayWorld) :=
  targetlessDispatch.visitsAlone sampleGatewayEnv s

/-- The dispatch is refused, and a request has been recorded and a token taken. -/
theorem not_refusal_costsNothing :
    EndsRefused (targetlessDispatch.pass (targetlessVisits targetlessWorld)) ∧
      (targetlessDispatch.exec sampleGatewayEnv targetlessWorld).2.db.usageRecords.rows.length = 1 ∧
      ((targetlessDispatch.exec sampleGatewayEnv targetlessWorld).2.buckets.find? "sub").map
        (·.tokens) = some 39 ∧
      ¬RefusalCostsNothing sampleBurstConfig (metLimit (fun _ _ => "hash") sampleBurstConfig
        sampleConfig 0 sampleDispatch (some "key".toList) (targetlessVisits targetlessWorld))
        (targetlessDispatch.pass (targetlessVisits targetlessWorld)) := by
  -- the version has no server, which is found out after the usage is recorded
  have hrefused : EndsRefused (targetlessDispatch.pass (targetlessVisits targetlessWorld)) :=
    ⟨_, result_visitsAlone _ _ _, by decide +kernel⟩
  -- one step of the passage has added a record
  have hrecords : (targetlessDispatch.pass (targetlessVisits targetlessWorld)).steps.any
      (fun step => step.2.db.usageRecords.rows.length ≠ step.1.db.usageRecords.rows.length) =
        true := by decide +kernel
  refine ⟨hrefused, by decide +kernel, by decide +kernel, ?_⟩
  obtain ⟨step, hstep, hlength⟩ := List.any_eq_true.mp hrecords
  rw [refusalCostsNothing_iff_of_cost ⟨step, hstep, fun hcosts => ?_⟩]
  · exact fun hnot => hnot hrefused
  · rw [hcosts.usage.records] at hlength
    simp at hlength

/-- The same subscription with an empty bucket. -/
def emptyBucketWorld : GatewayWorld :=
  { targetlessWorld with buckets := .singleton ⟨"sub", 0, 52⟩ }

/-- There the limiter denies the request at the instant of the last refill, which costs nothing. -/
theorem refusal_costsNothing_iff_emptyBucket :
    EndsRefused (targetlessDispatch.pass (targetlessVisits emptyBucketWorld)) ∧
      RefusalCostsNothing sampleBurstConfig (metLimit (fun _ _ => "hash") sampleBurstConfig
        sampleConfig 0 sampleDispatch (some "key".toList) (targetlessVisits emptyBucketWorld))
        (targetlessDispatch.pass (targetlessVisits emptyBucketWorld)) := by
  have hadmission : ((admissionPassage (fun _ _ => "hash") sampleConfig 0 sampleDispatch
      (some "key".toList) (targetlessVisits emptyBucketWorld)).result.bind (·.toOption)).map
        (fun admission => (admission.subscriptionId, admission.rateLimitRpm,
          (limiterPassage sampleBurstConfig sampleDispatch admission
            (admissionPassage (fun _ _ => "hash") sampleConfig 0 sampleDispatch
              (some "key".toList) (targetlessVisits emptyBucketWorld)).left).result.any
                (·.toOption.isSome))) = some ("sub", some 120, false) := by
    decide +kernel
  have hcommitted :
      (committedAt ((admissionPassage (fun _ _ => "hash") sampleConfig 0 sampleDispatch
      (some "key".toList) (targetlessVisits emptyBucketWorld)).left.map
        (partVisit GatewayWorld.bucketsLens (·.burst)))).map (fun c => (c.1, c.2.rows)) =
          some (52, emptyBucketWorld.buckets.rows) := by
    decide +kernel
  have hlevel : availableTokens Binary64.round sampleBurstConfig emptyBucketWorld.buckets
      "sub" 40 52 =
      0 := by decide +kernel
  have hlimit : resolveBurstLimit Binary64.round sampleBurstConfig (some 120) = some 40 := by
    decide +kernel
  -- what the dispatch has met there
  have hmet : ∀ {admission rest}, Admits (fun _ _ => "hash") sampleConfig 0 sampleDispatch
      (some "key".toList) (targetlessVisits emptyBucketWorld) admission rest →
      admission.subscriptionId = "sub" ∧ (∀ decision, (limiterPassage sampleBurstConfig
        sampleDispatch admission rest).result ≠ some (.ok decision)) ∧
      ∀ {burstLimit now buckets}, BurstCommit Binary64.round sampleBurstConfig
        (admission.burstParams sampleDispatch) rest burstLimit now buckets →
        burstLimit = 40 ∧ now = 52 ∧ buckets = emptyBucketWorld.buckets := by
    intro admission rest h
    rw [h.1, h.2] at hadmission
    obtain ⟨hid, hrest⟩ := Prod.mk.inj (Option.some.inj hadmission)
    obtain ⟨hrpm, hdenied⟩ := Prod.mk.inj hrest
    refine ⟨hid, fun decision hdecision => ?_, fun {burstLimit now buckets} hcommit => ?_⟩
    · rw [hdecision] at hdenied
      cases hdenied
    · rw [h.2, hcommit.committed] at hcommitted
      obtain ⟨hnow, hrows⟩ := Prod.mk.inj (Option.some.inj hcommitted)
      have hrpm' : resolveBurstLimit Binary64.round sampleBurstConfig admission.rateLimitRpm =
        some burstLimit := hcommit.limit
      rw [show admission.rateLimitRpm = some 120 from hrpm, hlimit] at hrpm'
      exact ⟨(Option.some.inj hrpm').symm, hnow, Table.eq_of_rows hrows⟩
  refine ⟨⟨_, result_visitsAlone _ _ _, by decide +kernel⟩,
    (refusal_costsNothing_iff (by decide)).mpr ⟨fun h => ?_, fun h => ?_, fun h => ?_⟩⟩
  · obtain ⟨admission, rest, burstLimit, now, buckets, hadmits, hcommit, henough, -⟩ := h
    obtain ⟨hid, -, hcommits⟩ := hmet hadmits
    obtain ⟨rfl, rfl, rfl⟩ := hcommits hcommit
    rw [hid, hlevel] at henough
    exact absurd henough (by decide)
  · obtain ⟨admission, rest, decision, _, hadmits, hdecision, -⟩ := h
    exact (hmet hadmits).2.1 decision hdecision
  · obtain ⟨admission, rest, burstLimit, now, buckets, hadmits, hcommit, -, hrefills⟩ := h
    obtain ⟨hid, -, hcommits⟩ := hmet hadmits
    obtain ⟨rfl, rfl, rfl⟩ := hcommits hcommit
    refine hrefills fun t _ => ?_
    rw [hid, hlevel]
    rfl

end HivePoint
