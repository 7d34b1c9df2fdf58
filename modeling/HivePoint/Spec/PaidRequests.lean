import HivePoint.Spec.GatewayRefusals
import HivePoint.Spec.UpstreamQuery

/-!
# Upstream requests are paid for

Any number of dispatches, interleaved statement by statement, next to operations that record no
usage. A dispatch sends its request upstream after the transaction that records its usage, and
between the two it checks URLs and resolves names.

## Key results

- `paysOnce_execute`: a dispatch records usage at most once, and sends nothing before
- `upstream_paid`: in every run, each dispatch that has sent a request has a usage record of its own
-/

namespace HivePoint

open Prog Pool

/-! ### The ledgers -/

/-- The usage records of the database. -/
def dbLedger : Ledger World UsageRecord where
  entries w := w.usageRecords.rows
  sent _ := 0

/-- The same, and the requests that the gateway has sent. -/
def gatewayLedger : Ledger GatewayWorld UsageRecord where
  entries s := s.db.usageRecords.rows
  sent s := s.net.requested.length

/-! ### A dispatch -/

section Dispatch

variable (api : UrlApi) (hashApiKey : String → String → String)
  (extractServerUrl : Option Text → Option Text) (round : ℚ → ℚ)
  (config : GatewayConfig) (burstConfig : GatewayBurstConfig) (usageConfig : AppConfig)

/-- More may have been sent. -/
def SentMore (log log' : NetLog) : Prop := log.requested.length ≤ log'.requested.length

/-- Following redirects only sends requests. -/
private theorem eachStep_fetchFollowing (redirects : Nat) (url : Url) :
    (fetchFollowing api redirects url).EachStep SentMore := by
  have hsend : ∀ url, (sendRequest url).EachStep SentMore := by
    refine fun url => eachStep_stmt fun env log => ?_
    have hmore : log.requested.length ≤ (url :: log.requested).length := by simp
    dsimp only
    split
    · exact hmore
    · exact hmore
  -- by induction on the redirects that are left
  induction redirects generalizing url with
  | zero =>
    unfold fetchFollowing
    refine eachStep_bind (hsend url) fun response => ?_
    split
    · trivial
    · trivial
    · trivial
  | succ redirects ih =>
    unfold fetchFollowing
    refine eachStep_bind (hsend url) fun response => ?_
    split
    · trivial
    · trivial
    · exact ih _

/-- Checking a url only sends requests. -/
private theorem eachStep_checkUrl (options : SafeExternalUrlOptions) (text : Text) :
    (checkUrl api options text).EachStep SentMore := by
  refine eachStep_stmt fun env log => ?_
  split
  · exact le_refl _
  · exact le_refl _

/-- Reading a url sends nothing. -/
private theorem eachStep_newUrl (text : Text) : (newUrl api text).EachStep SentMore := by
  unfold newUrl
  split
  · trivial
  · trivial

/-- Contacting the upstream only sends requests. -/
private theorem eachStep_contactUpstream (openApiSnapshot : Option Text)
    (openApiUrl normalizedPath : Text) (input : GatewayDispatchInput) :
    (contactUpstream api config extractServerUrl openApiSnapshot
      openApiUrl normalizedPath input).EachStep SentMore := by
  refine eachStep_bind ?_ fun upstreamBaseUrl => eachStep_bind ?_ fun upstreamUrl =>
    eachStep_bind ?_ fun response => trivial
  -- the base url is checked, then the url asked for, then the request is sent
  · unfold resolveUpstreamBaseUrl
    split
    · trivial
    · split
      · trivial
      · exact eachStep_bind (eachStep_checkUrl api _ _) fun _ => trivial
  · exact eachStep_bind (eachStep_newUrl api _) fun _ =>
      eachStep_bind (eachStep_checkUrl api _ _) fun _ => trivial
  · refine eachStep_bind ?_ fun _ => eachStep_tryCatch ?_ fun _ => trivial
    · unfold assertRequestBodySize
      split
      · trivial
      · trivial
    · exact eachStep_bind (eachStep_newUrl api _) fun _ => eachStep_fetchFollowing api _ _

variable {α : Type}

/-- The burst limit is idle in the ledger. -/
private theorem idle_onBuckets (op : BurstOp α) : (onBuckets op).EachStep gatewayLedger.Idle := by
  refine (eachStep_zoom _ _ _ op).mono fun s s' h => ?_
  obtain ⟨buckets, rfl⟩ := h
  exact ⟨rfl, rfl⟩

/-- The network pays nothing. -/
private theorem paid_onNetwork {op : NetOp α} (h : op.EachStep SentMore) :
    (onNetwork op).EachStep gatewayLedger.Paid :=
  eachStep_zoom_of h fun _ _ hmore => ⟨rfl, hmore⟩

/-- The answer to a dispatch tells whose usage has been recorded. -/
def NamesCharged (record : UsageRecord) (result : GatewayExecutionResult) : Prop :=
  result.usage.subscriptionId = record.subscriptionId

/-- The record of a dispatch. -/
def IsDispatchRecord (input : GatewayDispatchInput) : UsageRecord → Prop :=
  IsRecordOf (String.ofList (normalizePath input.path)) input.requestCount

/-- The authorization pays at most once, with a record of the dispatch. -/
private theorem paysOnce_authorizeGatewayUsage (phase : GatewayEnv → Env) (tx : TxId)
    (apiKey : Text) (input : GatewayDispatchInput) (occurredAt : Int) :
    (authorizeGatewayUsage hashApiKey usageConfig phase tx apiKey input occurredAt true).PaysOnce
      gatewayLedger (IsDispatchRecord input) AnswersRecord Unrecorded := by
  have hconsumes : (authorizeUsageInternal hashApiKey usageConfig tx (authorizeInput input apiKey
      occurredAt true)).PaysOnce dbLedger (IsDispatchRecord input) AnswersRecord Unrecorded := by
    refine (paysLast_authorizeUsageInternal hashApiKey usageConfig tx rfl).paysOnce ?_ ?_
    · exact fun w w' h => ⟨congrArg Table.rows h.records, rfl⟩
    · intro response w w' h
      obtain ⟨record, hrows, hrecord, hanswers⟩ := h
      exact ⟨record, hrecord, ⟨hrows, rfl⟩, hanswers⟩
  refine paysOnce_zoom (fun _ => rfl) (fun _ _ => rfl) (fun r hr => ?_) hconsumes
  cases r with
  | ok response => exact hr
  | error e => exact unrecorded_error _

/-- A dispatch records usage at most once, and sends nothing before. -/
theorem paysOnce_execute (tx : TxId) (input : GatewayDispatchInput) (providedApiKey : Option Text) :
    (execute api hashApiKey extractServerUrl round config burstConfig usageConfig tx input
      providedApiKey).PaysOnce gatewayLedger (IsDispatchRecord input) NamesCharged
        fun r => ∃ e, r = .error e := by
  have herror : ∀ e : Err, ∃ e', (.error e : Except Err GatewayExecutionResult) = .error e' :=
    fun e => ⟨e, rfl⟩
  refine paysOnce_bind (eachStep_admitRequest (Ledger.Idle.refl _) hashApiKey usageConfig tx input
    providedApiKey) (returns_true _) (fun admission _ => ?_) herror
  have hburst : ∀ params, (checkBurstLimit round burstConfig params).EachStep
      gatewayLedger.Idle := by
    refine fun params => eachStep_bind (idle_onBuckets _) fun decision => ?_
    split
    · trivial
    · trivial
  refine paysOnce_bind (hburst _) (returns_true _) (fun decision _ => ?_) herror
  refine paysOnce_bind_paid (paysOnce_authorizeGatewayUsage hashApiKey usageConfig _ tx _ input _)
    (fun authorization hdenied => ?_) (fun record authorization hanswers => ?_)
    (fun record authorization hanswers => ?_) herror
  · -- an authorization that has recorded nothing does not allow the request
    refine paysOnce_bind (eachStep_checkAuthorization authorization)
      (returns_checkAuthorization authorization) (fun subscriptionId hallowed => ?_) herror
    exact absurd (hallowed.1.symm.trans (hdenied authorization rfl)) (by decide)
  · refine eachStep_bind (eachStep_checkAuthorization authorization) fun subscriptionId =>
      eachStep_bind (paid_onNetwork ?_) fun contacted => trivial
    exact eachStep_contactUpstream api extractServerUrl config _ _ _ input
  · refine returns_bind (returns_checkAuthorization authorization) fun subscriptionId hallowed =>
      returns_bind (returns_true _) fun contacted _ => ?_
    exact Option.some.inj (hallowed.2.symm.trans hanswers.2)

end Dispatch

/-! ### Dispatches next to each other -/

/-- A dispatch, or an operation that records no usage and sends nothing for the gateway. -/
inductive GatewayParty where
  | dispatch (input : GatewayDispatchInput) (providedApiKey : Option Text)
  | other (op : GatewayOp Unit) (hop : op.EachStep gatewayLedger.Idle)

/-- Concurrent statements and transactions on the database of the gateway. -/
def gatewayReadCommitted : Scheduler TxId GatewayWorld GatewayEnv where
  permits tx _ s s' := s.db.respectsLocks tx s'.db
  cleanup tx s := { s with db := s.db.releaseLocks tx }

abbrev Dispatches := Pool TxId GatewayWorld GatewayEnv Err (Option GatewayExecutionResult)

abbrev DispatchHistory :=
  LedgerHistory TxId GatewayWorld GatewayEnv Err (Option GatewayExecutionResult) UsageRecord

section Runs

variable (api : UrlApi) (hashApiKey : String → String → String)
  (extractServerUrl : Option Text → Option Text) (round : ℚ → ℚ)
  (config : GatewayConfig) (burstConfig : GatewayBurstConfig) (usageConfig : AppConfig)

def GatewayParty.op (tx : TxId) : GatewayParty → GatewayOp (Option GatewayExecutionResult)
  | .dispatch input providedApiKey => do
    return some (← execute api hashApiKey extractServerUrl round config burstConfig
      usageConfig tx input
      providedApiKey)
  | .other op _ => do
    op
    return none

def startDispatches (parties : TxId → GatewayParty) (s : GatewayWorld) : Dispatches :=
  ⟨fun tx => (parties tx).op api hashApiKey extractServerUrl round config burstConfig
    usageConfig tx, s⟩

/-- The record is that of the party. -/
def GatewayParty.Recorded (party : GatewayParty) (record : UsageRecord) : Prop :=
  ∃ input providedApiKey, party = .dispatch input providedApiKey ∧ IsDispatchRecord input record

/-- The answer names the subscription of the record. -/
def NamesOptionalCharged (record : UsageRecord) (result : Option GatewayExecutionResult) : Prop :=
  ∃ answer, result = some answer ∧ NamesCharged record answer

/-- No dispatch has been answered. -/
def Unanswered (r : Except Err (Option GatewayExecutionResult)) : Prop :=
  ∀ answer, r ≠ .ok (some answer)

/-- Every party pays at most once. -/
private theorem paysOnce_party (tx : TxId) (party : GatewayParty) :
    (party.op api hashApiKey extractServerUrl round config burstConfig usageConfig tx).PaysOnce
      gatewayLedger
      party.Recorded NamesOptionalCharged Unanswered := by
  have herror : ∀ e : Err, Unanswered (.error e) := by
    intro e answer h
    cases h
  -- a dispatch answers with what it paid, the others pay and answer nothing
  cases party with
  | dispatch input providedApiKey =>
    have hexecute := paysOnce_execute api hashApiKey extractServerUrl round config burstConfig
      usageConfig tx
      input providedApiKey
    refine paysOnce_bind_paid (hexecute.mono fun record hrecord =>
      ⟨input, providedApiKey, rfl, hrecord⟩) (fun result hresult => ?_) (fun _ _ _ => trivial)
      (fun record result htells => ⟨result, rfl, htells⟩) herror
    obtain ⟨e, he⟩ := hresult
    cases he
  | other op hop =>
    refine EachStep.paysOnce (B := (· = none)) (eachStep_bind hop fun _ => trivial)
      (returns_bind (returns_true op) fun _ _ => rfl) (fun result hnone answer h => ?_) herror
    rw [hnone] at h
    cases h

/-- In every interleaving: the usage records are those from the start and one for each dispatch
    that has been charged, with its endpoint and its number of requests. Every request upstream has
    a sender, all senders have been charged, each once, and every answer names the subscription
    that has been charged for it. -/
theorem upstream_paid {parties : TxId → GatewayParty} {s₀ : GatewayWorld} {H : DispatchHistory}
    (hrun : LedgerRun gatewayLedger gatewayReadCommitted (startDispatches api hashApiKey
      extractServerUrl round config burstConfig usageConfig parties s₀) H) :
    H.pool.state.db.usageRecords.rows = s₀.db.usageRecords.rows ++ H.charged.map (·.2) ∧
    (H.charged.map (·.1)).Nodup ∧
    (∀ tx record, (tx, record) ∈ H.charged → (parties tx).Recorded record) ∧
    H.pool.state.net.requested.length = s₀.net.requested.length + H.senders.length ∧
    (∀ tx ∈ H.senders, ∃ record, (tx, record) ∈ H.charged) ∧
    ∀ tx answer, H.pool.threads tx = .done (.ok (some answer)) →
      ∃ record, (tx, record) ∈ H.charged ∧ answer.usage.subscriptionId = record.subscriptionId := by
  have hright : LedgerRight gatewayLedger (fun tx => (parties tx).Recorded)
      (fun _ => NamesOptionalCharged) (fun _ => Unanswered) s₀ H :=
    ledgerRight_of_run (fun tx s => ⟨rfl, rfl⟩) (fun tx e answer h => (by cases h))
      (fun tx => paysOnce_party api hashApiKey extractServerUrl round config burstConfig
        usageConfig tx
        (parties tx)) hrun
  refine ⟨hright.entries, hright.once, hright.allValid, hright.sent, hright.senders,
    fun tx answer hanswer => ?_⟩
  -- an answer that nothing was paid for is none
  cases hright.answered tx _ hanswer with
  | inl hunpaid => exact absurd rfl (hunpaid.2 answer)
  | inr hpaid =>
    obtain ⟨record, hrecord, htells⟩ := hpaid
    obtain ⟨answer', hsome, htells⟩ := htells _ rfl
    exact ⟨record, hrecord, Option.some.inj hsome ▸ htells⟩

end Runs

/-! ### Two dispatches -/

/-- A runtime that resolves the server URL to the sample base URL. -/
def sampleDispatchApi : UrlApi :=
  { standardUrlApi with parseRelative := fun _ _ => some sampleBaseUrl }

/-- The answers to dispatch `tx`. -/
def dispatchEnv (tx : TxId) : GatewayEnv :=
  { sampleGatewayEnv with
    consumption := .available 53 (toString tx)
    net := ⟨fun _ _ => some ["93.184.215.14".toList], fun _ => some ⟨200, none, some []⟩⟩ }

def twoDispatches : Dispatches :=
  startDispatches sampleDispatchApi (fun _ _ => "hash") (fun _ => some "/v1".toList)
    Binary64.round sampleGatewayConfig sampleBurstConfig sampleConfig
    (fun _ => .dispatch { sampleDispatch with query := [("q".toList, "a".toList)] }
      (some "key".toList)) targetlessWorld

/-- Dispatch 1 has recorded its usage when dispatch 0 begins, which sends its request. -/
def twoDispatchesSchedule : List (Choice TxId GatewayEnv Err) :=
  List.replicate 22 (.run 1 (dispatchEnv 1)) ++ List.replicate 25 (.run 0 (dispatchEnv 0))

def twoDispatchesEnd : Option DispatchHistory :=
  LedgerHistory.runSchedule gatewayLedger gatewayReadCommitted twoDispatchesSchedule
    ⟨twoDispatches, [], []⟩

/-- Of two dispatches that are charged, one is sent. -/
theorem upstream_paid_two : ∃ H, twoDispatchesEnd = some H ∧ H.charged.map (·.1) = [1, 0] ∧
    H.senders = [0] ∧ ∃ record, (0, record) ∈ H.charged := by
  have hend : twoDispatchesEnd.map (fun H => (H.charged.map (·.1), H.senders)) =
      some ([1, 0], [0]) := by
    decide +kernel
  obtain ⟨H, hH, hfacts⟩ := Option.map_eq_some_iff.mp hend
  obtain ⟨hcharged, hsenders⟩ := Prod.mk.inj hfacts
  refine ⟨H, hH, hcharged, hsenders, ?_⟩
  have hpaid := (upstream_paid _ _ _ _ _ _ _ (ledgerRun_of_schedule _ .init hH)).2.2.2.2.1
  exact hpaid 0 (hsenders ▸ List.mem_singleton_self 0)

end HivePoint
