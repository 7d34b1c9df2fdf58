import HivePoint.ForStd.PayOnce
import HivePoint.Spec.Consumption
import HivePoint.Spec.KeyLifecycle

/-!
# What an authorization records

An authorization that consumes has two parts: a transaction that decides, and its commit. The
commit is the last statement, and the only one that writes usage.

## Key results

- `paysLast_authorizeUsageInternal`: usage is recorded by the last statement of an authorization
  that allows the request
- `eachStep_authorizeUsageInternal_preview`: without consumption nothing is written
-/

namespace HivePoint

open Prog Pool

/-! ### The usage tables -/

/-- The tables that usage is written to are as they were. -/
structure KeepsUsage (w w' : World) : Prop where
  records : w'.usageRecords = w.usageRecords
  daily : w'.usageDailyAggregates = w.usageDailyAggregates
  endpoints : w'.usageEndpointDailyAggregates = w.usageEndpointDailyAggregates

/-- A state keeps its own usage. -/
theorem KeepsUsage.refl (w : World) : KeepsUsage w w := ⟨rfl, rfl, rfl⟩

/-- A record of the request. -/
def IsRecordOf (endpoint : String) (requestCount : Int) (record : UsageRecord) : Prop :=
  record.endpoint = endpoint ∧ record.requestCount = requestCount

/-- The answer that has been paid for with the record. -/
def AnswersRecord (record : UsageRecord) (response : AuthorizeUsageResponse) : Prop :=
  response.allowed = true ∧ response.subscriptionId = some record.subscriptionId

/-- One record is added, for the answer. -/
def RecordsUsage (endpoint : String) (requestCount : Int) (response : AuthorizeUsageResponse)
    (w w' : World) : Prop :=
  ∃ record, w'.usageRecords.rows = w.usageRecords.rows ++ [record] ∧
    IsRecordOf endpoint requestCount record ∧ AnswersRecord record response

/-- A step that records usage changes the table of the records. -/
theorem RecordsUsage.records_ne {endpoint : String} {requestCount : Int}
    {response : AuthorizeUsageResponse} {w w' : World}
    (h : RecordsUsage endpoint requestCount response w w') : w'.usageRecords ≠ w.usageRecords := by
  obtain ⟨record, hrows, -⟩ := h
  intro heq
  have hlength := congrArg List.length hrows
  simp [heq] at hlength

/-- The end of an authorization that has recorded nothing. -/
def Unrecorded (r : Except Err AuthorizeUsageResponse) : Prop :=
  ∀ response, r = .ok response → response.allowed = false

/-- An error records nothing. -/
theorem unrecorded_error (e : Err) : Unrecorded (.error e) := by
  intro response h
  cases h

/-! ### The transaction that consumes -/

/-- What the transaction has prepared: a refusal, or the record of the request. -/
def Charged (params : ConsumptionParams) (response : AuthorizeUsageResponse) (p : Pending) : Prop :=
  (response.allowed = false ∧ p = .ok) ∨
    ∃ subscriptionId aggregatedAt uuid, p = (fun w => w.recordUsage
      ⟨subscriptionId, params.occurredAt, params.endpoint, params.requestCount, none⟩
      aggregatedAt uuid) ∧ response.allowed = true ∧ response.subscriptionId = some subscriptionId

/-- A part that prepares something leaves the state alone, and returns it. -/
private theorem Prepares.eachStep {Q : AuthorizeUsageResponse → Pending → Prop}
    {rest : Op (AuthorizeUsageResponse × Pending)} (h : Prepares Q rest) :
    rest.EachStep (fun w w' => w' = w) ∧ rest.Returns fun result => Q result.1 result.2 := by
  induction rest with
  | done r =>
    refine ⟨trivial, ?_⟩
    cases r with
    | ok result => exact h .empty result.1 result.2 rfl
    | error e => trivial
  | step act next ih =>
    exact ⟨fun env w => ⟨(h.next env w).1, (ih env w (h.next env w).2).1⟩,
      fun env w => (ih env w (h.next env w).2).2⟩

/-- Before its commit the transaction changes nothing but locks. -/
private theorem consume_prepares (tx : TxId) (params : ConsumptionParams) :
    (consume tx params .ok).EachStep KeepsUsage ∧
      (consume tx params .ok).Returns fun result => Charged params result.1 result.2 := by
  have hrefused : ∀ {response : AuthorizeUsageResponse}, response.allowed = false →
      ((pure response : TxM AuthorizeUsageResponse) .ok).EachStep KeepsUsage ∧
      ((pure response : TxM AuthorizeUsageResponse) .ok).Returns fun result =>
        Charged params result.1 result.2 := fun h => ⟨trivial, .inl ⟨h, rfl⟩⟩
  have hfound : ∀ found, (consumeFound tx params found .ok).EachStep KeepsUsage ∧
      (consumeFound tx params found .ok).Returns fun result =>
        Charged params result.1 result.2 := by
    intro found
    cases found with
    | none => exact hrefused rfl
    | some found =>
      unfold consumeFound
      dsimp only
      split
      · exact hrefused rfl
      · rw [tx_bind]
        -- the lock is all that is written before the commit
        have hlock : (selectForUpdate tx found.subscription.id .ok).EachStep KeepsUsage := by
          refine eachStep_bind (eachStep_mutate KeepsUsage.refl fun env w _ w' _ h => ?_)
            fun _ => trivial
          obtain ⟨-, rfl⟩ := Prod.mk.inj (Except.ok.inj h)
          exact ⟨rfl, rfl, rfl⟩
        have hpending : (selectForUpdate tx found.subscription.id .ok).Returns fun result =>
            result.2 = .ok := returns_bind (returns_true _) fun _ _ => rfl
        have hrest : ∀ usageWindow,
            (consumeLocked params found usageWindow .ok).EachStep KeepsUsage ∧
            (consumeLocked params found usageWindow .ok).Returns fun result =>
              Charged params result.1 result.2 := by
          intro usageWindow
          have hprepares : Prepares (fun a p => ∃ used, Decided params found usageWindow used a p)
              (consumeLocked params found usageWindow .ok) :=
                prepares_consumeLocked found usageWindow
          obtain ⟨hsteps, hreturns⟩ := hprepares.eachStep
          refine ⟨hsteps.mono fun w w' h => h ▸ KeepsUsage.refl _, hreturns.mono fun result h => ?_⟩
          obtain ⟨used, hdecided⟩ := h
          cases hdecided with
          | inl hrefused => exact .inl hrefused
          | inr hgranted =>
            obtain ⟨⟨aggregatedAt, uuid, hp⟩, -, hallowed, hid, -⟩ := hgranted
            exact .inr ⟨_, aggregatedAt, uuid, hp, hallowed, hid⟩
        constructor
        · refine eachStep_bind_returns hlock hpending fun result hresult => ?_
          rw [hresult]
          cases getUsageWindow found.subscription params.occurredAt with
          | none => exact (hrefused rfl).1
          | some usageWindow => exact (hrest usageWindow).1
        · refine returns_bind hpending fun result hresult => ?_
          rw [hresult]
          cases getUsageWindow found.subscription params.occurredAt with
          | none => exact (hrefused rfl).2
          | some usageWindow => exact (hrest usageWindow).2
  unfold consume
  rw [tx_bind]
  have hquery := fun f => (txKeeps_query (α := Option SubscriptionWithPlan)
    KeepsUsage.refl f .ok fun w w' h => Except.ok.inj h ▸ KeepsUsage.refl w).1
  have hpending : ∀ f : World → Option SubscriptionWithPlan,
      ((DbClient.query f : TxM (Option SubscriptionWithPlan)) .ok).Returns fun result =>
        result.2 = .ok := fun f => returns_bind (returns_true _) fun _ _ => rfl
  constructor
  · refine eachStep_bind_returns (hquery _) (hpending _) fun result hresult => ?_
    rw [hresult]
    exact (hfound result.1).1
  · refine returns_bind (hpending _) fun result hresult => ?_
    rw [hresult]
    exact (hfound result.1).2

/-- The commit of what has been prepared. -/
private theorem paysLast_commit (tx : TxId) (params : ConsumptionParams)
    {response : AuthorizeUsageResponse} {p : Pending} (h : Charged params response p) :
    (do
      commit tx p
      return response : Op AuthorizeUsageResponse).PaysLast KeepsUsage
        (RecordsUsage params.endpoint params.requestCount) Unrecorded := by
  -- the commit: refused by the database, failed, empty, or with the record
  intro env w
  have hrelease : KeepsUsage w (w.releaseLocks tx) := ⟨rfl, rfl, rfl⟩
  show (_ ∧ _) ∨ _
  cases hdb : env.dbError with
  | some m =>
    simp only [hdb]
    exact .inl ⟨hrelease, unrecorded_error _⟩
  | none =>
    simp only [hdb]
    cases hp : p w with
    | error e => exact .inl ⟨hrelease, unrecorded_error _⟩
    | ok w' =>
      -- what is pending at a commit is nothing, or one recording
      cases h with
      | inl hrefused =>
        rw [hrefused.2] at hp
        obtain rfl := Except.ok.inj hp
        refine .inl ⟨hrelease, fun response' hr => ?_⟩
        exact Except.ok.inj hr ▸ hrefused.1
      | inr hrecord =>
        obtain ⟨subscriptionId, aggregatedAt, uuid, rfl, hallowed, hid⟩ := hrecord
        obtain ⟨records, buckets, endpoints, hinsert, -, rfl⟩ := recordUsage_eq_ok hp
        exact .inr ⟨response, ⟨newUsageRecord ⟨subscriptionId, params.occurredAt, params.endpoint,
          params.requestCount, none⟩ aggregatedAt uuid, Table.insert?_rows hinsert, ⟨rfl, rfl⟩,
          hallowed, hid⟩, rfl⟩

/-- The transaction records in its last statement, or not at all. -/
private theorem paysLast_authorizeUsageWithConsumption (tx : TxId) (params : ConsumptionParams) :
    (authorizeUsageWithConsumption tx params).PaysLast KeepsUsage
      (RecordsUsage params.endpoint params.requestCount) Unrecorded := by
  obtain ⟨hsteps, hreturns⟩ := consume_prepares tx params
  refine paysLast_bind (B := fun result => Charged params result.1 result.2)
    (eachStep_tryCatch hsteps fun _ => ?_) (returns_tryCatch hreturns fun _ => ?_)
    (fun result hresult => ?_) unrecorded_error
  · exact eachStep_bind (eachStep_stmt fun _ w => ⟨rfl, rfl, rfl⟩) fun _ => trivial
  · exact returns_bind (returns_true _) fun _ _ => trivial
  · exact paysLast_commit tx params hresult

/-! ### Authorizations -/

section Authorizations

variable (hashApiKey : String → String → String) (config : AppConfig) (tx : TxId)

/-- Without consumption every statement is a reading. -/
theorem eachStep_authorizeUsageInternal_preview {R : World → World → Prop} (hrefl : ∀ w, R w w)
    {input : AuthorizeUsageInput} (hconsume : input.consume = some false) :
    (authorizeUsageInternal hashApiKey config tx input).EachStep R := by
  have hread : ∀ {α : Type} (f : World → α), (read f).EachStep R := fun f => eachStep_read hrefl f
  -- every statement of the preview is a read
  refine eachStep_bind (hread _) fun product => ?_
  cases product with
  | none => trivial
  | some product =>
    refine eachStep_bind (hread _) fun apiKey => ?_
    cases apiKey with
    | none => trivial
    | some apiKey =>
      change (authorizeKey tx input product apiKey).EachStep R
      unfold authorizeKey
      rw [hconsume]
      dsimp only
      split
      -- with an instant that is given, and with the clock
      all_goals
        refine eachStep_bind ?_ fun occurredAt => eachStep_bind (hread _) fun found => ?_
        · first
          | trivial
          | exact eachStep_clock hrefl
        · split
          · trivial
          · split
            · trivial
            · exact eachStep_previewUsage hrefl _ _ _

/-- With consumption the last statement records the usage, if the request is allowed. -/
theorem paysLast_authorizeUsageInternal {input : AuthorizeUsageInput}
    (hconsume : input.consume = some true) :
    (authorizeUsageInternal hashApiKey config tx input).PaysLast KeepsUsage
      (RecordsUsage input.endpoint input.requestCount) Unrecorded := by
  have hread : ∀ {α : Type} (f : World → α), (read f).EachStep KeepsUsage :=
    fun f => eachStep_read KeepsUsage.refl f
  -- a denial returns without a record
  have hdenied : ∀ {response : AuthorizeUsageResponse}, response.allowed = false →
      (pure response : Op AuthorizeUsageResponse).PaysLast KeepsUsage
        (RecordsUsage input.endpoint input.requestCount) Unrecorded :=
    fun h response' hr => Except.ok.inj hr ▸ h
  -- the reads come first, and only the consumption can record
  refine paysLast_bind (hread _) (returns_true _) (fun product _ => ?_) unrecorded_error
  cases product with
  | none => exact unrecorded_error _
  | some product =>
    refine paysLast_bind (hread _) (returns_true _) (fun apiKey _ => ?_) unrecorded_error
    cases apiKey with
    | none => exact hdenied rfl
    | some apiKey =>
      change (authorizeKey tx input product apiKey).PaysLast _ _ _
      unfold authorizeKey
      rw [hconsume]
      dsimp only
      split
      -- with an instant that is given, and with the clock
      all_goals
        refine paysLast_bind ?_ (returns_true _) (fun occurredAt _ =>
          paysLast_bind (hread _) (returns_true _) (fun found _ => ?_) unrecorded_error)
            unrecorded_error
        · first
          | trivial
          | exact eachStep_clock KeepsUsage.refl
        · split
          · exact hdenied rfl
          · split
            · exact hdenied rfl
            · exact paysLast_authorizeUsageWithConsumption tx _

end Authorizations

end HivePoint
