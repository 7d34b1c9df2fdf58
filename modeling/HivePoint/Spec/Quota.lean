import HivePoint.Spec.Entitlement

/-!
# The hard quota under concurrency

Consuming transactions check the quota and record their usage in separate statements.
The row lock makes the two one step: while a transaction holds the lock of a
subscription, no other transaction changes the subscription's part of the ledger.

## Key results

- `txSat_sumUsageForWindow`: under the lock the window sum is the usage of the window
- `txSat_consumeLocked`: what a transaction answers and is about to write
- `ConsumerSpec.compatible`: an invariant that fits each decision holds throughout
- `quota_not_overrun`: the quota holds in every reachable state, and a granted answer
  tells the committed total
-/

namespace HivePoint

open Prog Pool GroupedSum

/-! ### The part of the ledger that belongs to a subscription -/

/-- The records and the buckets of a subscription. -/
def World.ledger (w : World) (subscriptionId : Id) : List UsageRecord × List UsageDailyAggregate :=
  (w.usageRecords.rows.filter (·.subscriptionId = subscriptionId),
    w.usageDailyAggregates.rows.filter (·.subscriptionId = subscriptionId))

/-- Sums of records are read off the ledger. -/
theorem sumRecords_eq_of_ledger {w w' : World} {subscriptionId : Id}
    (h : w'.ledger subscriptionId = w.ledger subscriptionId) (p : UsageRecord → Bool) :
    w'.sumRecords subscriptionId p = w.sumRecords subscriptionId p := by
  have hrecords := congrArg (fun l => sumRequestCount (·.requestCount) (l.1.filter p)) h
  simpa only [World.ledger, World.sumRecords, List.filter_filter, Bool.and_comm] using hrecords

/-- Sums of buckets are read off the ledger. -/
private theorem sumBuckets_eq_of_ledger {w w' : World} {subscriptionId : Id}
    (h : w'.ledger subscriptionId = w.ledger subscriptionId) (gte lt : Int) :
    w'.sumBuckets subscriptionId gte lt = w.sumBuckets subscriptionId gte lt := by
  have hbuckets := congrArg (fun l => sumRequestCount (·.requestCount)
    (l.2.filter fun b => gte ≤ b.bucketDate && b.bucketDate < lt)) h
  simpa only [World.ledger, World.sumBuckets, List.filter_filter, Bool.and_comm] using hbuckets

/-- The usage of a window is read off the ledger. -/
private theorem usageIn_eq_of_ledger {w w' : World} {subscriptionId : Id}
    (h : w'.ledger subscriptionId = w.ledger subscriptionId) (gte lt : Int) :
    w'.usageIn subscriptionId gte lt = w.usageIn subscriptionId gte lt :=
  sumRecords_eq_of_ledger h fun r => gte ≤ r.occurredAt && r.occurredAt < lt

/-- The hybrid sum reads the ledger of its subscription. -/
theorem windowUsage_eq_of_ledger {w w' : World} {subscriptionId : Id}
    (h : w'.ledger subscriptionId = w.ledger subscriptionId) (s e : Int) :
    w'.windowUsage subscriptionId s e = w.windowUsage subscriptionId s e := by
  simp only [World.windowUsage, World.fullDaysUsage, usageIn_eq_of_ledger h,
    sumBuckets_eq_of_ledger h, sumRecords_eq_of_ledger h]

/-- Recording usage of one subscription leaves the ledger of the others alone. -/
theorem ledger_recordUsage {w w' : World} {input : UsageRecordWriteInput} {aggregatedAt : Int}
    {uuid : Id} (h : w.recordUsage input aggregatedAt uuid = .ok w') {subscriptionId : Id}
    (hne : input.subscriptionId ≠ subscriptionId) :
    w'.ledger subscriptionId = w.ledger subscriptionId := by
  obtain ⟨records, buckets, endpoints, hrecords, hbuckets, rfl⟩ := recordUsage_eq_ok h
  have hmodify : ∀ rows : List UsageDailyAggregate,
      (Table.modifyRows (Row.key (dailyBucket input))
        (fun b => { b with requestCount := b.requestCount + input.requestCount }) rows).filter
          (·.subscriptionId = subscriptionId) =
            rows.filter (·.subscriptionId = subscriptionId) := by
    intro rows
    induction rows with
    | nil => rfl
    | cons b rows ih =>
      simp only [Table.modifyRows, List.map_cons, List.filter_cons] at ih ⊢
      rw [ih]
      split <;> rename_i hb
      · -- the incremented bucket is not one of `subscriptionId`
        have hsub : b.subscriptionId = input.subscriptionId := congrArg Prod.fst hb
        simp [hsub, hne]
      · rfl
  simp only [World.ledger, Table.insert?_rows hrecords, List.filter_append, newUsageRecord]
  rw [Table.upsert?] at hbuckets
  split at hbuckets
  · simp [Table.update?_rows hbuckets, hmodify, hne]
  · simp [Table.insert?_rows hbuckets, dailyBucket, hne]

/-! ### The consuming transaction under its lock -/

section Locked

variable {C : Contract World Env} {J : World → Prop} {subscriptionId : Id} {w₀ : World}

/-- While nothing is pending and the ledger of the subscription stays as in `w₀`, the
    hybrid sum is that of `w₀`. -/
theorem txSat_windowUsage (hJ : Stable C J)
    (hledger : ∀ w, J w → w.ledger subscriptionId = w₀.ledger subscriptionId) {s e : Int}
    {Q : Int → Pending → Prop} (hQ : Q (w₀.windowUsage subscriptionId s e) .ok) :
    TxSat C J (sumUsageForWindow subscriptionId s e) .ok Q := by
  -- each slice is queried only if it is not empty
  have hslice : ∀ (query : Int → Int → TxM Int) (val : Int → Int → Int) (a b : Int),
      TxSat C J (query a b) .ok (fun n p => n = val a b ∧ p = .ok) →
      TxSat C J (querySlice query 0 a b) .ok fun n p =>
        n = (if a < b then val a b else 0) ∧ p = .ok := by
    intro query val a b hquery
    rw [querySlice]
    split
    · exact hquery
    · exact txSat_pure ⟨rfl, rfl⟩
  -- raw slices and full days answer what the ledger holds
  have hraw : ∀ a b, TxSat C J (sumRawUsage subscriptionId a b) .ok fun n p =>
      n = w₀.usageIn subscriptionId a b ∧ p = .ok := by
    intro a b
    refine txSat_query hJ fun w v hw hv => ⟨?_, rfl⟩
    obtain rfl := Except.ok.inj hv
    exact usageIn_eq_of_ledger (hledger w hw) a b
  have hfull : ∀ a b, TxSat C J (sumFullDays subscriptionId a b) .ok fun n p =>
      n = w₀.fullDaysUsage subscriptionId a b ∧ p = .ok := by
    intro a b
    refine txSat_bind (Q := fun n p => n = w₀.sumBuckets subscriptionId a b ∧ p = .ok)
      (txSat_query hJ fun w v hw hv => ?_) ?_
    · obtain rfl := Except.ok.inj hv
      exact ⟨sumBuckets_eq_of_ledger (hledger w hw) a b, rfl⟩
    · rintro _ _ ⟨rfl, rfl⟩
      refine txSat_bind (Q := fun n p => n = (w₀.sumRecords subscriptionId fun r =>
          r.aggregatedAt.isNone && (a ≤ r.occurredAt && r.occurredAt < b)) ∧ p = .ok)
        (txSat_query hJ fun w v hw hv => ?_) ?_
      · obtain rfl := Except.ok.inj hv
        exact ⟨sumRecords_eq_of_ledger (hledger w hw) _, rfl⟩
      · rintro _ _ ⟨rfl, rfl⟩
        exact txSat_pure ⟨rfl, rfl⟩
  unfold World.windowUsage at hQ
  rw [sumUsageForWindow]
  split at hQ
  · rename_i hse
    rw [if_pos hse]
    exact txSat_pure hQ
  · rename_i hse
    rw [if_neg hse]
    -- head, full days and tail, one after the other
    refine txSat_bind (hslice _ (w₀.usageIn subscriptionId) _ _ (hraw _ _)) ?_
    rintro _ _ ⟨rfl, rfl⟩
    refine txSat_bind (hslice _ (w₀.fullDaysUsage subscriptionId) _ _ (hfull _ _)) ?_
    rintro _ _ ⟨rfl, rfl⟩
    refine txSat_bind (hslice _ (w₀.usageIn subscriptionId) _ _ (hraw _ _)) ?_
    rintro _ _ ⟨rfl, rfl⟩
    exact txSat_pure hQ

/-- From exact aggregates it is the usage in `w₀`. -/
theorem txSat_sumUsageForWindow (hJ : Stable C J)
    (hledger : ∀ w, J w → w.ledger subscriptionId = w₀.ledger subscriptionId) {s e : Int}
    {Q : Int → Pending → Prop} (hw₀ : w₀.AggregatesExact)
    (hQ : Q (w₀.usageIn subscriptionId s e) .ok) :
    TxSat C J (sumUsageForWindow subscriptionId s e) .ok Q :=
  txSat_windowUsage hJ hledger (by rwa [windowUsage_of_exact hw₀])

/-- Recording inside a transaction makes the three writes pending. -/
theorem txSat_recordUsageInTransaction (hJ : Stable C J) (input : UsageRecordWriteInput) :
    TxSat C J (recordUsageInTransaction input) .ok fun _ p =>
      ∃ aggregatedAt uuid, p = fun w => w.recordUsage input aggregatedAt uuid := by
  refine txSat_bind (txSat_clock (Q := fun _ p => p = .ok) hJ fun _ => rfl) fun aggregatedAt _ hp =>
    ?_
  subst hp
  refine txSat_bind (txSat_command (Q := fun _ p => ∃ uuid, p = fun w =>
    w.createUsageRecord (newUsageRecord input aggregatedAt uuid)) hJ fun env => ⟨env.uuid, rfl⟩)
    fun _ _ ⟨uuid, hp⟩ => ?_
  subst hp
  refine txSat_bind (txSat_command (Q := fun _ p => p = fun w =>
    w.createUsageRecord (newUsageRecord input aggregatedAt uuid) >>= fun w =>
      w.upsertDailyAggregate (dailyBucket input)) hJ fun env => rfl) fun _ _ hp => ?_
  subst hp
  refine txSat_command hJ fun env => ⟨aggregatedAt, uuid, funext fun w => ?_⟩
  simp only [World.recordUsage, bind_assoc]

/-- What a consuming transaction has decided under its lock: a refusal without writes, or
    an answer with the new total and the recording as its pending write. -/
def Decided (params : ConsumptionParams) (found : SubscriptionWithPlan) (usageWindow : UsageWindow)
    (usedRequests : Int) (response : AuthorizeUsageResponse) (p : Pending) : Prop :=
  (response.allowed = false ∧ p = .ok) ∨
    (∃ aggregatedAt uuid, p = fun w => w.recordUsage
      ⟨found.subscription.id, params.occurredAt, params.endpoint, params.requestCount, none⟩
      aggregatedAt uuid) ∧
    (found.plan.allowOverage = false → usedRequests + params.requestCount ≤
      found.plan.quotaRequests) ∧
    response.allowed = true ∧ response.subscriptionId = some found.subscription.id ∧
    response.periodStart = some usageWindow.gte ∧ response.periodEnd = some usageWindow.lt ∧
    response.usedRequests = some (usedRequests + params.requestCount) ∧
    response.remainingRequests =
      some (max 0 (found.plan.quotaRequests - (usedRequests + params.requestCount)))

/-- Summing the usage of a window makes nothing pending. -/
theorem txSat_sumUsageForWindow_ok (hJ : Stable C J) (subscriptionId : Id) (s e : Int)
    {Q : Int → Pending → Prop} (hQ : ∀ n, Q n .ok) :
    TxSat C J (sumUsageForWindow subscriptionId s e) .ok Q := by
  -- each slice reads only, so nothing is pending after it
  have hslice : ∀ (query : Int → Int → TxM Int) (a b : Int),
      TxSat C J (query a b) .ok (fun _ p => p = .ok) →
      TxSat C J (querySlice query 0 a b) .ok fun _ p => p = .ok := by
    intro query a b hquery
    rw [querySlice]
    split
    · exact hquery
    · exact txSat_pure rfl
  have hraw : ∀ a b, TxSat C J (sumRawUsage subscriptionId a b) .ok fun _ p => p = .ok :=
    fun a b => txSat_query hJ fun _ _ _ _ => rfl
  have hfull : ∀ a b, TxSat C J (sumFullDays subscriptionId a b) .ok fun _ p => p = .ok := by
    intro a b
    refine txSat_bind (Q := fun _ p => p = .ok) (txSat_query hJ fun _ _ _ _ => rfl)
      fun _ _ hp => ?_
    subst hp
    refine txSat_bind (Q := fun _ p => p = .ok) (txSat_query hJ fun _ _ _ _ => rfl)
      fun _ _ hp => ?_
    subst hp
    exact txSat_pure rfl
  rw [sumUsageForWindow]
  split
  · exact txSat_pure (hQ 0)
  -- head, full days and tail, one after the other
  · refine txSat_bind (hslice _ _ _ (hraw _ _)) fun _ _ hp => ?_
    subst hp
    refine txSat_bind (hslice _ _ _ (hfull _ _)) fun _ _ hp => ?_
    subst hp
    refine txSat_bind (hslice _ _ _ (hraw _ _)) fun _ _ hp => ?_
    subst hp
    exact txSat_pure (hQ _)

/-- What holds of the sums that a transaction reads under its lock holds of the sums that its
    decision is based on: the usage of the window, and that of the rate limit window. -/
theorem txSat_consumeLocked (hJ : Stable C J) {R T : Int → Prop} (params : ConsumptionParams)
    (found : SubscriptionWithPlan) (usageWindow : UsageWindow)
    (hsum : TxSat C J (sumUsageForWindow found.subscription.id usageWindow.gte usageWindow.lt) .ok
      fun n p => R n ∧ p = .ok)
    (hrate : TxSat C J (sumRateLimitUsage found.subscription.id
      (getRateLimitWindowStart params.occurredAt usageWindow.gte) params.occurredAt) .ok
      fun n p => T n ∧ p = .ok) :
    TxSat C J (consumeLocked params found usageWindow) .ok fun response p =>
      ∃ usedRequests, R usedRequests ∧
        Decided params found usageWindow usedRequests response p ∧
        ∀ rateLimitRpm, response.allowed = true → found.plan.rateLimitRpm = some rateLimitRpm →
          ∃ usedRateLimitRequests, T usedRateLimitRequests ∧
            usedRateLimitRequests + params.requestCount ≤ rateLimitRpm := by
  refine txSat_bind hsum fun usedRequests _ ⟨hused, hp⟩ => ?_
  subst hp
  -- a granted consumption records its usage and tells the new total
  have hgranted : ∀ (remaining : Option Int),
      (found.plan.allowOverage = false →
        usedRequests + params.requestCount ≤ found.plan.quotaRequests) →
      (∀ rateLimitRpm, found.plan.rateLimitRpm = some rateLimitRpm →
        ∃ usedRateLimitRequests, T usedRateLimitRequests ∧
          usedRateLimitRequests + params.requestCount ≤ rateLimitRpm) →
      TxSat C J (do
        recordUsageInTransaction
          ⟨found.subscription.id, params.occurredAt, params.endpoint, params.requestCount, none⟩
        pure { subscriptionResponse params found usageWindow (usedRequests + params.requestCount)
          remaining (getOverageState found.plan (usedRequests + params.requestCount)) with
          usageRecorded := true }) .ok fun response p => ∃ usedRequests, R usedRequests ∧
            Decided params found usageWindow usedRequests response p ∧
            ∀ rateLimitRpm, response.allowed = true → found.plan.rateLimitRpm = some rateLimitRpm →
              ∃ usedRateLimitRequests, T usedRateLimitRequests ∧
                usedRateLimitRequests + params.requestCount ≤ rateLimitRpm := by
    intro remaining hquota hrpm
    refine txSat_bind (txSat_recordUsageInTransaction hJ _) fun _ _ hp => ?_
    exact txSat_pure ⟨usedRequests, hused, .inr ⟨hp, hquota, rfl, rfl, rfl, rfl, rfl, rfl⟩,
      fun rateLimitRpm _ h => hrpm rateLimitRpm h⟩
  dsimp only
  -- over the quota without overage it is refused
  split
  · exact txSat_pure ⟨usedRequests, hused, .inl ⟨rfl, rfl⟩, fun _ h => (nomatch h)⟩
  · rename_i hquota
    have hquota : found.plan.allowOverage = false →
        usedRequests + params.requestCount ≤ found.plan.quotaRequests := by
      intro hover
      simpa [hover] using hquota
    -- else the rate is checked, where the plan has one
    split
    · rename_i hrpm
      exact hgranted none hquota fun _ h => nomatch hrpm.symm.trans h
    · rename_i rateLimitRpm hrpm
      refine txSat_bind hrate fun usedRateLimitRequests _ ⟨hrate, hp⟩ => ?_
      subst hp
      split
      · exact txSat_pure ⟨usedRequests, hused, .inl ⟨rfl, rfl⟩, fun _ h => (nomatch h)⟩
      · rename_i hfits
        refine hgranted _ hquota fun rpm h => ?_
        obtain rfl := Option.some.inj (hrpm.symm.trans h)
        exact ⟨usedRateLimitRequests, hrate, not_lt.mp hfits⟩

end Locked

/-! ### Locks -/

/-- A row is locked by one transaction at most. -/
def World.LocksExclusive (w : World) : Prop :=
  ∀ id tx tx', (id, tx) ∈ w.subscriptionLocks → (id, tx') ∈ w.subscriptionLocks → tx = tx'

/-- A statement respects the locks of the other transactions. -/
theorem respectsLocks_iff {tx : TxId} {w w' : World} :
    w.respectsLocks tx w' = true ↔ ∀ id tx', (id, tx') ∈ w.subscriptionLocks → tx' ≠ tx →
      w'.subscriptions.find? id = w.subscriptions.find? id ∧ (id, tx) ∉ w'.subscriptionLocks := by
  simp only [World.respectsLocks, List.all_eq_true, Bool.or_eq_true, Bool.and_eq_true,
    decide_eq_true_eq, Prod.forall, or_iff_not_imp_left, ne_eq]

/-- The locks held after one more was taken. -/
theorem mem_lockSubscription {w : World} {tx tx' : TxId} {id id' : Id} :
    (id', tx') ∈ (w.lockSubscription tx id).subscriptionLocks ↔
      (id' = id ∧ tx' = tx) ∨ (id', tx') ∈ w.subscriptionLocks := by
  simp only [World.lockSubscription, List.mem_cons, Prod.mk.injEq]

/-- The locks held after one transaction released its own. -/
theorem mem_releaseLocks {w : World} {tx tx' : TxId} {id : Id} :
    (id, tx') ∈ (w.releaseLocks tx).subscriptionLocks ↔
      (id, tx') ∈ w.subscriptionLocks ∧ tx' ≠ tx := by
  simp only [World.releaseLocks, List.mem_filter, decide_eq_true_eq]

/-- The database grants a row lock to one transaction at a time. -/
theorem LocksExclusive.lockSubscription {w : World} {tx : TxId} {id : Id} (hw : w.LocksExclusive)
    (hperm : w.respectsLocks tx (w.lockSubscription tx id) = true) :
    (w.lockSubscription tx id).LocksExclusive := by
  have hfree : ∀ tx', (id, tx') ∈ w.subscriptionLocks → tx' = tx := by
    intro tx' hlock
    by_contra hne
    exact (respectsLocks_iff.mp hperm id tx' hlock hne).2
      (mem_lockSubscription.mpr (.inl ⟨rfl, rfl⟩))
  intro id' tx₁ tx₂ h₁ h₂
  rcases mem_lockSubscription.mp h₁ with ⟨hid₁, htx₁⟩ | hold₁ <;>
    rcases mem_lockSubscription.mp h₂ with ⟨hid₂, htx₂⟩ | hold₂
  · exact htx₁.trans htx₂.symm
  · exact htx₁.trans (hfree _ (hid₁ ▸ hold₂)).symm
  · exact (hfree _ (hid₂ ▸ hold₁)).trans htx₂.symm
  · exact hw id' tx₁ tx₂ hold₁ hold₂

/-- Releasing locks keeps them exclusive. -/
theorem LocksExclusive.releaseLocks {w : World} {tx : TxId} (hw : w.LocksExclusive) :
    (w.releaseLocks tx).LocksExclusive := fun id tx₁ tx₂ h₁ h₂ =>
  hw id tx₁ tx₂ (mem_releaseLocks.mp h₁).1 (mem_releaseLocks.mp h₂).1

/-! ### Consuming transactions among each other -/

/-- What transaction `tx` relies on and promises while the transactions keep `I`: the
    ledger of a subscription changes by the holder of its lock only. -/
def ledgerContract (I : World → Prop) (tx : TxId) : Contract World Env where
  permits _ w w' := w.respectsLocks tx w' = true
  rely w w' := (I w → I w') ∧ ∀ id, (id, tx) ∈ w.subscriptionLocks →
    (id, tx) ∈ w'.subscriptionLocks ∧ w'.ledger id = w.ledger id
  guar w w' := (I w → I w') ∧
    (∀ id tx', tx' ≠ tx → (id, tx') ∈ w.subscriptionLocks → (id, tx') ∈ w'.subscriptionLocks) ∧
    ∀ id, (id, tx) ∈ w.subscriptionLocks ∨ w'.ledger id = w.ledger id
  rely_refl _ := ⟨id, fun _ h => ⟨h, rfl⟩⟩
  rely_trans h₁ h₂ := ⟨h₂.1 ∘ h₁.1, fun id h =>
    ⟨(h₂.2 id (h₁.2 id h).1).1, (h₂.2 id (h₁.2 id h).1).2.trans (h₁.2 id h).2⟩⟩

/-- `J` for a transaction that has locked subscription `id` in the state `w₁`. -/
def LockedSince (I : World → Prop) (tx : TxId) (id : Id) (w₁ w : World) : Prop :=
  I w ∧ (id, tx) ∈ w.subscriptionLocks ∧ w.ledger id = w₁.ledger id

/-- The invariant is kept by what the others do. -/
private theorem stable_inv (I : World → Prop) (tx : TxId) : Stable (ledgerContract I tx) I :=
  ⟨fun _ _ hw hrely => hrely.1 hw, fun _ _ => ⟨id, fun _ _ _ h => h, fun _ => .inr rfl⟩⟩

/-- A lock that is held keeps the others from the row's ledger. -/
theorem stable_lockedSince (I : World → Prop) (tx : TxId) (id : Id) (w₁ : World) :
    Stable (ledgerContract I tx) (LockedSince I tx id w₁) where
  rely := fun _ _ ⟨hw, hlock, hledger⟩ hrely =>
    ⟨hrely.1 hw, (hrely.2 id hlock).1, (hrely.2 id hlock).2.trans hledger⟩
  guar := fun w hw => (stable_inv I tx).guar w hw.1

/-- What a consuming transaction has decided when it commits: a refusal without writes, or
    an answer whose recording, made on a state in which the subscription's ledger is still
    that of `w₁`, keeps `I` and ends in `post`. -/
def Fits (I : World → Prop) (post : Except Err AuthorizeUsageResponse → World → Prop) (tx : TxId)
    (params : ConsumptionParams) (found : SubscriptionWithPlan) (w₁ : World)
    (a : AuthorizeUsageResponse) (p : Pending) : Prop :=
  (a.allowed = false ∧ p = .ok) ∨
    ∃ aggregatedAt uuid, (p = fun w => w.recordUsage
      ⟨found.subscription.id, params.occurredAt, params.endpoint, params.requestCount, none⟩
      aggregatedAt uuid) ∧
      ∀ w v, LockedSince I tx found.subscription.id w₁ w → p w = .ok v →
        I v ∧ post (.ok a) (v.releaseLocks tx)

/-- An invariant of consuming transactions among each other, and what they end in. The
    subscriptions and plans stay those of `w₀`, and what is decided under a lock fits. -/
structure ConsumerSpec (w₀ : World) (I : World → Prop)
    (post : TxId → Except Err AuthorizeUsageResponse → World → Prop)
    (params : TxId → ConsumptionParams) : Prop where
  subscriptions : ∀ w, I w → w.subscriptions = w₀.subscriptions
  plans : ∀ w, I w → w.plans = w₀.plans
  exclusive : ∀ w, I w → w.LocksExclusive
  lock : ∀ w tx id, I w → w.respectsLocks tx (w.lockSubscription tx id) = true →
    I (w.lockSubscription tx id)
  release : ∀ w tx, I w → I (w.releaseLocks tx)
  refused : ∀ tx r w, (∀ a, r = .ok a → a.allowed = false) → post tx r w
  fits : ∀ tx found usageWindow w₁, I w₁ → found.subscription ∈ w₀.subscriptions.rows →
    w₀.plans.find? found.subscription.planId = some found.plan →
    getUsageWindow found.subscription (params tx).occurredAt = some usageWindow →
    TxSat (ledgerContract I tx) (LockedSince I tx found.subscription.id w₁)
      (consumeLocked (params tx) found usageWindow) .ok (Fits I (post tx) tx (params tx) found w₁)

section Rule

variable {w₀ : World} {I : World → Prop}
  {post : TxId → Except Err AuthorizeUsageResponse → World → Prop}
  {params : TxId → ConsumptionParams}

/-- What a transaction may end with, so that its commit or rollback keeps the contract
    (the premise of `sat_runTransaction`). -/
def Settles (I : World → Prop) (post : Except Err AuthorizeUsageResponse → World → Prop) (tx : TxId)
    (r : Except Err (AuthorizeUsageResponse × Pending)) (w₁ : World) : Prop :=
  ∀ w₂, (ledgerContract I tx).rely w₁ w₂ → (ledgerContract I tx).guar w₂ (w₂.releaseLocks tx) ∧
    (∀ e, FailsWith r w₂ e → post (.error e) (w₂.releaseLocks tx)) ∧
    ∀ a p v, r = .ok (a, p) → p w₂ = .ok v →
      (ledgerContract I tx).guar w₂ (v.releaseLocks tx) ∧ post (.ok a) (v.releaseLocks tx)

/-- Releasing the locks at the end keeps the ledger's contract. -/
private theorem ConsumerSpec.guar_releaseLocks (h : ConsumerSpec w₀ I post params) (tx : TxId)
    (w : World) :
    (ledgerContract I tx).guar w (w.releaseLocks tx) :=
  ⟨h.release w tx, fun _ _ hne h => mem_releaseLocks.mpr ⟨h, hne⟩, fun _ => .inr rfl⟩

/-- A refusal writes nothing. -/
private theorem ConsumerSpec.settles_refused (h : ConsumerSpec w₀ I post params) {tx : TxId}
    {r : Except Err (AuthorizeUsageResponse × Pending)} {w₁ : World}
    (hr : ∀ a p, r = .ok (a, p) → a.allowed = false ∧ p = .ok) : Settles I (post tx) tx r w₁ := by
  refine fun w₂ _ => ⟨h.guar_releaseLocks tx w₂, fun e _ => h.refused tx _ _ fun _ h => (nomatch h),
    fun a p v hap hv => ?_⟩
  obtain ⟨hrefused, rfl⟩ := hr a p hap
  obtain rfl := Except.ok.inj hv
  exact ⟨h.guar_releaseLocks tx w₂, h.refused tx _ _ fun a' ha' => Except.ok.inj ha' ▸ hrefused⟩

/-- What was decided under the lock is committed under it. -/
private theorem ConsumerSpec.settles_fits (h : ConsumerSpec w₀ I post params) {tx : TxId}
    {found : SubscriptionWithPlan} {w₁ w : World}
    (hw : LockedSince I tx found.subscription.id w₁ w)
    {r : Except Err (AuthorizeUsageResponse × Pending)}
    (hr : ∀ a p, r = .ok (a, p) → Fits I (post tx) tx (params tx) found w₁ a p) :
    Settles I (post tx) tx r w := by
  refine fun w₂ hrely => ⟨h.guar_releaseLocks tx w₂, fun e _ => h.refused tx _ _ fun _ h =>
    (nomatch h),
    fun a p v hap hv => ?_⟩
  have hw₂ := (stable_lockedSince I tx _ w₁).rely w w₂ hw hrely
  -- a refusal commits nothing; a granted consumption commits its usage under the lock
  rcases hr a p hap with ⟨hrefused, rfl⟩ | ⟨aggregatedAt, uuid, rfl, hfits⟩
  · obtain rfl := Except.ok.inj hv
    exact ⟨h.guar_releaseLocks tx w₂, h.refused tx _ _ fun a' ha' => Except.ok.inj ha' ▸ hrefused⟩
  · obtain ⟨hI, hpost⟩ := hfits w₂ v hw₂ hv
    refine ⟨⟨fun _ => h.release v tx hI, fun id tx' hne hlock => ?_, fun id => ?_⟩, hpost⟩
    · obtain ⟨_, _, _, -, -, rfl⟩ := recordUsage_eq_ok hv
      exact mem_releaseLocks.mpr ⟨hlock, hne⟩
    -- the usage recorded is the locked row's, so the other ledgers are as they were
    · by_cases hid : found.subscription.id = id
      · exact .inl (hid ▸ hw₂.2.1)
      · exact .inr (ledger_recordUsage hv hid)

/-- A consuming transaction among others that keep the invariant keeps it. -/
theorem ConsumerSpec.sat (h : ConsumerSpec w₀ I post params) (tx : TxId) {w : World} (hw : I w) :
    Sat (ledgerContract I tx) (post tx) (authorizeUsageWithConsumption tx (params tx)) w := by
  refine sat_runTransaction ?_
  refine (sat_bind _ _ _ w).mpr ?_
  -- the subscription that the query finds is a row of the tables
  have hquery := txSat_query (p := .ok) (stable_inv I tx)
    (f := fun w => w.findAuthorizableSubscription (params tx).userId (params tx).productId
      (params tx).occurredAt)
    (Q := fun found p => p = .ok ∧ ∀ f, found = some f → f.subscription ∈ w₀.subscriptions.rows ∧
      w₀.plans.find? f.subscription.planId = some f.plan)
    fun w v hw hv => ⟨rfl, fun f hf => by
      obtain rfl := Except.ok.inj hv
      obtain ⟨hmem, hplan⟩ := findAuthorizableSubscription_eq_some hf
      rw [h.plans w hw] at hplan
      rw [← h.subscriptions w hw]
      exact ⟨List.mem_of_mem_filter hmem, hplan⟩⟩
  refine (hquery w hw).mono fun r w₁ ⟨hw₁, hr, _⟩ => ?_
  cases r with
  | error e => exact h.settles_refused fun _ _ h => nomatch h
  | ok ap =>
    obtain ⟨found, p⟩ := ap
    obtain ⟨rfl, hfound⟩ := hr _ _ rfl
    have hrefused : Sat (ledgerContract I tx) (Settles I (post tx) tx)
        ((pure (noActiveSubscription (params tx)) : TxM AuthorizeUsageResponse) .ok) w₁ := by
      refine (sat_pure _ w₁).mpr (h.settles_refused fun a p h => ?_)
      obtain ⟨rfl, rfl⟩ := Prod.mk.inj (Except.ok.inj h)
      exact ⟨rfl, rfl⟩
    cases found with
    | none => exact hrefused
    | some found =>
      obtain ⟨hmem, hplanFound⟩ := hfound found rfl
      cases hfoundWindow : getUsageWindow found.subscription (params tx).occurredAt with
      | none =>
        simp only [consumeFound, hfoundWindow, Option.isNone_none, if_true]
        exact hrefused
      | some foundWindow =>
        simp only [consumeFound, hfoundWindow, Option.isNone_some, Bool.false_eq_true, if_false]
        refine (sat_bind _ _ _ w₁).mpr ?_
        -- its row is locked before the window is summed
        have hlock := sat_selectForUpdate (p := .ok) tx found.subscription.id
          (fun w => I w ∧ (found.subscription.id, tx) ∈ w.subscriptionLocks)
          (stable_inv I tx) (fun w env hw hperm => by
            have hw' := h.lock w tx found.subscription.id hw hperm
            exact ⟨⟨fun _ => hw', fun _ _ _ h => mem_lockSubscription.mpr (.inr h), fun _ =>
              .inr rfl⟩,
              hw', mem_lockSubscription.mpr (.inl ⟨rfl, rfl⟩)⟩) hw₁
        refine hlock.mono fun r w₂ hr => ?_
        cases r with
        | error e => exact h.settles_refused fun _ _ h => nomatch h
        | ok up =>
          obtain ⟨_, p⟩ := up
          obtain ⟨⟨hw₂, hheld⟩, rfl⟩ := hr
          -- under the lock the sum and the write meet one ledger
          have hfits := h.fits tx found foundWindow w₂ hw₂ hmem hplanFound hfoundWindow
          exact (hfits w₂ ⟨hw₂, hheld, rfl⟩).mono fun r w₃ ⟨hw₃, hr, _⟩ => h.settles_fits hw₃ hr

/-- The contracts of consuming transactions fit together. -/
theorem ConsumerSpec.compatible (h : ConsumerSpec w₀ I post params) :
    Compatible readCommitted (fun (_ : Pool TxId World Env Err AuthorizeUsageResponse) _ => True)
      (fun tx => authorizeUsageWithConsumption tx (params tx)) (ledgerContract I) post I where
  start_sat := fun tx _ hw => h.sat tx hw
  permits := fun _ _ _ _ h => h
  guar_inv := fun _ _ _ hw hguar => hguar.1 hw
  guar_rely := fun _ t _ _ hw _ _ hguar u hne _ =>
    ⟨hguar.1, fun id hlock => ⟨hguar.2.1 id u hne hlock,
      -- `t` does not hold a lock that `u` holds
      (hguar.2.2 id).resolve_left fun ht => hne (h.exclusive _ hw id u t hlock ht)⟩⟩
  stop_inv := fun t w hw => h.release w t hw
  stop_rely := fun _ t _ _ _ _ hne _ =>
    ⟨fun hw => h.release _ t hw, fun _ hlock => ⟨mem_releaseLocks.mpr ⟨hlock, hne⟩, rfl⟩⟩

end Rule

/-! ### The quota -/

/-- The state of a quota that holds: the subscriptions and plans are those of `w₀`, the
    ledger is exact, and the usage of `row` in its window is within its plan's quota. -/
structure WithinQuota (w₀ : World) (row : Subscription) (plan : Plan) (usageWindow : UsageWindow)
    (w : World) : Prop where
  subscriptions : w.subscriptions = w₀.subscriptions
  plans : w.plans = w₀.plans
  aggregatesExact : w.AggregatesExact
  exclusive : w.LocksExclusive
  bound : w.usageIn row.id usageWindow.gte usageWindow.lt ≤ plan.quotaRequests

section Quota

variable {w₀ : World} {row : Subscription} {plan : Plan} {usageWindow : UsageWindow}

/-- Usage that stays within the bound keeps the quota. -/
theorem WithinQuota.recordUsage {w w' : World} (h : WithinQuota w₀ row plan usageWindow w)
    {input : UsageRecordWriteInput} {aggregatedAt : Int} {uuid : Id}
    (hw' : w.recordUsage input aggregatedAt uuid = .ok w')
    (hbound : w'.usageIn row.id usageWindow.gte usageWindow.lt ≤ plan.quotaRequests) :
    WithinQuota w₀ row plan usageWindow w' := by
  have hexact := recordUsage_aggregatesExact h.aggregatesExact hw'
  obtain ⟨_, _, _, -, -, rfl⟩ := recordUsage_eq_ok hw'
  exact ⟨h.subscriptions, h.plans, hexact, h.exclusive, hbound⟩

/-- The answer of a consuming transaction that granted usage of `row` at its commit. -/
def TellsTotal (row : Subscription) (plan : Plan) (usageWindow : UsageWindow)
    (r : Except Err AuthorizeUsageResponse) (w : World) : Prop :=
  ∀ response, r = .ok response → response.allowed = true →
    response.subscriptionId = some row.id →
    response.usedRequests = some (w.usageIn row.id usageWindow.gte usageWindow.lt) ∧
    response.remainingRequests =
      some (plan.quotaRequests - w.usageIn row.id usageWindow.gte usageWindow.lt)

variable {t₀ : Int} (hrow : w₀.subscriptions.find? row.id = some row)
  (hplan : w₀.plans.find? row.planId = some plan) (hover : plan.allowOverage = false)
  (hwindow : getUsageWindow row t₀ = some usageWindow)
include hrow hplan hover hwindow

/-- A grant that was decided under the lock still fits when it is committed. -/
private theorem fits_decided {tx : TxId} {params : ConsumptionParams} {found : SubscriptionWithPlan}
    {foundWindow : UsageWindow} (hmem : found.subscription ∈ w₀.subscriptions.rows)
    (hfound : w₀.plans.find? found.subscription.planId = some found.plan)
    (hfoundWindow : getUsageWindow found.subscription params.occurredAt = some foundWindow)
    {w₁ : World} {a : AuthorizeUsageResponse} {p : Pending}
    (hdecided : Decided params found foundWindow
      (w₁.usageIn found.subscription.id foundWindow.gte foundWindow.lt) a p) :
    Fits (WithinQuota w₀ row plan usageWindow) (TellsTotal row plan usageWindow) tx params found w₁
      a p := by
  rcases hdecided with hrefused |
    ⟨⟨aggregatedAt, uuid, rfl⟩, hquota, -, hsub, -, -, hused, hremaining⟩
  · exact .inl hrefused
  refine .inr ⟨aggregatedAt, uuid, rfl, fun w v ⟨hw, hlock, hledger⟩ hv => ?_⟩
  have husage := recordUsage_usageIn hv row.id usageWindow.gte usageWindow.lt
  -- a grant for `row` adds to its total, which is still the one that was checked
  have hgranted : found.subscription.id = row.id →
      found.plan = plan ∧ foundWindow = usageWindow ∧
        v.usageIn row.id usageWindow.gte usageWindow.lt =
          w₁.usageIn row.id usageWindow.gte usageWindow.lt + params.requestCount := by
    intro hid
    obtain hsame : found.subscription = row :=
      Table.eq_of_key_eq hmem (Table.mem_of_find? hrow) hid
    rw [hsame] at hfound hfoundWindow hledger
    obtain rfl := Option.some.inj (hplan.symm.trans hfound)
    obtain rfl := getUsageWindow_unique hwindow hfoundWindow
    obtain ⟨-, -, hge, hlt⟩ := getUsageWindow_eq_some_iff.mp hfoundWindow
    rw [if_pos ⟨hid, hge, hlt⟩, usageIn_eq_of_ledger hledger] at husage
    exact ⟨rfl, rfl, husage⟩
  have hbound : v.usageIn row.id usageWindow.gte usageWindow.lt ≤ plan.quotaRequests := by
    by_cases hid : found.subscription.id = row.id
    · obtain ⟨hsamePlan, rfl, htotal⟩ := hgranted hid
      rw [htotal, ← hsamePlan, ← hid]
      exact hquota (hsamePlan ▸ hover)
    · rw [husage, if_neg fun h => hid h.1, add_zero]
      exact hw.bound
  refine ⟨hw.recordUsage hv hbound, fun response hresponse _ hid => ?_⟩
  obtain rfl := Except.ok.inj hresponse
  obtain ⟨hsamePlan, rfl, htotal⟩ := hgranted (Option.some.inj (hsub.symm.trans hid))
  have hid : found.subscription.id = row.id := Option.some.inj (hsub.symm.trans hid)
  rw [hid, ← htotal] at hused hremaining
  rw [hsamePlan, max_eq_right (by omega)] at hremaining
  exact ⟨hused, hremaining⟩

/-- Consuming transactions keep the quota, and tell the total. -/
private theorem consumerSpec_withinQuota (params : TxId → ConsumptionParams) :
    ConsumerSpec w₀ (WithinQuota w₀ row plan usageWindow)
      (fun _ => TellsTotal row plan usageWindow) params where
  subscriptions := fun _ hw => hw.subscriptions
  plans := fun _ hw => hw.plans
  exclusive := fun _ hw => hw.exclusive
  lock := fun _ _ _ hw hperm =>
    ⟨hw.subscriptions, hw.plans, hw.aggregatesExact,
      LocksExclusive.lockSubscription hw.exclusive hperm, hw.bound⟩
  release := fun _ _ hw =>
    ⟨hw.subscriptions, hw.plans, hw.aggregatesExact,
      LocksExclusive.releaseLocks hw.exclusive, hw.bound⟩
  refused := fun _ _ _ hr a ha hallowed => nomatch (hr a ha).symm.trans hallowed
  fits := fun tx found foundWindow w₁ hw₁ hmem hfound hfoundWindow => by
    have hstable := stable_lockedSince (WithinQuota w₀ row plan usageWindow) tx
      found.subscription.id w₁
    -- the window is summed under the lock, so the sum is the usage that stands
    have hsum := txSat_sumUsageForWindow hstable (fun w hw => hw.2.2)
      (s := foundWindow.gte) (e := foundWindow.lt)
      (Q := fun n p => n = w₁.usageIn found.subscription.id foundWindow.gte foundWindow.lt ∧
        p = .ok) hw₁.aggregatesExact ⟨rfl, rfl⟩
    have hrate : TxSat (ledgerContract (WithinQuota w₀ row plan usageWindow) tx)
        (LockedSince (WithinQuota w₀ row plan usageWindow) tx found.subscription.id w₁)
        (sumRateLimitUsage found.subscription.id
          (getRateLimitWindowStart (params tx).occurredAt foundWindow.gte)
            (params tx).occurredAt) .ok
        fun _ p => True ∧ p = .ok := txSat_query hstable fun _ _ _ _ => ⟨trivial, rfl⟩
    refine (txSat_consumeLocked hstable (params tx) found foundWindow hsum hrate).mono ?_
    rintro a p ⟨_, rfl, hdecided, -⟩
    exact fits_decided hrow hplan hover hwindow hmem hfound hfoundWindow hdecided

/-- The quota of a plan without overage holds in every state that concurrent consuming
    transactions reach, and a grant tells the total that its commit leaves behind. -/
theorem quota_not_overrun (hexact : w₀.AggregatesExact) (hlocks : w₀.LocksExclusive)
    (hquota : w₀.usageIn row.id usageWindow.gte usageWindow.lt ≤ plan.quotaRequests)
    (params : TxId → ConsumptionParams) {P : Pool TxId World Env Err AuthorizeUsageResponse}
    (hreach : Reach readCommitted (fun _ _ => True)
      ⟨fun tx => authorizeUsageWithConsumption tx (params tx), w₀⟩ P) :
    P.state.usageIn row.id usageWindow.gte usageWindow.lt ≤ plan.quotaRequests ∧
      ∀ tx env P' r, P.next readCommitted (.run tx env) = some P' → P'.threads tx = .done r →
        TellsTotal row plan usageWindow r P'.state := by
  have hc := (consumerSpec_withinQuota hrow hplan hover hwindow params).compatible
  have h₀ : WithinQuota w₀ row plan usageWindow w₀ := ⟨rfl, rfl, hexact, hlocks, hquota⟩
  exact ⟨(hc.sound h₀ hreach).inv.bound,
    fun tx env P' r hnext hr => hc.post_of_finish h₀ hreach hnext hr⟩

end Quota

/-! ### Two transactions that would fit one by one -/

/-- Every transaction asks for 7 requests of the sample quota of 10. -/
def sampleConsumption (_ : TxId) : ConsumptionParams :=
  ⟨"key", "buyer", "product", "/v1", 7, 50⟩

def sampleConsumers : Pool TxId World Env Err AuthorizeUsageResponse :=
  ⟨fun tx => authorizeUsageWithConsumption tx (sampleConsumption tx),
    sampleWorld (sampleSubscription .active)⟩

/-- Both read the subscription, then the first one runs to its commit, then the second. -/
def overlappingConsumption : List (Choice TxId Env Err) :=
  [.run 0 (.available 50 "r0"), .run 1 (.available 50 "r1")] ++
    List.replicate 7 (.run 0 (.available 50 "r0")) ++ List.replicate 3 (.run 1 (.available 50 "r1"))

/-- Two overlapping consumptions do not overrun the quota. -/
theorem quota_not_overrun_overlapping :
    ∃ P, runSchedule readCommitted overlappingConsumption sampleConsumers = some P ∧
      P.state.usageIn "sub" 0 100 ≤ 10 := by
  obtain ⟨P, hP⟩ := Option.isSome_iff_exists.mp
    (show (runSchedule readCommitted overlappingConsumption sampleConsumers).isSome by
      decide +kernel)
  have hrow : (sampleWorld (sampleSubscription .active)).subscriptions.find? "sub" =
      some (sampleSubscription .active) := rfl
  have hplan : (sampleWorld (sampleSubscription .active)).plans.find? "plan" = some samplePlan :=
    rfl
  have hwindow : getUsageWindow (sampleSubscription .active) 50 = some ⟨0, 100⟩ := rfl
  have hkept := quota_not_overrun hrow hplan rfl hwindow (fun _ => rfl)
    (fun _ _ _ h => absurd h List.not_mem_nil) (by decide) sampleConsumption
    (reach_runSchedule _ .init hP)
  exact ⟨P, hP, hkept.1⟩

end HivePoint
