import HivePoint.ForStd.SlidingWindow
import HivePoint.Spec.Quota

/-!
# The requests per minute of a plan

A consuming transaction sums the records of the minute that ends at its own `occurredAt`.
The row lock keeps that sum right until the commit, but records whose `occurredAt` lies
after it are not in the sum, even when they share a minute with it.

## Key results

- `consumerSpec_rateLimited`: what consuming transactions keep of the rate limit
- `rateLimit_slidingWindow`: the limit holds in every window of a minute while no
  consumption is committed with a stamp before an earlier one of the same minute
-/

namespace HivePoint

open Prog Pool GroupedSum SlidingWindow

/-! ### The consumed requests of a minute -/

/-- `RATE_LIMIT_WINDOW_SECONDS * 1000` -/
def rateLimitWindow : Int := rateLimitWindowSeconds * 1000

/-- The records of a subscription that were committed since `w₀`, in the order of their
    commits. Records are only added, at the end of the table. -/
def World.consumedSince (w₀ w : World) (subscriptionId : Id) : List UsageRecord :=
  (w.usageRecords.rows.drop w₀.usageRecords.rows.length).filter (·.subscriptionId = subscriptionId)

/-- The requests that these records hold in the minute from `x` on, both ends included. -/
def consumedInMinute (consumed : List UsageRecord) (x : Int) : Int :=
  windowTotal (·.occurredAt) (·.requestCount) rateLimitWindow x consumed

/-- No record was committed whose `occurredAt` lies in the minute before that of an earlier
    one. -/
def StampsInOrder (consumed : List UsageRecord) : Prop :=
  InOrder (·.occurredAt) rateLimitWindow consumed

instance (consumed : List UsageRecord) : Decidable (StampsInOrder consumed) :=
  inferInstanceAs (Decidable (InOrder _ _ _))

/-- The records of a subscription are those of `w₀`, then those committed since. -/
private theorem sumRecords_eq_of_append {w₀ w : World} {new : List UsageRecord}
    (h : w.usageRecords.rows = w₀.usageRecords.rows ++ new) (subscriptionId : Id)
    (p : UsageRecord → Bool) :
    w.sumRecords subscriptionId p = w₀.sumRecords subscriptionId p +
      sumWhere (·.requestCount) p (w₀.consumedSince w subscriptionId) := by
  have hsince : w₀.consumedSince w subscriptionId =
      new.filter (·.subscriptionId = subscriptionId) := by
    rw [World.consumedSince, h, List.drop_left]
  rw [hsince]
  simp only [World.sumRecords, sumRequestCount, sumWhere, h, List.filter_append, List.map_append,
    List.sum_append, List.filter_filter, Bool.and_comm]

/-! ### What consuming transactions keep -/

/-- The state of a rate limit of `rateLimitRpm` that holds as far as the stamps are in order:
    the subscriptions and plans are those of `w₀`, and records were only added. -/
structure RateLimited (w₀ : World) (row : Subscription) (rateLimitRpm : Int) (w : World) :
    Prop where
  subscriptions : w.subscriptions = w₀.subscriptions
  plans : w.plans = w₀.plans
  exclusive : w.LocksExclusive
  appended : ∃ new, w.usageRecords.rows = w₀.usageRecords.rows ++ new
  consumed : ∀ r ∈ w₀.consumedSince w row.id,
    row.currentPeriodStart.any (· ≤ r.occurredAt) ∧ 0 ≤ r.requestCount
  limit : StampsInOrder (w₀.consumedSince w row.id) →
    ∀ x, consumedInMinute (w₀.consumedSince w row.id) x ≤ rateLimitRpm

/-- A grant for `row` has added its record, as the last one. -/
def TellsRecord (w₀ : World) (row : Subscription) (params : ConsumptionParams)
    (r : Except Err AuthorizeUsageResponse) (w : World) : Prop :=
  ∀ response, r = .ok response → response.allowed = true →
    response.subscriptionId = some row.id → ∃ earlier record,
      w₀.consumedSince w row.id = earlier ++ [record] ∧
        record.occurredAt = params.occurredAt ∧ record.requestCount = params.requestCount

/-- A recording adds its record to what its subscription has consumed, and to nothing else. -/
private theorem consumedSince_recordUsage {w₀ w w' : World} {input : UsageRecordWriteInput}
    {aggregatedAt : Int} {uuid : Id} (h : w.recordUsage input aggregatedAt uuid = .ok w')
    (hw : ∃ new, w.usageRecords.rows = w₀.usageRecords.rows ++ new) (subscriptionId : Id) :
    w₀.consumedSince w' subscriptionId = w₀.consumedSince w subscriptionId ++
      if input.subscriptionId = subscriptionId then [newUsageRecord input aggregatedAt
        uuid] else [] := by
  obtain ⟨new, hnew⟩ := hw
  obtain ⟨records, _, _, hrecords, -, rfl⟩ := recordUsage_eq_ok h
  simp only [World.consumedSince, Table.insert?_rows hrecords, hnew, List.append_assoc,
    List.drop_left,
    List.filter_append, List.filter_singleton, newUsageRecord, Bool.cond_decide]

section RateLimit

variable {w₀ : World} {row : Subscription} {plan : Plan} {rateLimitRpm : Int}
  (hrow : w₀.subscriptions.find? row.id = some row)
  (hplan : w₀.plans.find? row.planId = some plan) (hrpm : plan.rateLimitRpm = some rateLimitRpm)
  (hold : ∀ r ∈ w₀.usageRecords.rows, 0 ≤ r.requestCount)
include hrow hplan hrpm hold

/-- A grant that passed its check under the lock keeps the limit when it is committed. -/
private theorem rateLimited_recordUsage {params : ConsumptionParams}
    (hpos : 0 < params.requestCount) {found : SubscriptionWithPlan} {usageWindow : UsageWindow}
    (hmem : found.subscription ∈ w₀.subscriptions.rows)
    (hfound : w₀.plans.find? found.subscription.planId = some found.plan)
    (hwindow : getUsageWindow found.subscription params.occurredAt = some usageWindow)
    {w v : World} {aggregatedAt : Int} {uuid : Id} (hw : RateLimited w₀ row rateLimitRpm w)
    (hv : w.recordUsage
      ⟨found.subscription.id, params.occurredAt, params.endpoint, params.requestCount, none⟩
      aggregatedAt uuid = .ok v)
    (hcheck : ∀ rpm, found.plan.rateLimitRpm = some rpm →
      (w.sumRecords found.subscription.id fun r =>
        getRateLimitWindowStart params.occurredAt usageWindow.gte ≤ r.occurredAt &&
          r.occurredAt ≤ params.occurredAt) + params.requestCount ≤ rpm) :
    RateLimited w₀ row rateLimitRpm v := by
  have hsince := consumedSince_recordUsage hv hw.appended row.id
  obtain ⟨new, hnew⟩ := hw.appended
  obtain ⟨records, _, _, hrecords, -, hveq⟩ := recordUsage_eq_ok hv
  have happended : v.usageRecords.rows = w₀.usageRecords.rows ++
      (new ++ [newUsageRecord ⟨found.subscription.id, params.occurredAt, params.endpoint,
        params.requestCount, none⟩ aggregatedAt uuid]) := by
    rw [hveq]
    simp only [Table.insert?_rows hrecords, hnew, List.append_assoc]
  have hexclusive : v.LocksExclusive := by
    rw [hveq]
    exact hw.exclusive
  have hsubscriptions : v.subscriptions = w₀.subscriptions := by
    rw [hveq]
    exact hw.subscriptions
  have hplans : v.plans = w₀.plans := by
    rw [hveq]
    exact hw.plans
  by_cases hid : found.subscription.id = row.id
  · obtain hsame : found.subscription = row :=
      Table.eq_of_key_eq hmem (Table.mem_of_find? hrow) hid
    rw [hsame] at hfound hwindow hcheck
    obtain rfl := Option.some.inj (hplan.symm.trans hfound)
    obtain ⟨hstart, -, hge, -⟩ := getUsageWindow_eq_some_iff.mp hwindow
    rw [if_pos hid] at hsince
    refine ⟨hsubscriptions, hplans, hexclusive, ⟨_, happended⟩, fun r hr => ?_, fun horder x => ?_⟩
    · rw [hsince] at hr
      rcases List.mem_append.mp hr with hr | hr
      · exact hw.consumed r hr
      · obtain rfl := List.mem_singleton.mp hr
        simp only [newUsageRecord, hstart, Option.any_some]
        exact ⟨decide_eq_true hge, hpos.le⟩
    · rw [hsince] at horder ⊢
      refine windowTotal_snoc_le (fun r hr => (hw.consumed r hr).2)
        (hw.limit horder.init) horder ?_ x
      -- the checked sum covers the records of `w₀`, and the minute cut at the period's start
      have hchecked := hcheck rateLimitRpm hrpm
      rw [sumRecords_eq_of_append hnew] at hchecked
      have hbefore : 0 ≤ w₀.sumRecords row.id fun r =>
          getRateLimitWindowStart params.occurredAt usageWindow.gte ≤ r.occurredAt &&
            r.occurredAt ≤ params.occurredAt := by
        refine List.sum_nonneg fun n hn => ?_
        obtain ⟨r, hr, rfl⟩ := List.mem_map.mp hn
        exact hold r (List.mem_of_mem_filter hr)
      have hminute : windowTotal (·.occurredAt) (·.requestCount) rateLimitWindow
          (params.occurredAt - rateLimitWindow) (w₀.consumedSince w row.id) ≤
            sumWhere (·.requestCount) (fun r =>
              decide (getRateLimitWindowStart params.occurredAt usageWindow.gte ≤ r.occurredAt) &&
                decide (r.occurredAt ≤ params.occurredAt)) (w₀.consumedSince w row.id) := by
        refine sumWhere_le_sumWhere (fun r hr => (hw.consumed r hr).2) fun r hr hin => ?_
        have hperiod := (hw.consumed r hr).1
        simp only [hstart, Option.any_some, Bool.and_eq_true, decide_eq_true_eq] at hperiod hin ⊢
        simp only [getRateLimitWindowStart, rateLimitWindow] at hin ⊢
        split <;> omega
      show windowTotal (·.occurredAt) (·.requestCount) rateLimitWindow
          (params.occurredAt - rateLimitWindow) (w₀.consumedSince w row.id) + params.requestCount ≤
        rateLimitRpm
      omega
  · rw [if_neg hid, List.append_nil] at hsince
    refine ⟨hsubscriptions, hplans, hexclusive, ⟨_, happended⟩, ?_, ?_⟩
    · rw [hsince]
      exact hw.consumed
    · rw [hsince]
      exact hw.limit

/-- Consuming transactions keep the rate limit as far as the stamps are in order, and each
    grant adds its record. -/
theorem consumerSpec_rateLimited {params : TxId → ConsumptionParams}
    (hpos : ∀ tx, 0 < (params tx).requestCount) :
    ConsumerSpec w₀ (RateLimited w₀ row rateLimitRpm) (fun tx => TellsRecord w₀ row (params tx))
      params where
  subscriptions := fun _ hw => hw.subscriptions
  plans := fun _ hw => hw.plans
  exclusive := fun _ hw => hw.exclusive
  lock := fun _ _ _ hw hperm => ⟨hw.subscriptions, hw.plans,
    LocksExclusive.lockSubscription hw.exclusive hperm, hw.appended, hw.consumed, hw.limit⟩
  release := fun _ _ hw => ⟨hw.subscriptions, hw.plans, LocksExclusive.releaseLocks hw.exclusive,
    hw.appended, hw.consumed, hw.limit⟩
  refused := fun _ _ _ hr a ha hallowed => nomatch (hr a ha).symm.trans hallowed
  fits := fun tx found usageWindow w₁ hw₁ hmem hfound hwindow => by
    -- the row is locked, so what is summed is what stands at the commit
    have hstable := stable_lockedSince (RateLimited w₀ row rateLimitRpm) tx found.subscription.id w₁
    have hsum : TxSat (ledgerContract (RateLimited w₀ row rateLimitRpm) tx)
        (LockedSince (RateLimited w₀ row rateLimitRpm) tx found.subscription.id w₁)
        (sumUsageForWindow found.subscription.id usageWindow.gte usageWindow.lt) .ok
        fun _ p => True ∧ p = .ok := txSat_sumUsageForWindow_ok hstable _ _ _ fun _ =>
          ⟨trivial, rfl⟩
    have hrate : TxSat (ledgerContract (RateLimited w₀ row rateLimitRpm) tx)
        (LockedSince (RateLimited w₀ row rateLimitRpm) tx found.subscription.id w₁)
        (sumRateLimitUsage found.subscription.id
          (getRateLimitWindowStart (params tx).occurredAt usageWindow.gte)
            (params tx).occurredAt) .ok
        -- the record is stamped with the call's instant, and the minute before it was checked
        fun n p => (n = w₁.sumRecords found.subscription.id fun r =>
          getRateLimitWindowStart (params tx).occurredAt usageWindow.gte ≤ r.occurredAt &&
            r.occurredAt ≤ (params tx).occurredAt) ∧ p = .ok := by
      refine txSat_query hstable fun w v hw hv => ⟨?_, rfl⟩
      obtain rfl := Except.ok.inj hv
      exact sumRecords_eq_of_ledger hw.2.2 _
    refine (txSat_consumeLocked hstable (params tx) found usageWindow hsum hrate).mono ?_
    rintro a p ⟨_, -, hdecided, hchecked⟩
    rcases hdecided with hrefused | ⟨⟨aggregatedAt, uuid, rfl⟩, -, hallowed, hsub, -⟩
    · exact .inl hrefused
    refine .inr ⟨aggregatedAt, uuid, rfl, fun w v ⟨hw, _, hledger⟩ hv => ?_⟩
    refine ⟨rateLimited_recordUsage hrow hplan hrpm hold (hpos tx) hmem hfound hwindow hw hv
      fun rpm h => ?_, fun response hresponse _ hid => ?_⟩
    · obtain ⟨_, rfl, hfits⟩ := hchecked rpm hallowed h
      rwa [sumRecords_eq_of_ledger hledger]
    · obtain rfl := Except.ok.inj hresponse
      have hid : found.subscription.id = row.id := Option.some.inj (hsub.symm.trans hid)
      have hsince := consumedSince_recordUsage hv hw.appended row.id
      rw [if_pos hid] at hsince
      exact ⟨_, _, hsince, rfl, rfl⟩

/-- In every state that concurrent consuming transactions reach, every window of a minute
    holds at most the plan's requests, if no consumption was committed whose `occurredAt`
    lies in the minute before that of an earlier one; and a grant has added its record. -/
theorem rateLimit_slidingWindow (hlocks : w₀.LocksExclusive) (hlimit : 0 ≤ rateLimitRpm)
    (params : TxId → ConsumptionParams) (hpos : ∀ tx, 0 < (params tx).requestCount)
    {P : Pool TxId World Env Err AuthorizeUsageResponse}
    (hreach : Reach readCommitted (fun _ _ => True)
      ⟨fun tx => authorizeUsageWithConsumption tx (params tx), w₀⟩ P) :
    (StampsInOrder (w₀.consumedSince P.state row.id) →
      ∀ x, consumedInMinute (w₀.consumedSince P.state row.id) x ≤ rateLimitRpm) ∧
      ∀ tx env P' r, P.next readCommitted (.run tx env) = some P' → P'.threads tx = .done r →
        TellsRecord w₀ row (params tx) r P'.state := by
  have hc := (consumerSpec_rateLimited hrow hplan hrpm hold hpos).compatible
  have hnone : w₀.consumedSince w₀ row.id = [] := by
    rw [World.consumedSince, List.drop_length]
    rfl
  -- nothing has been consumed at the start
  have h₀ : RateLimited w₀ row rateLimitRpm w₀ := by
    refine ⟨rfl, rfl, hlocks, ⟨[], (List.append_nil _).symm⟩, ?_, ?_⟩
    · rw [hnone]
      exact fun r hr => nomatch hr
    · rw [hnone]
      exact fun _ _ => hlimit
  exact ⟨(hc.sound h₀ hreach).inv.limit,
    fun tx env P' r hnext hr => hc.post_of_finish h₀ hreach hnext hr⟩

end RateLimit

/-! ### Stamps in the wrong order -/

/-- The sample plan with 5 requests per minute. -/
def meteredPlan : Plan := { samplePlan with rateLimitRpm := some 5, quotaRequests := 1000 }

/-- A subscription to it, with a period of 1000 seconds. -/
def meteredSubscription : Subscription :=
  { sampleSubscription .active with currentPeriodEnd := some 1000000 }

def meteredWorld : World :=
  { sampleWorld meteredSubscription with plans := .singleton meteredPlan }

/-- Every transaction asks for 5 requests: transaction 0 at 100 s, the others at `late`. -/
def meteredConsumption (late : Int) (tx : TxId) : ConsumptionParams :=
  ⟨"key", "buyer", "product", "/v1", 5, if tx = 0 then 100000 else late⟩

def meteredConsumers (late : Int) : Pool TxId World Env Err AuthorizeUsageResponse :=
  ⟨fun tx => authorizeUsageWithConsumption tx (meteredConsumption late tx), meteredWorld⟩

/-- Transaction 0 runs to its end, then transaction 1. -/
def meteredRun : List (Choice TxId Env Err) :=
  List.replicate 9 (.run 0 (.available 100000 "r0")) ++
    List.replicate 9 (.run 1 (.available 100000 "r1"))

/-- Committed second, a consumption at 50 s does not see the one at 100 s. -/
theorem not_rateLimit_slidingWindow :
    ¬∀ P, Reach readCommitted (fun _ _ => True) (meteredConsumers 50000) P →
      ∀ x, consumedInMinute (meteredWorld.consumedSince P.state "sub") x ≤ 5 := by
  intro h
  have hten : (runSchedule readCommitted meteredRun (meteredConsumers 50000)).map (fun P =>
      consumedInMinute (meteredWorld.consumedSince P.state "sub") 50000) = some 10 := by
    decide +kernel
  obtain ⟨P, hP, hten⟩ := Option.map_eq_some_iff.mp hten
  have hle := h P (reach_runSchedule _ .init hP) 50000
  omega

/-- At 170 s it does not share a minute with it. -/
theorem rateLimit_slidingWindow_apart :
    ∃ P, runSchedule readCommitted meteredRun (meteredConsumers 170000) = some P ∧
      (meteredWorld.consumedSince P.state "sub").length = 2 ∧
        ∀ x, consumedInMinute (meteredWorld.consumedSince P.state "sub") x ≤ 5 := by
  have hfacts : (runSchedule readCommitted meteredRun (meteredConsumers 170000)).map (fun P =>
      ((meteredWorld.consumedSince P.state "sub").length,
        decide (StampsInOrder (meteredWorld.consumedSince P.state "sub")))) = some (2, true) := by
    decide +kernel
  obtain ⟨P, hP, hfacts⟩ := Option.map_eq_some_iff.mp hfacts
  obtain ⟨hlength, horder⟩ := Prod.mk.inj hfacts
  have hrow : meteredWorld.subscriptions.find? meteredSubscription.id = some meteredSubscription :=
    rfl
  have hplan : meteredWorld.plans.find? meteredSubscription.planId = some meteredPlan := rfl
  have hkept := rateLimit_slidingWindow hrow hplan rfl (fun r hr => nomatch hr)
    (fun _ _ _ h => absurd h List.not_mem_nil) (by decide) (meteredConsumption 170000)
    (fun _ => show (0 : Int) < 5 by decide) (reach_runSchedule _ .init hP)
  exact ⟨P, hP, hlength, hkept.1 (of_decide_eq_true horder)⟩

end HivePoint
