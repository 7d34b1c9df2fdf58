import HivePoint.Spec.BillingCalls
import HivePoint.Spec.Entitlement
import HivePoint.Spec.LiveSubscriptions
import HivePoint.Spec.SettledPeriods

/-!
# The overage that the summary projects

The formula for the overage is written twice, for the dashboard and for the settlement. Both are
the price of the fewest units that cover what is used over the quota, and the settlement reads
the same usage as the summary of the period.

## Key results

- `getOverageState_eq_settlement`: the two formulas agree
- `overage_eq_price`: the price of the fewest units that cover the excess
- `exists_materialize`: a settlement that is run alone goes through if its charge fits the columns
- `projectedOverage_isCharged`: a settled Stripe invoice charges what the summary projected
- `not_projectedOverage_isCharged`: an invoice of the mock provider charges nothing
-/

namespace HivePoint

open Prog Pool

/-! ### The formula -/

/-- The dashboard projects what a settlement of the same usage charges. -/
theorem getOverageState_eq_settlement (plan : Plan) (usedRequests : Int) :
    (getOverageState plan usedRequests).overageRequests =
        (buildSettlement plan usedRequests).overageRequests ∧
      (getOverageState plan usedRequests).projectedOverageAmountCents =
        (buildSettlement plan usedRequests).amountCents := by
  unfold getOverageState buildSettlement
  cases plan.overageUnitRequests with
  | none => exact ⟨rfl, rfl⟩
  | some unit =>
    cases plan.overagePriceCents with
    | none => exact ⟨rfl, rfl⟩
    | some price =>
      dsimp only
      split <;> exact ⟨rfl, rfl⟩

/-- The quotient, rounded up, is the least number of units that cover `a`. -/
private theorem isLeast_ceilDiv (a : Int) {b : Int} (hb : 0 < b) : IsLeast {n | a ≤ n * b}
    (ceilDiv a b) := by
  unfold ceilDiv
  constructor
  · have hle : -a / b * b ≤ -a := Int.ediv_mul_le (-a) (by omega)
    show a ≤ -(-a / b) * b
    rw [Int.neg_mul]
    omega
  · intro n hn
    have hn : a ≤ n * b := hn
    have hle : -n ≤ -a / b := by
      rw [Int.le_ediv_iff_mul_le hb, Int.neg_mul]
      omega
    omega

/-- Rounding up is monotone. -/
private theorem ceilDiv_mono {a a' b : Int} (hb : 0 < b) (h : a ≤ a') :
    ceilDiv a b ≤ ceilDiv a' b :=
  (isLeast_ceilDiv a hb).2 (h.trans (isLeast_ceilDiv a' hb).1)

/-- Nothing rounds up to nothing. -/
private theorem ceilDiv_zero (b : Int) : ceilDiv 0 b = 0 := by
  rw [ceilDiv, neg_zero, Int.zero_ediv, neg_zero]

/-- So many units cover the excess if and only if the quotient is not larger. -/
theorem ceilDiv_le_iff {a b n : Int} (hb : 0 < b) : ceilDiv a b ≤ n ↔ a ≤ n * b := by
  have hleast := isLeast_ceilDiv a hb
  constructor
  · intro h
    have hcovers : a ≤ ceilDiv a b * b := hleast.1
    exact hcovers.trans (Int.mul_le_mul_of_nonneg_right h hb.le)
  · exact fun h => hleast.2 h

/-- What is not negative rounds up to what is not negative. -/
theorem ceilDiv_nonneg {a b : Int} (hb : 0 < b) (ha : 0 ≤ a) : 0 ≤ ceilDiv a b :=
  (ceilDiv_zero b).ge.trans (ceilDiv_mono hb ha)

/-- A quotient is not larger than what is divided. -/
theorem ceilDiv_le_self {a b : Int} (hb : 0 < b) (ha : 0 ≤ a) : ceilDiv a b ≤ a :=
  (ceilDiv_le_iff hb).mpr (by
    have hmul := Int.mul_le_mul_of_nonneg_left (show 1 ≤ b from hb) ha
    omega)

section Price

variable {plan : Plan} {unit price : Int}

/-- With overage, the amount is the price of the units that cover the excess. -/
theorem overage_eq_price (hallow : plan.allowOverage = true)
    (hunit : plan.overageUnitRequests = some unit) (hprice : plan.overagePriceCents = some price)
    (hpos : 0 < unit) (hpos' : 0 < price) (usedRequests : Int) :
    (getOverageState plan usedRequests).projectedOverageAmountCents =
      price * ceilDiv (max 0 (usedRequests - plan.quotaRequests)) unit := by
  unfold getOverageState
  simp only [hunit, hprice, hallow, Bool.not_true, Bool.false_or]
  split
  · rename_i hfree
    simp only [Bool.or_eq_true, decide_eq_true_eq] at hfree
    have hle : usedRequests ≤ plan.quotaRequests := by omega
    rw [max_eq_left (by omega), ceilDiv_zero, Int.mul_zero]
  · rename_i hover
    simp only [Bool.or_eq_true, decide_eq_true_eq, not_or, not_le] at hover
    rw [max_eq_right (by omega), mul_comm]

/-- More usage means no less overage. -/
private theorem overage_monotone (hallow : plan.allowOverage = true)
    (hunit : plan.overageUnitRequests = some unit) (hprice : plan.overagePriceCents = some price)
    (hpos : 0 < unit) (hpos' : 0 < price) :
    Monotone fun usedRequests =>
      (getOverageState plan usedRequests).projectedOverageAmountCents := by
  intro used used' h
  show (getOverageState plan used).projectedOverageAmountCents ≤
    (getOverageState plan used').projectedOverageAmountCents
  rw [overage_eq_price hallow hunit hprice hpos hpos',
    overage_eq_price hallow hunit hprice hpos hpos']
  have hexcess : max 0 (used - plan.quotaRequests) ≤ max 0 (used' - plan.quotaRequests) := by omega
  exact Int.mul_le_mul_of_nonneg_left (ceilDiv_mono hpos hexcess) hpos'.le

end Price

/-! ### What billing leaves alone -/

section Steps

variable {config : AppConfig} {met : World → Prop} {w w' : World}

/-- A step of billing writes the rows of users, subscriptions and invoices only. -/
theorem BillingStep.rows (h : BillingStep config met w w') :
    ∃ users subscriptions invoices stripeLog,
      w' = { w with users, subscriptions, invoices, stripeLog } := by
  -- every step writes some of these four tables only
  cases h with
  | subscribed env seen hseen userId plan periodStart periodEnd ids hplan h =>
    obtain ⟨_, _, -, -, -, -, rfl⟩ := subscribe_cases h
    exact ⟨_, _, _, _, rfl⟩
  | settled env hdb seen hseen sourceInvoiceId processedAt processed h =>
    obtain ⟨_, _, rfl⟩ := materialize_rows h
    exact ⟨_, _, _, _, rfl⟩
  | created params subscriptionId env h =>
    obtain ⟨t, -, rfl⟩ := createInvoice_eq_ok h
    exact ⟨_, _, _, _, rfl⟩
  | invoice id data hdata h =>
    obtain ⟨t, -, rfl⟩ := updateInvoice_eq_ok h
    exact ⟨_, _, _, _, rfl⟩
  | subscription id data hdata h =>
    obtain ⟨t, -, rfl⟩ := updateSubscription_eq_ok h
    exact ⟨_, _, _, _, rfl⟩
  | requested h =>
    obtain ⟨_, _, rfl⟩ := h
    exact ⟨_, _, _, _, rfl⟩

/-- A subscription keeps its plan. -/
theorem BillingStep.planId (h : BillingStep config met w w') {id : Id} {row : Subscription}
    (hrow : w.subscriptions.find? id = some row) :
    ∃ row', w'.subscriptions.find? id = some row' ∧ row'.planId = row.planId := by
  have hsame : w'.subscriptions = w.subscriptions →
      ∃ row', w'.subscriptions.find? id = some row' ∧ row'.planId = row.planId := fun h =>
    ⟨row, h ▸ hrow, rfl⟩
  -- a new subscription, a rewritten one, or none
  cases h with
  | subscribed env seen hseen userId plan periodStart periodEnd ids hplan h =>
    obtain ⟨_, _, -, -, hinsert, -, rfl⟩ := subscribe_cases h
    obtain ⟨row', hrow', rfl | heq⟩ := Table.evolves_insert?
      (R := fun _ row row' => row'.planId = row.planId) hinsert id row hrow
    · exact ⟨row', hrow', rfl⟩
    · exact ⟨row', hrow', heq⟩
  | settled env hdb seen hseen sourceInvoiceId processedAt processed h =>
    obtain ⟨row', hrow', -⟩ := materialize_subscriptions h id row hrow
    -- the row that a settlement writes keeps its owner and its plan
    obtain ⟨_, honly⟩ := onlyChanges_materialize h
    obtain ⟨old, hold, howner⟩ := honly.owner row' (Table.mem_of_find? hrow')
    have hid : old.id = id := howner.id.symm.trans (Table.key_of_find? hrow')
    obtain rfl := Option.some.inj ((Table.find?_key hold).symm.trans (hid ▸ hrow))
    exact ⟨row', hrow', howner.planId⟩
  | created params subscriptionId env h => exact hsame (createInvoice_subscriptions h)
  | invoice k data hdata h => exact hsame (updateInvoice_subscriptions h)
  | subscription k data hdata h =>
    obtain ⟨t, ht, rfl⟩ := updateSubscription_eq_ok h
    obtain ⟨row', hrow', rfl | ⟨-, rfl⟩⟩ :=
      Table.evolves_update? ht (fun row => (hdata row).id) id row hrow
    · exact ⟨row', hrow', rfl⟩
    · exact ⟨_, hrow', (hdata row).planId⟩
  | requested h =>
    obtain ⟨_, _, rfl⟩ := h
    exact hsame rfl

end Steps

/-! ### Runs of billing -/

/-- Prices are positive, and invoices are derived from settled sources. -/
structure Billable (w : World) : Prop where
  priced : PlansPriced w
  derived : ∀ o ∈ w.invoices.rows, ∀ id, o.overageSourceInvoiceId = some id →
    ∃ source, w.invoices.find? id = some source ∧ source.overageProcessedAt.isSome

/-- A step keeps what can be billed. -/
theorem Billable.step {config : AppConfig} {met : World → Prop} {w w' : World} (hw : Billable w)
    (h : BillingStep config met w w') : Billable w' := by
  refine ⟨?_, fun o ho id hid => ?_⟩
  · rw [PlansPriced, h.plans]
    exact hw.priced
  · rcases h.derived ho hid with ⟨old, hold, hid⟩ | ⟨source, hfound, -, -, hsettled⟩
    · obtain ⟨source, hfound, hsettled⟩ := hw.derived old hold id hid
      obtain ⟨source', hfound', honward⟩ := h.onward_row hfound
      exact ⟨source', hfound', honward.settled hsettled⟩
    · exact ⟨source, hfound, hsettled⟩

/-- Nothing has been derived from a source that is not settled. -/
theorem Billable.underived {w : World} (hw : Billable w) {source : Invoice}
    (hfound : w.invoices.find? source.id = some source)
    (hunprocessed : source.overageProcessedAt = none) :
    w.invoices.findBy? (·.overageSourceInvoiceId) source.id = none := by
  refine findBy?_eq_none_iff.mpr fun o ho hid => ?_
  obtain ⟨source', hfound', hsettled⟩ := hw.derived o ho source.id hid
  obtain rfl := Option.some.inj (hfound.symm.trans hfound')
  rw [hunprocessed] at hsettled
  exact nomatch hsettled

section Runs

variable {toISOString : Int → String} {config : AppConfig} {calls : Nat → BillingProcess}
  {w₀ : World} {P P' : BillingProcesses}

/-- The runs of any calls of billing next to each other. -/
abbrev BillingRun : BillingProcesses → BillingProcesses → Prop := Reach .free fun _ _ => True

/-- In every reachable state usage can be billed. -/
private theorem billable_run (hw₀ : Billable w₀)
    (hreach : BillingRun (startBilling toISOString config calls w₀) P) : Billable P.state := by
  induction hreach with
  | init => exact hw₀
  | step hreach _ hnext ih => exact ih.step (billingStep_of_next hreach hnext)

/-- Billing records no usage and moves no subscription to another plan. -/
private theorem planOf_run (hreach : BillingRun (startBilling toISOString config calls w₀) P)
    (hlater : BillingRun P P') {id : Id} {row : Subscription}
    (hrow : P.state.subscriptions.find? id = some row) :
    P'.state.usageRecords = P.state.usageRecords ∧
      P'.state.usageDailyAggregates = P.state.usageDailyAggregates ∧
      P'.state.plans = P.state.plans ∧
      ∃ row', P'.state.subscriptions.find? id = some row' ∧ row'.planId = row.planId := by
  -- induction on the later run
  induction hlater with
  | init => exact ⟨rfl, rfl, rfl, row, hrow, rfl⟩
  | step hlater _ hnext ih =>
    obtain ⟨hrecords, hbuckets, hplans, row₁, hrow₁, hplanId⟩ := ih
    have hstep := billingStep_of_next (hreach.trans hlater) hnext
    obtain ⟨row', hrow', hplanId'⟩ := hstep.planId hrow₁
    obtain ⟨_, _, _, _, heq⟩ := hstep.rows
    refine ⟨?_, ?_, ?_, row', hrow', hplanId'.trans hplanId⟩
    · rw [heq, ← hrecords]
    · rw [heq, ← hbuckets]
    · rw [heq, ← hplans]

end Runs

/-! ### The charge of a settlement -/

section Settlement

variable {env : Env} {w seen w' : World} {source : Invoice}

/-- The usage of a window is read off the records and the daily aggregates. -/
private theorem windowUsage_congr (hrecords : w'.usageRecords = w.usageRecords)
    (hbuckets : w'.usageDailyAggregates = w.usageDailyAggregates) (subscriptionId : Id)
    (s e : Int) :
    w'.windowUsage subscriptionId s e = w.windowUsage subscriptionId s e := by
  simp only [World.windowUsage, World.fullDaysUsage, World.sumBuckets, World.sumRecords,
    World.usageIn, hrecords, hbuckets]

/-- The first part of a settlement derives the charge from the source. -/
private theorem derivedSettlement_settleOverage {plan : Plan} (hpriced : PlansPriced seen)
    (hplan : plan ∈ seen.plans.rows) {usedRequests : Int}
    (hseen : seen.invoices.findBy? (·.overageSourceInvoiceId) source.id = none)
    (hnone : w.invoices.findBy? (·.overageSourceInvoiceId) source.id = none)
    (h : settleOverage env seen source plan usedRequests w = .ok w') :
    w'.derivedSettlement source.id = buildSettlement plan usedRequests := by
  rcases settleOverage_cases h with ⟨rfl, hfree⟩ | ⟨-, -, hcreate⟩
  · have hfree : ¬0 < (buildSettlement plan usedRequests).amountCents := fun h => hfree ⟨h, hseen⟩
    rw [buildSettlement_eq_zero (hpriced plan hplan).1 (hpriced plan hplan).2 hfree,
      World.derivedSettlement, hnone]
  · obtain ⟨t, ht, rfl⟩ := createInvoice_eq_ok hcreate
    simp only [World.derivedSettlement, Table.findBy?_insert? ht, hnone, Option.none_or,
      overageInvoice, if_true, Option.getD_some]

/-- A renewal or a cancellation derives no invoice. -/
private theorem derivedSettlement_rollForward {subscription : Subscription} {plan : Plan}
    (h : rollForward env source subscription plan w = .ok w') (id : Id) :
    w'.derivedSettlement id = w.derivedSettlement id := by
  have hupdate : ∀ {v v' : World} {id' : Id} {data : Subscription → Subscription},
      v.updateSubscription id' data = .ok v' → v'.derivedSettlement id =
        v.derivedSettlement id := by
    intro v v' id' data h
    rw [World.derivedSettlement, updateSubscription_invoices h, World.derivedSettlement]
  cases rollForward_cases h with
  | nothing h => rw [h]
  | canceled _ _ _ h => exact hupdate h
  | renewed _ _ _ _ w₁ hcreate h =>
    exact (hupdate h).trans (derivedSettlement_createInvoice hcreate id fun hid => by cases hid)

/-- A settlement that is carried out charges what has been used. -/
theorem Materialized.derivedSettlement {sourceInvoiceId : Id} {processedAt : Int}
    {subscription : Subscription} {plan : Plan} {usedRequests : Int} {w₁ w₂ : World}
    (h : Materialized env sourceInvoiceId processedAt w seen w' source subscription plan
      usedRequests w₁ w₂) (hpriced : PlansPriced seen)
    (hseen : seen.invoices.findBy? (·.overageSourceInvoiceId) source.id = none)
    (hnone : w.invoices.findBy? (·.overageSourceInvoiceId) source.id = none) :
    w'.derivedSettlement source.id = buildSettlement plan usedRequests := by
  rw [derivedSettlement_updateInvoice h.marked (fun _ => rfl) (fun _ => ⟨rfl, rfl, rfl⟩) source.id,
    derivedSettlement_rollForward h.rolled]
  exact derivedSettlement_settleOverage hpriced (Table.mem_of_find? h.plan_seen) hseen hnone
    h.settled

/-- A source that meets the guard is settled, unless the settlement throws. -/
private theorem materialize_processed {subscription : Subscription} {plan : Plan}
    {processedAt : Int} {processed : Bool} (hfound : seen.invoices.find? source.id = some source)
    (hsub : seen.subscriptions.find? source.subscriptionId = some subscription)
    (hplan : seen.plans.find? subscription.planId = some plan) (hkind : source.kind = .subscription)
    (hpaid : source.status = .paid) (hprovider : source.paymentProvider = .stripe)
    (hunprocessed : source.overageProcessedAt = none)
    (h : w.materializeSourceInvoice env seen source.id processedAt = .ok (processed, w')) :
    processed = true := by
  have hjoin : seen.findInvoiceWithSubscription source.id = some (source, subscription) :=
    findInvoiceWithSubscription_eq_some.mpr ⟨hfound, hsub⟩
  -- the source passes the guard, so the transaction writes
  unfold World.materializeSourceInvoice at h
  simp only [hjoin, hplan, hkind, hpaid, hprovider, hunprocessed, ne_eq, not_true_eq_false,
    decide_false, Option.isSome_none, Bool.or_false, Bool.false_eq_true, if_false] at h
  -- the five writes, one after another
  obtain ⟨_, -, h⟩ := except_bind_eq_ok.mp h
  obtain ⟨_, -, h⟩ := except_bind_eq_ok.mp h
  obtain ⟨_, -, h⟩ := except_bind_eq_ok.mp h
  obtain ⟨_, -, h⟩ := except_bind_eq_ok.mp h
  obtain ⟨_, -, h⟩ := except_bind_eq_ok.mp h
  exact (Prod.mk.inj (Except.ok.inj h)).1.symm

/-! ### A settlement that is run alone -/

/-- An invoice with a new id and no other unique column that is taken is added, if its numbers fit
    their columns. -/
private theorem exists_createInvoice {row : Invoice} (hfits : row.FitsColumns)
    (hfresh : w.invoices.find? row.id = none) (hsession : row.externalCheckoutSessionId = none)
    (hexternal : row.externalInvoiceId = none)
    (hsource : ∀ id, row.overageSourceInvoiceId = some id →
      w.invoices.findBy? (·.overageSourceInvoiceId) id = none) :
    ∃ t, w.invoices.insert? row = some t ∧ w.createInvoice row = .ok { w with invoices := t } := by
  obtain ⟨t, ht⟩ : ∃ t, w.invoices.insert? row = some t := by
    refine Table.insert?_of_fresh hfresh fun u hu v hv => ?_
    simp only [Row.uniques, List.mem_cons, List.not_mem_nil, or_false] at hu
    rcases hu with rfl | rfl | rfl
    · cases hsession.symm.trans hv
    · cases hexternal.symm.trans hv
    · exact findBy?_eq_none_iff.mp (hsource v hv)
  exact ⟨t, ht, by rw [World.createInvoice, if_neg (not_not.mpr hfits), ht]⟩

/-- A row with another id is still there. -/
private theorem find?_of_insert?_ne {t t' : Table Invoice} {row : Invoice}
    (h : t.insert? row = some t') {id : Id} (hne : id ≠ row.id) : t'.find? id = t.find? id := by
  rw [Table.find?_insert? h]
  exact if_neg hne

/-- The charge goes through if it fits its columns, and leaves the source as it is. -/
private theorem exists_settleOverage {plan : Plan} {usedRequests : Int}
    (hfits : (overageInvoice source plan (buildSettlement plan usedRequests) env.uuid
      env.now).FitsColumns) (hfresh : w.invoices.find? env.uuid = none)
    (hnone : w.invoices.findBy? (·.overageSourceInvoiceId) source.id = none) :
    ∃ t, settleOverage env w source plan usedRequests w = .ok { w with invoices := t } ∧
      ∀ id, id ≠ env.uuid → t.find? id = w.invoices.find? id := by
  unfold settleOverage
  dsimp only
  split
  · obtain ⟨t, ht, hcreate⟩ := exists_createInvoice hfits hfresh rfl rfl fun id hid => by
      obtain rfl := Option.some.inj hid
      exact hnone
    exact ⟨t, hcreate, fun id hne => find?_of_insert?_ne ht hne⟩
  · exact ⟨w.invoices, rfl, fun _ _ => rfl⟩

variable (env w source) in
/-- A renewal or a cancellation goes through, and leaves the source as it is. -/
private theorem exists_rollForward (subscription : Subscription) (plan : Plan)
    (hsub : w.subscriptions.find? subscription.id = some subscription)
    (hfresh : w.invoices.find? env.nextUuid = none) :
    ∃ w', rollForward env source subscription plan w = .ok w' ∧
      ∀ id, id ≠ env.nextUuid → w'.invoices.find? id = w.invoices.find? id := by
  have hunwritten : ∀ v : World, v.subscriptions = w.subscriptions →
      assertUnwritten (v.subscriptions.find? subscription.id) subscription = .ok () := by
    intro v hv
    rw [hv, assertUnwritten, if_pos hsub]
  unfold rollForward
  split
  · exact ⟨w, rfl, fun _ _ => rfl⟩
  · rename_i hlocal
    split
    · obtain ⟨t, -, hupdate⟩ := updateSubscription_of_kept (w := w) (fun row =>
        { row with status := .canceled, cancelAtPeriodEnd := false, gracePeriodEndsAt := none })
        hsub (fun _ => rfl) fun u hu => by
          obtain rfl : u = Subscription.externalSubscriptionId := by simpa [Row.uniques] using hu
          rfl
      refine ⟨{ w with subscriptions := t }, ?_, fun _ _ => rfl⟩
      rw [hunwritten w rfl]
      exact hupdate
    · split
      · -- the plan of a subscription that is renewed here is free
        have hprice : plan.priceCents = 0 := by
          simp only [isLocalManagedStripeSubscription, Bool.not_eq_true, Bool.not_eq_false',
            Bool.and_eq_true, decide_eq_true_eq] at hlocal
          exact hlocal.1.2
        have hfits : (renewalInvoice source plan env.nextUuid env.now).FitsColumns := by
          refine ⟨?_, fun n hn => ?_, fun n hn => ?_⟩
          · show FitsInt4 plan.priceCents
            rw [hprice]
            decide
          · cases hn
          · cases hn
        obtain ⟨t, ht, hcreate⟩ := exists_createInvoice hfits hfresh rfl rfl fun id hid => by
          cases hid
        obtain ⟨t', -, hupdate⟩ := updateSubscription_of_kept (w := { w with invoices := t })
          (fun row =>
            { row with
              status := .active
              currentPeriodStart := some source.periodEnd
              currentPeriodEnd := some (addPlanPeriod source.periodEnd plan.period)
              gracePeriodEndsAt := none }) hsub (fun _ => rfl) fun u hu => by
          obtain rfl : u = Subscription.externalSubscriptionId := by simpa [Row.uniques] using hu
          rfl
        refine ⟨{ w with invoices := t, subscriptions := t' }, ?_, fun id hne =>
          find?_of_insert?_ne ht hne⟩
        rw [hunwritten w rfl]
        simp only [bind, Except.bind, hcreate]
        exact hupdate
      · exact ⟨w, rfl, fun _ _ => rfl⟩

/-- Run alone, the settlement of a source that meets the guard goes through if its charge fits the
    columns and the ids that it generates are new. -/
theorem exists_materialize {subscription : Subscription} {plan : Plan} {usedRequests : Int}
    (hfound : w.invoices.find? source.id = some source)
    (hsub : w.subscriptions.find? source.subscriptionId = some subscription)
    (hplan : w.plans.find? subscription.planId = some plan) (hkind : source.kind = .subscription)
    (hpaid : source.status = .paid) (hprovider : source.paymentProvider = .stripe)
    (hunprocessed : source.overageProcessedAt = none)
    (hnone : w.invoices.findBy? (·.overageSourceInvoiceId) source.id = none)
    (husage : w.sumUsageForWindow env subscription.id source.periodStart source.periodEnd =
      .ok usedRequests)
    (hfits : (overageInvoice source plan (buildSettlement plan usedRequests) env.uuid
      env.now).FitsColumns) (hfresh : w.invoices.find? env.uuid = none)
    (hfresh' : w.invoices.find? env.nextUuid = none) (hne : env.nextUuid ≠ env.uuid)
    (processedAt : Int) :
    ∃ w', w.materializeSourceInvoice env w source.id processedAt = .ok (true, w') := by
  have hjoin : w.findInvoiceWithSubscription source.id = some (source, subscription) :=
    findInvoiceWithSubscription_eq_some.mpr ⟨hfound, hsub⟩
  have hid : subscription.id = source.subscriptionId := Table.key_of_find? hsub
  -- the new ids are not those of the source
  have hold : ∀ {id : Id}, w.invoices.find? id = none → source.id ≠ id := by
    rintro id hid rfl
    rw [hfound] at hid
    cases hid
  -- the charge, the renewal and the stamp go through one after another
  obtain ⟨t, hsettle, hkept⟩ := exists_settleOverage hfits hfresh hnone
  obtain ⟨w₂, hroll, hkept'⟩ := exists_rollForward env { w with invoices := t } source subscription
    plan (hid ▸ hsub) ((hkept _ hne).trans hfresh')
  have hsource : w₂.invoices.find? source.id = some source := by
    rw [hkept' _ (hold hfresh')]
    exact (hkept _ (hold hfresh)).trans hfound
  obtain ⟨t₃, -, hmark⟩ := updateInvoice_of_kept (w := w₂)
    (fun row => { row with overageProcessedAt := some processedAt }) hsource (fun _ => rfl)
    fun u hu => by
      simp only [Row.uniques, List.mem_cons, List.not_mem_nil, or_false] at hu
      rcases hu with rfl | rfl | rfl <;> rfl
  refine ⟨{ w₂ with invoices := t₃ }, ?_⟩
  unfold World.materializeSourceInvoice
  simp only [hjoin, hplan, hkind, hpaid, hprovider, hunprocessed, ne_eq, not_true_eq_false,
    decide_false, Option.isSome_none, Bool.or_false, Bool.false_eq_true, if_false, hfound,
    assertUnwritten, if_true, husage, hsettle, hroll, hmark, bind, Except.bind]

end Settlement

/-! ### What the summary projects -/

/-- The usage window of an active subscription is its current period. -/
private theorem getUsageWindow_of_active {subscription : Subscription}
    {periodStart periodEnd t : Int} (hstatus : subscription.status = .active)
    (hstart : subscription.currentPeriodStart = some periodStart)
    (hend : subscription.currentPeriodEnd = some periodEnd)
    (hin : periodStart ≤ t ∧ t < periodEnd) :
    getUsageWindow subscription t = some ⟨periodStart, periodEnd⟩ := by
  unfold getUsageWindow
  simp only [hstart, hend, hstatus]
  rw [if_neg (by omega), if_neg (by decide), if_neg (by omega)]

/-- The summary has an item for an active subscription in its current period. -/
private theorem exec_getSummary_item {env : Env} (hdb : env.dbError = none) {w : World}
    {subscription : Subscription} {found : SubscriptionWithPlan} {periodStart periodEnd : Int}
    (hsub : subscription ∈ w.subscriptions.rows) (hjoin : w.withPlan subscription = some found)
    (hstatus : subscription.status = .active)
    (hstart : subscription.currentPeriodStart = some periodStart)
    (hend : subscription.currentPeriodEnd = some periodEnd)
    (hin : periodStart ≤ env.now ∧ env.now < periodEnd)
    (localeCompare : String → String → Ordering) :
    ∃ items item, (getSummary localeCompare subscription.userId).exec env w = (.ok items, w) ∧
      item ∈ items ∧ IsSummaryOf w (found, ⟨periodStart, periodEnd⟩) item := by
  obtain ⟨items, hitems, hsummaries⟩ := exec_getSummary hdb localeCompare subscription.userId w
  have hfound := subscription_of_withPlan hjoin
  have hwindow := getUsageWindow_of_active hstatus hstart hend hin
  -- the subscription is in its period, so the summary lists it
  have hlisted : (found, ⟨periodStart, periodEnd⟩) ∈
      w.summarySubscriptions subscription.userId env.now := by
    refine mem_summarySubscriptions_iff.mpr ?_
    rw [hfound]
    exact ⟨hsub, rfl, entitled_of_getUsageWindow_isSome (.inl hstatus) (hwindow ▸ rfl),
      hjoin, hwindow⟩
  -- the item at its place in the list
  obtain ⟨i, hi, hget⟩ := List.mem_iff_getElem.mp hlisted
  obtain ⟨hlength, hall⟩ := List.forall₂_iff_get.mp hsummaries
  have hsummary := hall i hi (hlength ▸ hi)
  rw [List.get_eq_getElem, hget] at hsummary
  exact ⟨items, _, hitems, List.get_mem _ _, hsummary⟩

/-- What a settlement of the source with the snapshot `seen` charges in the state `w` is what the
    item projects. -/
def ChargesProjected (env : Env) (seen w : World) (source : Invoice) (item : UsageSummaryItem) :
    Prop :=
  ∀ processedAt processed w',
    w.materializeSourceInvoice env seen source.id processedAt = .ok (processed, w') →
      w.invoices.findBy? (·.overageSourceInvoiceId) source.id = none ∧
        item.overageState.overageRequests = (w'.derivedSettlement source.id).overageRequests ∧
        item.overageState.projectedOverageAmountCents = (w'.derivedSettlement source.id).amountCents

/-- The settlement of the source goes through when it is run alone, if what the item projects fits
    the columns of an invoice and the ids that are generated for it are new. -/
def SettlesProjected (env : Env) (w : World) (source : Invoice) (item : UsageSummaryItem) : Prop :=
  FitsInt4 item.overageState.overageRequests →
    FitsInt4 item.overageState.projectedOverageAmountCents →
    w.invoices.find? env.uuid = none → w.invoices.find? env.nextUuid = none →
    env.nextUuid ≠ env.uuid → ∀ processedAt,
      ∃ w', w.materializeSourceInvoice env w source.id processedAt = .ok (true, w')

/-- With overage, the projected amount is the price of the fewest units that cover what is used
    over the quota. -/
def ProjectsFewestUnits (plan : Plan) (item : UsageSummaryItem) : Prop :=
  ∀ unit price, plan.allowOverage = true → plan.overageUnitRequests = some unit →
    plan.overagePriceCents = some price → 0 < unit → 0 < price →
      (∃ units, IsLeast {n | max 0 (item.usedRequests - plan.quotaRequests) ≤ n * unit} units ∧
        item.overageState.projectedOverageAmountCents = price * units) ∧
      Monotone fun usedRequests => (getOverageState plan usedRequests).projectedOverageAmountCents

/-- The units are no more than the requests, so their column is wide enough too. -/
private theorem fitsColumns_of_settlement {plan : Plan}
    (hunit : ∀ n, plan.overageUnitRequests = some n → 0 < n) {usedRequests : Int}
    (hrequests : FitsInt4 (buildSettlement plan usedRequests).overageRequests)
    (hamount : FitsInt4 (buildSettlement plan usedRequests).amountCents) (source : Invoice)
    (id : Id) (now : Int) :
    (overageInvoice source plan (buildSettlement plan usedRequests) id now).FitsColumns := by
  -- no more units than requests, as a unit is at least one request
  have hunits : 0 ≤ (buildSettlement plan usedRequests).overageUnits ∧
      (buildSettlement plan usedRequests).overageUnits ≤
        (buildSettlement plan usedRequests).overageRequests := by
    unfold buildSettlement
    split
    · rename_i unit price hu _
      split
      · exact ⟨le_refl 0, le_refl 0⟩
      · rename_i hover
        simp only [Bool.or_eq_true, decide_eq_true_eq, not_or, not_le] at hover
        have hexcess : 0 ≤ usedRequests - plan.quotaRequests := by omega
        exact ⟨ceilDiv_nonneg (hunit unit hu) hexcess, ceilDiv_le_self (hunit unit hu) hexcess⟩
    · exact ⟨le_refl 0, le_refl 0⟩
  -- three columns
  refine ⟨hamount, fun n hn => ?_, fun n hn => ?_⟩
  · obtain rfl : (buildSettlement plan usedRequests).overageRequests = n := Option.some.inj hn
    exact hrequests
  · obtain rfl : (buildSettlement plan usedRequests).overageUnits = n := Option.some.inj hn
    have hle := hrequests.2
    constructor
    · omega
    · omega

section Projected

variable {toISOString : Int → String} {config : AppConfig} {calls : Nat → BillingProcess}
  {w₀ : World} {P P' P'' : BillingProcesses}

/-- Whatever the calls of billing do next to each other and after the summary: what the summary
    of an active subscription projects in the period of its paid Stripe invoice is what the
    settlement of that invoice charges, without further usage. Run alone the settlement goes
    through, if the charge fits the columns of an invoice. -/
theorem projectedOverage_isCharged (hw₀ : Billable w₀)
    (hreach : BillingRun (startBilling toISOString config calls w₀) P) (hseen : BillingRun P P')
    (hlater : BillingRun P' P'') {subscription : Subscription} {found : SubscriptionWithPlan}
    {source : Invoice} (hsub : subscription ∈ P.state.subscriptions.rows)
    (hjoin : P.state.withPlan subscription = some found) (hstatus : subscription.status = .active)
    (hstart : subscription.currentPeriodStart = some source.periodStart)
    (hend : subscription.currentPeriodEnd = some source.periodEnd)
    (hsource : source ∈ P'.state.invoices.rows) (hof : source.subscriptionId = subscription.id)
    (hkind : source.kind = .subscription) (hpaid : source.status = .paid)
    (hprovider : source.paymentProvider = .stripe) (hunprocessed : source.overageProcessedAt = none)
    {env env' : Env} (hdb : env.dbError = none) (hdb' : env'.dbError = none)
    (hin : source.periodStart ≤ env.now ∧ env.now < source.periodEnd)
    (localeCompare : String → String → Ordering) :
    ∃ items item,
      (getSummary localeCompare subscription.userId).exec env P.state = (.ok items, P.state) ∧
        item ∈ items ∧ item.subscriptionId = subscription.id ∧
        ChargesProjected env' P'.state P''.state source item ∧
        SettlesProjected env' P'.state source item ∧ ProjectsFewestUnits found.plan item := by
  obtain ⟨items, item, hitems, hitem, hsummary⟩ :=
    exec_getSummary_item hdb hsub hjoin hstatus hstart hend hin localeCompare
  have hfound := subscription_of_withPlan hjoin
  have hoverage := hsummary.overageState
  obtain ⟨hrequests, hamount⟩ := getOverageState_eq_settlement found.plan item.usedRequests
  -- what the settlement reads in its snapshot
  obtain ⟨hrecords, hbuckets, hplans, row, hrow, hplanId⟩ :=
    planOf_run hreach hseen (Table.find?_key hsub)
  have hbillable := billable_run hw₀ (hreach.trans hseen)
  have hbillable' := billable_run hw₀ ((hreach.trans hseen).trans hlater)
  have hsourceFound := Table.find?_key hsource
  have hnone := hbillable.underived hsourceFound hunprocessed
  obtain ⟨plan, hplan, hproduct⟩ := Option.bind_eq_some_iff.mp hjoin
  obtain ⟨_, -, hpair⟩ := Option.bind_eq_some_iff.mp hproduct
  obtain rfl := Option.some.inj hpair
  have hplan' : P'.state.plans.find? row.planId = some plan := by
    rw [hplans, hplanId]
    exact hplan
  have hrow' : P'.state.subscriptions.find? source.subscriptionId = some row := hof ▸ hrow
  -- it counts the usage that the summary has shown
  have husage : P'.state.sumUsageForWindow env' row.id source.periodStart source.periodEnd =
      .ok item.usedRequests := by
    have hid : row.id = subscription.id := Table.key_of_find? hrow
    rw [World.sumUsageForWindow, exec_windowUsage hdb', hid, windowUsage_congr hrecords hbuckets,
      hsummary.usedRequests]
  refine ⟨items, item, hitems, hitem, hsummary.subscriptionId.trans (hfound ▸ rfl),
    fun processedAt processed w' hmaterialize => ?_,
    fun hfits hfits' hfresh hfresh' hne processedAt => ?_,
    fun unit price hallow hunit hprice hpos hpos' => ?_⟩
  · obtain rfl := materialize_processed hsourceFound hrow' hplan' hkind hpaid hprovider
      hunprocessed hmaterialize
    rcases materialize_cases hmaterialize with
      ⟨hfalse, -⟩ | ⟨-, source', subscription', plan', usedRequests, w₁, w₂, hdone⟩
    · cases hfalse
    obtain rfl := Option.some.inj (hsourceFound.symm.trans hdone.source_seen)
    obtain rfl := Option.some.inj (hrow'.symm.trans hdone.subscription_seen)
    obtain rfl := Option.some.inj (hplan'.symm.trans hdone.plan_seen)
    obtain rfl := Except.ok.inj (husage.symm.trans hdone.usage)
    have hnone' := hbillable'.underived hdone.unwritten hunprocessed
    rw [hdone.derivedSettlement hbillable.priced hnone hnone', hoverage]
    exact ⟨hnone', hrequests, hamount⟩
  · have hunit := (hbillable.priced plan (Table.mem_of_find? hplan')).1
    rw [hoverage, hrequests] at hfits
    rw [hoverage, hamount] at hfits'
    exact exists_materialize hsourceFound hrow' hplan' hkind hpaid hprovider hunprocessed hnone
      husage (fitsColumns_of_settlement hunit hfits hfits' source env'.uuid env'.now) hfresh hfresh'
      hne processedAt
  · refine ⟨⟨_, isLeast_ceilDiv _ hpos, ?_⟩, overage_monotone hallow hunit hprice hpos hpos'⟩
    rw [hoverage]
    exact overage_eq_price hallow hunit hprice hpos hpos' _

end Projected

/-! ### Providers -/

/-- 15 requests in the sample period, of which the plan includes 10; the invoice of the period
    has been paid with the given provider. -/
def usedPeriod (paymentProvider : BillingProvider) : World :=
  { sampleBilling { sampleSubscription .active with paymentProvider }
      { sourceInvoice with paymentProvider, externalInvoiceId := none } with
    plans := .singleton overagePlan
    usageRecords := ⟨[usageAt "r1" 50], by decide⟩ }

/-- The used period can be billed. -/
private theorem billable_usedPeriod (paymentProvider : BillingProvider) :
    Billable (usedPeriod paymentProvider) := by
  refine ⟨fun plan hmem => ?_, fun o hmem id hid => ?_⟩
  · obtain rfl := List.mem_singleton.mp hmem
    exact ⟨fun n hn => Option.some.inj hn ▸ by decide, fun n hn => Option.some.inj hn ▸ by decide⟩
  · obtain rfl := List.mem_singleton.mp hmem
    exact nomatch hid

/-- The invoice of the mock provider is not settled: 5 requests are projected and none charged. -/
theorem not_projectedOverage_isCharged :
    ¬∀ (w : World) (subscription : Subscription) (found : SubscriptionWithPlan) (source : Invoice)
      (env env' : Env), Billable w → subscription ∈ w.subscriptions.rows →
        w.withPlan subscription = some found → subscription.status = .active →
        subscription.currentPeriodStart = some source.periodStart →
        subscription.currentPeriodEnd = some source.periodEnd → source ∈ w.invoices.rows →
        source.subscriptionId = subscription.id → source.kind = .subscription →
        source.status = .paid → source.overageProcessedAt = none → env.dbError = none →
        env'.dbError = none → source.periodStart ≤ env.now ∧ env.now < source.periodEnd →
        ∃ items item, (getSummary compare subscription.userId).exec env w = (.ok items, w) ∧
          item ∈ items ∧ item.subscriptionId = subscription.id ∧
          ChargesProjected env' w w source item := by
  intro h
  obtain ⟨items, item, hitems, hitem, -, hcharges⟩ := h (usedPeriod .mock)
    { sampleSubscription .active with paymentProvider := .mock }
    ⟨{ sampleSubscription .active with paymentProvider := .mock }, overagePlan, sampleProduct⟩
    { sourceInvoice with paymentProvider := .mock, externalInvoiceId := none }
    (.available 60 "u") (.available 200 "o") (billable_usedPeriod .mock)
      (List.mem_singleton.mpr rfl)
    rfl rfl rfl rfl (List.mem_singleton.mpr rfl) rfl rfl rfl rfl rfl rfl (by decide)
  -- the summary projects five requests over the quota
  have hprojected : ((getSummary compare "buyer").exec (.available 60 "u")
      (usedPeriod .mock)).1.toOption.map (·.map (·.overageState.overageRequests)) = some [5] := by
    decide +kernel
  have hfive : item.overageState.overageRequests = 5 := by
    rw [show (getSummary compare "buyer").exec (.available 60 "u") (usedPeriod .mock) =
      (.ok items, usedPeriod .mock) from hitems] at hprojected
    exact List.mem_singleton.mp (Option.some.inj hprojected ▸ List.mem_map_of_mem hitem)
  -- the settlement passes over the invoice of the mock provider
  have hzero : item.overageState.overageRequests = 0 :=
    (hcharges 200 false (usedPeriod .mock) rfl).2.1
  exact absurd (hfive.symm.trans hzero) (by decide)

/-- Paid with Stripe, the 5 requests are charged. -/
theorem projectedOverage_isCharged_stripe :
    ∃ items item,
      (getSummary compare "buyer").exec (.available 60 "u") (usedPeriod .stripe) =
          (.ok items, usedPeriod .stripe) ∧
        item ∈ items ∧ item.subscriptionId = "sub" ∧
        ChargesProjected (.available 200 "o") (usedPeriod .stripe) (usedPeriod .stripe)
          { sourceInvoice with externalInvoiceId := none } item ∧
        SettlesProjected (.available 200 "o") (usedPeriod .stripe)
          { sourceInvoice with externalInvoiceId := none } item ∧
        ProjectsFewestUnits overagePlan item := by
  have hrun : BillingRun
      (startBilling toString sampleConfig (fun _ => .collection) (usedPeriod .stripe))
      (startBilling toString sampleConfig (fun _ => .collection) (usedPeriod .stripe)) := .init
  have hsub : sampleSubscription .active ∈ (usedPeriod .stripe).subscriptions.rows :=
    List.mem_singleton.mpr rfl
  have hsource : { sourceInvoice with externalInvoiceId := none } ∈
      (usedPeriod .stripe).invoices.rows := List.mem_singleton.mpr rfl
  exact projectedOverage_isCharged (billable_usedPeriod .stripe) hrun .init .init hsub
    (show (usedPeriod .stripe).withPlan (sampleSubscription .active) =
      some ⟨sampleSubscription .active, overagePlan, sampleProduct⟩ from rfl)
    rfl rfl rfl hsource rfl rfl rfl rfl rfl rfl rfl (by decide) compare

end HivePoint
