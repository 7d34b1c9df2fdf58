import HivePoint.ForStd.Pool
import HivePoint.ForStd.Tiling
import HivePoint.Spec.OverageWorker

/-!
# Renewals of a locally managed subscription

A subscription that Stripe does not bill is renewed by the overage worker: settling an ended
period adds the paid invoice of the next one. Here overage workers, their settlements and
charges on their own, and cancellations by the buyer run next to each other in any number,
statement by statement, and the paid periods of the subscription still tile time.

## Key results

- `Tiled.step`: what one statement of any of these calls keeps.
- `renewals_tile`: the tiling after every run.
-/

namespace HivePoint

open Prog Pool

/-! ### The calls -/

inductive RenewalCall where
  | cycle
  | materialize (sourceInvoiceId : Id) (processedAt : Int)
  | collect (invoiceId : Id)
  | cancel (subscriptionId : Id) (user : AuthenticatedUser)

def RenewalCall.op (toISOString : Int → String) (config : AppConfig) : RenewalCall → Op Unit
  | .cycle => processDueOverageCollection toISOString config
  | .materialize sourceInvoiceId processedAt => do
    let _ ← materializeSourceInvoice sourceInvoiceId processedAt
  | .collect invoiceId => do
    let _ ← collectOverageInvoice toISOString config invoiceId
  | .cancel subscriptionId user => do
    let _ ← cancelSubscription subscriptionId user

abbrev RenewalCalls := Pool Nat World Env Err Unit

/-- The calls before their first statement. -/
def startRenewals (toISOString : Int → String) (config : AppConfig) (calls : Nat → RenewalCall)
    (w : World) : RenewalCalls :=
  ⟨fun n => (calls n).op toISOString config, w⟩

variable {subscriptionId : Id}

/-! ### The paid periods of a subscription -/

/-- A plan's period is not empty. -/
private theorem lt_addPlanPeriod (periodStart : Int) (period : PlanPeriod) :
    periodStart < addPlanPeriod periodStart period := by
  cases period with
  | month => exact lt_addUTCMonths_one periodStart

def isPaidPeriod (subscriptionId : Id) (invoice : Invoice) : Bool :=
  invoice.subscriptionId = subscriptionId && invoice.kind = .subscription && invoice.status = .paid

/-- The `PAID` `SUBSCRIPTION` invoices of the subscription, in the order of their creation. -/
def World.paidPeriods (w : World) (subscriptionId : Id) : List Invoice :=
  w.invoices.rows.filter (isPaidPeriod subscriptionId)

section PaidPeriods

variable {w w' : World}

/-- No two of them have the same id. -/
private theorem paidPeriods_nodup (w : World) (subscriptionId : Id) :
    ((w.paidPeriods subscriptionId).map (·.id)).Nodup :=
  w.invoices.valid.1.sublist (List.filter_sublist.map _)

/-- A new invoice is a new paid period, or no period at all. -/
private theorem paidPeriods_createInvoice {row : Invoice} (h : w.createInvoice row = .ok w') :
    w'.paidPeriods subscriptionId =
      w.paidPeriods subscriptionId ++ if isPaidPeriod subscriptionId row then [row] else [] := by
  obtain ⟨t, ht, rfl⟩ := createInvoice_eq_ok h
  show t.rows.filter _ = _
  rw [Table.insert?_rows ht, List.filter_append]
  congr 1
  cases hp : isPaidPeriod subscriptionId row
  · exact List.filter_cons_of_neg (by simp [hp])
  · exact List.filter_cons_of_pos hp

/-- A write that does not make an invoice a paid period or stop it from being one. -/
private theorem paidPeriods_updateInvoice {id : Id} {data : Invoice → Invoice}
    (h : w.updateInvoice id data = .ok w')
    (hdata : ∀ row, isPaidPeriod subscriptionId (data row) = isPaidPeriod subscriptionId row) :
    w'.paidPeriods subscriptionId = Table.modifyRows id data (w.paidPeriods subscriptionId) := by
  obtain ⟨t, ht, rfl⟩ := updateInvoice_eq_ok h
  show t.rows.filter _ = _
  rw [Table.update?_rows ht]
  exact Table.filter_modifyRows fun row _ _ => hdata row

/-- Writing an invoice that is no paid period. -/
private theorem paidPeriods_updateInvoice_other {id : Id} {data : Invoice → Invoice}
    (h : w.updateInvoice id data = .ok w')
    (hother : ∀ row, w.invoices.find? id = some row →
      isPaidPeriod subscriptionId row = false ∧ isPaidPeriod subscriptionId (data row) = false) :
    w'.paidPeriods subscriptionId = w.paidPeriods subscriptionId := by
  obtain ⟨t, ht, rfl⟩ := updateInvoice_eq_ok h
  show t.rows.filter _ = _
  rw [Table.update?_rows ht]
  exact Table.filter_modifyRows_of_unselected fun row hrow hk =>
    hother row (hk ▸ Table.find?_key hrow)

/-- The periods are read off the invoices. -/
private theorem paidPeriods_congr (h : w'.invoices = w.invoices) :
    w'.paidPeriods subscriptionId = w.paidPeriods subscriptionId := by
  rw [World.paidPeriods, h]
  rfl

end PaidPeriods

/-! ### The tiling -/

/-- The subscription is in its last period, or was canceled at the end of it. -/
def StandsAt (row : Subscription) (last : Invoice) : Prop :=
  (row.status = .active ∧ row.currentPeriodStart = some last.periodStart ∧
      row.currentPeriodEnd = some last.periodEnd ∧ last.overageProcessedAt = none) ∨
    (row.status = .canceled ∧ last.overageProcessedAt.isSome)

/-- The row of a locally managed subscription that costs nothing. -/
structure LocallyManaged (w : World) (last : Invoice) (row : Subscription) : Prop where
  plan : ∃ plan, w.plans.find? row.planId = some plan ∧ plan.priceCents = 0
  paymentProvider : row.paymentProvider = .stripe
  unbilled : truthy row.externalSubscriptionId = false
  stands : StandsAt row last

/-- The paid periods are `earlier` and then `last`, which tile time, and all but the last
    have been processed. -/
structure Tiling (subscriptionId : Id) (w : World) (earlier : List Invoice) (last : Invoice) :
    Prop where
  periods : w.paidPeriods subscriptionId = earlier ++ [last]
  tiles : Tiles (·.periodStart) (·.periodEnd) (earlier ++ [last])
  processed : ∀ a ∈ earlier, a.overageProcessedAt.isSome
  row : ∃ row, w.subscriptions.find? subscriptionId = some row ∧ LocallyManaged w last row

def Tiled (subscriptionId : Id) (w : World) : Prop :=
  ∃ earlier last, Tiling subscriptionId w earlier last

section Steps

variable {w w' : World} {earlier : List Invoice} {last : Invoice}

/-- What the tiling looks at in the row of the subscription. -/
structure SameStanding (row row' : Subscription) : Prop where
  planId : row'.planId = row.planId
  paymentProvider : row'.paymentProvider = row.paymentProvider
  externalSubscriptionId : row'.externalSubscriptionId = row.externalSubscriptionId
  status : row'.status = row.status
  currentPeriodStart : row'.currentPeriodStart = row.currentPeriodStart
  currentPeriodEnd : row'.currentPeriodEnd = row.currentPeriodEnd

/-- Steps that leave the paid periods alone and let the subscription stand where it stands. -/
private theorem Tiling.frame (h : Tiling subscriptionId w earlier last)
    (hperiods : w'.paidPeriods subscriptionId = w.paidPeriods subscriptionId)
    (hplans : w'.plans = w.plans)
    (hrow : ∀ row, w.subscriptions.find? subscriptionId = some row →
      ∃ row', w'.subscriptions.find? subscriptionId = some row' ∧ SameStanding row row') :
    Tiling subscriptionId w' earlier last := by
  refine ⟨hperiods.trans h.periods, h.tiles, h.processed, ?_⟩
  obtain ⟨row, hfound, hlocal⟩ := h.row
  obtain ⟨row', hfound', hsame⟩ := hrow row hfound
  refine ⟨row', hfound', ?_, ?_, ?_, ?_⟩
  · rw [hplans, hsame.planId]
    exact hlocal.plan
  · rw [hsame.paymentProvider]
    exact hlocal.paymentProvider
  · rw [hsame.externalSubscriptionId]
    exact hlocal.unbilled
  · rw [StandsAt, hsame.status, hsame.currentPeriodStart, hsame.currentPeriodEnd]
    exact hlocal.stands

/-- A subscription stands as it did. -/
theorem SameStanding.refl (row : Subscription) : SameStanding row row :=
  ⟨rfl, rfl, rfl, rfl, rfl, rfl⟩

/-- The invoice that a settlement adds for an overage is no paid period. -/
private theorem settleOverage_frame (subscriptionId : Id) {env : Env} {seen : World}
    {source : Invoice} {plan : Plan} {usedRequests : Int}
    (h : settleOverage env seen source plan usedRequests w = .ok w') :
    w'.paidPeriods subscriptionId = w.paidPeriods subscriptionId ∧
      w'.subscriptions = w.subscriptions ∧ w'.plans = w.plans := by
  rcases settleOverage_cases h with ⟨rfl, -⟩ | ⟨-, -, hcreate⟩
  · exact ⟨rfl, rfl, rfl⟩
  · have hperiods : w'.paidPeriods subscriptionId = _ := paidPeriods_createInvoice hcreate
    obtain ⟨t, -, rfl⟩ := createInvoice_eq_ok hcreate
    refine ⟨hperiods.trans ?_, rfl, rfl⟩
    rw [if_neg, List.append_nil]
    simp [isPaidPeriod, overageInvoice]

/-- Settling a period of another subscription. -/
private theorem Tiling.settle_other (h : Tiling subscriptionId w earlier last) {env : Env}
    {seen : World} {sourceInvoiceId : Id} {processedAt : Int} {source : Invoice}
    {subscription : Subscription} {plan : Plan} {usedRequests : Int} {w₁ w₂ : World}
    (hdone : Materialized env sourceInvoiceId processedAt w seen w' source subscription plan
      usedRequests w₁ w₂) (hother : source.subscriptionId ≠ subscriptionId) :
    Tiling subscriptionId w' earlier last := by
  obtain ⟨hperiods₁, hsubscriptions₁, hplans₁⟩ := settleOverage_frame subscriptionId hdone.settled
  have hsub := hdone.subscription_id
  have hne : subscriptionId ≠ subscription.id := fun heq => hother (hsub.symm.trans heq.symm)
  -- the renewal or cancellation of the other subscription
  have hrolled : w₂.paidPeriods subscriptionId = w₁.paidPeriods subscriptionId ∧
      w₂.subscriptions.find? subscriptionId = w₁.subscriptions.find? subscriptionId ∧
      w₂.plans = w₁.plans := by
    cases rollForward_cases hdone.rolled with
    | nothing h =>
      subst h
      exact ⟨rfl, rfl, rfl⟩
    | canceled _ _ _ h =>
      have hfind := find?_updateSubscription h (fun _ => rfl) subscriptionId
      rw [if_neg hne] at hfind
      obtain ⟨t, -, rfl⟩ := updateSubscription_eq_ok h
      exact ⟨rfl, hfind, rfl⟩
    | renewed _ _ _ _ v hcreate h =>
      have hperiods : v.paidPeriods subscriptionId = _ := paidPeriods_createInvoice hcreate
      rw [if_neg (by simp [isPaidPeriod, renewalInvoice, newInvoice, hother]), List.append_nil]
        at hperiods
      have hfind := find?_updateSubscription h (fun _ => rfl) subscriptionId
      rw [if_neg hne, createInvoice_subscriptions hcreate] at hfind
      obtain ⟨t₁, -, rfl⟩ := createInvoice_eq_ok hcreate
      obtain ⟨t₂, -, rfl⟩ := updateSubscription_eq_ok h
      exact ⟨hperiods, hfind, rfl⟩
  obtain ⟨hperiods₂, hfind₂, hplans₂⟩ := hrolled
  have hperiods₃ : w'.paidPeriods subscriptionId = w.paidPeriods subscriptionId := by
    rw [paidPeriods_updateInvoice hdone.marked fun _ => rfl, hperiods₂, hperiods₁]
    refine Table.modifyRows_eq_self fun row hrow hid' => ?_
    obtain ⟨hmem, hpaid⟩ := List.mem_filter.mp hrow
    obtain rfl := Table.eq_of_key_eq hmem (Table.mem_of_find? hdone.unwritten) hid'
    simp [isPaidPeriod, hother] at hpaid
  obtain ⟨t, -, rfl⟩ := updateInvoice_eq_ok hdone.marked
  exact h.frame hperiods₃ (hplans₂.trans hplans₁)
    fun row hrow => ⟨row, hfind₂.trans (hsubscriptions₁ ▸ hrow), .refl row⟩

/-- A period that can still be settled is the last one, and the subscription is active. -/
private theorem Tiling.eq_last (h : Tiling subscriptionId w earlier last) {source : Invoice}
    (hfound : w.invoices.find? source.id = some source)
    (hpaid : isPaidPeriod subscriptionId source = true)
    (hunprocessed : source.overageProcessedAt = none) : source = last := by
  have hmem : source ∈ earlier ++ [last] := by
    rw [← h.periods]
    exact List.mem_filter.mpr ⟨Table.mem_of_find? hfound, hpaid⟩
  rcases List.mem_append.mp hmem with hmem | hmem
  · have hprocessed := h.processed source hmem
    rw [hunprocessed] at hprocessed
    exact nomatch hprocessed
  · exact List.mem_singleton.mp hmem

/-- Settling the last period, with a snapshot that had the tiling too: the subscription is renewed
    or ends. -/
private theorem Tiling.settle_last (h : Tiling subscriptionId w earlier last) {env : Env}
    {seen : World} {sourceInvoiceId : Id} {processedAt : Int} {subscription : Subscription}
    {plan : Plan} {usedRequests : Int} {w₁ w₂ : World} (hseen : Tiled subscriptionId seen)
    (hdone : Materialized env sourceInvoiceId processedAt w seen w' last subscription plan
      usedRequests w₁ w₂) (hmine : last.subscriptionId = subscriptionId) :
    Tiled subscriptionId w' := by
  obtain ⟨hperiods₁, hsubscriptions₁, hplans₁⟩ := settleOverage_frame subscriptionId hdone.settled
  have hsub : subscription.id = subscriptionId := hdone.subscription_id.trans hmine
  -- in the snapshot the last period was the last one too, and unprocessed
  have hmanaged : isLocalManagedStripeSubscription subscription plan = true ∧
      subscription.status = .active := by
    obtain ⟨_, lastSeen, hseen⟩ := hseen
    obtain rfl : last = lastSeen := hseen.eq_last (hdone.source_id ▸ hdone.source_seen)
      (by simp [isPaidPeriod, hmine, hdone.kind, hdone.status]) hdone.unprocessed
    obtain ⟨row, hfound, hlocal⟩ := hseen.row
    obtain rfl : row = subscription := by
      have hread := hdone.subscription_seen
      rw [hmine, hfound] at hread
      exact Option.some.inj hread
    obtain ⟨plan', hplan', hfree⟩ := hlocal.plan
    obtain rfl : plan' = plan := Option.some.inj (hplan'.symm.trans hdone.plan_seen)
    rcases hlocal.stands with ⟨hstatus, -, hend, -⟩ | ⟨-, hprocessed⟩
    · exact ⟨by simp [isLocalManagedStripeSubscription, hlocal.paymentProvider, hlocal.unbilled,
        hfree, hend], hstatus⟩
    · rw [hdone.unprocessed] at hprocessed
      cases hprocessed
  obtain ⟨row, hfound, hlocal⟩ := h.row
  obtain ⟨plan', hplan', hfree⟩ := hlocal.plan
  have hmark : w'.paidPeriods subscriptionId =
      Table.modifyRows last.id (fun row => { row with overageProcessedAt := some processedAt })
        (w₂.paidPeriods subscriptionId) :=
    paidPeriods_updateInvoice hdone.marked fun _ => rfl
  have hkeep : w'.subscriptions = w₂.subscriptions ∧ w'.plans = w₂.plans := by
    obtain ⟨t, -, rfl⟩ := updateInvoice_eq_ok hdone.marked
    exact ⟨rfl, rfl⟩
  cases rollForward_cases hdone.rolled with
  | nothing _ hwhy =>
    rcases hwhy with hwhy | ⟨-, hcanceled⟩
    · rw [hmanaged.1] at hwhy
      cases hwhy
    · rw [hmanaged.2] at hcanceled
      cases hcanceled
  | canceled _ _ hcurrent hroll =>
    -- the row that is written is the one that was read
    rw [hsub, hsubscriptions₁, hfound] at hcurrent
    obtain rfl := Option.some.inj hcurrent
    have hfind := find?_updateSubscription hroll (fun _ => rfl) subscriptionId
    rw [if_pos hsub.symm, hsub, hsubscriptions₁, hfound, ← hkeep.1] at hfind
    have hperiods₂ : w₂.paidPeriods subscriptionId = earlier ++ [last] :=
      (paidPeriods_congr (updateSubscription_invoices hroll)).trans (hperiods₁.trans h.periods)
    have hnodup := paidPeriods_nodup w₂ subscriptionId
    rw [hperiods₂] at hmark hnodup
    replace hmark := hmark.trans (Table.modifyRows_middle (k := last.id) rfl hnodup)
    refine ⟨earlier, _, hmark, h.tiles.set rfl rfl, h.processed, _, hfind, ?_⟩
    refine ⟨⟨plan', ?_, hfree⟩, hlocal.paymentProvider, hlocal.unbilled, .inr ⟨rfl, rfl⟩⟩
    obtain ⟨t, -, rfl⟩ := updateSubscription_eq_ok hroll
    rw [hkeep.2]
    exact hplans₁ ▸ hplan'
  | renewed _ _ _ hcurrent v hcreate hroll =>
    rw [hsub, hsubscriptions₁, hfound] at hcurrent
    obtain rfl := Option.some.inj hcurrent
    have hfind := find?_updateSubscription hroll (fun _ => rfl) subscriptionId
    rw [if_pos hsub.symm, hsub, createInvoice_subscriptions hcreate, hsubscriptions₁, hfound,
      ← hkeep.1] at hfind
    have hperiods₂ : w₂.paidPeriods subscriptionId =
        earlier ++ [last] ++ [renewalInvoice last plan env.nextUuid env.now] := by
      rw [paidPeriods_congr (updateSubscription_invoices hroll), paidPeriods_createInvoice hcreate,
        hperiods₁, h.periods, if_pos]
      simp [isPaidPeriod, renewalInvoice, newInvoice, hmine]
    have hnodup := paidPeriods_nodup w₂ subscriptionId
    rw [hperiods₂, List.append_assoc, List.singleton_append] at hmark hnodup
    replace hmark := hmark.trans (Table.modifyRows_middle (k := last.id) rfl hnodup)
    -- the renewal starts at the end of the period and lasts a month
    have htiles := h.tiles.append (b := renewalInvoice last plan env.nextUuid env.now) rfl
      (lt_addPlanPeriod last.periodEnd plan.period)
    rw [List.append_assoc, List.singleton_append] at htiles
    refine ⟨earlier ++ [{ last with overageProcessedAt := some processedAt }],
      renewalInvoice last plan env.nextUuid env.now, ?_, ?_, ?_, _, hfind, ?_⟩
    · rw [List.append_assoc]
      exact hmark
    · rw [List.append_assoc]
      exact htiles.set rfl rfl
    · intro a ha
      rcases List.mem_append.mp ha with ha | ha
      · exact h.processed a ha
      · rw [List.mem_singleton.mp ha]
        rfl
    · refine ⟨⟨plan', ?_, hfree⟩, hlocal.paymentProvider, hlocal.unbilled,
        .inl ⟨rfl, rfl, rfl, rfl⟩⟩
      obtain ⟨t₁, -, rfl⟩ := createInvoice_eq_ok hcreate
      obtain ⟨t₂, -, rfl⟩ := updateSubscription_eq_ok hroll
      rw [hkeep.2]
      exact hplans₁ ▸ hplan'

/-! ### What a statement of any call does -/

/-- A statement of the overage worker, whose settlements have seen the tiling, or a cancellation
    by the buyer, which leaves the period of the unbilled subscription alone. -/
inductive RenewalStep (subscriptionId : Id) (w w' : World) : Prop where
  | worker (h : WorkerStep (Tiled subscriptionId) w w')
  | canceling (id : Id) (currentPeriodEnd : Option (Option Int))
      (hkept : id = subscriptionId → currentPeriodEnd = none)
      (h : w.updateSubscription id (cancelingSubscription currentPeriodEnd) = .ok w')

/-- A step may change nothing. -/
theorem RenewalStep.refl (w : World) : RenewalStep subscriptionId w w :=
  .worker (.requested (.refl w))

/-- No renewal step changes the kind of an invoice. -/
theorem RenewalStep.kindsKept {w w' : World} (h : RenewalStep subscriptionId w w') :
    KindsKept w w' := by
  cases h with
  | worker h => exact h.kindsKept
  | canceling id currentPeriodEnd hkept h => exact .of_eq (updateSubscription_invoices h)

/-- No statement makes an invoice that is there a paid period or stops it from being one. -/
theorem RenewalStep.evolves (h : RenewalStep subscriptionId w w') :
    w.invoices.Evolves w'.invoices fun _ row row' =>
      isPaidPeriod subscriptionId row' = isPaidPeriod subscriptionId row := by
  cases h with
  | canceling id currentPeriodEnd hkept h =>
    rw [updateSubscription_invoices h]
    exact .refl _
  | worker h =>
    cases h with
    | requested h =>
      obtain ⟨_, _, rfl⟩ := h
      exact .refl _
    | settled env hdb seen hseen sourceInvoiceId processedAt processed h =>
      exact (evolves_materialize h).mono fun _ _ _ _ hrow => by rw [hrow]; rfl
    | charged id hkind data hdata h =>
      obtain ⟨t, ht, rfl⟩ := updateInvoice_eq_ok h
      refine (Table.evolves_update? ht fun row => (hdata row).id).mono ?_
      rintro k row _ hfound ⟨rfl, rfl⟩
      -- an overage invoice is no paid period, before and after
      obtain ⟨row', hrow', hoverage⟩ := hkind
      obtain rfl := Option.some.inj (hfound.symm.trans hrow')
      simp [isPaidPeriod, (hdata row).kind, hoverage]

/-- Every statement of every call keeps the tiling. -/
theorem Tiled.step (hw : Tiled subscriptionId w) (h : RenewalStep subscriptionId w w') :
    Tiled subscriptionId w' := by
  obtain ⟨earlier, last, hw⟩ := hw
  -- a cancellation writes the subscription row, the worker charges, asks or settles
  cases h with
  | canceling id currentPeriodEnd hkept h =>
    have hfind := find?_updateSubscription h (fun _ => rfl) subscriptionId
    have hperiods : w'.paidPeriods subscriptionId = _ :=
      paidPeriods_congr (updateSubscription_invoices h)
    obtain ⟨t, -, rfl⟩ := updateSubscription_eq_ok h
    refine ⟨earlier, last, hw.frame hperiods rfl fun row hrow => ?_⟩
    split at hfind
    · rename_i hid
      rw [← hid, hrow] at hfind
      obtain rfl := hkept hid.symm
      -- another subscription's row does not matter here
      exact ⟨_, hfind, rfl, rfl, rfl, rfl, rfl, rfl⟩
    · exact ⟨row, hfind.trans hrow, .refl row⟩
  | worker h =>
    cases h with
    | charged id hkind data hdata h =>
      have hperiods : w'.paidPeriods subscriptionId = _ :=
        paidPeriods_updateInvoice_other h fun row hrow => by
          obtain ⟨row', hrow', hoverage⟩ := hkind
          obtain rfl := Option.some.inj (hrow.symm.trans hrow')
          simp [isPaidPeriod, (hdata row).kind, hoverage]
      obtain ⟨t, -, rfl⟩ := updateInvoice_eq_ok h
      exact ⟨earlier, last, hw.frame hperiods rfl fun row hrow => ⟨row, hrow, .refl row⟩⟩
    | requested h =>
      obtain ⟨_, _, rfl⟩ := h
      exact ⟨earlier, last, hw.frame rfl rfl fun row hrow => ⟨row, hrow, .refl row⟩⟩
    | settled env hdb seen hseen sourceInvoiceId processedAt processed h =>
      rcases materialize_cases h with
        ⟨-, rfl⟩ | ⟨-, source, subscription, plan, usedRequests, w₁, w₂, hdone⟩
      · exact ⟨earlier, last, hw⟩
      -- the source may be of this subscription, and is then its last period
      by_cases hmine : source.subscriptionId = subscriptionId
      · obtain rfl := hw.eq_last hdone.unwritten
          (by simp [isPaidPeriod, hmine, hdone.kind, hdone.status]) hdone.unprocessed
        exact hw.settle_last hseen hdone hmine
      · exact ⟨earlier, last, hw.settle_other hdone hmine⟩

end Steps

/-! ### Every step of every run -/

/-- The calls rely on invoices keeping their kind and on the tiling. -/
def renewalContract (subscriptionId : Id) : Contract World Env where
  permits _ _ _ := True
  rely w w' := KindsKept w w' ∧ (Tiled subscriptionId w → Tiled subscriptionId w')
  guar := RenewalStep subscriptionId
  rely_refl _ := ⟨.of_eq rfl, id⟩
  rely_trans h₁ h₂ := ⟨h₁.1.trans h₂.1, h₂.2 ∘ h₁.2⟩

/-- Stripe does not bill the subscription of a tiling. -/
private theorem Tiled.unbilled {w : World} (hw : Tiled subscriptionId w) {row : Subscription}
    (hrow : w.subscriptions.find? subscriptionId = some row) :
    truthy row.externalSubscriptionId = false := by
  obtain ⟨earlier, last, hw⟩ := hw
  obtain ⟨row', hrow', hlocal⟩ := hw.row
  obtain rfl := Option.some.inj (hrow.symm.trans hrow')
  exact hlocal.unbilled

/-- The tiling is kept by what the others do. -/
private theorem stable_tiled : Stable (renewalContract subscriptionId) (Tiled subscriptionId) :=
  ⟨fun _ _ hw h => h.2 hw, fun w _ => RenewalStep.refl w⟩

/-- A cancellation by the buyer asks Stripe about a billed subscription only. -/
private theorem sat_cancelSubscription (id : Id) (user : AuthenticatedUser) {w : World}
    (hw : Tiled subscriptionId w) :
    (cancelSubscription id user).Sat (renewalContract subscriptionId) (fun _ _ => True) w := by
  refine (sat_bind _ _ _ w).mpr (sat_read stable_tiled hw (fun w₁ hw₁ => ?_) fun _ _ _ => trivial)
  cases hfound : w₁.subscriptions.find? id with
  | none => trivial
  | some row =>
    dsimp only
    split
    · trivial
    · refine (sat_bind _ _ _ w₁).mpr ?_
      have hschedule : (scheduleCancellation row).Sat (renewalContract subscriptionId)
          (fun r w' => Tiled subscriptionId w' ∧
            ∀ currentPeriodEnd, r = .ok currentPeriodEnd → id = subscriptionId →
              currentPeriodEnd = none) w₁ := by
        by_cases hid : id = subscriptionId
        · -- Stripe does not bill the subscription that was read
          subst hid
          rw [scheduleCancellation, hw₁.unbilled hfound, Bool.and_false, if_neg Bool.false_ne_true]
          exact ⟨hw₁, fun _ h _ => (Except.ok.inj h).symm⟩
        · refine ((onlyRequests_scheduleCancellation row).sat stable_tiled.rely
            (fun w₂ w₃ _ hw₂ _ h => ⟨.worker (.requested h),
              hw₂.step (.worker (.requested h))⟩) hw₁).mono
                fun r w' hw' => ⟨hw', fun _ _ heq => absurd heq hid⟩
      refine hschedule.mono fun r w₂ hw₂ => ?_
      cases r with
      | error e => trivial
      | ok currentPeriodEnd =>
        refine (sat_bind _ _ _ w₂).mpr (sat_updateSubscription stable_tiled hw₂.1
          (fun w₃ v _ h => ⟨.canceling id currentPeriodEnd (hw₂.2 _ rfl) h, trivial⟩)
          fun _ _ _ => trivial)

section Calls

variable {toISOString : Int → String} {config : AppConfig} {calls : Nat → RenewalCall} {w₀ : World}

/-- Every renewal call keeps the tiling. -/
private theorem sat_renewalCall (call : RenewalCall) {w : World} (hw : Tiled subscriptionId w) :
    (call.op toISOString config).Sat (renewalContract subscriptionId) (fun _ _ => True) w := by
  have hrely : ∀ w w', (renewalContract subscriptionId).rely w w' → KindsKept w w' :=
    fun _ _ h => h.1
  have hguar : ∀ w w', WorkerStep (Tiled subscriptionId) w w' →
      (renewalContract subscriptionId).guar w w' := fun _ _ h => RenewalStep.worker h
  have hkept : ∀ w w', Tiled subscriptionId w → (renewalContract subscriptionId).rely w w' →
      Tiled subscriptionId w' := fun _ _ hw h => h.2 hw
  cases call with
  | cycle =>
    exact (sat_processDueOverageCollection hrely hguar hkept (fun _ _ hw h => hw.step h)
      toISOString config hw).mono fun _ _ _ => trivial
  | materialize sourceInvoiceId processedAt =>
    refine (sat_bind _ _ _ w).mpr ?_
    refine (sat_materializeSourceInvoice hguar hkept _ _ hw).mono fun r _ _ => ?_
    cases r <;> trivial
  | collect invoiceId =>
    refine (sat_bind _ _ _ w).mpr ?_
    refine (sat_collectOverageInvoice hrely hguar toISOString config _ w).mono fun r _ _ => ?_
    cases r <;> trivial
  | cancel id user =>
    refine (sat_bind _ _ _ w).mpr ?_
    refine (sat_cancelSubscription id user hw).mono fun r _ _ => ?_
    cases r <;> trivial

/-- Whatever the calls and the order of their statements, every step is a `RenewalStep`. -/
theorem renewalStep_of_next (hw₀ : Tiled subscriptionId w₀) {P P' : RenewalCalls}
    (hreach : Reach .free (fun _ _ => True) (startRenewals toISOString config calls w₀) P)
    {c : Choice Nat Env Err} (hnext : P.next .free c = some P') :
    RenewalStep subscriptionId P.state P'.state := by
  have hcompatible : Compatible .free
      (fun (_ : RenewalCalls) (_ : Choice Nat Env Err) => True)
      (fun n => (calls n).op toISOString config) (fun _ => renewalContract subscriptionId)
      (fun _ _ _ => True) (Tiled subscriptionId) :=
    .of_same (fun n w hw => sat_renewalCall (calls n) hw) (fun _ _ _ _ _ => trivial)
      (fun _ _ h => ⟨h.kindsKept, fun hw => hw.step h⟩) (fun _ _ hw h => h.2 hw)
      fun _ w => (renewalContract subscriptionId).rely_refl w
  cases c with
  | run n env => exact hcompatible.guar_of_next hw₀ hreach hnext
  | stop n e =>
    obtain ⟨-, rfl⟩ := next_stop_cases hnext
    exact .refl P.state

end Calls

/-! ### Processing -/

/-- The invoice has been processed. -/
def IsProcessed (id : Id) (w : World) : Prop :=
  ∃ row, w.invoices.find? id = some row ∧ row.overageProcessedAt.isSome

/-- The step settles the invoice. -/
def Processes (id : Id) (w w' : World) : Prop :=
  ∃ env seen processedAt, w.materializeSourceInvoice env seen id processedAt = .ok (true, w')

section Processing

variable {w w' : World} {id : Id}

/-- Whether an invoice is processed is read off the invoices. -/
private theorem isProcessed_congr (h : w'.invoices = w.invoices) : IsProcessed id w' ↔
    IsProcessed id w := by
  rw [IsProcessed, IsProcessed, h]

/-- A new invoice has not been processed. -/
private theorem isProcessed_createInvoice {row : Invoice} (h : w.createInvoice row = .ok w')
    (hrow : row.overageProcessedAt = none) : IsProcessed id w' ↔ IsProcessed id w := by
  have hfind := find?_createInvoice h id
  obtain ⟨t, ht, rfl⟩ := createInvoice_eq_ok h
  rw [IsProcessed, IsProcessed, hfind]
  split
  · rename_i hid
    have hnew : w.invoices.find? id = none := by
      rw [hid]
      exact Table.find?_of_insert? ht
    simp [hnew, hrow]
  · rfl

/-- A write that leaves the mark alone. -/
private theorem isProcessed_updateInvoice {k : Id} {data : Invoice → Invoice}
    (h : w.updateInvoice k data = .ok w')
    (hdata : ∀ row, (data row).id = row.id ∧
      (data row).overageProcessedAt = row.overageProcessedAt) :
    IsProcessed id w' ↔ IsProcessed id w := by
  rw [IsProcessed, IsProcessed, find?_updateInvoice h fun row => (hdata row).1]
  split
  · rename_i hid
    rw [hid]
    cases hrow : w.invoices.find? k with
    | none => simp
    | some row => simp [(hdata row).2]
  · rfl

/-- A settlement marks its source and nothing else. -/
private theorem isProcessed_materialized {env : Env} {seen : World} {sourceInvoiceId : Id}
    {processedAt : Int} {source : Invoice} {subscription : Subscription} {plan : Plan}
    {usedRequests : Int} {w₁ w₂ : World}
    (hdone : Materialized env sourceInvoiceId processedAt w seen w' source subscription plan
      usedRequests w₁ w₂) : IsProcessed id w' ↔ id = sourceInvoiceId ∨ IsProcessed id w := by
  have h₁ : IsProcessed id w₁ ↔ IsProcessed id w := by
    rcases settleOverage_cases hdone.settled with ⟨rfl, -⟩ | ⟨-, -, hcreate⟩
    · rfl
    · exact isProcessed_createInvoice hcreate rfl
  have h₂ : IsProcessed id w₂ ↔ IsProcessed id w₁ := by
    cases rollForward_cases hdone.rolled with
    | nothing h => rw [h]
    | canceled _ _ _ h => exact isProcessed_congr (updateSubscription_invoices h)
    | renewed _ _ _ _ v hcreate h =>
      exact (isProcessed_congr (updateSubscription_invoices h)).trans
        (isProcessed_createInvoice hcreate rfl)
  have hid := hdone.source_id
  rw [← h₁, ← h₂, IsProcessed, find?_updateInvoice hdone.marked (fun _ => rfl), hid]
  by_cases heq : id = sourceInvoiceId
  · -- the source is there to be marked
    have hsome : ∃ row, w₂.invoices.find? sourceInvoiceId = some row := by
      have hmarked := hdone.marked
      rw [hid, World.updateInvoice] at hmarked
      split at hmarked
      · cases hmarked
      · rename_i hfound
        exact Option.ne_none_iff_exists'.mp (by simpa using hfound)
    obtain ⟨row, hrow⟩ := hsome
    simp [heq, hrow]
  · simp [heq, IsProcessed]

/-- A step that makes an invoice processed processes it. -/
private theorem RenewalStep.isProcessed_cases (h : RenewalStep subscriptionId w w') :
    (IsProcessed id w' ↔ IsProcessed id w) ∨ Processes id w w' := by
  -- only a settlement sets the mark, and only on its own source
  cases h with
  | canceling k currentPeriodEnd hkept h =>
    exact .inl (isProcessed_congr (updateSubscription_invoices h))
  | worker h =>
    cases h with
    | charged k hkind data hdata h =>
      exact .inl (isProcessed_updateInvoice h
        fun row => ⟨(hdata row).id, (hdata row).overageProcessedAt⟩)
    | requested h =>
      obtain ⟨_, _, rfl⟩ := h
      exact .inl Iff.rfl
    | settled env hdb seen hseen sourceInvoiceId processedAt processed h =>
      rcases materialize_cases h with ⟨-, rfl⟩ | ⟨rfl, source, subscription, plan, _, w₁, w₂, hdone⟩
      · exact .inl Iff.rfl
      · by_cases hid : id = sourceInvoiceId
        · exact .inr ⟨env, seen, processedAt, hid ▸ h⟩
        · refine .inl ((isProcessed_materialized hdone).trans ?_)
          simp [hid]

/-- Processing raises the mark. -/
private theorem Processes.raises (h : Processes id w w') : ¬IsProcessed id w ∧
    IsProcessed id w' := by
  obtain ⟨env, seen, processedAt, h⟩ := h
  rcases materialize_cases h with ⟨hfalse, -⟩ | ⟨-, source, subscription, plan, _, w₁, w₂, hdone⟩
  · exact nomatch hfalse
  · refine ⟨fun ⟨row, hrow, hmark⟩ => ?_, (isProcessed_materialized hdone).mpr (.inl rfl)⟩
    obtain rfl := Option.some.inj (hrow.symm.trans hdone.source_found)
    rw [hdone.unprocessed] at hmark
    exact nomatch hmark

/-- An invoice is processed by the step that makes it processed. -/
private theorem RenewalStep.processes_iff (h : RenewalStep subscriptionId w w') :
    Processes id w w' ↔ ¬IsProcessed id w ∧ IsProcessed id w' := by
  refine ⟨Processes.raises, fun ⟨hbefore, hafter⟩ => ?_⟩
  rcases h.isProcessed_cases with hsame | hprocesses
  · exact absurd (hsame.mp hafter) hbefore
  · exact hprocesses

/-- The mark is never taken off. -/
private theorem RenewalStep.isProcessed (h : RenewalStep subscriptionId w w')
    (hid : IsProcessed id w) :
    IsProcessed id w' := by
  rcases h.isProcessed_cases with hsame | hprocesses
  · exact hsame.mpr hid
  · exact hprocesses.raises.2

end Processing

/-! ### Every run -/

/-- A locally managed subscription in its first period. -/
structure FirstPeriod (subscriptionId : Id) (w : World) (first : Invoice) (row : Subscription)
    (plan : Plan) : Prop where
  periods : w.paidPeriods subscriptionId = [first]
  unprocessed : first.overageProcessedAt = none
  nonempty : first.periodStart < first.periodEnd
  row_found : w.subscriptions.find? subscriptionId = some row
  paymentProvider : row.paymentProvider = .stripe
  unbilled : truthy row.externalSubscriptionId = false
  status : row.status = .active
  currentPeriodStart : row.currentPeriodStart = some first.periodStart
  currentPeriodEnd : row.currentPeriodEnd = some first.periodEnd
  plan_found : w.plans.find? row.planId = some plan
  free : plan.priceCents = 0

/-- The invoices derived from a source. -/
def World.derivedFrom (w : World) (sourceInvoiceId : Id) : List Invoice :=
  w.invoices.rows.filter fun row => row.overageSourceInvoiceId = some sourceInvoiceId

/-- The paid periods that start where the period of `invoice` ends. -/
def World.successors (w : World) (subscriptionId : Id) (invoice : Invoice) : List Invoice :=
  (w.paidPeriods subscriptionId).filter fun next => next.periodStart = invoice.periodEnd

section Runs

variable {toISOString : Int → String} {config : AppConfig} {calls : Nat → RenewalCall} {w₀ : World}
  {first : Invoice} {row : Subscription} {plan : Plan}

/-- A first period tiles on its own. -/
theorem FirstPeriod.tiled (h : FirstPeriod subscriptionId w₀ first row plan) :
    Tiled subscriptionId w₀ := by
  refine ⟨[], first, h.periods, .singleton h.nonempty, fun _ ha => (nomatch ha), row,
    h.row_found, ?_⟩
  refine ⟨⟨plan, h.plan_found, h.free⟩, h.paymentProvider, h.unbilled, ?_⟩
  exact .inl ⟨h.status, h.currentPeriodStart, h.currentPeriodEnd, h.unprocessed⟩

/-- The periods tile in every reachable state. -/
private theorem tiled_of_reach (hw₀ : Tiled subscriptionId w₀) {P : RenewalCalls}
    (hreach : Reach .free (fun _ _ => True) (startRenewals toISOString config calls w₀) P) :
    Tiled subscriptionId P.state := by
  induction hreach with
  | init => exact hw₀
  | step hreach _ hnext ih => exact ih.step (renewalStep_of_next hw₀ hreach hnext)

/-- Invoices that were there at the start are paid periods as they were then. -/
private theorem evolves_of_reach (hw₀ : Tiled subscriptionId w₀) {P : RenewalCalls}
    (hreach : Reach .free (fun _ _ => True) (startRenewals toISOString config calls w₀) P) :
    w₀.invoices.Evolves P.state.invoices fun _ row row' =>
      isPaidPeriod subscriptionId row' = isPaidPeriod subscriptionId row := by
  induction hreach with
  | init => exact .refl _
  | step hreach _ hnext ih =>
    exact ih.trans (renewalStep_of_next hw₀ hreach hnext).evolves fun _ _ _ _ h h' => h'.trans h

open Classical in
/-- In a run an invoice is processed once if it is marked at the end and was not at the
    start, and otherwise never. -/
private theorem countSteps_processes (hw₀ : Tiled subscriptionId w₀)
    {cs : List (Choice Nat Env Err)} {P : RenewalCalls} {id : Id}
    (hrun : runSchedule .free cs (startRenewals toISOString config calls w₀) = some P) :
    countSteps .free (Processes id) cs (startRenewals toISOString config calls w₀) =
      if ¬IsProcessed id w₀ ∧ IsProcessed id P.state then 1 else 0 :=
  countSteps_eq (IsProcessed id)
    (fun _ _ _ hreach hnext => (renewalStep_of_next hw₀ hreach hnext).isProcessed)
    (fun _ _ _ hreach hnext => (renewalStep_of_next hw₀ hreach hnext).processes_iff) .init cs hrun

open Classical in
/-- Whatever cycles, settlements, charges and cancellations do next to each other, the paid
    periods of a locally managed subscription tile time: each but the last has been processed
    exactly once, with one overage invoice at most and exactly one successor, and the
    subscription is active in the last one or was canceled when that was processed. -/
theorem renewals_tile (h₀ : FirstPeriod subscriptionId w₀ first row plan)
    {cs : List (Choice Nat Env Err)} {P : RenewalCalls}
    (hrun : runSchedule .free cs (startRenewals toISOString config calls w₀) = some P) :
    ∃ earlier last, P.state.paidPeriods subscriptionId = earlier ++ [last] ∧
      (earlier ++ [last]).IsChain (fun a b => b.periodStart = a.periodEnd) ∧
      (∀ a ∈ earlier ++ [last], a.periodStart < a.periodEnd) ∧
      (∀ a ∈ earlier, a.overageProcessedAt.isSome ∧
        countSteps .free (Processes a.id) cs (startRenewals toISOString config calls w₀) = 1 ∧
        (P.state.derivedFrom a.id).length ≤ 1 ∧
        (P.state.successors subscriptionId a).length = 1) ∧
      ∃ row', P.state.subscriptions.find? subscriptionId = some row' ∧
        ((row'.status = .active ∧ row'.currentPeriodStart = some last.periodStart ∧
            row'.currentPeriodEnd = some last.periodEnd ∧ last.overageProcessedAt = none) ∨
          (row'.status = .canceled ∧ last.overageProcessedAt.isSome ∧
            (P.state.successors subscriptionId last).length = 0)) := by
  have hreach : Reach .free (fun _ _ => True) (startRenewals toISOString config calls w₀) P :=
    reach_runSchedule cs .init hrun
  obtain ⟨earlier, last, htiling⟩ := tiled_of_reach h₀.tiled hreach
  refine ⟨earlier, last, htiling.periods, htiling.tiles.chain, htiling.tiles.nonempty,
    fun a ha => ?_, ?_⟩
  · have hmem : a ∈ P.state.invoices.rows ∧ isPaidPeriod subscriptionId a = true := by
      refine List.mem_filter.mp (?_ : a ∈ P.state.paidPeriods subscriptionId)
      rw [htiling.periods]
      exact List.mem_append_left _ ha
    have hprocessed : IsProcessed a.id P.state :=
      ⟨a, Table.find?_key hmem.1, htiling.processed a ha⟩
    -- a paid period of the start is the first one, which was not processed then
    have hbefore : ¬IsProcessed a.id w₀ := by
      rintro ⟨old, hold, hmark⟩
      obtain ⟨a', ha', hsame⟩ := evolves_of_reach h₀.tiled hreach _ old hold
      obtain rfl := Option.some.inj (ha'.symm.trans (Table.find?_key hmem.1))
      have hpaid : isPaidPeriod subscriptionId old = true := by
        rcases hsame with rfl | hsame
        · exact hmem.2
        · exact hsame.symm.trans hmem.2
      have hfirst : old ∈ w₀.paidPeriods subscriptionId :=
        List.mem_filter.mpr ⟨Table.mem_of_find? hold, hpaid⟩
      rw [h₀.periods, List.mem_singleton] at hfirst
      rw [hfirst, h₀.unprocessed] at hmark
      exact nomatch hmark
    refine ⟨htiling.processed a ha, ?_, Table.length_filter_unique_le (by simp [Row.uniques]) _ _,
      ?_⟩
    · rw [countSteps_processes h₀.tiled hrun, if_pos ⟨hbefore, hprocessed⟩]
    · obtain ⟨before, after, rfl⟩ := List.append_of_mem ha
      have hperiods := htiling.periods
      have htiles := htiling.tiles
      rw [List.append_assoc, List.cons_append] at hperiods htiles
      rw [World.successors, hperiods, htiles.length_filter_next, if_neg]
      exact List.append_ne_nil_of_right_ne_nil _ (List.cons_ne_nil _ _)
  · obtain ⟨row', hrow', hlocal⟩ := htiling.row
    refine ⟨row', hrow', hlocal.stands.imp_right fun ⟨hstatus, hmark⟩ => ⟨hstatus, hmark, ?_⟩⟩
    rw [World.successors, htiling.periods, htiling.tiles.length_filter_next, if_pos rfl]

end Runs

/-! ### A renewal and a cancellation -/

def freePlan : Plan := { samplePlan with priceCents := 0 }

def localSubscription : Subscription :=
  { sampleSubscription .active with externalSubscriptionId := none }

/-- The paid invoice of the period from 0 to 100. -/
def firstPeriod : Invoice :=
  { sampleInvoice .subscription .paid with externalInvoiceId := none, amountCents := 0 }

def localWorld : World :=
  { sampleBilling localSubscription firstPeriod with plans := .singleton freePlan }

/-- Call 2 cancels at the end of the period, every other call is a cycle of a worker. -/
def cyclesAndCancel (n : Nat) : RenewalCall :=
  if n = 2 then .cancel "sub" ⟨"buyer", "buyer@example.com", .buyer⟩ else .cycle

/-- Two workers select the first period and one of them renews; the buyer cancels, and a
    cycle after the end of the second period carries it out. -/
def renewThenCancel : List (Choice Nat Env Err) :=
  [.run 0 (.available 200 "a"), .run 1 (.available 200 "b"), .run 0 (.available 200 "a"),
    .run 1 (.available 200 "b"), .run 0 (.available 200 "a"), .run 1 (.available 200 "b"),
    .run 2 (.available 300 "c"), .run 2 (.available 300 "c")] ++
  List.replicate 3 (.run 3 (.available 3000000000 "d"))

/-- A renewal and a cancellation afterwards leave two adjoining periods. -/
theorem renewals_tile_canceled :
    ∃ P : RenewalCalls, runSchedule .free renewThenCancel
        (startRenewals toString sampleConfig cyclesAndCancel localWorld) = some P ∧
      (P.state.paidPeriods "sub").map (fun a => (a.id, a.periodStart, a.periodEnd)) =
        [("inv", 0, 100), ("a'", 100, 2678400100)] ∧
      ∃ earlier last, P.state.paidPeriods "sub" = earlier ++ [last] ∧
        (earlier ++ [last]).IsChain (fun a b => b.periodStart = a.periodEnd) ∧
        ∃ row, P.state.subscriptions.find? "sub" = some row ∧ row.status = .canceled ∧
          last.overageProcessedAt.isSome := by
  have hfacts : (runSchedule .free renewThenCancel
      (startRenewals toString sampleConfig cyclesAndCancel localWorld)).map (fun P =>
        ((P.state.paidPeriods "sub").map fun a => (a.id, a.periodStart, a.periodEnd),
          (P.state.subscriptions.find? "sub").map (·.status))) =
      some ([("inv", 0, 100), ("a'", 100, 2678400100)], some .canceled) := by
    decide +kernel
  obtain ⟨P, hP, hfacts⟩ := Option.map_eq_some_iff.mp hfacts
  obtain ⟨hperiods, hstatus⟩ := Prod.mk.inj hfacts
  have h₀ : FirstPeriod "sub" localWorld firstPeriod localSubscription freePlan :=
    ⟨rfl, rfl, by decide, rfl, rfl, rfl, rfl, rfl, rfl, rfl, rfl⟩
  obtain ⟨earlier, last, hsplit, hchain, -, -, row, hrow, hstands⟩ := renewals_tile h₀ hP
  refine ⟨P, hP, hperiods, earlier, last, hsplit, hchain, row, hrow, ?_⟩
  rw [hrow] at hstatus
  have hcanceled : row.status = .canceled := Option.some.inj hstatus
  rcases hstands with ⟨hactive, -⟩ | ⟨-, hmark, -⟩
  · rw [hcanceled] at hactive
    exact nomatch hactive
  · exact ⟨hcanceled, hmark⟩

end HivePoint
