import HivePoint.Native.BillingOverageCollection
import HivePoint.Spec.Statements

/-!
# What the settlement of a source invoice does

`materializeSourceInvoice` has three parts: the overage of the period, the renewal or the
cancellation, and the mark on the source invoice. Everything it can do, part by part.
-/

namespace HivePoint

variable {env : Env} {w w' : World}

/-- A write to a row that has been written since it was read is refused. -/
private theorem assertUnwritten_eq_ok {ρ : Type} [DecidableEq ρ] {current : Option ρ} {row : ρ}
    {u : Unit} (h : assertUnwritten current row = .ok u) : current = some row := by
  rw [assertUnwritten] at h
  split at h
  · rename_i hcurrent
    exact hcurrent
  · cases h

/-- Nothing, or an overage invoice for a positive amount that has not been derived yet. -/
theorem settleOverage_cases {seen : World} {source : Invoice} {plan : Plan} {usedRequests : Int}
    (h : settleOverage env seen source plan usedRequests w = .ok w') :
    (w' = w ∧ ¬(0 < (buildSettlement plan usedRequests).amountCents ∧
        seen.invoices.findBy? (·.overageSourceInvoiceId) source.id = none)) ∨
      (0 < (buildSettlement plan usedRequests).amountCents ∧
        seen.invoices.findBy? (·.overageSourceInvoiceId) source.id = none ∧
        w.createInvoice (overageInvoice source plan (buildSettlement plan usedRequests) env.uuid
          env.now) = .ok w') := by
  simp only [settleOverage] at h
  split at h
  · rename_i hcharge
    simp only [Bool.and_eq_true, decide_eq_true_eq, Option.isNone_iff_eq_none] at hcharge
    exact .inr ⟨hcharge.1, hcharge.2, h⟩
  · rename_i hcharge
    simp only [Bool.and_eq_true, decide_eq_true_eq, Option.isNone_iff_eq_none] at hcharge
    exact .inl ⟨(Except.ok.inj h).symm, hcharge⟩

/-- Nothing, the cancellation at the end of the period, or a renewal. The row that it writes is
    still as it was read. -/
inductive RollForward (env : Env) (source : Invoice) (subscription : Subscription) (plan : Plan)
    (w w' : World) : Prop where
  | nothing (h : w' = w)
      (hwhy : isLocalManagedStripeSubscription subscription plan = false ∨
        (subscription.cancelAtPeriodEnd = false ∧ subscription.status = .canceled))
  | canceled (hlocal : isLocalManagedStripeSubscription subscription plan = true)
      (hcancel : subscription.cancelAtPeriodEnd = true)
      (hcurrent : w.subscriptions.find? subscription.id = some subscription)
      (h : w.updateSubscription subscription.id (fun row =>
        { row with status := .canceled, cancelAtPeriodEnd := false, gracePeriodEndsAt := none }) =
          .ok w')
  | renewed (hlocal : isLocalManagedStripeSubscription subscription plan = true)
      (hcancel : subscription.cancelAtPeriodEnd = false) (hstatus : subscription.status ≠ .canceled)
      (hcurrent : w.subscriptions.find? subscription.id = some subscription)
      (w₁ : World)
        (hcreate : w.createInvoice (renewalInvoice source plan env.nextUuid env.now) = .ok w₁)
      (h : w₁.updateSubscription subscription.id (fun row =>
        { row with
          status := .active
          currentPeriodStart := some source.periodEnd
          currentPeriodEnd := some (addPlanPeriod source.periodEnd plan.period)
          gracePeriodEndsAt := none }) = .ok w')

/-- How a settled period is followed. -/
theorem rollForward_cases {source : Invoice} {subscription : Subscription} {plan : Plan}
    (h : rollForward env source subscription plan w = .ok w') :
    RollForward env source subscription plan w w' := by
  rw [rollForward] at h
  split at h
  · rename_i hlocal
    exact .nothing (Except.ok.inj h).symm (.inl (by simpa using hlocal))
  · rename_i hlocal
    have hlocal : isLocalManagedStripeSubscription subscription plan = true := by simpa using hlocal
    -- a planned cancel comes first, then the renewal of a live subscription
    split at h
    · rename_i hcancel
      obtain ⟨u, hcurrent, hupdate⟩ := except_bind_eq_ok.mp h
      exact .canceled hlocal hcancel (assertUnwritten_eq_ok hcurrent) hupdate
    · rename_i hcancel
      have hcancel : subscription.cancelAtPeriodEnd = false := by simpa using hcancel
      split at h
      · rename_i hstatus
        obtain ⟨u, hcurrent, h⟩ := except_bind_eq_ok.mp h
        obtain ⟨w₁, hcreate, hupdate⟩ := except_bind_eq_ok.mp h
        exact .renewed hlocal hcancel hstatus (assertUnwritten_eq_ok hcurrent) w₁ hcreate hupdate
      · rename_i hstatus
        exact .nothing (Except.ok.inj h).symm (.inr ⟨hcancel, not_not.mp hstatus⟩)

/-- A settlement that was carried out: what it read in its snapshot, and its three parts. -/
structure Materialized (env : Env) (sourceInvoiceId : Id) (processedAt : Int) (w seen w' : World)
    (source : Invoice) (subscription : Subscription) (plan : Plan) (usedRequests : Int)
    (w₁ w₂ : World) : Prop where
  source_seen : seen.invoices.find? sourceInvoiceId = some source
  subscription_seen : seen.subscriptions.find? source.subscriptionId = some subscription
  plan_seen : seen.plans.find? subscription.planId = some plan
  kind : source.kind = .subscription
  status : source.status = .paid
  paymentProvider : source.paymentProvider = .stripe
  unprocessed : source.overageProcessedAt = none
  usage : seen.sumUsageForWindow env subscription.id source.periodStart source.periodEnd =
    .ok usedRequests
  settled : settleOverage env seen source plan usedRequests w = .ok w₁
  rolled : rollForward env source subscription plan w₁ = .ok w₂
  unwritten : w.invoices.find? source.id = some source
  marked : w₂.updateInvoice source.id (fun row =>
    { row with overageProcessedAt := some processedAt }) = .ok w'

/-- Everything that `materializeSourceInvoice` can do at its commit. -/
theorem materialize_cases {seen : World} {sourceInvoiceId : Id} {processedAt : Int}
    {processed : Bool}
    (h : w.materializeSourceInvoice env seen sourceInvoiceId processedAt = .ok (processed, w')) :
    (processed = false ∧ w' = w) ∨
      (processed = true ∧ ∃ source subscription plan usedRequests w₁ w₂,
        Materialized env sourceInvoiceId processedAt w seen w' source subscription plan usedRequests
          w₁ w₂) := by
  -- every guard that fails leaves the world as it was
  have hnothing : (.ok (false, w) : Except Err (Bool × World)) = .ok (processed, w') →
      processed = false ∧ w' = w := fun h => by
    obtain ⟨rfl, rfl⟩ := Prod.mk.inj (Except.ok.inj h)
    exact ⟨rfl, rfl⟩
  rw [World.materializeSourceInvoice] at h
  split at h
  · exact .inl (hnothing h)
  · rename_i source subscription hfound
    obtain ⟨source', hsource, hfound⟩ := Option.bind_eq_some_iff.mp hfound
    obtain ⟨subscription', hsubscription, hpair⟩ := Option.bind_eq_some_iff.mp hfound
    obtain ⟨rfl, rfl⟩ := Prod.mk.inj (Option.some.inj hpair)
    split at h
    · exact .inl (hnothing h)
    · rename_i plan hplan
      split at h
      · exact .inl (hnothing h)
      · rename_i hguard
        simp only [Bool.or_eq_true, decide_eq_true_eq, not_or, ne_eq, not_not,
          Bool.not_eq_true, Option.isSome_eq_false_iff, Option.isNone_iff_eq_none] at hguard
        obtain ⟨⟨⟨hkind, hstatus⟩, hprovider⟩, hunprocessed⟩ := hguard
        -- the source is unprocessed, its usage is summed, settled, rolled forward and marked
        obtain ⟨u, hunwritten, h⟩ := except_bind_eq_ok.mp h
        obtain ⟨usedRequests, husage, h⟩ := except_bind_eq_ok.mp h
        obtain ⟨w₁, hsettle, h⟩ := except_bind_eq_ok.mp h
        obtain ⟨w₂, hroll, h⟩ := except_bind_eq_ok.mp h
        obtain ⟨w₃, hmark, h⟩ := except_bind_eq_ok.mp h
        obtain ⟨rfl, rfl⟩ := Prod.mk.inj (Except.ok.inj h)
        exact .inr ⟨rfl, source', subscription', plan, usedRequests, w₁, w₂,
          ⟨hsource, hsubscription, hplan, hkind, hstatus, hprovider, hunprocessed, husage, hsettle,
            hroll, assertUnwritten_eq_ok hunwritten, hmark⟩⟩

section Rows

variable {seen : World} {sourceInvoiceId : Id} {processedAt : Int} {source : Invoice}
  {subscription : Subscription} {plan : Plan} {usedRequests : Int} {w₁ w₂ : World}

/-- The source is the invoice asked for. -/
theorem Materialized.source_id
    (h : Materialized env sourceInvoiceId processedAt w seen w' source subscription plan
      usedRequests
      w₁ w₂) : source.id = sourceInvoiceId :=
  Table.key_of_find? h.source_seen

/-- The source is still as it was read when the settlement commits. -/
theorem Materialized.source_found
    (h : Materialized env sourceInvoiceId processedAt w seen w' source subscription plan
      usedRequests
      w₁ w₂) : w.invoices.find? sourceInvoiceId = some source :=
  h.source_id ▸ h.unwritten

/-- The subscription is the source's own. -/
theorem Materialized.subscription_id
    (h : Materialized env sourceInvoiceId processedAt w seen w' source subscription plan
      usedRequests
      w₁ w₂) : subscription.id = source.subscriptionId :=
  Table.key_of_find? h.subscription_seen

/-- The charge adds an invoice, or nothing. -/
theorem settleOverage_rows (h : settleOverage env seen source plan usedRequests w = .ok w') :
    ∃ invoices, w' = { w with invoices } := by
  rcases settleOverage_cases h with ⟨rfl, -⟩ | ⟨-, -, hcreate⟩
  · exact ⟨_, rfl⟩
  · obtain ⟨t, -, rfl⟩ := createInvoice_eq_ok hcreate
    exact ⟨t, rfl⟩

/-- The charge leaves the subscriptions alone. -/
theorem Materialized.settled_subscriptions
    (h : Materialized env sourceInvoiceId processedAt w seen w' source subscription plan
      usedRequests
      w₁ w₂) : w₁.subscriptions = w.subscriptions := by
  obtain ⟨t, rfl⟩ := settleOverage_rows h.settled
  rfl

end Rows

/-- A settlement writes the rows of subscriptions and invoices only. -/
theorem materialize_rows {seen : World} {sourceInvoiceId : Id} {processedAt : Int}
    {processed : Bool}
    (h : w.materializeSourceInvoice env seen sourceInvoiceId processedAt = .ok (processed, w')) :
    ∃ subscriptions invoices, w' = { w with subscriptions, invoices } := by
  rcases materialize_cases h with
    ⟨-, rfl⟩ | ⟨-, source, subscription, plan, usedRequests, w₁, w₂, hdone⟩
  · exact ⟨_, _, rfl⟩
  obtain ⟨t₃, -, rfl⟩ := updateInvoice_eq_ok hdone.marked
  obtain ⟨t₁, rfl⟩ := settleOverage_rows hdone.settled
  -- the subscription is left, canceled, or renewed behind a new invoice
  cases rollForward_cases hdone.rolled with
  | nothing h =>
    subst h
    exact ⟨_, _, rfl⟩
  | canceled _ _ _ h =>
    obtain ⟨t₂, -, rfl⟩ := updateSubscription_eq_ok h
    exact ⟨_, _, rfl⟩
  | renewed _ _ _ _ w₁ hcreate h =>
    obtain ⟨t₁, -, rfl⟩ := createInvoice_eq_ok hcreate
    obtain ⟨t₂, -, rfl⟩ := updateSubscription_eq_ok h
    exact ⟨_, _, rfl⟩

end HivePoint
