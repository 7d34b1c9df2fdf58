import HivePoint.Spec.BillingCalls
import HivePoint.Spec.Entitlement

/-!
# What undoes a cancellation

No writer of `SubscriptionsService` asks whether the subscription it writes has been
canceled, so a late payment outcome or an old snapshot brings it back. `LeavesCanceled`
lists the calls that do not: between them a canceled subscription stays canceled.

## Key results

- `leavesCanceled_step`: one call
- `canceled_stays_canceled`: a run of calls
- `not_canceled_stays_canceled`: a late `invoice.paid` reactivates a deleted subscription
-/

namespace HivePoint

open Prog

/-- The calls that cannot change the status of the canceled subscription `id`: a payment
    outcome has to be about an invoice that does not renew it, a snapshot about another
    subscription or itself canceled. -/
def LeavesCanceled (id : Id) (w : World) (stripe : StripeApi) : BillingCall → Prop
  | .webhook (.invoicePaid invoice) =>
    ∀ target, w.SyncsTo (webhookParams stripe invoice .paid) target → ¬target.Renews id
  | .webhook (.invoicePaymentFailed invoice) =>
    ∀ target, w.SyncsTo (webhookParams stripe invoice .pastDue) target → ¬target.Renews id
  | .webhook (.checkoutSessionCompleted session) =>
    session.mode = .setup ∨ session.subscription = none →
      ∀ target, session.metadataInvoiceId.bind w.invoices.find? = some target → ¬target.Renews id
  | .webhook (.checkoutSessionExpired session) =>
    ∀ target, session.metadataInvoiceId.bind w.invoices.find? = some target → ¬target.Renews id
  | .webhook (.customerSubscriptionUpdated subscription) =>
    mapStripeSubscriptionStatus subscription.status = .canceled ∨
      ∀ row, w.findSubscriptionByExternalId subscription.id = some row → row.id ≠ id
  | .webhook (.invoiceCreated _) | .webhook (.invoiceFinalized _)
  | .webhook (.customerSubscriptionDeleted _) | .webhook .other => True
  | .materialize _ _ => True
  -- these are not late events: they ask Stripe, or the buyer, at the moment
  | .reconcile _ | .retry _ | .mockSucceed _ | .mockFail _ => False

variable {config : AppConfig} {id : Id} {w w' : World} {row : Subscription}

/-- A call that leaves cancellation alone keeps the subscription canceled. -/
theorem leavesCanceled_step {stripe : StripeApi} {c : BillingCall} {r : Except Err Unit}
    (hok : LeavesCanceled id w stripe c)
    (h : Runs (fun env => env.stripe = stripe) (c.op config) w r w')
    (hrow : w.subscriptions.find? id = some row) (hcanceled : row.status = .canceled) :
    ∃ row', w'.subscriptions.find? id = some row' ∧ row'.status = .canceled := by
  -- it is enough that the row does not change, or stays canceled
  have hevolves : ∀ {R : Id → Subscription → Subscription → Prop},
      w.subscriptions.Evolves w'.subscriptions R →
      (∀ row', R id row row' → row'.status = .canceled) →
      ∃ row', w'.subscriptions.find? id = some row' ∧ row'.status = .canceled := by
    intro R hR hstatus
    obtain ⟨row', hrow', rfl | hchange⟩ := hR id row hrow
    · exact ⟨row', hrow', hcanceled⟩
    · exact ⟨row', hrow', hstatus row' hchange⟩
  -- an invoice event with the outcome `status`
  have hsync : ∀ {invoice status}, Runs (fun env => env.stripe = stripe)
      (syncInvoice config invoice status) w r w' →
      (status = .draft ∨
        ∀ target, w.SyncsTo (webhookParams stripe invoice status) target → ¬target.Renews id) →
      ∃ row', w'.subscriptions.find? id = some row' ∧ row'.status = .canceled := by
    intro invoice status hrun hstatus
    refine hevolves (syncInvoice_subscriptions hrun) ?_
    rintro row' ⟨env, target, rfl, htarget, hkind, hid, hsynced⟩
    rcases hstatus with hdraft | htargets
    · cases hsynced with
      | paid hpaid => exact nomatch hdraft.symm.trans hpaid
      | failed _ hfailed _ =>
        rcases hfailed with hpastDue | hvoid
        · exact nomatch hdraft.symm.trans hpastDue
        · exact nomatch hdraft.symm.trans hvoid
    · exact absurd ⟨hkind, hid⟩ (htargets target htarget)
  cases c with
  | webhook event =>
    cases event with
    | invoicePaid invoice => exact hsync h (.inr hok)
    | invoicePaymentFailed invoice => exact hsync h (.inr hok)
    | invoiceCreated invoice => exact hsync h (.inl rfl)
    | invoiceFinalized invoice => exact hsync h (.inl rfl)
    | checkoutSessionCompleted session =>
      refine hevolves (handleCheckoutCompleted_subscriptions h) ?_
      rintro row' ⟨row₁, ⟨_, _, rfl⟩, rfl | ⟨invoiceId, invoice, _, hmetadata, hmode, hfind, hkind,
        hid, -⟩⟩
      · exact hcanceled
      · exact absurd ⟨hkind, hid⟩ (hok hmode invoice (by simp [hmetadata, hfind]))
    | checkoutSessionExpired session =>
      rcases runs_handleCheckoutExpired h with rfl | ⟨invoiceId, r₁, hmetadata, hfailed⟩
      · exact ⟨row, hrow, hcanceled⟩
      · refine hevolves (markInvoiceFailed_subscriptions hfailed) ?_
        rintro row' ⟨invoice, _, -, hfind, -, hkind, hid, -⟩
        exact absurd ⟨hkind, hid⟩ (hok invoice (by simpa [hmetadata] using hfind))
    | customerSubscriptionUpdated subscription =>
      obtain ⟨r₁, hrun⟩ := runs_ignoringNotFound h
      refine hevolves (syncSubscriptionFromExternal_subscriptions hrun).1 ?_
      rintro row' ⟨hfind, env, -, rfl⟩
      rcases hok with hstatus | hother
      · simp [syncedSubscription, snapshotSyncParams, hstatus]
      · exact absurd (Table.key_of_find? hrow) (hother row hfind)
    | customerSubscriptionDeleted subscription =>
      obtain ⟨r₁, hrun⟩ := runs_ignoringNotFound h
      exact hevolves (markSubscriptionCanceled_subscriptions hrun).1 fun row' hrow' => by rw [hrow']
    | other =>
      obtain ⟨-, rfl⟩ := runs_pure.mp h
      exact ⟨row, hrow, hcanceled⟩
  | materialize sourceInvoiceId processedAt =>
    refine hevolves (materializeSourceInvoice_subscriptions h) ?_
    rintro row' ⟨-, hcanceled' | ⟨-, hne⟩⟩
    · exact hcanceled'
    · exact absurd hcanceled hne
  | reconcile _ => exact hok.elim
  | retry _ => exact hok.elim
  | mockSucceed _ => exact hok.elim
  | mockFail _ => exact hok.elim

/-- Between calls that leave cancellation alone a canceled subscription stays canceled, and
    no authorization query chooses it. -/
theorem canceled_stays_canceled {w₀ : World} (hrow : w₀.subscriptions.find? id = some row)
    (hcanceled : row.status = .canceled) (h : CallRun config (LeavesCanceled id) w₀ w) :
    ∃ row', w.subscriptions.find? id = some row' ∧ row'.status = .canceled ∧
      ∀ userId productId t, row' ∉ w.authorizableSubscriptions userId productId t := by
  have hstays : ∃ row', w.subscriptions.find? id = some row' ∧ row'.status = .canceled := by
    induction h with
    | start => exact ⟨row, hrow, hcanceled⟩
    | call stripe c _ hok hrun ih =>
      obtain ⟨row₁, hrow₁, hcanceled₁⟩ := ih
      exact leavesCanceled_step hok hrun hrow₁ hcanceled₁
  obtain ⟨row', hrow', hcanceled'⟩ := hstays
  refine ⟨row', hrow', hcanceled', fun userId productId t hmem => ?_⟩
  have hauthorizable := (List.mem_filter.mp hmem).2
  simp only [Bool.and_eq_true, isAuthorizable_iff, Subscription.entitlement, hcanceled',
    Set.mem_empty_iff_false, and_false] at hauthorizable

/-! ### A late payment -/

/-- The buyer's subscription was deleted before Stripe's `invoice.paid` of its last renewal
    was delivered. -/
def deletedSubscription : World :=
  ((handleWebhook sampleConfig
    (.customerSubscriptionDeleted (sampleSnapshot .canceled .null))).exec (.available 50 "u")
      (sampleBilling (sampleSubscription .active) (sampleInvoice .subscription .draft))).2

def paidAfterDeletion : World :=
  ((handleWebhook sampleConfig (.invoicePaid (sampleStripeInvoice .paid))).exec (.available 60 "u")
    deletedSubscription).2

/-- Cancellation is not final: after the late event the subscription is active again. -/
theorem not_canceled_stays_canceled :
    (deletedSubscription.subscriptions.find? "sub").map (·.status) = some .canceled ∧
      ¬∀ w, CallRun sampleConfig (fun _ _ _ => True) deletedSubscription w →
        (w.subscriptions.find? "sub").map (·.status) = some .canceled := by
  refine ⟨by decide +kernel, fun h => ?_⟩
  have hactive : (paidAfterDeletion.subscriptions.find? "sub").map (·.status) = some .active := by
    decide +kernel
  have hrun : CallRun sampleConfig (fun _ _ _ => True) deletedSubscription paidAfterDeletion :=
    .exec (.available 60 "u") (.webhook (.invoicePaid (sampleStripeInvoice .paid))) .start trivial
  exact nomatch hactive.symm.trans (h _ hrun)

/-- The same event about an overage of the canceled subscription. -/
def overagePaidAfterDeletion : World :=
  ((handleWebhook sampleConfig (.invoicePaid (sampleStripeInvoice .paid))).exec (.available 60 "u")
    (sampleBilling (sampleSubscription .canceled) (sampleInvoice .overage .draft))).2

/-- A canceled subscription stays canceled when its overage is paid. -/
theorem canceled_stays_canceled_overage :
    ∃ row', overagePaidAfterDeletion.subscriptions.find? "sub" = some row' ∧
      row'.status = .canceled ∧
      ∀ userId productId t,
        row' ∉ overagePaidAfterDeletion.authorizableSubscriptions userId productId t := by
  have hrow : (sampleBilling (sampleSubscription .canceled)
      (sampleInvoice .overage .draft)).subscriptions.find? "sub" =
        some (sampleSubscription .canceled) := rfl
  refine canceled_stays_canceled hrow rfl
    (.exec (.available 60 "u") (.webhook (.invoicePaid (sampleStripeInvoice .paid))) .start ?_)
  rintro target (hknown | ⟨hnone, -⟩) ⟨hkind, -⟩
  · obtain rfl : sampleInvoice .overage .draft = target := Option.some.inj hknown
    exact nomatch hkind
  · exact nomatch hnone

end HivePoint
