import HivePoint.Spec.BillingCalls

/-!
# What becomes of a paid invoice

`markInvoiceFailed` ignores a report about a paid invoice when it names another external
id than the invoice carries. A stale report of the invoice's own failure passes this
guard, and turns a paid invoice past due. `KeepsPaid` lists the calls that do not.

## Key results

- `keepsPaid_step`: one call
- `paid_stays_paid`: a run of calls, and what each of them does to subscriptions
- `not_paid_stays_paid`: a late `invoice.payment_failed` turns a paid invoice past due
-/

namespace HivePoint

open Prog

/-- The calls that record no failure on the paid invoice `id`: a failure report has to be
    about another invoice, or name another external id than the invoice carries. -/
def KeepsPaid (id : Id) (w : World) (stripe : StripeApi) : BillingCall → Prop
  | .webhook (.invoicePaymentFailed invoice) =>
    ∀ target, w.knownInvoice (webhookParams stripe invoice .pastDue) = some target → target.id ≠ id
  | .webhook (.checkoutSessionExpired session) => session.metadataInvoiceId ≠ some id
  | .mockFail invoiceId => invoiceId ≠ id
  | .retry due =>
    due.id = id → ∀ invoice, stripe.payInvoice due.externalInvoiceId = .ok invoice →
      (toInvoiceResult invoice).status = .paid ∨
        (w.invoices.find? id).any (isPaidUnderOtherId · (some invoice.id))
  | .webhook (.invoiceCreated _) | .webhook (.invoiceFinalized _) | .webhook (.invoicePaid _)
  | .webhook (.checkoutSessionCompleted _) | .webhook (.customerSubscriptionUpdated _)
  | .webhook (.customerSubscriptionDeleted _) | .webhook .other | .mockSucceed _ => True
  -- no handler of the invoice
  | .reconcile _ | .materialize _ _ => False

/-- The calls that are about the invoice `id`. -/
def IsAbout (id : Id) (w : World) (stripe : StripeApi) : BillingCall → Prop
  | .webhook (.invoiceCreated invoice) | .webhook (.invoiceFinalized invoice) =>
    ∃ target, w.knownInvoice (webhookParams stripe invoice .draft) = some target ∧ target.id = id
  | .webhook (.invoicePaid invoice) =>
    ∃ target, w.knownInvoice (webhookParams stripe invoice .paid) = some target ∧ target.id = id
  | .webhook (.invoicePaymentFailed invoice) =>
    ∃ target, w.knownInvoice (webhookParams stripe invoice .pastDue) = some target ∧ target.id = id
  | .webhook (.checkoutSessionCompleted session) | .webhook (.checkoutSessionExpired session) =>
    session.metadataInvoiceId = some id
  | .mockSucceed invoiceId | .mockFail invoiceId => invoiceId = id
  | .retry due => due.id = id
  | .webhook (.customerSubscriptionUpdated _) | .webhook (.customerSubscriptionDeleted _)
  | .webhook .other | .reconcile _ | .materialize _ _ => False

variable {config : AppConfig} {id : Id} {w w' : World} {stripe : StripeApi} {c : BillingCall}
  {r : Except Err Unit}

/-- A draft of an invoice that is paid keeps its status. -/
private theorem draftInvoice_status_of_paid {params : SyncInvoiceParams} {row : Invoice}
    (hpaid : row.status = .paid) : (draftInvoice params row row).status = .paid := by
  simp [draftInvoice, hpaid]

/-- What a synchronisation leaves of a paid invoice, if it does not report a failure of it. -/
private theorem syncedInvoice_status_of_paid {E : Env → Prop} {params : SyncInvoiceParams}
    {row row' : Invoice} (h : SyncedInvoice E config params w row row') (hpaid : row.status = .paid)
    (hstatus : params.status = .draft ∨ params.status = .paid) : row'.status = .paid := by
  cases h with
  | draft _ => exact draftInvoice_status_of_paid hpaid
  | paid _ => rfl
  | failed _ _ hfailed _ _ =>
    rcases hstatus with h | h <;> rw [h] at hfailed <;> simp at hfailed

/-- A call that records no failure on the paid invoice keeps it paid. -/
theorem keepsPaid_step {row : Invoice} (hok : KeepsPaid id w stripe c)
    (h : Runs (fun env => env.stripe = stripe) (c.op config) w r w')
    (hrow : w.invoices.find? id = some row) (hpaid : row.status = .paid) :
    ∃ row', w'.invoices.find? id = some row' ∧ row'.status = .paid := by
  have hevolves : ∀ {w₁ : World} {R : Id → Invoice → Invoice → Prop},
      w.invoices.Evolves w₁.invoices R → (∀ row', R id row row' → row'.status = .paid) →
      ∃ row', w₁.invoices.find? id = some row' ∧ row'.status = .paid := by
    intro w₁ R hR hstatus
    obtain ⟨row', hrow', rfl | hchange⟩ := hR id row hrow
    · exact ⟨row', hrow', hpaid⟩
    · exact ⟨row', hrow', hstatus row' hchange⟩
  have hsame : w'.invoices = w.invoices →
      ∃ row', w'.invoices.find? id = some row' ∧ row'.status = .paid := fun hinvoices =>
    ⟨row, hinvoices ▸ hrow, hpaid⟩
  -- an invoice event that reports no failure
  have hsync : ∀ {invoice status}, (status = .draft ∨ status = .paid) →
      Runs (fun env => env.stripe = stripe) (syncInvoice config invoice status) w r w' →
      ∃ row', w'.invoices.find? id = some row' ∧ row'.status = .paid := by
    intro invoice status hstatus hrun
    refine hevolves (syncInvoice_invoices hrun) ?_
    rintro row' ⟨env, -, -, hsynced⟩
    exact syncedInvoice_status_of_paid hsynced hpaid hstatus
  cases c with
  | webhook event =>
    cases event with
    | invoiceCreated invoice => exact hsync (.inl rfl) h
    | invoiceFinalized invoice => exact hsync (.inl rfl) h
    | invoicePaid invoice => exact hsync (.inr rfl) h
    | invoicePaymentFailed invoice =>
      refine hevolves (syncInvoice_invoices h) ?_
      rintro row' ⟨env, rfl, hknown, -⟩
      exact absurd (Table.key_of_find? hrow) (hok row hknown)
    | checkoutSessionCompleted session =>
      refine hevolves (handleCheckoutCompleted_invoices h) ?_
      rintro row' ⟨row₁, ⟨_, _, rfl⟩, rfl | ⟨_, -, rfl⟩⟩
      · exact hpaid
      · rfl
    | checkoutSessionExpired session =>
      rcases runs_handleCheckoutExpired h with rfl | ⟨invoiceId, r₁, hmetadata, hfailed⟩
      · exact ⟨row, hrow, hpaid⟩
      · refine hevolves (markInvoiceFailed_invoices hfailed) ?_
        rintro row' ⟨hid, -⟩
        exact absurd (hid ▸ hmetadata) hok
    | customerSubscriptionUpdated subscription =>
      obtain ⟨r₁, hrun⟩ := runs_ignoringNotFound h
      exact hsame (syncSubscriptionFromExternal_subscriptions hrun).2
    | customerSubscriptionDeleted subscription =>
      obtain ⟨r₁, hrun⟩ := runs_ignoringNotFound h
      exact hsame (markSubscriptionCanceled_subscriptions hrun).2
    | other =>
      obtain ⟨-, rfl⟩ := runs_pure.mp h
      exact ⟨row, hrow, hpaid⟩
  | mockSucceed invoiceId =>
    obtain ⟨r₁, hrun⟩ := runs_mockSucceed h
    exact hevolves (markInvoicePaid_invoices hrun) fun row' hrow' => by rw [hrow'.2.2]; rfl
  | mockFail invoiceId =>
    obtain ⟨r₁, hrun⟩ := runs_mockFail h
    exact hevolves (markInvoiceFailed_invoices hrun) fun row' hrow' => absurd hrow'.1.symm hok
  | retry due =>
    -- the schedule of an invoice has nothing to do with its status
    have hschedule : ∀ {w₁ : World}, OnlyRetryState w₁ w' →
        (∃ row', w₁.invoices.find? id = some row' ∧ row'.status = .paid) →
        ∃ row', w'.invoices.find? id = some row' ∧ row'.status = .paid := by
      rintro w₁ hafter ⟨row₁, hrow₁, hpaid₁⟩
      obtain ⟨row', hrow', rfl | ⟨state, rfl⟩⟩ := hafter.1 id row₁ hrow₁
      · exact ⟨_, hrow', hpaid₁⟩
      · exact ⟨_, hrow', hpaid₁⟩
    obtain ⟨log, hafter | ⟨env, invoice, w₁, r₁, rfl, hanswer, houtcome, hafter⟩⟩ :=
      runs_processInvoiceRetry h
    · exact hschedule hafter ⟨row, hrow, hpaid⟩
    · refine hschedule hafter ?_
      rcases houtcome with ⟨-, hpaidRun⟩ | ⟨hnotPaid, hfailed⟩
      · have hinvoices := markInvoicePaid_invoices hpaidRun
        exact hevolves hinvoices fun row' hrow' => by rw [hrow'.2.2]; rfl
      · have hinvoices := markInvoiceFailed_invoices hfailed
        refine hevolves hinvoices ?_
        rintro row' ⟨hid, hguard, -⟩
        rcases hok hid.symm invoice hanswer with hstatus | hother
        · exact absurd hstatus hnotPaid
        · rw [hrow, Option.any_some] at hother
          exact nomatch hguard.symm.trans hother
  | reconcile _ => exact hok.elim
  | materialize _ _ => exact hok.elim

/-- A call about the paid invoice that records no failure on it keeps subscriptions active. -/
private theorem keepsPaid_active {row : Invoice} (habout : IsAbout id w stripe c)
    (hok : KeepsPaid id w stripe c)
    (h : Runs (fun env => env.stripe = stripe) (c.op config) w r w')
    (hrow : w.invoices.find? id = some row) {subscriptionId : Id} {s : Subscription}
    (hs : w.subscriptions.find? subscriptionId = some s) (hactive : s.status = .active) :
    ∃ s', w'.subscriptions.find? subscriptionId = some s' ∧ s'.status = .active := by
  -- a subscription that evolves through activations stays active
  have hevolves : ∀ {w₁ : World} {R : Id → Subscription → Subscription → Prop},
      w.subscriptions.Evolves w₁.subscriptions R →
      (∀ s', R subscriptionId s s' → s'.status = .active) →
      ∃ s', w₁.subscriptions.find? subscriptionId = some s' ∧ s'.status = .active := by
    intro w₁ R hR hstatus
    obtain ⟨s', hs', rfl | hchange⟩ := hR subscriptionId s hs
    · exact ⟨s', hs', hactive⟩
    · exact ⟨s', hs', hstatus s' hchange⟩
  have hsync : ∀ {invoice status}, (status = .draft ∨ status = .paid) →
      Runs (fun env => env.stripe = stripe) (syncInvoice config invoice status) w r w' →
      ∃ s', w'.subscriptions.find? subscriptionId = some s' ∧ s'.status = .active := by
    intro invoice status hstatus hrun
    refine hevolves (syncInvoice_subscriptions hrun) ?_
    rintro s' ⟨env, target, -, -, -, -, hsynced⟩
    cases hsynced with
    | paid _ => rfl
    | failed _ hfailed _ =>
      have hfailed : status = .pastDue ∨ status = .void := hfailed
      rcases hstatus with h | h <;> rw [h] at hfailed <;> simp at hfailed
  -- an event of failure is about another invoice, so it leaves this subscription
  cases c with
  | webhook event =>
    cases event with
    | invoiceCreated invoice => exact hsync (.inl rfl) h
    | invoiceFinalized invoice => exact hsync (.inl rfl) h
    | invoicePaid invoice => exact hsync (.inr rfl) h
    | invoicePaymentFailed invoice =>
      obtain ⟨target, hknown, hid⟩ := habout
      exact absurd hid (hok target hknown)
    | checkoutSessionCompleted session =>
      refine hevolves (handleCheckoutCompleted_subscriptions h) ?_
      rintro s' ⟨s₁, ⟨_, _, rfl⟩, rfl | ⟨_, _, _, -, -, -, -, -, rfl⟩⟩
      · exact hactive
      · rfl
    | checkoutSessionExpired session => exact absurd habout hok
    | customerSubscriptionUpdated _ => exact habout.elim
    | customerSubscriptionDeleted _ => exact habout.elim
    | other => exact habout.elim
  | mockSucceed invoiceId =>
    obtain ⟨r₁, hrun⟩ := runs_mockSucceed h
    refine hevolves (markInvoicePaid_subscriptions hrun) ?_
    rintro s' ⟨_, -, -, -, -, rfl⟩
    rfl
  | mockFail invoiceId => exact absurd habout hok
  | retry due =>
    obtain ⟨log, hafter | ⟨env, invoice, w₁, r₁, rfl, hanswer, houtcome, hafter⟩⟩ :=
      runs_processInvoiceRetry h
    · exact ⟨s, hafter.2 ▸ hs, hactive⟩
    · rw [hafter.2]
      rcases houtcome with ⟨-, hpaidRun⟩ | ⟨hnotPaid, hfailed⟩
      · have hsubscriptions := markInvoicePaid_subscriptions hpaidRun
        refine hevolves hsubscriptions ?_
        rintro s' ⟨_, -, -, -, -, rfl⟩
        rfl
      -- a failed retry is of another invoice, or of one that another payment has closed
      · have hsubscriptions := markInvoiceFailed_subscriptions hfailed
        refine hevolves hsubscriptions ?_
        rintro s' ⟨target, _, -, hfind, hguard, -⟩
        rcases hok habout invoice hanswer with hstatus | hother
        · exact absurd hstatus hnotPaid
        · have hfind : w.invoices.find? due.id = some target := hfind
          rw [habout, hrow] at hfind
          obtain rfl := Option.some.inj hfind
          rw [hrow, Option.any_some] at hother
          exact nomatch hguard.symm.trans hother
  | reconcile _ => exact hok.elim
  | materialize _ _ => exact hok.elim

/-- Through calls that record no failure on it, a paid invoice stays paid, and no call about
    it takes a subscription out of `ACTIVE`. -/
theorem paid_stays_paid {w₀ : World} {row : Invoice} (hrow : w₀.invoices.find? id = some row)
    (hpaid : row.status = .paid) (h : CallRun config (KeepsPaid id) w₀ w) :
    (∃ row', w.invoices.find? id = some row' ∧ row'.status = .paid) ∧
      ∀ stripe c r w', IsAbout id w stripe c → KeepsPaid id w stripe c →
        Runs (fun env => env.stripe = stripe) (c.op config) w r w' →
        ∀ subscriptionId s, w.subscriptions.find? subscriptionId = some s → s.status = .active →
          ∃ s', w'.subscriptions.find? subscriptionId = some s' ∧ s'.status = .active := by
  have hstays : ∃ row', w.invoices.find? id = some row' ∧ row'.status = .paid := by
    induction h with
    | start => exact ⟨row, hrow, hpaid⟩
    | call stripe c _ hok hrun ih =>
      obtain ⟨row₁, hrow₁, hpaid₁⟩ := ih
      exact keepsPaid_step hok hrun hrow₁ hpaid₁
  obtain ⟨row', hrow', hpaid'⟩ := hstays
  exact ⟨⟨row', hrow', hpaid'⟩, fun stripe c r w' habout hok hrun subscriptionId s hs hactive =>
    keepsPaid_active habout hok hrun hrow' hs hactive⟩

/-! ### A late failure -/

/-- The renewal `in_1` of an active subscription is paid. -/
def paidBilling : World :=
  sampleBilling (sampleSubscription .active) (sampleInvoice .subscription .paid)

def failedAfterPayment : World :=
  ((handleWebhook sampleConfig (.invoicePaymentFailed (sampleStripeInvoice .open))).exec
    (.available 60 "u") paidBilling).2

/-- A paid invoice does not always stay paid: the stale failure of the same invoice makes
    it past due, and its subscription with it. -/
theorem not_paid_stays_paid :
    ¬∀ w, CallRun sampleConfig (fun _ _ _ => True) paidBilling w →
      (w.invoices.find? "inv").map (·.status) = some .paid ∧
        (w.subscriptions.find? "sub").map (·.status) = some .active := by
  intro h
  have hpastDue : (failedAfterPayment.invoices.find? "inv").map (·.status) = some .pastDue := by
    decide +kernel
  have hrun : CallRun sampleConfig (fun _ _ _ => True) paidBilling failedAfterPayment :=
    .exec (.available 60 "u") (.webhook (.invoicePaymentFailed (sampleStripeInvoice .open)))
      .start trivial
  exact nomatch hpastDue.symm.trans (h failedAfterPayment hrun).1

/-- The draft of the same invoice, delivered late. -/
def createdAfterPayment : World :=
  ((handleWebhook sampleConfig (.invoiceCreated (sampleStripeInvoice .draft))).exec
    (.available 60 "u") paidBilling).2

/-- A draft that arrives after the payment leaves the invoice paid. -/
theorem paid_stays_paid_created :
    ∃ row', createdAfterPayment.invoices.find? "inv" = some row' ∧ row'.status = .paid := by
  have hrun : CallRun sampleConfig (KeepsPaid "inv") paidBilling createdAfterPayment :=
    .exec (.available 60 "u") (.webhook (.invoiceCreated (sampleStripeInvoice .draft)))
      .start trivial
  have hrow : paidBilling.invoices.find? "inv" = some (sampleInvoice .subscription .paid) := rfl
  exact (paid_stays_paid hrow rfl hrun).1

end HivePoint
