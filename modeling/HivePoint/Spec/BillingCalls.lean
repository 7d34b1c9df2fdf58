import HivePoint.Spec.PaymentOutcomes
import HivePoint.Native.BillingManagedRetry
import HivePoint.Spec.Materialization

/-!
# What a billing call does to the rows

The calls through which the billing state changes (`BillingCall`), and for each of them
which rows it can change, and how. A row is named by its state before the call.

## Key results

- `syncInvoice_invoices`, `syncInvoice_subscriptions`: webhooks about an invoice
- `handleCheckoutCompleted_invoices`, `handleCheckoutCompleted_subscriptions`
- `syncSubscriptionFromExternal_subscriptions`, `markSubscriptionCanceled_subscriptions`
- `materializeSourceInvoice_subscriptions`
-/

namespace HivePoint

open Prog

/-! ### The calls -/

inductive BillingCall where
  | webhook (event : StripeEvent)
  | reconcile (externalSubscriptionId : String)
  | retry (invoice : DueRetry)
  | mockSucceed (invoiceId : Id)
  | mockFail (invoiceId : Id)
  | materialize (sourceInvoiceId : Id) (processedAt : Int)

def BillingCall.op (config : AppConfig) : BillingCall → Op Unit
  | .webhook event => handleWebhook config event
  | .reconcile externalSubscriptionId => reconcileSubscription config externalSubscriptionId
  | .retry invoice => processInvoiceRetry config invoice
  | .mockSucceed invoiceId => HivePoint.mockSucceed invoiceId
  | .mockFail invoiceId => HivePoint.mockFail config invoiceId
  | .materialize sourceInvoiceId processedAt => do
    let _ ← materializeSourceInvoice sourceInvoiceId processedAt

/-- A sequence of calls that all meet `ok`. During each call Stripe answers as in `stripe`;
    the clock, and whether the database executes a statement, may change at every statement. -/
inductive CallRun (config : AppConfig) (ok : World → StripeApi → BillingCall → Prop) (w₀ : World) :
    World → Prop where
  | start : CallRun config ok w₀ w₀
  | call {w w' : World} {r : Except Err Unit} (stripe : StripeApi) (c : BillingCall)
      (hbefore : CallRun config ok w₀ w) (hok : ok w stripe c)
      (hrun : Runs (fun env => env.stripe = stripe) (c.op config) w r w') : CallRun config ok w₀ w'

/-- A call whose statements all meet the same `env`. -/
theorem CallRun.exec {config : AppConfig} {ok : World → StripeApi → BillingCall → Prop}
    {w₀ w : World} (env : Env) (c : BillingCall) (h : CallRun config ok w₀ w)
    (hok : ok w env.stripe c) : CallRun config ok w₀ ((c.op config).exec env w).2 :=
  .call env.stripe c h hok (runs_exec (E := fun env' => env'.stripe = env.stripe) env rfl _ _)

variable {α : Type} {E : Env → Prop} {w w' : World} {r : Except Err Unit}

/-! ### Writes of a subscription -/

/-- A call that finds a subscription and rewrites it, after reading the clock or not. -/
private theorem runs_updateFound {β : Type} {find : World → Option Subscription} {P : β → Prop}
    (prepare : Op β) (data : β → Subscription → Subscription → Subscription)
    (hprepare : ∀ {w₁ r w₂}, Runs E prepare w₁ r w₂ → w₂ = w₁ ∧ ∀ b, r = .ok b → P b)
    (h : Runs E (do
      match ← read find with
      | none => throw subscriptionNotFound
      | some subscription =>
        let b ← prepare
        updateSubscription subscription.id (data b subscription)) w r w') :
    (w' = w ∧ ∃ e, r = .error e) ∨
      ∃ subscription b, find w = some subscription ∧ P b ∧
        w.updateSubscription subscription.id (data b subscription) = .ok w' ∧ r = .ok () := by
  -- the read answers nothing, or the row that is then updated after the preparation
  rcases runs_bind.mp h with ⟨e, hread, rfl⟩ | ⟨found, w₁, hread, h₁⟩
  · exact .inl ⟨(runs_read hread).1, e, rfl⟩
  obtain ⟨rfl, hfound⟩ := runs_read hread
  replace hfound := (hfound _ rfl).symm
  cases found with
  | none =>
    obtain ⟨rfl, rfl⟩ := runs_throw.mp h₁
    exact .inl ⟨rfl, _, rfl⟩
  | some subscription =>
    rcases runs_bind.mp h₁ with ⟨e, hprep, rfl⟩ | ⟨b, w₂, hprep, h₂⟩
    · exact .inl ⟨(hprepare hprep).1, e, rfl⟩
    obtain ⟨rfl, hb⟩ := hprepare hprep
    rcases runs_updateSubscription h₂ with hrefused | ⟨hupdate, rfl⟩
    · exact .inl hrefused
    · exact .inr ⟨subscription, b, hfound, hb b rfl, hupdate, rfl⟩

/-- A snapshot's sync updates the subscription of its external id, or nothing. -/
theorem runs_syncSubscriptionFromExternal {config : AppConfig} {params : SyncSubscriptionParams}
    (h : Runs E (syncSubscriptionFromExternal config params) w r w') :
    (w' = w ∧ ∃ e, r = .error e) ∨
      ∃ subscription now, w.findSubscriptionByExternalId params.externalSubscriptionId =
        some subscription ∧
        (∃ env, E env ∧ now = env.now) ∧
        w.updateSubscription subscription.id (syncedSubscription config now params subscription) =
          .ok w' ∧ r = .ok () :=
  runs_updateFound clock (fun now => syncedSubscription config now params)
    (P := fun now => ∃ env, E env ∧ now = env.now) (fun hclock => by
      obtain ⟨hw, env, henv, rfl⟩ := runs_clock hclock
      exact ⟨hw, fun now hnow => ⟨env, henv, (Except.ok.inj hnow).symm⟩⟩) h

/-- A snapshot changes the subscription that carries its id. -/
theorem syncSubscriptionFromExternal_subscriptions {config : AppConfig}
    {params : SyncSubscriptionParams}
    (h : Runs E (syncSubscriptionFromExternal config params) w r w') :
    (w.subscriptions.Evolves w'.subscriptions fun _ row row' =>
      w.findSubscriptionByExternalId params.externalSubscriptionId = some row ∧
        ∃ env, E env ∧ row' = syncedSubscription config env.now params row row) ∧
      w'.invoices = w.invoices := by
  rcases runs_syncSubscriptionFromExternal h with
    ⟨rfl, -⟩ | ⟨subscription, _, hfind, ⟨env, henv, rfl⟩, hupdate, -⟩
  · exact ⟨.refl _, rfl⟩
  · obtain ⟨t, ht, rfl⟩ := updateSubscription_eq_ok hupdate
    refine ⟨(Table.evolves_update? ht fun _ => rfl).mono fun k row row' hrow ⟨hk, hrow'⟩ => ?_, rfl⟩
    have hsub : w.subscriptions.find? subscription.id = some subscription :=
      Table.find?_key (Table.mem_of_findBy? hfind)
    rw [hk, hsub] at hrow
    obtain rfl := Option.some.inj hrow
    exact ⟨hfind, env, henv, hrow'⟩

/-- The cancellation of a subscription that Stripe has deleted. -/
theorem markSubscriptionCanceled_subscriptions {externalSubscriptionId : String}
    (h : Runs E (markSubscriptionCanceledByExternalId externalSubscriptionId) w r w') :
    (w.subscriptions.Evolves w'.subscriptions fun _ row row' =>
      row' = { row with
        status := .canceled, gracePeriodEndsAt := none, cancelAtPeriodEnd := false }) ∧
      w'.invoices = w.invoices := by
  rcases runs_updateFound (P := fun _ => True) (pure ()) (fun _ _ row =>
      { row with status := .canceled, gracePeriodEndsAt := none, cancelAtPeriodEnd := false })
    (fun hpure => ⟨(runs_pure.mp hpure).2, fun _ _ => trivial⟩) h with
    ⟨rfl, -⟩ | ⟨subscription, _, -, -, hupdate, -⟩
  · exact ⟨.refl _, rfl⟩
  · obtain ⟨t, ht, rfl⟩ := updateSubscription_eq_ok hupdate
    exact ⟨(Table.evolves_update? ht fun _ => rfl).mono fun _ _ _ _ h => h.2, rfl⟩

/-! ### Webhooks about an invoice -/

/-- A handler that swallows an error has still run. -/
theorem runs_ignoringNotFound {op : Op Unit} (h : Runs E (ignoringNotFound op) w r w') :
    ∃ r₁, Runs E op w r₁ w' := by
  rcases runs_tryCatch.mp h with ⟨_, hop, -⟩ | ⟨e, w₁, hop, hcatch⟩
  · exact ⟨_, hop⟩
  · split at hcatch
    · obtain ⟨-, rfl⟩ := runs_pure.mp hcatch
      exact ⟨_, hop⟩
    · obtain ⟨-, rfl⟩ := runs_throw.mp hcatch
      exact ⟨_, hop⟩

/-- The local invoice id that a webhook about `invoice` finds in metadata: the invoice's
    own, else, if it may, that of the subscription that Stripe answers with. -/
def webhookMetadata (stripe : StripeApi) (invoice : StripeInvoice) : Option String :=
  match ownMetadataInvoiceId invoice with
  | some id => some id
  | none =>
    if !shouldAllowMetadataInvoiceId invoice then none
    else
      match externalSubscriptionIdOf invoice with
      | none => none
      | some id =>
        if id = "" then none
        else
          match stripe.retrieveSubscription id with
          | .ok subscription => subscription.metadataInvoiceId
          | _ => none

/-- Resolving the metadata only asks Stripe. -/
theorem runs_resolveMetadataInvoiceId {invoice : StripeInvoice} {r : Except Err (Option String)}
    (h : Runs E (resolveMetadataInvoiceId invoice (externalSubscriptionIdOf invoice)
      (shouldAllowMetadataInvoiceId invoice)) w r w') :
    (∃ log, w' = { w with stripeLog := log }) ∧ ∀ metadataInvoiceId, r = .ok metadataInvoiceId →
      (∃ env, E env) → ∃ env, E env ∧ metadataInvoiceId = webhookMetadata env.stripe invoice := by
  -- Stripe is asked only in the last case; before that any `env` will do
  have hpure : ∀ {metadataInvoiceId : Option String},
      Runs E (pure metadataInvoiceId : Op (Option String)) w r w' →
      (∀ stripe, webhookMetadata stripe invoice = metadataInvoiceId) →
      (∃ log, w' = { w with stripeLog := log }) ∧ ∀ metadataInvoiceId, r = .ok metadataInvoiceId →
        (∃ env, E env) → ∃ env, E env ∧ metadataInvoiceId = webhookMetadata env.stripe invoice := by
    rintro metadataInvoiceId hrun hmetadata
    obtain ⟨rfl, rfl⟩ := runs_pure.mp hrun
    refine ⟨⟨_, rfl⟩, fun _ hr hsome => ?_⟩
    obtain ⟨env, henv⟩ := hsome
    exact ⟨env, henv, (Except.ok.inj hr).symm.trans (hmetadata env.stripe).symm⟩
  rw [resolveMetadataInvoiceId] at h
  split at h
  · rename_i id hown
    exact hpure h fun _ => by simp only [webhookMetadata, hown]
  · rename_i hown
    split at h
    · rename_i hallow
      exact hpure h fun _ => by simp only [webhookMetadata, hown, hallow, if_true]
    · rename_i hallow
      cases hext : externalSubscriptionIdOf invoice with
      | none =>
        rw [hext] at h
        exact hpure h fun _ => by
          simp only [webhookMetadata, hown, hallow, hext, Bool.false_eq_true, if_false]
      | some id =>
        rw [hext] at h
        simp only [resolveSubscriptionMetadata] at h
        split at h
        · rename_i hempty
          exact hpure h fun _ => by
            simp only [webhookMetadata, hown, hallow, hext, hempty, Bool.false_eq_true, if_false,
              if_true]
        · rename_i hempty
          rcases runs_bind.mp h with ⟨e, hcall, rfl⟩ | ⟨subscription, w₁, hcall, hret⟩
          · obtain ⟨⟨_, rfl⟩, -⟩ := runs_callStripe hcall
            exact ⟨⟨_, rfl⟩, fun _ hr => by cases hr⟩
          obtain ⟨⟨_, rfl⟩, env, henv, hanswer⟩ := runs_callStripe hcall
          obtain ⟨rfl, rfl⟩ := runs_pure.mp hret
          refine ⟨⟨_, rfl⟩, fun metadataInvoiceId hr _ => ⟨env, henv, ?_⟩⟩
          simp only [webhookMetadata, hown, hallow, hext, hempty, Bool.false_eq_true, if_false,
            hanswer subscription rfl, ← Except.ok.inj hr]

/-- What the handlers of invoice events hand to `syncInvoiceFromExternal`. -/
def webhookParams (stripe : StripeApi) (invoice : StripeInvoice) (status : InvoiceStatus) :
    SyncInvoiceParams :=
  webhookSyncParams invoice (webhookMetadata stripe invoice) status

/-- A handler whose program returns swallows nothing. -/
theorem exec_ignoringNotFound {op : Op Unit} {env : Env} (h : op.exec env w = (.ok (), w')) :
    (ignoringNotFound op).exec env w = (.ok (), w') := by
  rw [ignoringNotFound, exec_tryCatch, h]

/-- An invoice event that names the local invoice is synchronised without asking Stripe. -/
theorem exec_syncInvoice {config : AppConfig} {event : StripeInvoice} {status : InvoiceStatus}
    {id : Id} {env : Env} (invoiceId : Id) (hmetadata : ownMetadataInvoiceId event = some id)
    (h : (syncInvoiceFromExternal config (webhookSyncParams event (some id) status)).exec env w =
      (.ok invoiceId, w')) :
    (syncInvoice config event status).exec env w = (.ok (), w') := by
  simp only [syncInvoice, resolveMetadataInvoiceId, hmetadata, exec_bind, exec_pure]
  refine exec_ignoringNotFound ?_
  rw [exec_bind, h]
  rfl

section SyncInvoice

variable {config : AppConfig} {invoice : StripeInvoice} {status : InvoiceStatus}

/-- A webhook about an invoice is a synchronisation, up to the log of requests. -/
theorem runs_syncInvoice (h : Runs E (syncInvoice config invoice status) w r w') :
    ∃ log, w' = { w with stripeLog := log } ∨ ∃ env r₁, E env ∧
      Runs E (syncInvoiceFromExternal config (webhookParams env.stripe invoice status))
        { w with stripeLog := log } r₁ w' := by
  rcases runs_bind.mp h with ⟨e, hmetadata, rfl⟩ | ⟨metadataInvoiceId, w₁, hmetadata, h₁⟩
  · obtain ⟨⟨log, rfl⟩, -⟩ := runs_resolveMetadataInvoiceId hmetadata
    exact ⟨log, .inl rfl⟩
  obtain ⟨⟨log, rfl⟩, hresolved⟩ := runs_resolveMetadataInvoiceId hmetadata
  obtain ⟨r₁, hsync⟩ := runs_ignoringNotFound h₁
  have hE : ∃ env, E env := by
    cases hsync with
    | step env henv _ => exact ⟨env, henv⟩
  obtain ⟨env, henv, rfl⟩ := hresolved _ rfl hE
  rcases runs_bind.mp hsync with ⟨e, hsync, -⟩ | ⟨_, w₂, hsync, hret⟩
  · exact ⟨log, .inr ⟨env, _, henv, hsync⟩⟩
  · obtain ⟨-, rfl⟩ := runs_pure.mp hret
    exact ⟨log, .inr ⟨env, _, henv, hsync⟩⟩

/-- A synced invoice evolves by its outcome alone. -/
theorem syncInvoice_invoices (h : Runs E (syncInvoice config invoice status) w r w') :
    w.invoices.Evolves w'.invoices fun _ row row' => ∃ env, E env ∧
      w.knownInvoice (webhookParams env.stripe invoice status) = some row ∧
        SyncedInvoice E config (webhookParams env.stripe invoice status) w row row' := by
  obtain ⟨log, rfl | ⟨env, r₁, henv, hsync⟩⟩ := runs_syncInvoice h
  · exact .refl _
  · refine (syncInvoiceFromExternal_invoices hsync).mono fun _ _ _ _ ⟨hknown, hrow'⟩ =>
      ⟨env, henv, hknown, ?_⟩
    cases hrow' with
    | draft hstatus => exact .draft hstatus
    | paid hstatus => exact .paid hstatus
    | failed subscription env' hstatus henv' hsub =>
      exact .failed subscription env' hstatus henv' hsub

/-- The subscription of a synced invoice evolves by its outcome alone. -/
theorem syncInvoice_subscriptions (h : Runs E (syncInvoice config invoice status) w r w') :
    w.subscriptions.Evolves w'.subscriptions fun k row row' => ∃ env target, E env ∧
      w.SyncsTo (webhookParams env.stripe invoice status) target ∧ target.kind = .subscription ∧
        target.subscriptionId = k ∧
          SyncedSubscription E config (webhookParams env.stripe invoice status) target row
            row' := by
  obtain ⟨log, rfl | ⟨env, r₁, henv, hsync⟩⟩ := runs_syncInvoice h
  · exact .refl _
  · exact (syncInvoiceFromExternal_subscriptions hsync).mono
      fun _ _ _ _ ⟨target, htarget⟩ => ⟨env, target, henv, htarget⟩

end SyncInvoice

/-! ### Webhooks about a checkout session -/

/-- The rows as `recordExternalCheckout` leaves them: linked to Stripe, otherwise the same. -/
def RelinkedInvoice (row row' : Invoice) : Prop :=
  ∃ paymentProvider externalCheckoutSessionId,
    row' = { row with paymentProvider, externalCheckoutSessionId }

def RelinkedSubscription (row row' : Subscription) : Prop :=
  ∃ paymentProvider externalSubscriptionId,
    row' = { row with paymentProvider, externalSubscriptionId }

/-- An invoice may stay as it is linked. -/
theorem RelinkedInvoice.refl (row : Invoice) : RelinkedInvoice row row := ⟨_, _, rfl⟩

/-- A subscription may stay as it is linked. -/
theorem RelinkedSubscription.refl (row : Subscription) : RelinkedSubscription row row := ⟨_, _, rfl⟩

/-- Recording a checkout links an invoice that stands and its subscription. -/
theorem recordExternalCheckout_evolves {params : RecordExternalCheckoutParams}
    (h : Runs E (recordExternalCheckout params) w r w') :
    (w.invoices.Evolves w'.invoices fun _ => RelinkedInvoice) ∧
      (w.subscriptions.Evolves w'.subscriptions fun _ => RelinkedSubscription) ∧
        (r = .ok () → ∃ invoice, w.invoices.find? params.invoiceId = some invoice) := by
  rcases runs_bind.mp h with ⟨e, hread, rfl⟩ | ⟨found, w₁, hread, h₁⟩
  · obtain ⟨rfl, -⟩ := runs_read hread
    exact ⟨.refl _, .refl _, fun h => nomatch h⟩
  obtain ⟨rfl, hfound⟩ := runs_read hread
  replace hfound := (hfound _ rfl).symm
  cases found with
  | none =>
    obtain ⟨rfl, rfl⟩ := runs_throw.mp h₁
    exact ⟨.refl _, .refl _, fun h => nomatch h⟩
  | some found =>
    obtain ⟨invoice, subscription⟩ := found
    obtain ⟨hinvoice, -⟩ := findInvoiceWithSubscription_eq_some.mp hfound
    -- the invoice is linked first, and its subscription after it
    rcases runs_bind.mp h₁ with ⟨e, hupdate, rfl⟩ | ⟨_, w₂, hupdate, h₂⟩
    · rcases runs_updateInvoice hupdate with ⟨rfl, -⟩ | ⟨-, hok⟩
      · exact ⟨.refl _, .refl _, fun h => nomatch h⟩
      · exact nomatch hok
    rcases runs_updateInvoice hupdate with ⟨-, _, hok⟩ | ⟨hupdated, -⟩
    · exact nomatch hok
    obtain ⟨t, ht, rfl⟩ := updateInvoice_eq_ok hupdated
    have hinvoices : w₁.invoices.Evolves t fun _ => RelinkedInvoice :=
      (Table.evolves_update? ht fun _ => rfl).mono fun _ row _ _ h => ⟨_, _, h.2⟩
    -- the second update leaves the invoices as the first left them
    have hsub : w₁.subscriptions.Evolves w'.subscriptions (fun _ => RelinkedSubscription) ∧
        w'.invoices = t := by
      split at h₂
      · rcases runs_updateSubscription h₂ with ⟨rfl, -⟩ | ⟨hupdated', -⟩
        · exact ⟨.refl _, rfl⟩
        · obtain ⟨t', ht', rfl⟩ := updateSubscription_eq_ok hupdated'
          exact ⟨(Table.evolves_update? ht' fun _ => rfl).mono fun _ row _ _ h => ⟨_, _, h.2⟩, rfl⟩
      · obtain ⟨-, rfl⟩ := runs_pure.mp h₂
        exact ⟨.refl _, rfl⟩
    exact ⟨hsub.2 ▸ hinvoices, hsub.1, fun _ => ⟨invoice, hinvoice⟩⟩

section Checkout

variable {session : CheckoutSession}

/-- A completed checkout links the rows, and pays the invoice unless a subscription pays. -/
private theorem runs_handleCheckoutCompleted (h : Runs E (handleCheckoutCompleted session) w r w') :
    w' = w ∨ ∃ invoiceId r₁ w₁, session.metadataInvoiceId = some invoiceId ∧
      Runs E (recordExternalCheckout
        { invoiceId
          paymentProvider := .stripe
          externalCheckoutSessionId := some session.id
          externalSubscriptionId := session.subscription }) w r₁ w₁ ∧
      (w' = w₁ ∨ (r₁ = .ok () ∧ (session.mode = .setup ∨ session.subscription = none) ∧
        ∃ r₂, Runs E (markInvoicePaid
          { invoiceId
            paymentProvider := .stripe
            externalCheckoutSessionId := some session.id }) w₁ r₂ w')) := by
  rw [handleCheckoutCompleted] at h
  split at h
  · exact .inl (runs_pure.mp h).2
  · rename_i invoiceId hmetadata
    split at h
    · exact .inl (runs_pure.mp h).2
    · obtain ⟨r', hrun⟩ := runs_ignoringNotFound h
      refine .inr ⟨invoiceId, ?_⟩
      -- a session that also pays marks the invoice after its checkout is recorded
      rcases runs_bind.mp hrun with ⟨e, hrecord, -⟩ | ⟨_, w₁, hrecord, h₁⟩
      · exact ⟨_, w', hmetadata, hrecord, .inl rfl⟩
      refine ⟨_, w₁, hmetadata, hrecord, ?_⟩
      split at h₁
      · rename_i hmode
        simp only [Bool.or_eq_true, decide_eq_true_eq, Option.isNone_iff_eq_none] at hmode
        rcases runs_bind.mp h₁ with ⟨e, hpaid, -⟩ | ⟨_, w₂, hpaid, hret⟩
        · exact .inr ⟨rfl, hmode, _, hpaid⟩
        · obtain ⟨-, rfl⟩ := runs_pure.mp hret
          exact .inr ⟨rfl, hmode, _, hpaid⟩
      · exact .inl (runs_pure.mp h₁).2

/-- A completed checkout links invoices and may pay one of them. -/
theorem handleCheckoutCompleted_invoices (h : Runs E (handleCheckoutCompleted session) w r w') :
    w.invoices.Evolves w'.invoices fun _ row row' => ∃ row₁, RelinkedInvoice row row₁ ∧
      (row' = row₁ ∨ ∃ params : MarkInvoicePaidParams, params.externalInvoiceId = none ∧
        row' = paidInvoice params row₁ row₁) := by
  rcases runs_handleCheckoutCompleted h with
    rfl | ⟨invoiceId, r₁, w₁, -, hrecord, rfl | ⟨-, -, r₂, hpaid⟩⟩
  · exact .refl _
  · exact (recordExternalCheckout_evolves hrecord).1.mono fun _ _ row' _ h => ⟨row', h, .inl rfl⟩
  · intro k row hrow
    obtain ⟨row₁, hrow₁, hlinked⟩ := (recordExternalCheckout_evolves hrecord).1 k row hrow
    have hlinked : RelinkedInvoice row row₁ := hlinked.elim (fun h => h ▸ .refl _) id
    obtain ⟨row', hrow', hchange⟩ := markInvoicePaid_invoices hpaid k row₁ hrow₁
    exact ⟨row', hrow', .inr ⟨row₁, hlinked, hchange.imp_right fun h => ⟨_, rfl, h.2.2⟩⟩⟩

/-- A completed checkout links subscriptions and may activate one of them. -/
theorem handleCheckoutCompleted_subscriptions
    (h : Runs E (handleCheckoutCompleted session) w r w') :
    w.subscriptions.Evolves w'.subscriptions fun k row row' => ∃ row₁,
      RelinkedSubscription row row₁ ∧
      (row' = row₁ ∨ ∃ invoiceId invoice params, session.metadataInvoiceId = some invoiceId ∧
        (session.mode = .setup ∨ session.subscription = none) ∧
        w.invoices.find? invoiceId = some invoice ∧ invoice.kind = .subscription ∧
        invoice.subscriptionId = k ∧ row' = activatedSubscription params invoice row₁ row₁) := by
  rcases runs_handleCheckoutCompleted h with
    rfl | ⟨invoiceId, r₁, w₁, hmetadata, hrecord, rfl | ⟨hr₁, hmode, r₂, hpaid⟩⟩
  · exact .refl _
  · exact (recordExternalCheckout_evolves hrecord).2.1.mono fun _ _ row' _ h => ⟨row', h, .inl rfl⟩
  · obtain ⟨hinvoices, hsubs, hfound⟩ := recordExternalCheckout_evolves hrecord
    obtain ⟨invoice, hinvoice⟩ := hfound hr₁
    obtain ⟨invoice₁, hinvoice₁, hlinkedInvoice⟩ := hinvoices _ _ hinvoice
    have hlinkedInvoice : RelinkedInvoice invoice invoice₁ :=
      -- the row is linked first, and the payment acts on the linked row
      hlinkedInvoice.elim (fun h => h ▸ .refl _) id
    intro k row hrow
    obtain ⟨row₁, hrow₁, hlinked⟩ := hsubs k row hrow
    have hlinked : RelinkedSubscription row row₁ := hlinked.elim (fun h => h ▸ .refl _) id
    obtain ⟨row', hrow', hchange⟩ := markInvoicePaid_subscriptions hpaid k row₁ hrow₁
    refine ⟨row', hrow', .inr ⟨row₁, hlinked, hchange.imp_right ?_⟩⟩
    rintro ⟨invoice', hfind, -, hkind, hk, rfl⟩
    -- the invoice paid is the linked invoice
    obtain rfl := Option.some.inj (hinvoice₁.symm.trans hfind)
    obtain ⟨_, _, rfl⟩ := hlinkedInvoice
    exact ⟨invoiceId, invoice, _, hmetadata, hmode, hinvoice, hkind, hk, rfl⟩

variable {config : AppConfig}

/-- An expired checkout is a failure report without an external invoice id. -/
theorem runs_handleCheckoutExpired (h : Runs E (handleCheckoutExpired config session) w r w') :
    w' = w ∨ ∃ invoiceId r₁, session.metadataInvoiceId = some invoiceId ∧
      Runs E (markInvoiceFailed config
        { invoiceId
          paymentProvider := .stripe
          externalCheckoutSessionId := some session.id
          externalSubscriptionId := session.subscription }) w r₁ w' := by
  rw [handleCheckoutExpired] at h
  split at h
  · exact .inl (runs_pure.mp h).2
  · rename_i invoiceId hmetadata
    split at h
    · exact .inl (runs_pure.mp h).2
    · obtain ⟨r', hrun⟩ := runs_ignoringNotFound h
      rcases runs_bind.mp hrun with ⟨e, hfailed, -⟩ | ⟨_, w₁, hfailed, hret⟩
      · exact .inr ⟨invoiceId, _, hmetadata, hfailed⟩
      · obtain ⟨-, rfl⟩ := runs_pure.mp hret
        exact .inr ⟨invoiceId, _, hmetadata, hfailed⟩

end Checkout

/-! ### Reconciliation -/

section Reconcile

variable {config : AppConfig} {externalSubscriptionId : String}

/-- The latest invoice that `resolveLatestInvoice` gets hold of. -/
def obtainedInvoice (stripe : StripeApi) : LatestInvoice → Option StripeInvoice
  | .null => none
  | .expanded invoice => some invoice
  | .id invoiceId =>
    if invoiceId = "" then none
    else
      match stripe.retrieveInvoice invoiceId with
      | .ok invoice => some invoice
      | _ => none

/-- The latest invoice is the one of the snapshot, or the one that Stripe gives. -/
theorem runs_resolveLatestInvoice {latestInvoice : LatestInvoice}
    {r : Except Err (Option StripeInvoice)}
    (h : Runs E (resolveLatestInvoice latestInvoice) w r w') :
    (∃ log, w' = { w with stripeLog := log }) ∧
      ∀ stripe, (∀ env, E env → env.stripe = stripe) → ∀ latest, r = .ok latest →
        latest = obtainedInvoice stripe latestInvoice := by
  -- only an id is looked up, and only if it is not empty
  cases latestInvoice with
  | null =>
    obtain ⟨rfl, rfl⟩ := runs_pure.mp h
    exact ⟨⟨_, rfl⟩, fun _ _ _ hr => (Except.ok.inj hr).symm⟩
  | expanded invoice =>
    obtain ⟨rfl, rfl⟩ := runs_pure.mp h
    exact ⟨⟨_, rfl⟩, fun _ _ _ hr => (Except.ok.inj hr).symm⟩
  | id invoiceId =>
    simp only [resolveLatestInvoice] at h
    split at h
    · rename_i hempty
      obtain ⟨rfl, rfl⟩ := runs_pure.mp h
      refine ⟨⟨_, rfl⟩, fun _ _ _ hr => ?_⟩
      simp only [obtainedInvoice, hempty, if_true, ← Except.ok.inj hr]
    · rename_i hempty
      rcases runs_bind.mp h with ⟨_, hcall, rfl⟩ | ⟨invoice, _, hcall, hret⟩
      · obtain ⟨⟨_, rfl⟩, -⟩ := runs_callStripe hcall
        exact ⟨⟨_, rfl⟩, fun _ _ _ hr => by cases hr⟩
      · obtain ⟨⟨_, rfl⟩, env, henv, hanswer⟩ := runs_callStripe hcall
        obtain ⟨rfl, rfl⟩ := runs_pure.mp hret
        refine ⟨⟨_, rfl⟩, fun stripe hstripe _ hr => ?_⟩
        have hanswer := hanswer invoice rfl
        rw [hstripe env henv] at hanswer
        simp only [obtainedInvoice, hempty, if_false, hanswer, ← Except.ok.inj hr]

/-- A snapshot is written in two steps: the subscription, then its latest invoice. -/
theorem runs_reconcileSnapshot {subscription : StripeSubscription}
    (h : Runs E (reconcileSnapshot config subscription) w r w') :
    ∃ r₁ w₁ log, Runs E (syncSubscriptionFromExternal config (snapshotSyncParams subscription))
      w r₁ w₁ ∧
      (w' = { w₁ with stripeLog := log } ∨ ∃ latestInvoice r₂,
        Runs E (syncInvoiceFromExternal config (reconciledSyncParams subscription latestInvoice))
          { w₁ with stripeLog := log } r₂ w') := by
  -- the snapshot's sync comes first, then the latest invoice and its own sync
  rcases runs_bind.mp h with ⟨e, hsync, -⟩ | ⟨_, w₁, hsync, h₁⟩
  · exact ⟨_, w', w'.stripeLog, hsync, .inl rfl⟩
  rcases runs_bind.mp h₁ with ⟨e, hlatest, -⟩ | ⟨latest, w₂, hlatest, h₂⟩
  · obtain ⟨⟨log, rfl⟩, -⟩ := runs_resolveLatestInvoice hlatest
    exact ⟨_, w₁, log, hsync, .inl rfl⟩
  obtain ⟨⟨log, rfl⟩, -⟩ := runs_resolveLatestInvoice hlatest
  refine ⟨_, w₁, log, hsync, ?_⟩
  cases latest with
  | none => exact .inl (runs_pure.mp h₂).2
  | some latestInvoice =>
    rcases runs_bind.mp h₂ with ⟨e, hinvoice, -⟩ | ⟨_, w₃, hinvoice, hret⟩
    · exact .inr ⟨latestInvoice, _, hinvoice⟩
    · obtain ⟨-, rfl⟩ := runs_pure.mp hret
      exact .inr ⟨latestInvoice, _, hinvoice⟩

/-- A reconciliation writes a snapshot, or cancels a subscription that Stripe does not know. -/
theorem runs_reconcileSubscription
    (h : Runs E (reconcileSubscription config externalSubscriptionId) w r w') :
    ∃ log, w' = { w with stripeLog := log } ∨
      (∃ r₁, Runs E (markSubscriptionCanceledByExternalId externalSubscriptionId)
        { w with stripeLog := log } r₁ w') ∨
      ∃ subscription r₁, Runs E (reconcileSnapshot config subscription)
        { w with stripeLog := log } r₁ w' := by
  -- what is left of a `retrieve` that failed
  have hfailed : ∀ {e r w₁ w₂}, Runs E (if isStripeNotFound e then do
        markSubscriptionCanceledByExternalId externalSubscriptionId
        return none
      else throw e : Op (Option StripeSubscription)) w₁ r w₂ →
      (∀ s, r ≠ .ok (some s)) ∧ (w₂ = w₁ ∨
        ∃ r₁, Runs E (markSubscriptionCanceledByExternalId externalSubscriptionId) w₁ r₁ w₂) := by
    intro e r w₁ w₂ hrun
    split at hrun
    · rcases runs_bind.mp hrun with ⟨_, hcancel, rfl⟩ | ⟨_, w₃, hcancel, hret⟩
      · exact ⟨fun _ h => (nomatch h), .inr ⟨_, hcancel⟩⟩
      · obtain ⟨rfl, rfl⟩ := runs_pure.mp hret
        exact ⟨fun _ h => (nomatch h), .inr ⟨_, hcancel⟩⟩
    · obtain ⟨rfl, rfl⟩ := runs_throw.mp hrun
      exact ⟨fun _ h => (nomatch h), .inl rfl⟩
  have hretrieve : ∀ {r w₁}, Runs E (retrieveSnapshot externalSubscriptionId) w r w₁ →
      ∃ log, w₁ = { w with stripeLog := log } ∨ ((∀ s, r ≠ .ok (some s)) ∧
        ∃ r₁, Runs E (markSubscriptionCanceledByExternalId externalSubscriptionId)
          { w with stripeLog := log } r₁ w₁) := by
    intro r w₁ hrun
    rcases runs_tryCatch.mp hrun with ⟨_, hcall, -⟩ | ⟨e, w₂, hcall, hcatch⟩
    · rcases runs_bind.mp hcall with ⟨_, -, hok⟩ | ⟨_, w₂, hcall, hret⟩
      · exact nomatch hok
      · obtain ⟨⟨_, rfl⟩, -⟩ := runs_callStripe hcall
        exact ⟨_, .inl (runs_pure.mp hret).2⟩
    · rcases runs_bind.mp hcall with ⟨_, hcall, -⟩ | ⟨_, w₃, hcall, hret⟩
      · obtain ⟨⟨_, rfl⟩, -⟩ := runs_callStripe hcall
        obtain ⟨hne, rfl | hcancel⟩ := hfailed hcatch
        · exact ⟨_, .inl rfl⟩
        · exact ⟨_, .inr ⟨hne, hcancel⟩⟩
      · exact nomatch (runs_pure.mp hret).1
  rcases runs_bind.mp h with ⟨e, hrun, -⟩ | ⟨snapshot, w₁, hrun, h₁⟩
  · obtain ⟨log, rfl | ⟨-, hcancel⟩⟩ := hretrieve hrun
    · exact ⟨log, .inl rfl⟩
    · exact ⟨log, .inr (.inl hcancel)⟩
  · obtain ⟨log, hw₁⟩ := hretrieve hrun
    cases snapshot with
    | none =>
      obtain ⟨-, rfl⟩ := runs_pure.mp h₁
      rcases hw₁ with rfl | ⟨-, hcancel⟩
      · exact ⟨log, .inl rfl⟩
      · exact ⟨log, .inr (.inl hcancel)⟩
    | some subscription =>
      rcases hw₁ with rfl | ⟨hne, -⟩
      · exact ⟨log, .inr (.inr ⟨subscription, r, h₁⟩)⟩
      · exact absurd rfl (hne subscription)

end Reconcile

/-! ### Managed retries -/

section Retry

variable {config : AppConfig} {invoice : DueRetry}

/-- What a retry hands to `markInvoicePaid`. -/
def retryPaidParams (invoice : DueRetry) (result : RetryInvoicePaymentResult) :
    MarkInvoicePaidParams where
  invoiceId := invoice.id
  paymentProvider := .stripe
  externalInvoiceId := some result.externalInvoiceId
  externalSubscriptionId := result.externalSubscriptionId
  attemptCount := some result.attemptCount

/-- What a retry hands to `markInvoiceFailed`. -/
def retryFailedParams (invoice : DueRetry) (result : RetryInvoicePaymentResult) :
    MarkInvoiceFailedParams where
  invoiceId := invoice.id
  paymentProvider := .stripe
  externalInvoiceId := some result.externalInvoiceId
  externalSubscriptionId := result.externalSubscriptionId
  invoiceStatus := some (if result.status = .void then .void else .pastDue)
  attemptCount := some result.attemptCount
  nextPaymentAttemptAt := result.nextPaymentAttemptAt

/-- At most the managed retry columns of invoices differ. -/
def OnlyRetryState (w w' : World) : Prop :=
  (w.invoices.Evolves w'.invoices fun _ row row' =>
    ∃ state, row' = { row with toManagedRetryState := state }) ∧ w'.subscriptions = w.subscriptions

/-- Doing nothing changes no more than the retry state. -/
theorem OnlyRetryState.refl (w : World) : OnlyRetryState w w := ⟨.refl _, rfl⟩

/-- Changing the retry state twice changes no more than it. -/
theorem OnlyRetryState.trans {w₁ w₂ w₃ : World} (h₁ : OnlyRetryState w₁ w₂)
    (h₂ : OnlyRetryState w₂ w₃) : OnlyRetryState w₁ w₃ :=
  ⟨h₁.1.trans h₂.1 fun _ _ _ _ ⟨_, h⟩ ⟨state, h'⟩ => ⟨state, by rw [h', h]⟩, h₂.2.trans h₁.2⟩

/-- Recording an attempt changes no more than the retry state. -/
private theorem runs_recordRetryAttempt {attemptedAt : Int} {errorMessage : Option String}
    (h : Runs E (recordRetryAttempt config invoice attemptedAt errorMessage) w r w') :
    OnlyRetryState w w' := by
  rcases runs_updateInvoice h with ⟨rfl, -⟩ | ⟨hupdate, -⟩
  · exact .refl _
  · obtain ⟨t, ht, rfl⟩ := updateInvoice_eq_ok hupdate
    exact ⟨(Table.evolves_update? ht fun _ => rfl).mono fun _ _ _ _ h => ⟨_, h.2⟩, rfl⟩

/-- An answer is recorded as an outcome; what comes after it is about the schedule. -/
private theorem runs_applyRetryResult {attemptedAt : Int} {result : RetryInvoicePaymentResult}
    (h : Runs E (applyRetryResult config invoice attemptedAt result) w r w') :
    ∃ w₁ r₁, (result.status = .paid ∧
          Runs E (markInvoicePaid (retryPaidParams invoice result)) w r₁ w₁ ∨
        result.status ≠ .paid ∧
          Runs E (markInvoiceFailed config (retryFailedParams invoice result)) w r₁ w₁) ∧
      OnlyRetryState w₁ w' := by
  rw [applyRetryResult] at h
  -- a paid result is marked paid, any other is marked failed and its attempt recorded
  split at h
  · rename_i hstatus
    rcases runs_bind.mp h with ⟨e, hpaid, -⟩ | ⟨_, w₁, hpaid, hret⟩
    · exact ⟨w', _, .inl ⟨hstatus, hpaid⟩, .refl _⟩
    · obtain ⟨-, rfl⟩ := runs_pure.mp hret
      exact ⟨w', _, .inl ⟨hstatus, hpaid⟩, .refl _⟩
  · rename_i hstatus
    rcases runs_bind.mp h with ⟨e, hfailed, -⟩ | ⟨_, w₁, hfailed, h₁⟩
    · exact ⟨w', _, .inr ⟨hstatus, hfailed⟩, .refl _⟩
    refine ⟨w₁, _, .inr ⟨hstatus, hfailed⟩, ?_⟩
    split at h₁
    · exact runs_recordRetryAttempt h₁
    · obtain ⟨-, rfl⟩ := runs_pure.mp h₁
      exact .refl _

/-- A retry asks Stripe once, and records the outcome if it gets an answer. -/
theorem runs_processInvoiceRetry (h : Runs E (processInvoiceRetry config invoice) w r w') :
    ∃ log, OnlyRetryState { w with stripeLog := log } w' ∨
      ∃ env stripeInvoice w₁ r₁, E env ∧
        env.stripe.payInvoice invoice.externalInvoiceId = .ok stripeInvoice ∧
        ((toInvoiceResult stripeInvoice).status = .paid ∧
            Runs E (markInvoicePaid (retryPaidParams invoice (toInvoiceResult stripeInvoice)))
              { w with stripeLog := log } r₁ w₁ ∨
          (toInvoiceResult stripeInvoice).status ≠ .paid ∧
            Runs E (markInvoiceFailed config
                (retryFailedParams invoice (toInvoiceResult stripeInvoice)))
              { w with stripeLog := log } r₁ w₁) ∧
        OnlyRetryState w₁ w' := by
  rcases runs_bind.mp h with ⟨_, hclock, -⟩ | ⟨attemptedAt, w₀, hclock, h₀⟩
  · obtain ⟨-, _, -, hok⟩ := runs_clock hclock
    exact nomatch hok
  obtain ⟨rfl, -⟩ := runs_clock hclock
  -- an error of the payment is recorded as an attempt and thrown again
  have htry : ∃ r₁ w₁, Runs E (do
        let result ← retryInvoicePayment invoice.externalInvoiceId
        applyRetryResult config invoice attemptedAt result) w₀ r₁ w₁ ∧ OnlyRetryState w₁ w' := by
    rcases runs_tryCatch.mp h₀ with ⟨_, hrun, -⟩ | ⟨e, w₁, hrun, hcatch⟩
    · exact ⟨_, w', hrun, .refl _⟩
    · refine ⟨_, w₁, hrun, ?_⟩
      rcases runs_bind.mp hcatch with ⟨_, hattempt, -⟩ | ⟨_, w₂, hattempt, hthrow⟩
      · exact runs_recordRetryAttempt hattempt
      · obtain ⟨-, rfl⟩ := runs_throw.mp hthrow
        exact runs_recordRetryAttempt hattempt
  obtain ⟨r₁, w₁, hrun, hafter⟩ := htry
  -- Stripe gave no answer, or answered with the invoice that is then applied
  rcases runs_bind.mp hrun with ⟨_, hpay, -⟩ | ⟨result, w₂, hpay, happly⟩
  · rcases runs_bind.mp hpay with ⟨_, hcall, -⟩ | ⟨_, _, -, hret⟩
    · obtain ⟨⟨_, rfl⟩, -⟩ := runs_callStripe hcall
      exact ⟨_, .inl hafter⟩
    · exact nomatch (runs_pure.mp hret).1
  · rcases runs_bind.mp hpay with ⟨_, -, hok⟩ | ⟨stripeInvoice, w₃, hcall, hret⟩
    · exact nomatch hok
    · obtain ⟨⟨_, rfl⟩, env, henv, hanswer⟩ := runs_callStripe hcall
      obtain ⟨hresult, rfl⟩ := runs_pure.mp hret
      obtain rfl := Except.ok.inj hresult
      obtain ⟨w₄, r₂, houtcome, hschedule⟩ := runs_applyRetryResult happly
      exact ⟨_, .inr ⟨env, stripeInvoice, w₄, r₂, henv, hanswer _ rfl, houtcome,
        hschedule.trans hafter⟩⟩

end Retry

/-! ### Mock payments -/

/-- `mockSucceed` marks the invoice paid. -/
theorem runs_mockSucceed {invoiceId : Id} (h : Runs E (mockSucceed invoiceId) w r w') :
    ∃ r₁, Runs E (markInvoicePaid { invoiceId, paymentProvider := .mock }) w r₁ w' := by
  rcases runs_bind.mp h with ⟨_, hpaid, -⟩ | ⟨_, _, hpaid, hret⟩
  · exact ⟨_, hpaid⟩
  · obtain ⟨-, rfl⟩ := runs_pure.mp hret
    exact ⟨_, hpaid⟩

/-- `mockFail` marks the invoice failed. -/
theorem runs_mockFail {config : AppConfig} {invoiceId : Id}
    (h : Runs E (mockFail config invoiceId) w r w') :
    ∃ r₁, Runs E (markInvoiceFailed config { invoiceId, paymentProvider := .mock }) w r₁ w' := by
  rcases runs_bind.mp h with ⟨_, hfailed, -⟩ | ⟨_, _, hfailed, hret⟩
  · exact ⟨_, hfailed⟩
  · obtain ⟨-, rfl⟩ := runs_pure.mp hret
    exact ⟨_, hfailed⟩

/-! ### Settlement of a period -/

/-- What `rollForward` does to its subscription: nothing, cancellation, or renewal, and never
    the renewal of a canceled one. -/
private theorem rollForward_subscriptions {env : Env} {source : Invoice}
    {subscription : Subscription} {plan : Plan}
    (h : rollForward env source subscription plan w = .ok w') :
    w.subscriptions.Evolves w'.subscriptions fun _ row row' =>
      row'.gracePeriodEndsAt = none ∧
        (row'.status = .canceled ∨ row'.status = .active ∧ row.status ≠ .canceled) := by
  -- nothing, the planned cancel, or the renewal behind a new invoice
  cases rollForward_cases h with
  | nothing h =>
    subst h
    exact .refl _
  | canceled _ _ _ h =>
    obtain ⟨t, ht, rfl⟩ := updateSubscription_eq_ok h
    refine (Table.evolves_update? ht fun _ => rfl).mono ?_
    rintro _ _ _ - ⟨-, rfl⟩
    exact ⟨rfl, .inl rfl⟩
  | renewed _ _ hstatus hcurrent w₁ hcreate h =>
    obtain ⟨t, ht, rfl⟩ := updateSubscription_eq_ok h
    rw [createInvoice_subscriptions hcreate] at ht
    refine (Table.evolves_update? ht fun _ => rfl).mono ?_
    rintro k row _ hrow ⟨hk, rfl⟩
    rw [hk, hcurrent] at hrow
    exact ⟨rfl, .inr ⟨rfl, Option.some.inj hrow ▸ hstatus⟩⟩

/-- Settling a period cancels or renews the subscription, and never renews a canceled one. -/
theorem materialize_subscriptions {env : Env} {seen : World} {sourceInvoiceId : Id}
    {processedAt : Int} {processed : Bool}
    (h : w.materializeSourceInvoice env seen sourceInvoiceId processedAt = .ok (processed, w')) :
    w.subscriptions.Evolves w'.subscriptions fun _ row row' =>
      row'.gracePeriodEndsAt = none ∧
        (row'.status = .canceled ∨ row'.status = .active ∧ row.status ≠ .canceled) := by
  rcases materialize_cases h with
    ⟨-, rfl⟩ | ⟨-, source, subscription, plan, usedRequests, w₁, w₂, hdone⟩
  · exact .refl _
  · have hevolves := rollForward_subscriptions hdone.rolled
    rwa [hdone.settled_subscriptions, ← updateInvoice_subscriptions hdone.marked] at hevolves

/-- A settlement is refused or made. Alone, its snapshot is the state in which it commits. -/
theorem runs_materializeSourceInvoice {sourceInvoiceId : Id} {processedAt : Int}
    {r : Except Err Bool}
    (h : Runs E (materializeSourceInvoice sourceInvoiceId processedAt) w r w') :
    w' = w ∨ ∃ env processed, E env ∧
      w.materializeSourceInvoice env w sourceInvoiceId processedAt = .ok (processed, w') := by
  rcases runs_bind.mp h with ⟨e, hread, -⟩ | ⟨seen, w₁, hread, hcommit⟩
  · exact .inl (runs_read hread).1
  · obtain ⟨rfl, hseen⟩ := runs_read hread
    obtain rfl := hseen seen rfl
    rcases runs_mutate hcommit with ⟨rfl, -⟩ | ⟨env, processed, henv, hmaterialize, -⟩
    · exact .inl rfl
    · exact .inr ⟨env, processed, henv, hmaterialize⟩

/-- A materialization is one transaction, refused or committed. -/
theorem runs_materialize {config : AppConfig} {sourceInvoiceId : Id} {processedAt : Int}
    (h : Runs E ((BillingCall.materialize sourceInvoiceId processedAt).op config) w r w') :
    w' = w ∨ ∃ env processed, E env ∧
      w.materializeSourceInvoice env w sourceInvoiceId processedAt = .ok (processed, w') := by
  rcases runs_bind.mp h with ⟨_, hrun, -⟩ | ⟨_, _, hrun, hret⟩
  · exact runs_materializeSourceInvoice hrun
  · obtain ⟨-, rfl⟩ := runs_pure.mp hret
    exact runs_materializeSourceInvoice hrun

/-- The same of the worker's call. -/
theorem materializeSourceInvoice_subscriptions {config : AppConfig} {sourceInvoiceId : Id}
    {processedAt : Int}
    (h : Runs E ((BillingCall.materialize sourceInvoiceId processedAt).op config) w r w') :
    w.subscriptions.Evolves w'.subscriptions fun _ row row' =>
      row'.gracePeriodEndsAt = none ∧
        (row'.status = .canceled ∨ row'.status = .active ∧ row.status ≠ .canceled) := by
  rcases runs_materialize h with rfl | ⟨env, _, -, hmaterialize⟩
  · exact .refl _
  · exact materialize_subscriptions hmaterialize

end HivePoint
