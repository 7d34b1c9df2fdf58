import HivePoint.Spec.BillingCalls
import HivePoint.Spec.BillingSteps
import HivePoint.Spec.SettledPeriods

/-!
# Events about overage invoices

An invoice event whose metadata names a local overage invoice is about that invoice only if
its external id leads there: a renewal that carries the id comes first, and an overage that
carries another id is passed over in favour of a new renewal.

## Key results

- `overage_sparesEntitlement_iff`: for which events no subscription changes and no renewal is
  added.
- `not_overage_sparesEntitlement`: the event of an invoice that Stripe made, and whose answer
  was lost.
-/

namespace HivePoint

open Prog Pool

/-! ### The events -/

/-- The invoice events that `handleWebhook` knows. -/
inductive InvoiceEventKind where
  | created | finalized | paid | paymentFailed
  deriving DecidableEq

def InvoiceEventKind.event (invoice : StripeInvoice) : InvoiceEventKind → StripeEvent
  | .created => .invoiceCreated invoice
  | .finalized => .invoiceFinalized invoice
  | .paid => .invoicePaid invoice
  | .paymentFailed => .invoicePaymentFailed invoice

/-- The status that the handler hands to `syncInvoiceFromExternal`. -/
def InvoiceEventKind.status : InvoiceEventKind → InvoiceStatus
  | .created | .finalized => .draft
  | .paid => .paid
  | .paymentFailed => .pastDue

/-- An invoice event syncs its invoice under the event's status. -/
theorem handleWebhook_event (config : AppConfig) (invoice : StripeInvoice)
    (kind : InvoiceEventKind) :
    handleWebhook config (kind.event invoice) = syncInvoice config invoice kind.status := by
  cases kind <;> rfl

/-- No subscription changes and no renewal is added, wherever the handler ends. -/
def SparesEntitlement (config : AppConfig) (event : StripeEvent) (w : World) : Prop :=
  ∀ r w', Runs (fun _ => True) (handleWebhook config event) w r w' →
    w'.subscriptions = w.subscriptions ∧
      ∀ row ∈ w'.invoices.rows, row.kind = .subscription → (w.invoices.find? row.id).isSome

/-! ### The condition -/

/-- Another subscription carries the external id. -/
def World.HeldByAnother (w : World) (subscription : Subscription)
    (externalId : Option String) : Prop :=
  ∃ other ∈ w.subscriptions.rows, other.id ≠ subscription.id ∧
    other.externalSubscriptionId.isSome ∧ other.externalSubscriptionId = externalId

/-- The subscription of a renewal is already as the event would leave it. -/
def IsInPlace (config : AppConfig) (kind : InvoiceEventKind) (event : StripeInvoice)
    (renewal : Invoice) (subscription : Subscription) : Prop :=
  subscription.paymentProvider = .stripe ∧ subscription.gracePeriodEndsAt = none ∧
    (externalSubscriptionIdOf event = none ∨
      externalSubscriptionIdOf event = subscription.externalSubscriptionId) ∧
    match kind with
    | .created | .finalized => True
    | .paid =>
      subscription.status = .active ∧
        subscription.currentPeriodStart = some renewal.periodStart ∧
        subscription.currentPeriodEnd = some renewal.periodEnd
    | .paymentFailed =>
      subscription.status = .pastDue ∧
        (subscription.currentPeriodStart = none ∨ config.billingGracePeriodDays ≤ 0)

/-- The external id of the event leads to an overage invoice, or nowhere, or to a renewal that
    the event leaves alone. -/
def World.LeadsToOverage (config : AppConfig) (kind : InvoiceEventKind) (event : StripeInvoice)
    (overage : Invoice) (w : World) : Prop :=
  match w.findInvoiceByExternalId event.id with
  | some target =>
    target.kind = .overage ∨ kind.status = .draft ∨
      ∀ subscription, w.subscriptions.find? target.subscriptionId = some subscription →
        w.HeldByAnother subscription (externalSubscriptionIdOf event) ∨
          IsInPlace config kind event target subscription
  | none =>
    truthy overage.externalInvoiceId = false ∨
      w.namedSubscription (webhookSyncParams event event.metadataInvoiceId kind.status) = none

section Spares

variable {E : Env → Prop} {config : AppConfig} {w w' : World}

/-! ### What leaves the entitlement alone -/

/-- An update adds no invoice. -/
private theorem mem_updateInvoice {id : Id} {data : Invoice → Invoice}
    (h : w.updateInvoice id data = .ok w') (hid : ∀ row, (data row).id = row.id) :
    ∀ row ∈ w'.invoices.rows, (w.invoices.find? row.id).isSome := by
  obtain ⟨t, ht, rfl⟩ := updateInvoice_eq_ok h
  intro row hrow
  obtain ⟨old, hold, rfl⟩ := (Table.mem_update? ht).mp hrow
  have hfind : w.invoices.find? old.id = some old := Table.find?_key hold
  split
  · rw [hid, hfind]
    rfl
  · rw [hfind]
    rfl

/-- A row is found under its id. -/
private theorem find?_isSome_of_mem : ∀ row ∈ w.invoices.rows,
    (w.invoices.find? row.id).isSome := by
  intro row hrow
  have hfind : w.invoices.find? row.id = some row := Table.find?_key hrow
  rw [hfind]
  rfl

/-- An outcome adds no invoice, and changes no subscription if it is about an overage, or if
    what it writes is there already. -/
private theorem RecordsOutcome.spares {invoiceId : Id} {externalInvoiceId : Option String}
    {invoiceData : Invoice → Subscription → (Invoice → Invoice) → Prop}
    {subscriptionData : Invoice → Subscription → (Subscription → Subscription) → Prop}
    {r : Except Err Bool}
    (h : RecordsOutcome invoiceId externalInvoiceId invoiceData subscriptionData w r w')
    (hid : ∀ {i s data}, invoiceData i s data → ∀ row, (data row).id = row.id)
    (hsame : ∀ {invoice subscription data t}, w.invoices.find? invoiceId = some invoice →
      w.subscriptions.find? invoice.subscriptionId = some subscription →
      invoice.kind = .subscription → subscriptionData invoice subscription data →
      w.subscriptions.update? subscription.id data = some t → data subscription = subscription) :
    w'.subscriptions = w.subscriptions ∧
      ∀ row ∈ w'.invoices.rows, (w.invoices.find? row.id).isSome := by
  cases h with
  | refused e => exact ⟨rfl, find?_isSome_of_mem⟩
  | ignored => exact ⟨rfl, find?_isSome_of_mem⟩
  | invoice _ _ _ _ _ _ _ hdata hinvoice =>
    exact ⟨updateInvoice_subscriptions hinvoice, mem_updateInvoice hinvoice (hid hdata)⟩
  -- the subscription is written as it was, so only the invoice changed
  | subscription invoice subscription _ data w₁ _ hfind _ hkind hdata hdata' hinvoice
    hsubscription =>
    obtain ⟨hi, hs⟩ := findInvoiceWithSubscription_eq_some.mp hfind
    have hrows := mem_updateInvoice hinvoice (hid hdata)
    rw [← updateSubscription_invoices hsubscription] at hrows
    refine ⟨?_, hrows⟩
    obtain ⟨t, ht, rfl⟩ := updateSubscription_eq_ok hsubscription
    rw [updateInvoice_subscriptions hinvoice] at ht
    refine Table.eq_of_update? ht fun row hrow hkey => ?_
    obtain rfl := Table.eq_of_key_eq hrow (Table.mem_of_find? hs) hkey
    exact hsame hi hs hkind hdata' ht

/-- The database refuses to give a subscription the external id of another. -/
private theorem World.HeldByAnother.not_update {subscription : Subscription}
    {externalId : Option String} (h : w.HeldByAnother subscription externalId)
    {data : Subscription → Subscription} {t : Table Subscription}
    (hmem : subscription ∈ w.subscriptions.rows) (hid : (data subscription).id = subscription.id)
    (hdata : (data subscription).externalSubscriptionId = externalId) :
    w.subscriptions.update? subscription.id data ≠ some t := by
  intro ht
  obtain ⟨other, hother, hne, hsome, hext⟩ := h
  obtain ⟨v, hv⟩ := Option.isSome_iff_exists.mp hsome
  have hrow : data subscription ∈ t.rows :=
    (Table.mem_update? ht).mpr ⟨subscription, hmem, (if_pos rfl).symm⟩
  have hrow' : other ∈ t.rows := (Table.mem_update? ht).mpr ⟨other, hother, (if_neg hne).symm⟩
  have heq : data subscription = other :=
    Table.eq_of_unique (u := Subscription.externalSubscriptionId) (by simp [Row.uniques]) hrow hrow'
      (hdata.trans (hext.symm.trans hv)) hv
  exact hne (heq ▸ hid)

/-- A failure report without a grace period leaves the end of it open. -/
private theorem resolveGracePeriodEndsAt_none {now : Int} {status : SubscriptionStatus}
    {periodStart periodEnd existing : Option Int}
    (h : periodStart = none ∨ config.billingGracePeriodDays ≤ 0) :
    resolveGracePeriodEndsAt config now status periodStart periodEnd existing = none := by
  unfold resolveGracePeriodEndsAt
  split
  · rfl
  · split
    · rfl
    · rename_i hstart
      rcases h with h | h
      · rw [h] at hstart
        exact absurd rfl hstart
      · rw [if_pos h]

/-- What an external id leaves of the stored one, when it is missing or the same. -/
private theorem externalId_or {externalId stored : Option String}
    (h : externalId = none ∨ externalId = stored) : externalId.or stored = stored := by
  rcases h with rfl | rfl
  · rfl
  · cases externalId <;> rfl

/-- What an invoice event does about an invoice that carries its external id. -/
private theorem AppliesSync.spares {kind : InvoiceEventKind} {event : StripeInvoice}
    {metadataInvoiceId : Option String} {invoiceId : Id} {target : Invoice} {r : Except Err Id}
    (h : AppliesSync E config (webhookSyncParams event metadataInvoiceId kind.status)
      invoiceId w r w')
    (htarget : w.invoices.find? invoiceId = some target)
    (hleads : target.kind = .overage ∨ kind.status = .draft ∨
      ∀ subscription, w.subscriptions.find? target.subscriptionId = some subscription →
        w.HeldByAnother subscription (externalSubscriptionIdOf event) ∨
          IsInPlace config kind event target subscription) :
    w'.subscriptions = w.subscriptions ∧
      ∀ row ∈ w'.invoices.rows, (w.invoices.find? row.id).isSome := by
  -- an outcome is about a renewal only if the subscription is held or in place
  have hplace : ∀ {invoice subscription}, w.invoices.find? invoiceId = some invoice →
      w.subscriptions.find? invoice.subscriptionId = some subscription →
      invoice.kind = .subscription → kind.status ≠ .draft →
      w.HeldByAnother subscription (externalSubscriptionIdOf event) ∨
        IsInPlace config kind event invoice subscription := by
    intro invoice subscription hi hs hkind hstatus
    obtain rfl := Option.some.inj (htarget.symm.trans hi)
    rcases hleads with hoverage | hdraft | hrenewal
    · exact absurd (hkind.symm.trans hoverage) (by decide)
    · exact absurd hdraft hstatus
    · exact hrenewal subscription hs
  have hor : ∀ {subscription : Subscription},
      w.HeldByAnother subscription (externalSubscriptionIdOf event) →
      (externalSubscriptionIdOf event).or subscription.externalSubscriptionId =
        externalSubscriptionIdOf event := by
    rintro subscription ⟨other, -, -, hsome, hext⟩
    obtain ⟨v, hv⟩ := Option.isSome_iff_exists.mp hsome
    rw [← hext, hv]
    rfl
  cases h with
  | refused e => exact ⟨rfl, find?_isSome_of_mem⟩
  | draft invoice _ _ hfind hupdate =>
    exact ⟨updateInvoice_subscriptions hupdate, mem_updateInvoice hupdate fun _ => rfl⟩
  | paid _ _ _ hstatus hrun _ =>
    have hkind : kind = .paid := by cases kind <;> first | rfl | cases hstatus
    subst hkind
    refine (runs_markInvoicePaid hrun).spares (by rintro _ _ _ rfl _; rfl) ?_
    rintro invoice subscription data t hi hs hkind rfl ht
    rcases hplace hi hs hkind (by decide) with hheld | ⟨hprovider, hgrace, hext, hactive,
      hstart, hend⟩
    · exact absurd ht (hheld.not_update (Table.mem_of_find? hs) rfl (hor hheld))
    · have hid := externalId_or hext
      simp only [activatedSubscription, SyncInvoiceParams.paidParams, webhookSyncParams, hid,
        ← hactive, ← hprovider, ← hstart, ← hend, ← hgrace]
  | failed _ _ _ hstatus hrun _ =>
    have hkind : kind = .paymentFailed := by
      cases kind <;> first | rfl | (rcases hstatus with h | h <;> cases h)
    subst hkind
    refine (runs_markInvoiceFailed hrun).spares (by rintro _ _ _ ⟨_, _, rfl⟩ _; rfl) ?_
    rintro invoice subscription data t hi hs hkind ⟨env, -, rfl⟩ ht
    rcases hplace hi hs hkind (by decide) with hheld | ⟨hprovider, hgrace, hext, hpastDue, hnograce⟩
    · exact absurd ht (hheld.not_update (Table.mem_of_find? hs) rfl (hor hheld))
    · have hid := externalId_or hext
      simp only [pastDueSubscription, SyncInvoiceParams.failedParams, webhookSyncParams, hid,
        resolveGracePeriodEndsAt_none hnograce, ← hpastDue, ← hprovider, ← hgrace]

variable {kind : InvoiceEventKind} {event : StripeInvoice} {overage : Invoice}

/-- The event names the invoice in its own metadata. -/
private theorem webhookMetadata_of_truthy (stripe : StripeApi)
    (htruthy : truthy event.metadataInvoiceId = true) :
    webhookMetadata stripe event = event.metadataInvoiceId := by
  have hown : ownMetadataInvoiceId event = event.metadataInvoiceId := if_pos htruthy
  cases hid : event.metadataInvoiceId with
  | none =>
    rw [hid] at htruthy
    cases htruthy
  | some id =>
    rw [hid] at hown
    simp only [webhookMetadata, hown]

/-- The overage that the metadata names is known as the external invoice, unless an invoice
    carries the external id or it carries another one. -/
private theorem knownInvoice_of_none (kind : InvoiceEventKind)
    (htruthy : truthy event.metadataInvoiceId = true)
    (hnamed : event.metadataInvoiceId.bind w.invoices.find? = some overage)
    (hnone : w.findInvoiceByExternalId event.id = none) :
    w.knownInvoice (webhookSyncParams event event.metadataInvoiceId kind.status) =
      if truthy overage.externalInvoiceId then none else some overage := by
  obtain ⟨id, -, hfind⟩ := Option.bind_eq_some_iff.mp hnamed
  have hother : overage.externalInvoiceId ≠ some event.id := fun hext =>
    nomatch hnone.symm.trans (findInvoiceByExternalId_of_row hfind hext)
  have hallow : shouldAllowMetadataInvoiceId event = true := by
    simp [shouldAllowMetadataInvoiceId, htruthy]
  simp only [World.knownInvoice, webhookSyncParams, hnone, hallow, htruthy, Bool.and_self, if_true,
    hnamed, Option.filter_some, acceptsExternalId, hother, decide_false, Bool.or_false]
  cases truthy overage.externalInvoiceId <;> rfl

/-- An event that leads to an overage, or leaves its renewal alone, spares the entitlement. -/
private theorem World.LeadsToOverage.spares (hleads : w.LeadsToOverage config kind event overage)
    (htruthy : truthy event.metadataInvoiceId = true)
    (hnamed : event.metadataInvoiceId.bind w.invoices.find? = some overage)
    (hkind : overage.kind = .overage) : SparesEntitlement config (kind.event event) w := by
  intro r w' hrun
  rw [handleWebhook_event] at hrun
  suffices hrows : w'.subscriptions = w.subscriptions ∧
      ∀ row ∈ w'.invoices.rows, (w.invoices.find? row.id).isSome from
    ⟨hrows.1, fun row hrow _ => hrows.2 row hrow⟩
  obtain ⟨log, rfl | ⟨env, r₁, -, hsync⟩⟩ := runs_syncInvoice hrun
  · exact ⟨rfl, find?_isSome_of_mem⟩
  rw [webhookParams, webhookMetadata_of_truthy _ htruthy] at hsync
  rcases runs_syncInvoiceFromExternal hsync with ⟨e, -, hresolve⟩ | ⟨id, w₁, hresolve, happly⟩
  · cases hresolve
    exact ⟨rfl, find?_isSome_of_mem⟩
  unfold World.LeadsToOverage at hleads
  cases hfound : w.findInvoiceByExternalId event.id with
  | some target =>
    -- the invoice that carries the external id comes first
    rw [hfound] at hleads
    have hknown : w.knownInvoice (webhookSyncParams event event.metadataInvoiceId kind.status) =
        some target := by
      simp only [World.knownInvoice, webhookSyncParams, hfound]
    cases hresolve with
    | known invoice hknown' =>
      obtain rfl := Option.some.inj (hknown.symm.trans hknown')
      exact happly.spares (knownInvoice_mem hknown) hleads
    | created _ _ _ _ hknown' => cases hknown.symm.trans hknown'
  | none =>
    rw [hfound] at hleads
    have hknown := knownInvoice_of_none kind htruthy hnamed hfound
    cases hresolve with
    | known invoice hknown' =>
      obtain ⟨hother, rfl⟩ : truthy overage.externalInvoiceId ≠ true ∧ overage = invoice := by
        simpa using hknown.symm.trans hknown'
      exact happly.spares (knownInvoice_mem hknown') (.inl hkind)
    | created subscription env₁ w₁ _ hknown' hnamed' hcreate =>
      have hother : truthy overage.externalInvoiceId = true := by
        simpa using hknown.symm.trans hknown'
      rcases hleads with hfree | hnone
      · cases hother.symm.trans hfree
      · cases hnone.symm.trans hnamed'

end Spares

/-! ### What an event does otherwise -/

section Disturbs

variable {config : AppConfig} {w : World} {env : Env} {kind : InvoiceEventKind}
  {event : StripeInvoice} {overage : Invoice}

/-- A write to an invoice that keeps its unique columns is executed. -/
private theorem exec_updateInvoice_of_kept (hdb : env.dbError = none) {invoice : Invoice}
    (hfind : w.invoices.find? invoice.id = some invoice) (data : Invoice → Invoice)
    (hid : ∀ row, (data row).id = row.id)
    (hkept : ∀ u ∈ Row.uniques (ρ := Invoice), u (data invoice) = u invoice) :
    ∃ t, (updateInvoice invoice.id data).exec env w = (.ok (), { w with invoices := t }) := by
  obtain ⟨t, -, hwrite⟩ := updateInvoice_of_kept _ hfind hid hkept
  exact ⟨t, exec_mutate_ok hdb (by rw [hwrite]; rfl)⟩

/-- A write to a subscription that takes the external id of no other is executed. -/
private theorem exec_updateSubscription_of_free (hdb : env.dbError = none)
    {subscription : Subscription}
    (hfind : w.subscriptions.find? subscription.id = some subscription)
    (data : Subscription → Subscription) (hid : ∀ row, (data row).id = row.id)
    (hfree : ¬w.HeldByAnother subscription (data subscription).externalSubscriptionId) :
    ∃ t, (updateSubscription subscription.id data).exec env w =
        (.ok (), { w with subscriptions := t }) ∧
      t.find? subscription.id = some (data subscription) := by
  have hmem := Table.mem_of_find? hfind
  -- the external id is free, so the update is carried out
  obtain ⟨t, ht⟩ : ∃ t, w.subscriptions.update? subscription.id data = some t := by
    refine Table.update?_of_unique hid fun u hu row hrow hkey v hv row' hrow' hrowv => ?_
    obtain rfl := Table.eq_of_key_eq hrow hmem hkey
    obtain rfl : u = Subscription.externalSubscriptionId := by simpa [Row.uniques] using hu
    by_contra hne
    have hids : row'.id ≠ row.id := fun heq => hne (Table.eq_of_key_eq hrow' hrow heq)
    exact hfree ⟨row', hrow', hids, by rw [hrowv]; rfl, hrowv.trans hv.symm⟩
  have hwrite : w.updateSubscription subscription.id data = .ok { w with subscriptions := t } := by
    simp [World.updateSubscription, hfind, ht]
  refine ⟨t, exec_mutate_ok hdb (by rw [hwrite]; rfl), ?_⟩
  rw [Table.find?_update?_self ht hid, hfind, Option.map_some]

/-- The renewal that carries the external id, and its subscription. -/
structure World.FindsRenewal (w : World) (externalInvoiceId : String) (renewal : Invoice)
    (subscription : Subscription) : Prop where
  found : w.findInvoiceByExternalId externalInvoiceId = some renewal
  kind : renewal.kind = .subscription
  subscription : w.subscriptions.find? renewal.subscriptionId = some subscription

variable {renewal : Invoice} {subscription : Subscription}

/-- The renewal stands. -/
theorem World.FindsRenewal.find? (h : w.FindsRenewal event.id renewal subscription) :
    w.invoices.find? renewal.id = some renewal := Table.find?_key (Table.mem_of_findBy? h.found)

/-- The subscription stands. -/
theorem World.FindsRenewal.subscription_id (h : w.FindsRenewal event.id renewal subscription) :
    w.subscriptions.find? subscription.id = some subscription :=
  Table.find?_key (Table.mem_of_find? h.subscription)

/-- The renewal is not paid under another external id. -/
private theorem World.FindsRenewal.not_paidUnderOtherId
    (h : w.FindsRenewal event.id renewal subscription) :
    isPaidUnderOtherId renewal (some event.id) = false := by
  simp [isPaidUnderOtherId, Table.col_of_findBy? h.found]

/-- A payment that is reported under the external id of a renewal is recorded. -/
private theorem World.FindsRenewal.exec_markInvoicePaid
    (h : w.FindsRenewal event.id renewal subscription) (hdb : env.dbError = none)
    (params : MarkInvoicePaidParams) (hinvoice : params.invoiceId = renewal.id)
    (hext : params.externalInvoiceId = some event.id)
    (hsession : params.externalCheckoutSessionId = none)
    (hfree : ¬w.HeldByAnother subscription
      (activatedSubscription params renewal subscription subscription).externalSubscriptionId) :
    ∃ w', (markInvoicePaid params).exec env w = (.ok false, w') ∧
      w'.subscriptions.find? subscription.id =
        some (activatedSubscription params renewal subscription subscription) := by
  have hwithSubscription : w.findInvoiceWithSubscription renewal.id =
      some (renewal, subscription) :=
    findInvoiceWithSubscription_eq_some.mpr ⟨h.find?, h.subscription⟩
  -- both updates are carried out, one after the other
  obtain ⟨t₁, hexec₁⟩ := exec_updateInvoice_of_kept hdb h.find? (paidInvoice params renewal)
    (fun _ => rfl)
      (by simp [Row.uniques, paidInvoice, hext, hsession, Table.col_of_findBy? h.found])
  obtain ⟨t₂, hexec₂, hfind₂⟩ := exec_updateSubscription_of_free
    (w := { w with invoices := t₁ }) hdb
    h.subscription_id (activatedSubscription params renewal subscription) (fun _ => rfl) hfree
  refine ⟨{ w with invoices := t₁, subscriptions := t₂ }, ?_, hfind₂⟩
  simp only [markInvoicePaid, exec_bind, exec_read hdb, hinvoice, hwithSubscription, hext,
    h.not_paidUnderOtherId, Bool.false_eq_true, if_false, hexec₁, h.kind, reduceCtorEq, hexec₂,
    exec_pure]

/-- So is a failure. -/
private theorem World.FindsRenewal.exec_markInvoiceFailed
    (h : w.FindsRenewal event.id renewal subscription) (hdb : env.dbError = none)
    (config : AppConfig) (params : MarkInvoiceFailedParams)
    (hinvoice : params.invoiceId = renewal.id) (hext : params.externalInvoiceId = some event.id)
    (hsession : params.externalCheckoutSessionId = none)
    (hfree : ¬w.HeldByAnother subscription
      (pastDueSubscription config env.now params subscription subscription).externalSubscriptionId)
        :
    ∃ w', (markInvoiceFailed config params).exec env w = (.ok false, w') ∧
      w'.subscriptions.find? subscription.id =
        some (pastDueSubscription config env.now params subscription subscription) := by
  have hwithSubscription : w.findInvoiceWithSubscription renewal.id =
      some (renewal, subscription) :=
    findInvoiceWithSubscription_eq_some.mpr ⟨h.find?, h.subscription⟩
  -- both updates are carried out, one after the other
  obtain ⟨t₁, hexec₁⟩ := exec_updateInvoice_of_kept hdb h.find? (failedInvoice params
    (resolveManagedRetryState config env.now renewal.kind params.paymentProvider
      (params.invoiceStatus.getD .void) renewal.status subscription.currentPeriodStart
      renewal.toManagedRetryState) renewal)
    (fun _ => rfl)
    (by simp [Row.uniques, failedInvoice, hext, hsession, Table.col_of_findBy? h.found])
  obtain ⟨t₂, hexec₂, hfind₂⟩ := exec_updateSubscription_of_free
    (w := { w with invoices := t₁ }) hdb
    h.subscription_id (pastDueSubscription config env.now params subscription) (fun _ => rfl) hfree
  rw [h.kind] at hexec₁
  refine ⟨{ w with invoices := t₁, subscriptions := t₂ }, ?_, hfind₂⟩
  simp only [markInvoiceFailed, exec_bind, exec_read hdb, hinvoice, hwithSubscription, hext,
    h.not_paidUnderOtherId, Bool.false_eq_true, if_false, exec_clock, hexec₁, h.kind, reduceCtorEq,
    hexec₂, exec_pure]

/-- A subscription that a spared run has rewritten was as it has been written. -/
private theorem SparesEntitlement.eq_of_exec
    (hspares : SparesEntitlement config (kind.event event) w)
    (h : w.FindsRenewal event.id renewal subscription) {id : Id} {w' : World}
    (hown : ownMetadataInvoiceId event = some id)
    (hexec : (syncInvoiceFromExternal config (webhookSyncParams event (some id) kind.status)).exec
      env w = (.ok renewal.id, w')) {row : Subscription}
    (hrow : w'.subscriptions.find? subscription.id = some row) : row = subscription := by
  have hhandled := exec_syncInvoice renewal.id hown hexec
  have hrun := runs_exec (E := fun _ => True) env trivial (syncInvoice config event kind.status) w
  rw [hhandled, ← handleWebhook_event] at hrun
  rw [(hspares _ _ hrun).1, h.subscription_id] at hrow
  exact (Option.some.inj hrow).symm

/-- A failure report moves the end of the grace period on, sooner or later. -/
private theorem not_resolveGracePeriodEndsAt {periodStart periodEnd existing : Option Int}
    (hstart : periodStart ≠ none) (hdays : 0 < config.billingGracePeriodDays) :
    resolveGracePeriodEndsAt config (existing.getD 0) .pastDue periodStart periodEnd existing ≠
      existing := by
  have hms : 0 < (config.billingGracePeriodDays : Int) * msPerDay := by
    have hday : (0 : Int) < msPerDay := by decide
    exact Int.mul_pos (by omega) hday
  have hnone : ¬periodStart.isNone = true := by simpa using hstart
  have hpos : ¬config.billingGracePeriodDays ≤ 0 := by omega
  simp only [resolveGracePeriodEndsAt, ne_eq, not_true_eq_false, if_false, hnone, hpos, addUTCDays]
  cases existing with
  | none =>
    intro h
    cases h
  | some t =>
    have hlater : ∀ base, t ≤ base →
        (if t > base + config.billingGracePeriodDays * msPerDay then some t
          else some (base + config.billingGracePeriodDays * msPerDay)) ≠ some t := by
      intro base hbase heq
      rw [if_neg (by omega)] at heq
      have := Option.some.inj heq
      omega
    -- the grace period is counted from `t` or from a later period end
    cases periodEnd with
    | none => exact hlater t (Int.le_refl t)
    | some periodEnd =>
      refine hlater (if periodEnd > t then periodEnd else t) ?_
      split <;> omega

/-- The event is handled as one about the renewal that carries its external id. -/
private theorem World.FindsRenewal.exec_resolve (h : w.FindsRenewal event.id renewal subscription)
    (hdb : env.dbError = none) {params : SyncInvoiceParams}
    (hid : params.externalInvoiceId = event.id) :
    (resolveInvoiceForExternalSync params).exec env w = (.ok renewal.id, w) := by
  simp only [resolveInvoiceForExternalSync, exec_bind, exec_read hdb, hid, h.found, exec_pure]

/-- A paid event is applied to the renewal it names. -/
private theorem World.FindsRenewal.exec_sync_paid (h : w.FindsRenewal event.id renewal subscription)
    (hdb : env.dbError = none) {params : SyncInvoiceParams}
    (hid : params.externalInvoiceId = event.id) (hstatus : params.status = .paid) {ignored : Bool}
    {w' : World} (hexec : (markInvoicePaid (params.paidParams renewal.id)).exec env w =
      (.ok ignored, w')) :
    (syncInvoiceFromExternal config params).exec env w = (.ok renewal.id, w') := by
  simp only [SyncInvoiceParams.paidParams] at hexec
  simp only [syncInvoiceFromExternal, exec_bind, h.exec_resolve hdb hid, exec_read hdb, h.find?,
    hstatus, hexec, exec_pure]

/-- A failed event is applied to the renewal it names. -/
private theorem World.FindsRenewal.exec_sync_failed
    (h : w.FindsRenewal event.id renewal subscription) (hdb : env.dbError = none)
    {params : SyncInvoiceParams} (hid : params.externalInvoiceId = event.id)
    (hstatus : params.status = .pastDue) {ignored : Bool} {w' : World}
    (hexec : (markInvoiceFailed config (params.failedParams renewal.id)).exec env w =
      (.ok ignored, w')) :
    (syncInvoiceFromExternal config params).exec env w = (.ok renewal.id, w') := by
  simp only [SyncInvoiceParams.failedParams, hstatus] at hexec
  simp only [syncInvoiceFromExternal, exec_bind, h.exec_resolve hdb hid, exec_read hdb, h.find?,
    hstatus, hexec, exec_pure]

/-- The external id that an outcome writes is the event's, or the one that is there. -/
theorem World.FindsRenewal.free (h : w.FindsRenewal event.id renewal subscription)
    {externalId : Option String} (hheld : ¬w.HeldByAnother subscription externalId) :
    ¬w.HeldByAnother subscription (externalId.or subscription.externalSubscriptionId) := by
  cases externalId with
  | some v => exact hheld
  | none =>
    rintro ⟨other, hother, hne, hsome, heq⟩
    obtain ⟨v, hv⟩ := Option.isSome_iff_exists.mp hsome
    have hsame : other = subscription :=
      Table.eq_of_unique (u := Subscription.externalSubscriptionId) (by simp [Row.uniques]) hother
        (Table.mem_of_find? h.subscription) hv (heq.symm.trans hv)
    exact hne (congrArg Subscription.id hsame)

/-- What an external id leaves as it is. -/
private theorem eq_none_or_of_externalId_or {externalId stored : Option String}
    (h : externalId.or stored = stored) : externalId = none ∨ externalId = stored := by
  cases externalId with
  | none => exact .inl rfl
  | some v => exact .inr h

/-- If an event about a renewal changes nothing, there was nothing to change. -/
private theorem SparesEntitlement.inPlace (hspares : SparesEntitlement config (kind.event event) w)
    {id : Id} (hown : ownMetadataInvoiceId event = some id)
    (h : w.FindsRenewal event.id renewal subscription) (hdraft : kind.status ≠ .draft)
    (hheld : ¬w.HeldByAnother subscription (externalSubscriptionIdOf event)) :
    IsInPlace config kind event renewal subscription := by
  cases kind with
  | created | finalized => exact absurd rfl hdraft
  | paid =>
    have hdb : (Env.available 0 "").dbError = none := rfl
    obtain ⟨w', hexec, hrow⟩ := h.exec_markInvoicePaid hdb
      ((webhookSyncParams event (some id) .paid).paidParams renewal.id) rfl rfl rfl
      (h.free hheld)
    have hsame := hspares.eq_of_exec h hown (h.exec_sync_paid hdb rfl rfl hexec) hrow
    exact ⟨(congrArg Subscription.paymentProvider hsame).symm,
      (congrArg Subscription.gracePeriodEndsAt hsame).symm,
      eq_none_or_of_externalId_or (congrArg Subscription.externalSubscriptionId hsame),
      (congrArg Subscription.status hsame).symm,
      (congrArg Subscription.currentPeriodStart hsame).symm,
      (congrArg Subscription.currentPeriodEnd hsame).symm⟩
  | paymentFailed =>
    -- report the failure when the grace period that is running has ended
    have hdb : (Env.available (subscription.gracePeriodEndsAt.getD 0) "").dbError = none := rfl
    obtain ⟨w', hexec, hrow⟩ := h.exec_markInvoiceFailed hdb config
      ((webhookSyncParams event (some id) .pastDue).failedParams renewal.id) rfl rfl rfl
      (h.free hheld)
    have hsame := hspares.eq_of_exec h hown (h.exec_sync_failed hdb rfl rfl hexec) hrow
    have hgrace : resolveGracePeriodEndsAt config (subscription.gracePeriodEndsAt.getD 0) .pastDue
        subscription.currentPeriodStart subscription.currentPeriodEnd
          subscription.gracePeriodEndsAt =
          subscription.gracePeriodEndsAt :=
      congrArg Subscription.gracePeriodEndsAt hsame
    have hnograce : subscription.currentPeriodStart = none ∨ config.billingGracePeriodDays ≤ 0 := by
      by_contra hrunning
      rw [not_or] at hrunning
      exact not_resolveGracePeriodEndsAt hrunning.1 (by omega) hgrace
    exact ⟨(congrArg Subscription.paymentProvider hsame).symm,
      hgrace.symm.trans (resolveGracePeriodEndsAt_none hnograce),
      eq_none_or_of_externalId_or (congrArg Subscription.externalSubscriptionId hsame),
      (congrArg Subscription.status hsame).symm, hnograce⟩

/-- There is always another uuid. -/
private theorem exists_unused_id (t : Table Invoice) : ∃ uuid : Id, t.find? uuid = none := by
  obtain ⟨uuid, hunused⟩ := Infinite.exists_notMem_finset (t.rows.map Invoice.id).toFinset
  refine ⟨uuid, List.find?_eq_none.mpr fun row hrow hkey => hunused ?_⟩
  have hid : row.id = uuid := of_decide_eq_true hkey
  exact List.mem_toFinset.mpr (List.mem_map.mpr ⟨row, hrow, hid⟩)

/-- An unknown external invoice becomes a new renewal of the subscription that it names. -/
private theorem exec_resolve_created {params : SyncInvoiceParams}
    (hmissing : w.findInvoiceByExternalId params.externalInvoiceId = none)
    (hknown : w.knownInvoice params = none) (hsession : params.externalCheckoutSessionId = none)
    (hnamed : w.namedSubscription params = some subscription)
    (hamount : FitsInt4 params.amountCents) :
    ∃ env w₁, (resolveInvoiceForExternalSync params).exec env w = (.ok env.uuid, w₁) ∧
      w.invoices.find? env.uuid = none ∧
      externalInvoice params subscription.id env ∈ w₁.invoices.rows := by
  obtain ⟨uuid, hunused⟩ := exists_unused_id w.invoices
  have hdb : (Env.available 0 uuid).dbError = none := rfl
  obtain ⟨t, ht⟩ : ∃ t, w.invoices.insert?
      (externalInvoice params subscription.id (Env.available 0 uuid)) = some t := by
    refine Table.insert?_of_fresh hunused fun u hu v hv row hrow hcol => ?_
    simp only [Row.uniques, List.mem_cons, List.not_mem_nil, or_false] at hu
    rcases hu with rfl | rfl | rfl
    · cases hsession.symm.trans hv
    · obtain rfl : params.externalInvoiceId = v := Option.some.inj hv
      cases hmissing.symm.trans
        (findInvoiceByExternalId_of_row (Table.find?_key hrow) hcol)
    · cases hv
  have hwrite : w.createInvoice (externalInvoice params subscription.id (Env.available 0 uuid)) =
      .ok { w with invoices := t } :=
    createInvoice_of_fits ⟨hamount, fun n hn => (by cases hn), fun n hn => (by cases hn)⟩ ht
  have hcreate : (createInvoiceForExternalSync params).exec (Env.available 0 uuid) w =
      (.ok uuid, { w with invoices := t }) := by
    unfold World.namedSubscription at hnamed
    split at hnamed
    · rename_i hext
      simp only [createInvoiceForExternalSync, hext, Bool.not_true, Bool.false_eq_true, if_false,
        exec_bind, exec_read hdb, hnamed]
      exact exec_mutate_ok hdb (by rw [hwrite]; rfl)
    · cases hnamed
  refine ⟨Env.available 0 uuid, { w with invoices := t }, ?_, hunused,
    (Table.mem_insert? ht).mpr (.inr rfl)⟩
  simp only [World.knownInvoice, hmissing] at hknown
  simp only [resolveInvoiceForExternalSync, exec_bind, exec_read hdb, hmissing]
  split
  · -- the metadata names no invoice, or one that carries another external id
    rename_i hallow
    rw [if_pos hallow] at hknown
    simp only [exec_bind, exec_read hdb]
    cases hfound : params.metadataInvoiceId.bind w.invoices.find? with
    | none => exact hcreate
    | some invoice =>
      rw [hfound, Option.filter_some] at hknown
      have hrefused : ¬acceptsExternalId params.externalInvoiceId invoice = true := by
        intro haccepts
        rw [if_pos haccepts] at hknown
        cases hknown
      simp only [hrefused]
      exact hcreate
  · exact hcreate

/-- An event that is resolved to a new renewal does not spare the entitlement. -/
private theorem SparesEntitlement.not_created
    (hspares : SparesEntitlement config (kind.event event) w) {id : Id}
    (hown : ownMetadataInvoiceId event = some id)
    (hmissing : w.findInvoiceByExternalId event.id = none)
    (hknown : w.knownInvoice (webhookSyncParams event (some id) kind.status) = none) :
    w.namedSubscription (webhookSyncParams event (some id) kind.status) = none := by
  cases hnamed : w.namedSubscription (webhookSyncParams event (some id) kind.status) with
  | none => rfl
  | some subscription =>
    have hamount : FitsInt4 event.total.1 := by
      obtain ⟨cents, hlow, hhigh⟩ := event.total
      constructor
      · show -2147483648 ≤ cents
        omega
      · show cents ≤ 2147483647
        omega
    obtain ⟨env, w₁, hexec, hunused, hrow⟩ :=
      exec_resolve_created hmissing hknown rfl hnamed hamount
    have hresolve := runs_exec (E := fun _ => True) env trivial
      (resolveInvoiceForExternalSync (webhookSyncParams event (some id) kind.status)) w
    rw [hexec] at hresolve
    -- the statement after it is refused, and the handler passes the error on
    have hread : Runs (fun _ => True) (read fun w => w.invoices.find? env.uuid) w₁
        (.error (.database "")) w₁ :=
      runs_stmt.mpr ⟨{ Env.available 0 "" with dbError := some "" }, trivial, rfl⟩
    have hsync : Runs (fun _ => True)
        (syncInvoiceFromExternal config (webhookSyncParams event (some id) kind.status)) w
        (.error (.database "")) w₁ :=
      runs_bind.mpr (.inr ⟨env.uuid, w₁, hresolve, runs_bind.mpr (.inl ⟨_, hread, rfl⟩)⟩)
    have hmetadata : Runs (fun _ => True) (resolveMetadataInvoiceId event
        (externalSubscriptionIdOf event) (shouldAllowMetadataInvoiceId event)) w
          (.ok (some id)) w := by
      rw [resolveMetadataInvoiceId, hown]
      exact runs_pure.mpr ⟨rfl, rfl⟩
    have hrun : Runs (fun _ => True) (syncInvoice config event kind.status) w
        (.error (.database "")) w₁ :=
      runs_bind.mpr (.inr ⟨_, w, hmetadata, runs_tryCatch.mpr (.inr ⟨_, w₁,
        runs_bind.mpr (.inl ⟨_, hsync, rfl⟩), runs_throw.mpr ⟨rfl, rfl⟩⟩)⟩)
    rw [← handleWebhook_event] at hrun
    have hold := (hspares _ _ hrun).2 _ hrow rfl
    rw [show (externalInvoice _ subscription.id env).id = env.uuid from rfl, hunused] at hold
    cases hold

end Disturbs

/-- For an event whose metadata names a local overage invoice: no subscription changes and no
    renewal is added exactly when its external id leads to an overage, or nowhere, or to a
    renewal that it leaves alone. -/
theorem overage_sparesEntitlement_iff {config : AppConfig} {w : World} {kind : InvoiceEventKind}
    {event : StripeInvoice} {overage : Invoice} (htruthy : truthy event.metadataInvoiceId = true)
    (hnamed : event.metadataInvoiceId.bind w.invoices.find? = some overage)
    (hkind : overage.kind = .overage) :
    SparesEntitlement config (kind.event event) w ↔ w.LeadsToOverage config kind event overage := by
  refine ⟨fun hspares => ?_, fun hleads => hleads.spares htruthy hnamed hkind⟩
  obtain ⟨id, hid, -⟩ := Option.bind_eq_some_iff.mp hnamed
  have hown : ownMetadataInvoiceId event = some id := hid ▸ if_pos htruthy
  unfold World.LeadsToOverage
  split
  -- the event names an invoice that is known by its own external id
  · rename_i target hfound
    by_cases hoverage : target.kind = .overage
    · exact .inl hoverage
    by_cases hdraft : kind.status = .draft
    · exact .inr (.inl hdraft)
    refine .inr (.inr fun subscription hsubscription => ?_)
    by_cases hheld : w.HeldByAnother subscription (externalSubscriptionIdOf event)
    · exact .inl hheld
    have hrenewal : target.kind = .subscription := by
      cases hk : target.kind with
      | subscription => rfl
      | overage => exact absurd hk hoverage
    exact .inr (hspares.inPlace hown ⟨hfound, hrenewal, hsubscription⟩ hdraft hheld)
  -- it names none, and the overage is passed over or taken for the event's own
  · rename_i hmissing
    cases hother : truthy overage.externalInvoiceId with
    | false => exact .inl rfl
    | true =>
      have hknown := knownInvoice_of_none kind htruthy hnamed hmissing
      rw [if_pos hother, hid] at hknown
      rw [hid]
      exact .inr (hspares.not_created hown hmissing hknown)

/-! ### An answer that was lost -/

/-- The buyer of `billedWorld` is a customer of Stripe. -/
def customerWorld : World :=
  { billedWorld with users := .singleton ⟨"buyer", "buyer@example.com", some "cus_1"⟩ }

/-- Stripe's invoice for the overage. -/
def overageStripeInvoice (id : String) (status : StripeInvoiceStatus) : StripeInvoice :=
  { sampleStripeInvoice status with
    id := id, billingReason := some .manual, metadataInvoiceId := some "overage" }

/-- Call 0 handles `invoice.paid` of the first period, the others are cycles of the overage
    worker. -/
def paidThenCollected : Nat → BillingProcess
  | 0 => .webhook (.invoicePaid (sampleStripeInvoice .paid))
  | _ => .collection

def collectedTwice : BillingProcesses :=
  startBilling toString sampleConfig paidThenCollected customerWorld

/-- The first cycle loses Stripe's answer about `in_2`, the second one records `in_3`. -/
def loseAnswer : List (Choice Nat Env Err) :=
  List.replicate 7 (.run 0 (.available 10 "renewal")) ++
    List.replicate 7 (.run 1 (overageEnv 3000 .lost)) ++
      List.replicate 8 (.run 2 (overageEnv 4000 (.ok (overageStripeInvoice "in_3" .paid))))

/-- `invoice.created` of `in_2` names the overage, and becomes a renewal. -/
theorem not_overage_sparesEntitlement :
    ¬∀ P, Reach .free (fun _ _ => True) collectedTwice P → ∀ (kind : InvoiceEventKind)
      (event : StripeInvoice) (overage : Invoice), truthy event.metadataInvoiceId = true →
        event.metadataInvoiceId.bind P.state.invoices.find? = some overage →
          overage.kind = .overage → SparesEntitlement sampleConfig (kind.event event) P.state := by
  intro h
  -- the overage is known as another invoice, and the event creates a period
  have hfacts : (runSchedule .free loseAnswer collectedTwice).map (fun P =>
      ((P.state.invoices.find? "overage").map Invoice.kind,
        (P.state.invoices.find? "new").isSome,
        ((syncInvoice sampleConfig (overageStripeInvoice "in_2" .draft) .draft).exec
          (.available 5000 "new") P.state).2.invoices.find? "new" |>.map Invoice.kind)) =
      some (some .overage, false, some .subscription) := by
    decide +kernel
  obtain ⟨P, hP, hfacts⟩ := Option.map_eq_some_iff.mp hfacts
  simp only [Prod.mk.injEq] at hfacts
  obtain ⟨hoverage, hold, hnew⟩ := hfacts
  obtain ⟨overage, hfound, hkind⟩ := Option.map_eq_some_iff.mp hoverage
  obtain ⟨row, hrow, hrowKind⟩ := Option.map_eq_some_iff.mp hnew
  have hspares := h P (reach_runSchedule _ .init hP) .created (overageStripeInvoice "in_2" .draft)
    overage rfl hfound hkind
  have hadded := (hspares _ _ (runs_exec (.available 5000 "new") trivial _ _)).2 row
    (Table.mem_of_find? hrow) hrowKind
  have hid : row.id = "new" := Table.key_of_find? hrow
  rw [hid, hold] at hadded
  exact nomatch hadded

/-- An event under the external id of the overage itself spares the entitlement. -/
theorem overage_sparesEntitlement_iff_own :
    SparesEntitlement sampleConfig (.invoicePaymentFailed (overageStripeInvoice "in_1" .open))
      (sampleBilling (sampleSubscription .active)
        { sampleInvoice .overage .draft with id := "overage" }) := by
  have hown : (sampleBilling (sampleSubscription .active)
      { sampleInvoice .overage .draft with id := "overage" }).LeadsToOverage sampleConfig
        .paymentFailed (overageStripeInvoice "in_1" .open)
        { sampleInvoice .overage .draft with id := "overage" } := .inl rfl
  exact (overage_sparesEntitlement_iff rfl rfl rfl).mpr hown

end HivePoint
