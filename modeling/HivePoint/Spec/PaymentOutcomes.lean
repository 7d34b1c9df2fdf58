import HivePoint.Spec.Statements
import HivePoint.Native.BillingReconciliation

/-!
# What a payment outcome does

Everything that a run of `SubscriptionsService` can do to the rows: which invoice a
report is about, what becomes of that invoice, and what becomes of its subscription.
A run may end at any of its statements, when the database refuses it.

## Key results

- `runs_markInvoicePaid`, `runs_markInvoiceFailed`: an outcome is refused, ignored, or
  recorded on the invoice and then, unless it is an overage, on its subscription
- `runs_resolveInvoiceForExternalSync`: the local invoice an external one stands for
- `runs_syncInvoiceFromExternal`: the two together
-/

namespace HivePoint

open Prog

variable {α : Type} {E : Env → Prop} {w w' : World}

/-! ### Finding rows -/

/-- An invoice is found with its subscription when both rows stand. -/
theorem findInvoiceWithSubscription_eq_some {id : Id} {invoice : Invoice}
    {subscription : Subscription} :
    w.findInvoiceWithSubscription id = some (invoice, subscription) ↔
      w.invoices.find? id = some invoice ∧
        w.subscriptions.find? invoice.subscriptionId = some subscription := by
  constructor
  · intro h
    obtain ⟨i, hi, h⟩ := Option.bind_eq_some_iff.mp h
    obtain ⟨s, hs, h⟩ := Option.bind_eq_some_iff.mp h
    obtain ⟨rfl, rfl⟩ := Prod.mk.inj (Option.some.inj h)
    exact ⟨hi, hs⟩
  · rintro ⟨hi, hs⟩
    exact Option.bind_eq_some_iff.mpr ⟨invoice, hi,
      Option.bind_eq_some_iff.mpr ⟨subscription, hs, rfl⟩⟩

/-- A row is found by the external id that it carries. -/
theorem findSubscriptionByExternalId_of_row {id : Id} {row : Subscription} {externalId : String}
    (hrow : w.subscriptions.find? id = some row)
    (hext : row.externalSubscriptionId = some externalId) :
    w.findSubscriptionByExternalId externalId = some row :=
  Table.findBy?_unique (u := Subscription.externalSubscriptionId) (by simp [Row.uniques])
    (Table.mem_of_find? hrow) hext

/-- A row with the external id is the one found by it. -/
theorem findInvoiceByExternalId_of_row {id : Id} {row : Invoice} {externalId : String}
    (hrow : w.invoices.find? id = some row) (hext : row.externalInvoiceId = some externalId) :
    w.findInvoiceByExternalId externalId = some row :=
  Table.findBy?_unique (u := Invoice.externalInvoiceId) (by simp [Row.uniques])
    (Table.mem_of_find? hrow) hext

/-- An update statement is refused without effect, or made. -/
theorem runs_updateInvoice {id : Id} {data : Invoice → Invoice} {r : Except Err Unit}
    (h : Runs E (updateInvoice id data) w r w') :
    (w' = w ∧ ∃ e, r = .error e) ∨ (w.updateInvoice id data = .ok w' ∧ r = .ok ()) := by
  rcases runs_mutate h with h | ⟨_, _, -, hf, rfl⟩
  · exact .inl h
  · cases hu : w.updateInvoice id data with
    | error e =>
      rw [hu] at hf
      exact nomatch hf
    | ok w₁ =>
      rw [hu] at hf
      obtain ⟨-, rfl⟩ := Prod.mk.inj (Except.ok.inj hf)
      exact .inr ⟨rfl, rfl⟩

/-- An update of a subscription is refused, or made. -/
theorem runs_updateSubscription {id : Id} {data : Subscription → Subscription}
    {r : Except Err Unit} (h : Runs E (updateSubscription id data) w r w') :
    (w' = w ∧ ∃ e, r = .error e) ∨ (w.updateSubscription id data = .ok w' ∧ r = .ok ()) := by
  rcases runs_mutate h with h | ⟨_, _, -, hf, rfl⟩
  · exact .inl h
  · cases hu : w.updateSubscription id data with
    | error e =>
      rw [hu] at hf
      exact nomatch hf
    | ok w₁ =>
      rw [hu] at hf
      obtain ⟨-, rfl⟩ := Prod.mk.inj (Except.ok.inj hf)
      exact .inr ⟨rfl, rfl⟩

/-! ### Recording an outcome -/

/-- The invoice is a renewal of the subscription, and not an overage. -/
def Invoice.Renews (invoice : Invoice) (subscriptionId : Id) : Prop :=
  invoice.kind = .subscription ∧ invoice.subscriptionId = subscriptionId

/-- How an outcome is recorded: on the invoice `invoiceId` by one of `invoiceData`, then on
    its subscription by one of `subscriptionData`. -/
inductive RecordsOutcome (invoiceId : Id) (externalInvoiceId : Option String)
    (invoiceData : Invoice → Subscription → (Invoice → Invoice) → Prop)
    (subscriptionData : Invoice → Subscription → (Subscription → Subscription) → Prop) (w : World) :
    Except Err Bool → World → Prop where
  | refused (e : Err) : RecordsOutcome _ _ _ _ w (.error e) w
  | ignored (invoice : Invoice) (subscription : Subscription)
      (hfind : w.findInvoiceWithSubscription invoiceId = some (invoice, subscription))
      (hguard : isPaidUnderOtherId invoice externalInvoiceId = true) :
      RecordsOutcome _ _ _ _ w (.ok true) w
  | invoice (invoice : Invoice) (subscription : Subscription) (data : Invoice → Invoice)
    (w₁ : World)
      (r : Except Err Bool)
      (hfind : w.findInvoiceWithSubscription invoiceId = some (invoice, subscription))
      (hguard : isPaidUnderOtherId invoice externalInvoiceId = false)
      (hdata : invoiceData invoice subscription data)
      (hinvoice : w.updateInvoice invoice.id data = .ok w₁)
      (hr : ∀ ignored, r = .ok ignored → ignored = false ∧ invoice.kind = .overage) :
      RecordsOutcome _ _ _ _ w r w₁
  | subscription (invoice : Invoice) (subscription : Subscription) (data : Invoice → Invoice)
      (data' : Subscription → Subscription) (w₁ w₂ : World)
      (hfind : w.findInvoiceWithSubscription invoiceId = some (invoice, subscription))
      (hguard : isPaidUnderOtherId invoice externalInvoiceId = false)
      (hkind : invoice.kind = .subscription) (hdata : invoiceData invoice subscription data)
      (hdata' : subscriptionData invoice subscription data')
      (hinvoice : w.updateInvoice invoice.id data = .ok w₁)
      (hsubscription : w₁.updateSubscription subscription.id data' = .ok w₂) :
      RecordsOutcome _ _ _ _ w (.ok false) w₂

/-- The writes that `markInvoicePaid` and `markInvoiceFailed` have in common; `prepare` is what
    comes before the second one. -/
private theorem runs_recordOutcome {β : Type} {invoiceId : Id} {externalInvoiceId : Option String}
    {invoiceData : Invoice → Subscription → (Invoice → Invoice) → Prop}
    {subscriptionData : Invoice → Subscription → (Subscription → Subscription) → Prop}
    {invoice : Invoice} {subscription : Subscription} {data : Invoice → Invoice}
    (prepare : Op β) (data' : β → Subscription → Subscription)
    (hfind : w.findInvoiceWithSubscription invoiceId = some (invoice, subscription))
    (hguard : isPaidUnderOtherId invoice externalInvoiceId = false)
    (hdata : invoiceData invoice subscription data)
    (hprepare : ∀ {w₁ r w₂}, Runs E prepare w₁ r w₂ →
      w₂ = w₁ ∧ ∀ b, r = .ok b → subscriptionData invoice subscription (data' b))
    {r : Except Err Bool}
    (h : Runs E (do
      updateInvoice invoice.id data
      if invoice.kind = .overage then
        return false
      else
        let b ← prepare
        updateSubscription subscription.id (data' b)
        return false) w r w') :
    RecordsOutcome invoiceId externalInvoiceId invoiceData subscriptionData w r w' := by
  rcases runs_bind.mp h with ⟨e, hupdate, rfl⟩ | ⟨_, w₁, hupdate, h₁⟩
  · rcases runs_updateInvoice hupdate with ⟨rfl, -⟩ | ⟨-, hok⟩
    · exact .refused e
    · exact nomatch hok
  rcases runs_updateInvoice hupdate with ⟨-, _, hok⟩ | ⟨hinvoice, -⟩
  · exact nomatch hok
  split at h₁
  · rename_i hkind
    obtain ⟨rfl, rfl⟩ := runs_pure.mp h₁
    exact .invoice invoice subscription _ _ _ hfind hguard hdata hinvoice
      fun _ hr => ⟨(Except.ok.inj hr).symm, hkind⟩
  · rename_i hkind
    have hkind : invoice.kind = .subscription := by
      cases hk : invoice.kind with
      | subscription => rfl
      | overage => exact absurd hk hkind
    -- from here on only the subscription can fail to be written
    have hstop : ∀ e, RecordsOutcome invoiceId externalInvoiceId invoiceData subscriptionData w
        (.error e) w₁ := fun _ =>
      .invoice invoice subscription _ _ _ hfind hguard hdata hinvoice fun _ hr => nomatch hr
    rcases runs_bind.mp h₁ with ⟨e, hprep, rfl⟩ | ⟨b, w₂, hprep, h₂⟩
    · obtain ⟨rfl, -⟩ := hprepare hprep
      exact hstop e
    obtain ⟨rfl, hdata'⟩ := hprepare hprep
    rcases runs_bind.mp h₂ with ⟨e, hupdate', rfl⟩ | ⟨_, w₃, hupdate', h₃⟩
    · rcases runs_updateSubscription hupdate' with ⟨rfl, -⟩ | ⟨-, hok⟩
      · exact hstop e
      · exact nomatch hok
    rcases runs_updateSubscription hupdate' with ⟨-, _, hok⟩ | ⟨hsubscription, -⟩
    · exact nomatch hok
    obtain ⟨rfl, rfl⟩ := runs_pure.mp h₃
    exact .subscription invoice subscription _ _ _ _ hfind hguard hkind hdata (hdata' b rfl)
      hinvoice hsubscription

/-- Marking an invoice paid records that outcome. -/
theorem runs_markInvoicePaid {params : MarkInvoicePaidParams} {r : Except Err Bool}
    (h : Runs E (markInvoicePaid params) w r w') :
    RecordsOutcome params.invoiceId params.externalInvoiceId
      (fun invoice _ data => data = paidInvoice params invoice)
      (fun invoice subscription data => data = activatedSubscription params invoice subscription)
      w r w' := by
  rcases runs_bind.mp h with ⟨e, hread, rfl⟩ | ⟨found, w₁, hread, h₁⟩
  · obtain ⟨rfl, -⟩ := runs_read hread
    exact .refused e
  obtain ⟨rfl, hfound⟩ := runs_read hread
  replace hfound := (hfound _ rfl).symm
  cases found with
  | none =>
    obtain ⟨rfl, rfl⟩ := runs_throw.mp h₁
    exact .refused _
  | some found =>
    obtain ⟨invoice, subscription⟩ := found
    dsimp only at h₁
    -- paid under another external id the report is ignored
    split at h₁
    · rename_i hguard
      obtain ⟨rfl, rfl⟩ := runs_pure.mp h₁
      exact .ignored invoice subscription hfound hguard
    · rename_i hguard
      refine runs_recordOutcome (pure ())
        (fun _ => activatedSubscription params invoice subscription)
        hfound (Bool.not_eq_true _ ▸ hguard) rfl (fun hpure => ?_) h₁
      exact ⟨(runs_pure.mp hpure).2, fun _ _ => rfl⟩

/-- Marking an invoice failed records that outcome. -/
theorem runs_markInvoiceFailed {config : AppConfig} {params : MarkInvoiceFailedParams}
    {r : Except Err Bool} (h : Runs E (markInvoiceFailed config params) w r w') :
    RecordsOutcome params.invoiceId params.externalInvoiceId
      (fun invoice subscription data => ∃ env, E env ∧ data = failedInvoice params
        (resolveManagedRetryState config env.now invoice.kind params.paymentProvider
          (params.invoiceStatus.getD .void) invoice.status subscription.currentPeriodStart
          invoice.toManagedRetryState) invoice)
      (fun _ subscription data => ∃ env, E env ∧
        data = pastDueSubscription config env.now params subscription)
      w r w' := by
  rcases runs_bind.mp h with ⟨e, hread, rfl⟩ | ⟨found, w₁, hread, h₁⟩
  · obtain ⟨rfl, -⟩ := runs_read hread
    exact .refused e
  obtain ⟨rfl, hfound⟩ := runs_read hread
  replace hfound := (hfound _ rfl).symm
  cases found with
  | none =>
    obtain ⟨rfl, rfl⟩ := runs_throw.mp h₁
    exact .refused _
  | some found =>
    obtain ⟨invoice, subscription⟩ := found
    dsimp only at h₁
    -- paid under another external id the report is ignored
    split at h₁
    · rename_i hguard
      obtain ⟨rfl, rfl⟩ := runs_pure.mp h₁
      exact .ignored invoice subscription hfound hguard
    · rename_i hguard
      -- the clock is read once for the invoice and once for the subscription
      rcases runs_bind.mp h₁ with ⟨e, hclock, rfl⟩ | ⟨now, w₂, hclock, h₂⟩
      · obtain ⟨-, _, -, hok⟩ := runs_clock hclock
        exact nomatch hok
      obtain ⟨rfl, env, henv, hnow⟩ := runs_clock hclock
      obtain rfl := Except.ok.inj hnow
      refine runs_recordOutcome clock (fun now =>
        pastDueSubscription config now params subscription)
        hfound (Bool.not_eq_true _ ▸ hguard) ⟨env, henv, rfl⟩ (fun hclock' => ?_) h₂
      obtain ⟨hw, env', henv', rfl⟩ := runs_clock hclock'
      exact ⟨hw, fun _ hb => ⟨env', henv', Except.ok.inj hb ▸ rfl⟩⟩

section Evolution

variable {invoiceId : Id} {externalInvoiceId : Option String}
  {invoiceData : Invoice → Subscription → (Invoice → Invoice) → Prop}
  {subscriptionData : Invoice → Subscription → (Subscription → Subscription) → Prop}
  {r : Except Err Bool}

/-- An outcome changes no invoice but its own. -/
theorem RecordsOutcome.invoices
    (h : RecordsOutcome invoiceId externalInvoiceId invoiceData subscriptionData w r w')
    (hid : ∀ {i s data}, invoiceData i s data → ∀ row, (data row).id = row.id) :
    w.invoices.Evolves w'.invoices fun k row row' =>
      k = invoiceId ∧ isPaidUnderOtherId row externalInvoiceId = false ∧
        ∃ subscription data, w.subscriptions.find? row.subscriptionId = some subscription ∧
          invoiceData row subscription data ∧ row' = data row := by
  -- only the reported invoice's row is updated
  have hupdate : ∀ {invoice subscription data w₁},
      w.findInvoiceWithSubscription invoiceId = some (invoice, subscription) →
      isPaidUnderOtherId invoice externalInvoiceId = false → invoiceData invoice subscription data →
      w.updateInvoice invoice.id data = .ok w₁ →
      w.invoices.Evolves w₁.invoices fun k row row' =>
        k = invoiceId ∧ isPaidUnderOtherId row externalInvoiceId = false ∧
          ∃ subscription data, w.subscriptions.find? row.subscriptionId = some subscription ∧
            invoiceData row subscription data ∧ row' = data row := by
    intro invoice subscription data w₁ hfind hguard hdata hinvoice
    obtain ⟨t, ht, rfl⟩ := updateInvoice_eq_ok hinvoice
    obtain ⟨hi, hs⟩ := findInvoiceWithSubscription_eq_some.mp hfind
    refine (Table.evolves_update? ht (hid hdata)).mono fun k row row' hrow ⟨hk, hrow'⟩ => ?_
    obtain rfl : invoice.id = invoiceId := Table.key_of_find? hi
    subst hk
    obtain rfl := Option.some.inj (hi.symm.trans hrow)
    exact ⟨rfl, hguard, subscription, data, hs, hdata, hrow'⟩
  cases h with
  | refused e => exact .refl _
  | ignored => exact .refl _
  | invoice invoice subscription data _ _ hfind hguard hdata hinvoice =>
    exact hupdate hfind hguard hdata hinvoice
  | subscription invoice subscription data _ w₁ _ hfind hguard _ hdata _ hinvoice hsubscription =>
    rw [updateSubscription_invoices hsubscription]
    exact hupdate hfind hguard hdata hinvoice

/-- It changes no subscription but that of its invoice, and that one unless the invoice
    is an overage. -/
theorem RecordsOutcome.subscriptions
    (h : RecordsOutcome invoiceId externalInvoiceId invoiceData subscriptionData w r w')
    (hid : ∀ {i s data}, subscriptionData i s data → ∀ row, (data row).id = row.id) :
    w.subscriptions.Evolves w'.subscriptions fun k row row' =>
      ∃ invoice data, w.invoices.find? invoiceId = some invoice ∧
        isPaidUnderOtherId invoice externalInvoiceId = false ∧ invoice.kind = .subscription ∧
        invoice.subscriptionId = k ∧ subscriptionData invoice row data ∧ row' = data row := by
  cases h with
  | refused e => exact .refl _
  | ignored => exact .refl _
  | invoice _ _ _ _ _ _ _ _ hinvoice =>
    rw [updateInvoice_subscriptions hinvoice]
    exact .refl _
  | subscription invoice subscription _ data w₁ _ hfind hguard hkind _ hdata hinvoice
    hsubscription =>
    obtain ⟨t, ht, rfl⟩ := updateSubscription_eq_ok hsubscription
    obtain ⟨hi, hs⟩ := findInvoiceWithSubscription_eq_some.mp hfind
    rw [updateInvoice_subscriptions hinvoice] at ht
    -- only the row of the invoice's own subscription is updated
    refine (Table.evolves_update? ht (hid hdata)).mono fun k row row' hrow ⟨hk, hrow'⟩ => ?_
    obtain hkey : subscription.id = invoice.subscriptionId := Table.key_of_find? hs
    rw [hk, hkey, hs] at hrow
    obtain rfl := Option.some.inj hrow
    exact ⟨invoice, data, hi, hguard, hkind, hk ▸ hkey.symm, hdata, hrow'⟩

/-- An outcome that returns is recorded, unless it was ignored. -/
theorem RecordsOutcome.of_ok {ignored : Bool}
    (h : RecordsOutcome invoiceId externalInvoiceId invoiceData subscriptionData w (.ok ignored) w')
    (hid : ∀ {i s data}, invoiceData i s data → ∀ row, (data row).id = row.id)
    (hid' : ∀ {i s data}, subscriptionData i s data → ∀ row, (data row).id = row.id)
    {target : Invoice} (htarget : w.invoices.find? invoiceId = some target)
    (hguard : isPaidUnderOtherId target externalInvoiceId = false) {k : Id} {row : Subscription}
    (hrow : w.subscriptions.find? k = some row) :
    (∃ subscription data, invoiceData target subscription data ∧
      w'.invoices.find? invoiceId = some (data target)) ∧
      ∃ row', w'.subscriptions.find? k = some row' ∧
        ((¬target.Renews k ∧ row' = row) ∨
          (target.Renews k ∧ ∃ data, subscriptionData target row data ∧ row' = data row)) := by
  -- the invoice that was read is `target`
  have hsame : ∀ {invoice subscription},
      w.findInvoiceWithSubscription invoiceId = some (invoice, subscription) →
      invoice = target ∧ w.subscriptions.find? invoice.subscriptionId = some subscription := by
    intro invoice subscription hfind
    obtain ⟨hinvoice, hsub⟩ := findInvoiceWithSubscription_eq_some.mp hfind
    exact ⟨Option.some.inj (hinvoice.symm.trans htarget), hsub⟩
  have hkey : target.id = invoiceId := Table.key_of_find? htarget
  cases h with
  | ignored invoice subscription hfind hother =>
    obtain ⟨rfl, -⟩ := hsame hfind
    exact nomatch hguard.symm.trans hother
  | invoice invoice subscription data _ _ hfind _ hdata hinvoice hr =>
    obtain ⟨rfl, -⟩ := hsame hfind
    have hupdated := find?_updateInvoice hinvoice (hid hdata) invoiceId
    rw [if_pos hkey.symm, hkey, htarget] at hupdated
    refine ⟨⟨subscription, data, hdata, hupdated⟩, row, ?_, .inl ⟨fun hrenews => ?_, rfl⟩⟩
    · rw [updateInvoice_subscriptions hinvoice, hrow]
    · exact nomatch hrenews.1.symm.trans (hr _ rfl).2
  | subscription invoice subscription data data' w₁ _ hfind _ hkind hdata hdata' hinvoice
      hsubscription =>
    obtain ⟨rfl, hsub⟩ := hsame hfind
    have hupdated := find?_updateInvoice hinvoice (hid hdata) invoiceId
    rw [if_pos hkey.symm, hkey, htarget, ← updateSubscription_invoices hsubscription] at hupdated
    refine ⟨⟨subscription, data, hdata, hupdated⟩, ?_⟩
    have hwritten := find?_updateSubscription hsubscription (hid' hdata') k
    rw [updateInvoice_subscriptions hinvoice] at hwritten
    have hsubKey : subscription.id = invoice.subscriptionId := Table.key_of_find? hsub
    by_cases hk : k = invoice.subscriptionId
    · rw [if_pos (hk.trans hsubKey.symm), hsubKey, hsub] at hwritten
      rw [hk, hsub] at hrow
      obtain rfl := Option.some.inj hrow
      exact ⟨_, hwritten, .inr ⟨⟨hkind, hk.symm⟩, data', hdata', rfl⟩⟩
    · rw [if_neg fun h => hk (h.trans hsubKey), hrow] at hwritten
      exact ⟨row, hwritten, .inl ⟨fun hrenews => hk hrenews.2.symm, rfl⟩⟩

end Evolution

/-- A report of payment changes the reported invoice alone. -/
theorem markInvoicePaid_invoices {params : MarkInvoicePaidParams} {r : Except Err Bool}
    (h : Runs E (markInvoicePaid params) w r w') :
    w.invoices.Evolves w'.invoices fun k row row' =>
      k = params.invoiceId ∧ isPaidUnderOtherId row params.externalInvoiceId = false ∧
        row' = paidInvoice params row row := by
  refine (RecordsOutcome.invoices (runs_markInvoicePaid h)
    fun hdata _ => by rw [hdata]; rfl).mono ?_
  rintro k row row' - ⟨hk, hguard, subscription, data, -, rfl, rfl⟩
  exact ⟨hk, hguard, rfl⟩

/-- A report of payment activates the invoice's subscription alone. -/
theorem markInvoicePaid_subscriptions {params : MarkInvoicePaidParams} {r : Except Err Bool}
    (h : Runs E (markInvoicePaid params) w r w') :
    w.subscriptions.Evolves w'.subscriptions fun k row row' =>
      ∃ invoice, w.invoices.find? params.invoiceId = some invoice ∧
        isPaidUnderOtherId invoice params.externalInvoiceId = false ∧ invoice.kind = .subscription ∧
        invoice.subscriptionId = k ∧ row' = activatedSubscription params invoice row row := by
  refine (RecordsOutcome.subscriptions (runs_markInvoicePaid h)
    fun hdata _ => by rw [hdata]; rfl).mono ?_
  rintro k row row' - ⟨invoice, data, hfind, hguard, hkind, hk, rfl, rfl⟩
  exact ⟨invoice, hfind, hguard, hkind, hk, rfl⟩

/-- A report of failure changes the reported invoice alone. -/
theorem markInvoiceFailed_invoices {config : AppConfig} {params : MarkInvoiceFailedParams}
    {r : Except Err Bool} (h : Runs E (markInvoiceFailed config params) w r w') :
    w.invoices.Evolves w'.invoices fun k row row' =>
      k = params.invoiceId ∧ isPaidUnderOtherId row params.externalInvoiceId = false ∧
        ∃ subscription env, E env ∧ w.subscriptions.find? row.subscriptionId = some subscription ∧
          row' = failedInvoice params
            (resolveManagedRetryState config env.now row.kind params.paymentProvider
              (params.invoiceStatus.getD .void) row.status subscription.currentPeriodStart
              row.toManagedRetryState) row row := by
  refine (RecordsOutcome.invoices (runs_markInvoiceFailed h)
    fun ⟨_, _, hdata⟩ _ => by rw [hdata]; rfl).mono ?_
  rintro k row row' - ⟨hk, hguard, subscription, data, hsub, ⟨env, henv, rfl⟩, rfl⟩
  exact ⟨hk, hguard, subscription, env, henv, hsub, rfl⟩

/-- A report of failure changes the invoice's subscription alone. -/
theorem markInvoiceFailed_subscriptions {config : AppConfig} {params : MarkInvoiceFailedParams}
    {r : Except Err Bool} (h : Runs E (markInvoiceFailed config params) w r w') :
    w.subscriptions.Evolves w'.subscriptions fun k row row' =>
      ∃ invoice env, E env ∧ w.invoices.find? params.invoiceId = some invoice ∧
        isPaidUnderOtherId invoice params.externalInvoiceId = false ∧ invoice.kind = .subscription ∧
        invoice.subscriptionId = k ∧
          row' = pastDueSubscription config env.now params row row := by
  refine (RecordsOutcome.subscriptions (runs_markInvoiceFailed h)
    fun ⟨_, _, hdata⟩ _ => by rw [hdata]; rfl).mono ?_
  rintro k row row' - ⟨invoice, data, hfind, hguard, hkind, hk, ⟨env, henv, rfl⟩, rfl⟩
  exact ⟨invoice, env, henv, hfind, hguard, hkind, hk, rfl⟩

/-! ### The invoice an external one stands for -/

/-- The local invoice that an external invoice is known as: the one that carries its id,
    else the one that trusted metadata names, unless it carries another id. -/
def World.knownInvoice (w : World) (params : SyncInvoiceParams) : Option Invoice :=
  match w.findInvoiceByExternalId params.externalInvoiceId with
  | some invoice => some invoice
  | none =>
    if params.allowMetadataInvoiceId && truthy params.metadataInvoiceId then
      (params.metadataInvoiceId.bind w.invoices.find?).filter
        (acceptsExternalId params.externalInvoiceId)
    else none

/-- The subscription that an external invoice names. -/
def World.namedSubscription (w : World) (params : SyncInvoiceParams) : Option Subscription :=
  if truthy params.externalSubscriptionId then
    params.externalSubscriptionId.bind w.findSubscriptionByExternalId
  else none

/-- The ways in which `resolveInvoiceForExternalSync` ends. -/
inductive ResolvesTo (E : Env → Prop) (params : SyncInvoiceParams) (w : World) :
    Except Err Id → World → Prop where
  | refused (e : Err) : ResolvesTo E params w (.error e) w
  | known (invoice : Invoice) (hknown : w.knownInvoice params = some invoice) :
      ResolvesTo E params w (.ok invoice.id) w
  | created (subscription : Subscription) (env : Env) (w₁ : World) (henv : E env)
      (hknown : w.knownInvoice params = none)
      (hnamed : w.namedSubscription params = some subscription)
      (hcreate : w.createInvoice (externalInvoice params subscription.id env) = .ok w₁) :
      ResolvesTo E params w (.ok env.uuid) w₁

/-- An unknown invoice is created for the subscription that its external id names. -/
private theorem runs_createInvoiceForExternalSync {params : SyncInvoiceParams} {r : Except Err Id}
    (hknown : w.knownInvoice params = none)
    (h : Runs E (createInvoiceForExternalSync params) w r w') : ResolvesTo E params w r w' := by
  rw [createInvoiceForExternalSync] at h
  split at h
  · obtain ⟨rfl, rfl⟩ := runs_throw.mp h
    exact .refused _
  · rename_i hext
    simp only [Bool.not_eq_true', Bool.not_eq_false] at hext
    rcases runs_bind.mp h with ⟨e, hread, rfl⟩ | ⟨found, w₁, hread, h₁⟩
    · obtain ⟨rfl, -⟩ := runs_read hread
      exact .refused e
    obtain ⟨rfl, hfound⟩ := runs_read hread
    replace hfound := (hfound _ rfl).symm
    cases found with
    | none =>
      obtain ⟨rfl, rfl⟩ := runs_throw.mp h₁
      exact .refused _
    -- the subscription stands, so the insert is refused or the invoice is created
    | some subscription =>
      rcases runs_mutate h₁ with ⟨rfl, e, rfl⟩ | ⟨env, a, henv, hcreate, rfl⟩
      · exact .refused e
      · cases hc : w₁.createInvoice (externalInvoice params subscription.id env) with
        | error e =>
          rw [hc] at hcreate
          exact nomatch hcreate
        | ok w₂ =>
          rw [hc] at hcreate
          obtain ⟨rfl, rfl⟩ := Prod.mk.inj (Except.ok.inj hcreate)
          exact .created subscription env _ henv hknown
            (by simp only [World.namedSubscription, hext, if_true, hfound]) hc

/-- An external invoice resolves to a known one, or to one that is created. -/
theorem runs_resolveInvoiceForExternalSync {params : SyncInvoiceParams} {r : Except Err Id}
    (h : Runs E (resolveInvoiceForExternalSync params) w r w') : ResolvesTo E params w r w' := by
  rcases runs_bind.mp h with ⟨e, hread, rfl⟩ | ⟨found, w₁, hread, h₁⟩
  · obtain ⟨rfl, -⟩ := runs_read hread
    exact .refused e
  obtain ⟨rfl, hfound⟩ := runs_read hread
  replace hfound := (hfound _ rfl).symm
  -- the external id decides first, then the metadata
  cases found with
  | some invoice =>
    obtain ⟨rfl, rfl⟩ := runs_pure.mp h₁
    exact .known invoice (by simp only [World.knownInvoice, hfound])
  | none =>
    dsimp only at h₁
    split at h₁
    · rename_i hmetadata
      rcases runs_bind.mp h₁ with ⟨e, hread', rfl⟩ | ⟨found, w₂, hread', h₂⟩
      · obtain ⟨rfl, -⟩ := runs_read hread'
        exact .refused e
      obtain ⟨rfl, hnamed⟩ := runs_read hread'
      replace hnamed := (hnamed _ rfl).symm
      have hknown : w₂.knownInvoice params =
          found.filter (acceptsExternalId params.externalInvoiceId) := by
        simp only [World.knownInvoice, hfound, hmetadata, if_true, hnamed]
      cases found with
      | none => exact runs_createInvoiceForExternalSync hknown h₂
      | some invoice =>
        dsimp only at h₂
        rw [Option.filter_some] at hknown
        -- an invoice that another external id paid is not the one meant
        split at h₂
        · rename_i haccepts
          obtain ⟨rfl, rfl⟩ := runs_pure.mp h₂
          exact .known invoice (by rw [hknown, if_pos haccepts])
        · rename_i haccepts
          exact runs_createInvoiceForExternalSync (by rw [hknown, if_neg haccepts]) h₂
    · rename_i hmetadata
      exact runs_createInvoiceForExternalSync
        (by simp only [World.knownInvoice, hfound, hmetadata, Bool.false_eq_true, if_false]) h₁

/-- The local invoice that a synchronisation is about: the known one, or a new one of the
    subscription that the external invoice names. -/
def World.SyncsTo (w : World) (params : SyncInvoiceParams) (invoice : Invoice) : Prop :=
  w.knownInvoice params = some invoice ∨
    (w.knownInvoice params = none ∧ ∃ subscription env,
      w.namedSubscription params = some subscription ∧
        invoice = externalInvoice params subscription.id env)

/-- A known invoice stands under its own id. -/
theorem knownInvoice_mem {params : SyncInvoiceParams} {invoice : Invoice}
    (h : w.knownInvoice params = some invoice) : w.invoices.find? invoice.id = some invoice := by
  simp only [World.knownInvoice] at h
  split at h
  · rename_i hfound
    obtain rfl := Option.some.inj h
    exact Table.find?_key (Table.mem_of_findBy? hfound)
  · split at h
    · obtain ⟨hbind, -⟩ := Option.filter_eq_some_iff.mp h
      obtain ⟨id, -, hfind⟩ := Option.bind_eq_some_iff.mp hbind
      obtain rfl : invoice.id = id := Table.key_of_find? hfind
      exact hfind
    · exact nomatch h

/-- An invoice that stands for an external one carries no other external id. -/
theorem knownInvoice_acceptsExternalId {params : SyncInvoiceParams} {invoice : Invoice}
    (h : w.knownInvoice params = some invoice) :
    acceptsExternalId params.externalInvoiceId invoice = true := by
  simp only [World.knownInvoice] at h
  split at h
  · rename_i hfound
    obtain rfl := Option.some.inj h
    simp [acceptsExternalId, Table.col_of_findBy? hfound]
  · split at h
    · exact (Option.filter_eq_some_iff.mp h).2
    · exact nomatch h

/-- A known invoice is not paid under another external id. -/
theorem knownInvoice_accepts {params : SyncInvoiceParams} {invoice : Invoice}
    (h : w.knownInvoice params = some invoice) :
    isPaidUnderOtherId invoice (some params.externalInvoiceId) = false := by
  have haccepts := knownInvoice_acceptsExternalId h
  simp only [acceptsExternalId, Bool.or_eq_true, Bool.not_eq_true', decide_eq_true_eq] at haccepts
  rcases haccepts with h | h <;> simp [isPaidUnderOtherId, h]

/-- Resolving changes no row, and finds the invoice it is about. -/
theorem ResolvesTo.evolves {params : SyncInvoiceParams} {r : Except Err Id}
    (h : ResolvesTo E params w r w') :
    (w.invoices.Evolves w'.invoices fun _ _ _ => False) ∧ w'.subscriptions = w.subscriptions ∧
      ∀ id, r = .ok id → ∃ invoice, w'.invoices.find? id = some invoice ∧ w.SyncsTo params invoice ∧
        ∀ row, w.invoices.find? id = some row → w.knownInvoice params = some row := by
  cases h with
  | refused e => exact ⟨.refl _, rfl, fun _ h => nomatch h⟩
  | known invoice hknown =>
    refine ⟨.refl _, rfl, fun id hid => ?_⟩
    obtain rfl := Except.ok.inj hid
    have hfind := knownInvoice_mem hknown
    exact ⟨invoice, hfind, .inl hknown, fun row hrow => hknown.trans (hfind.symm.trans hrow)⟩
  | created subscription env w₁ henv hknown hnamed hcreate =>
    have hfind := find?_createInvoice hcreate env.uuid
    obtain ⟨t, ht, rfl⟩ := createInvoice_eq_ok hcreate
    refine ⟨Table.evolves_insert? ht, rfl, fun id hid => ?_⟩
    obtain rfl := Except.ok.inj hid
    exact ⟨_, hfind.trans (if_pos rfl), .inr ⟨hknown, subscription, env, hnamed, rfl⟩,
      fun row hrow => nomatch (Table.find?_of_insert? ht).symm.trans hrow⟩

/-! ### Synchronising an invoice -/

/-- What `syncInvoiceFromExternal` hands to `markInvoicePaid`. -/
def SyncInvoiceParams.paidParams (params : SyncInvoiceParams) (invoiceId : Id) :
    MarkInvoicePaidParams where
  invoiceId := invoiceId
  paymentProvider := params.paymentProvider
  externalCheckoutSessionId := params.externalCheckoutSessionId
  externalInvoiceId := some params.externalInvoiceId
  externalSubscriptionId := params.externalSubscriptionId
  attemptCount := params.attemptCount

/-- What `syncInvoiceFromExternal` hands to `markInvoiceFailed`. -/
def SyncInvoiceParams.failedParams (params : SyncInvoiceParams) (invoiceId : Id) :
    MarkInvoiceFailedParams where
  invoiceId := invoiceId
  paymentProvider := params.paymentProvider
  externalCheckoutSessionId := params.externalCheckoutSessionId
  externalInvoiceId := some params.externalInvoiceId
  externalSubscriptionId := params.externalSubscriptionId
  invoiceStatus := some params.status
  attemptCount := params.attemptCount
  nextPaymentAttemptAt := params.nextPaymentAttemptAt

/-- What a synchronisation does once it knows the local invoice. -/
inductive AppliesSync (E : Env → Prop) (config : AppConfig) (params : SyncInvoiceParams)
    (invoiceId : Id) (w : World) : Except Err Id → World → Prop where
  | refused (e : Err) : AppliesSync E config params invoiceId w (.error e) w
  | draft (invoice : Invoice) (w₁ : World) (hstatus : params.status = .draft)
      (hfind : w.invoices.find? invoiceId = some invoice)
      (hupdate : w.updateInvoice invoiceId (draftInvoice params invoice) = .ok w₁) :
      AppliesSync E config params invoiceId w (.ok invoiceId) w₁
  | paid (r : Except Err Id) (r₁ : Except Err Bool) (w₁ : World) (hstatus : params.status = .paid)
      (hrun : Runs E (markInvoicePaid (params.paidParams invoiceId)) w r₁ w₁)
      (hr : ∀ id, r = .ok id → ∃ ignored, r₁ = .ok ignored) :
      AppliesSync E config params invoiceId w r w₁
  | failed (r : Except Err Id) (r₁ : Except Err Bool) (w₁ : World)
      (hstatus : params.status = .pastDue ∨ params.status = .void)
      (hrun : Runs E (markInvoiceFailed config (params.failedParams invoiceId)) w r₁ w₁)
      (hr : ∀ id, r = .ok id → ∃ ignored, r₁ = .ok ignored) :
      AppliesSync E config params invoiceId w r w₁

/-- A sync resolves its invoice, and then applies its outcome to it. -/
theorem runs_syncInvoiceFromExternal {config : AppConfig} {params : SyncInvoiceParams}
    {r : Except Err Id} (h : Runs E (syncInvoiceFromExternal config params) w r w') :
    (∃ e, r = .error e ∧ ResolvesTo E params w (.error e) w') ∨
      ∃ id w₁, ResolvesTo E params w (.ok id) w₁ ∧ AppliesSync E config params id w₁ r w' := by
  rcases runs_bind.mp h with ⟨e, hresolve, rfl⟩ | ⟨id, w₁, hresolve, h₁⟩
  · exact .inl ⟨e, rfl, runs_resolveInvoiceForExternalSync hresolve⟩
  refine .inr ⟨id, w₁, runs_resolveInvoiceForExternalSync hresolve, ?_⟩
  rcases runs_bind.mp h₁ with ⟨e, hread, rfl⟩ | ⟨found, w₂, hread, h₂⟩
  · obtain ⟨rfl, -⟩ := runs_read hread
    exact .refused e
  obtain ⟨rfl, hfound⟩ := runs_read hread
  replace hfound := (hfound _ rfl).symm
  -- an outcome ends the synchronisation: its result is dropped
  have hend : ∀ {op : Op Bool}, Runs E (op >>= fun _ => pure id) w₂ r w' →
      ∃ r₁, Runs E op w₂ r₁ w' ∧ ∀ id, r = .ok id → ∃ ignored, r₁ = .ok ignored := by
    intro op hrun
    rcases runs_bind.mp hrun with ⟨e, hop, rfl⟩ | ⟨ignored, w₃, hop, hret⟩
    · exact ⟨_, hop, fun _ h => nomatch h⟩
    · obtain ⟨rfl, rfl⟩ := runs_pure.mp hret
      exact ⟨_, hop, fun _ _ => ⟨ignored, rfl⟩⟩
  cases found with
  | none =>
    obtain ⟨rfl, rfl⟩ := runs_throw.mp h₂
    exact .refused _
  | some invoice =>
    dsimp only at h₂
    split at h₂
    · rename_i hstatus
      rcases runs_bind.mp h₂ with ⟨e, hupdate, rfl⟩ | ⟨_, w₃, hupdate, h₃⟩
      · rcases runs_updateInvoice hupdate with ⟨rfl, -⟩ | ⟨-, hok⟩
        · exact .refused e
        · exact nomatch hok
      rcases runs_updateInvoice hupdate with ⟨-, _, hok⟩ | ⟨hupdated, -⟩
      · exact nomatch hok
      obtain ⟨rfl, rfl⟩ := runs_pure.mp h₃
      exact .draft invoice _ hstatus hfound hupdated
    · rename_i hstatus
      obtain ⟨r₁, hrun, hr⟩ := hend h₂
      exact .paid r r₁ w' hstatus hrun hr
    · rename_i hstatus
      obtain ⟨r₁, hrun, hr⟩ := hend h₂
      exact .failed r r₁ w' (.inl hstatus) hrun hr
    · rename_i hstatus
      obtain ⟨r₁, hrun, hr⟩ := hend h₂
      exact .failed r r₁ w' (.inr hstatus) hrun hr

/-- How the row of the invoice that a synchronisation is about can change. -/
inductive SyncedInvoice (E : Env → Prop) (config : AppConfig) (params : SyncInvoiceParams)
    (w : World) (row : Invoice) : Invoice → Prop where
  | draft (hstatus : params.status = .draft) :
      SyncedInvoice E config params w row (draftInvoice params row row)
  | paid (hstatus : params.status = .paid) :
      SyncedInvoice E config params w row (paidInvoice (params.paidParams row.id) row row)
  | failed (subscription : Subscription) (env : Env)
      (hstatus : params.status = .pastDue ∨ params.status = .void) (henv : E env)
      (hsubscription : w.subscriptions.find? row.subscriptionId = some subscription) :
      SyncedInvoice E config params w row
        (failedInvoice (params.failedParams row.id)
          (resolveManagedRetryState config env.now row.kind params.paymentProvider params.status
            row.status subscription.currentPeriodStart row.toManagedRetryState) row row)

/-- How the row of its subscription can change. -/
inductive SyncedSubscription (E : Env → Prop) (config : AppConfig) (params : SyncInvoiceParams)
    (invoice : Invoice) (row : Subscription) : Subscription → Prop where
  | paid (hstatus : params.status = .paid) :
      SyncedSubscription E config params invoice row
        (activatedSubscription (params.paidParams invoice.id) invoice row row)
  | failed (env : Env) (hstatus : params.status = .pastDue ∨ params.status = .void) (henv : E env) :
      SyncedSubscription E config params invoice row
        (pastDueSubscription config env.now (params.failedParams invoice.id) row row)

section Synchronised

variable {config : AppConfig} {params : SyncInvoiceParams} {r : Except Err Id}

/-- A synced invoice changes by its outcome alone. -/
theorem AppliesSync.invoices {invoiceId : Id} (h : AppliesSync E config params invoiceId w r w') :
    w.invoices.Evolves w'.invoices fun k row row' =>
      k = invoiceId ∧ SyncedInvoice E config params w row row' := by
  cases h with
  | refused e => exact .refl _
  | draft invoice _ hstatus hfind hupdate =>
    obtain ⟨t, ht, rfl⟩ := updateInvoice_eq_ok hupdate
    refine (Table.evolves_update? ht fun _ => rfl).mono fun k row row' hrow ⟨hk, hrow'⟩ => ?_
    rw [hk, hfind] at hrow
    obtain rfl := Option.some.inj hrow
    exact ⟨hk, hrow' ▸ .draft hstatus⟩
  -- a paid or failed invoice changes as its report says
  | paid _ _ _ hstatus hrun _ =>
    refine (markInvoicePaid_invoices hrun).mono ?_
    rintro k row row' hrow ⟨hk, -, rfl⟩
    obtain rfl : k = invoiceId := hk
    obtain rfl : row.id = k := Table.key_of_find? hrow
    exact ⟨rfl, .paid hstatus⟩
  | failed _ _ _ hstatus hrun _ =>
    refine (markInvoiceFailed_invoices hrun).mono ?_
    rintro k row row' hrow ⟨hk, -, subscription, env, henv, hsub, rfl⟩
    obtain rfl : k = invoiceId := hk
    obtain rfl : row.id = k := Table.key_of_find? hrow
    exact ⟨rfl, .failed subscription env hstatus henv hsub⟩

/-- The subscription of a synced invoice changes by its outcome alone. -/
theorem AppliesSync.subscriptions {invoiceId : Id}
    (h : AppliesSync E config params invoiceId w r w') :
    w.subscriptions.Evolves w'.subscriptions fun k row row' =>
      ∃ invoice, w.invoices.find? invoiceId = some invoice ∧ invoice.kind = .subscription ∧
        invoice.subscriptionId = k ∧ SyncedSubscription E config params invoice row row' := by
  cases h with
  | refused e => exact .refl _
  | draft invoice _ hstatus hfind hupdate =>
    rw [updateInvoice_subscriptions hupdate]
    exact .refl _
  | paid _ _ _ hstatus hrun _ =>
    refine (markInvoicePaid_subscriptions hrun).mono ?_
    rintro k row row' - ⟨invoice, hfind, -, hkind, hk, rfl⟩
    obtain rfl : invoice.id = invoiceId := Table.key_of_find? hfind
    exact ⟨invoice, hfind, hkind, hk, .paid hstatus⟩
  | failed _ _ _ hstatus hrun _ =>
    refine (markInvoiceFailed_subscriptions hrun).mono ?_
    rintro k row row' - ⟨invoice, env, henv, hfind, -, hkind, hk, rfl⟩
    obtain rfl : invoice.id = invoiceId := Table.key_of_find? hfind
    exact ⟨invoice, hfind, hkind, hk, .failed env hstatus henv⟩

/-- A synchronisation changes no invoice but the known one. -/
theorem syncInvoiceFromExternal_invoices
    (h : Runs E (syncInvoiceFromExternal config params) w r w') :
    w.invoices.Evolves w'.invoices fun _ row row' =>
      w.knownInvoice params = some row ∧ SyncedInvoice E config params w row row' := by
  rcases runs_syncInvoiceFromExternal h with ⟨e, -, hresolve⟩ | ⟨id, w₁, hresolve, happly⟩
  · exact hresolve.evolves.1.mono fun _ _ _ _ h => h.elim
  · obtain ⟨hinvoices, hsubs, htarget⟩ := hresolve.evolves
    obtain ⟨invoice, hfind, -, hknown⟩ := htarget id rfl
    intro k row hrow
    obtain ⟨row₁, hrow₁, hsame⟩ := hinvoices k row hrow
    obtain rfl : row₁ = row := hsame.resolve_right not_false
    obtain ⟨row', hrow', hchange⟩ := happly.invoices k row₁ hrow₁
    refine ⟨row', hrow', hchange.imp_right fun ⟨hk, hsynced⟩ => ⟨hknown _ (hk ▸ hrow), ?_⟩⟩
    cases hsynced with
    | draft hstatus => exact .draft hstatus
    | paid hstatus => exact .paid hstatus
    | failed subscription env hstatus henv hsub =>
      exact .failed subscription env hstatus henv (hsubs ▸ hsub)

/-- It changes no subscription but that of its invoice, which is not an overage then. -/
theorem syncInvoiceFromExternal_subscriptions
    (h : Runs E (syncInvoiceFromExternal config params) w r w') :
    w.subscriptions.Evolves w'.subscriptions fun k row row' =>
      ∃ invoice, w.SyncsTo params invoice ∧ invoice.kind = .subscription ∧
        invoice.subscriptionId = k ∧ SyncedSubscription E config params invoice row row' := by
  rcases runs_syncInvoiceFromExternal h with ⟨e, -, hresolve⟩ | ⟨id, w₁, hresolve, happly⟩
  · rw [hresolve.evolves.2.1]
    exact .refl _
  · obtain ⟨-, hsubs, htarget⟩ := hresolve.evolves
    obtain ⟨invoice, hfind, hsync, -⟩ := htarget id rfl
    rw [← hsubs]
    refine happly.subscriptions.mono fun k row row' _ ⟨invoice', hfind', hkind, hk, hsynced⟩ => ?_
    obtain rfl := Option.some.inj (hfind.symm.trans hfind')
    exact ⟨invoice, hsync, hkind, hk, hsynced⟩

end Synchronised

end HivePoint
