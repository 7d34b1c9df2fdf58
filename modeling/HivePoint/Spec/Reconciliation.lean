import HivePoint.Spec.BillingCalls

/-!
# When reconciliation is faithful to the snapshot

`reconcileSubscription` writes the subscription twice: first the status and period of the
snapshot, then the outcome of its latest invoice. The second write has a status and a
period of its own, and wins. `FaithfulAt` says when it does no harm.

## Key results

- `syncInvoiceFromExternal_ok`: what a synchronisation that returns has done
- `reconcileSubscription_ok`: the two writes
- `reconcileSubscription_faithful_iff`: the row mirrors the snapshot, now and after running
  again, exactly when `FaithfulAt` held before
- `not_reconcileSubscription_faithful`: a canceled subscription with a paid latest invoice
-/

namespace HivePoint

open Prog

variable {config : AppConfig} {E : Env → Prop} {w w' : World}

/-! ### A synchronisation that returns -/

/-- What a synchronisation that returns has done to the invoice `target` it is about. -/
structure LinksInvoice (params : SyncInvoiceParams) (target target' : Invoice) : Prop where
  id : target'.id = target.id
  externalInvoiceId : target'.externalInvoiceId = some params.externalInvoiceId
  kind : target'.kind = target.kind
  subscriptionId : target'.subscriptionId = target.subscriptionId
  period : params.status = .paid →
    target'.periodStart = target.periodStart ∧ target'.periodEnd = target.periodEnd

/-- A sync that succeeds links its invoice and changes that invoice's subscription alone. -/
theorem AppliesSync.of_ok {params : SyncInvoiceParams} {invoiceId id : Id}
    (h : AppliesSync E config params invoiceId w (.ok id) w') {target : Invoice}
    (htarget : w.invoices.find? invoiceId = some target)
    (hguard : isPaidUnderOtherId target (some params.externalInvoiceId) = false) {k : Id}
    {row : Subscription} (hrow : w.subscriptions.find? k = some row) :
    ∃ target' row', w'.invoices.find? invoiceId = some target' ∧
      LinksInvoice params target target' ∧
      w'.subscriptions.find? k = some row' ∧
      (((params.status = .draft ∨ ¬target.Renews k) ∧ row' = row) ∨
        (target.Renews k ∧ SyncedSubscription E config params target row row')) := by
  obtain rfl : target.id = invoiceId := Table.key_of_find? htarget
  -- a draft links the invoice, a payment and a failure also change the subscription
  cases h with
  | draft invoice _ hstatus hfind hupdate =>
    obtain rfl := Option.some.inj (hfind.symm.trans htarget)
    have hupdated := find?_updateInvoice hupdate (fun _ => rfl) invoice.id
    rw [if_pos rfl, hfind] at hupdated
    refine ⟨_, row, hupdated, ⟨rfl, rfl, rfl, rfl, fun h => nomatch hstatus.symm.trans h⟩, ?_,
      .inl ⟨.inl hstatus, rfl⟩⟩
    rw [updateInvoice_subscriptions hupdate, hrow]
  | paid _ _ _ hstatus hrun hr =>
    obtain ⟨ignored, rfl⟩ := hr id rfl
    obtain ⟨⟨_, _, rfl, htarget'⟩, row', hrow', hchange⟩ := (runs_markInvoicePaid hrun).of_ok
      (fun hdata _ => by rw [hdata]; rfl) (fun hdata _ => by rw [hdata]; rfl) htarget hguard hrow
    refine ⟨_, row', htarget', ⟨rfl, rfl, rfl, rfl, fun _ => ⟨rfl, rfl⟩⟩, hrow', ?_⟩
    rcases hchange with ⟨hother, rfl⟩ | ⟨hrenews, _, rfl, rfl⟩
    · exact .inl ⟨.inr hother, rfl⟩
    · exact .inr ⟨hrenews, .paid hstatus⟩
  | failed _ _ _ hstatus hrun hr =>
    obtain ⟨ignored, rfl⟩ := hr id rfl
    obtain ⟨⟨_, _, ⟨_, _, rfl⟩, htarget'⟩, row', hrow', hchange⟩ :=
      (runs_markInvoiceFailed hrun).of_ok
      (fun ⟨_, _, hdata⟩ _ => by rw [hdata]; rfl) (fun ⟨_, _, hdata⟩ _ => by rw [hdata]; rfl)
      htarget hguard hrow
    refine ⟨_, row', htarget', ⟨rfl, rfl, rfl, rfl, fun h => ?_⟩, hrow', ?_⟩
    · exact ⟨rfl, rfl⟩
    rcases hchange with ⟨hother, rfl⟩ | ⟨hrenews, _, ⟨env, henv, rfl⟩, rfl⟩
    · exact .inl ⟨.inr hother, rfl⟩
    · exact .inr ⟨hrenews, .failed env hstatus henv⟩

/-- The invoice a synchronisation is about is not paid under another id. -/
private theorem isPaidUnderOtherId_of_syncsTo {params : SyncInvoiceParams} {target : Invoice}
    (h : w.SyncsTo params target) :
    isPaidUnderOtherId target (some params.externalInvoiceId) = false := by
  rcases h with hknown | ⟨-, subscription, env, -, rfl⟩
  · exact knownInvoice_accepts hknown
  · rfl

/-- A sync that succeeds acts on the invoice it resolves to. -/
theorem syncInvoiceFromExternal_ok {params : SyncInvoiceParams} {id : Id}
    (h : Runs E (syncInvoiceFromExternal config params) w (.ok id) w') {k : Id} {row : Subscription}
    (hrow : w.subscriptions.find? k = some row) :
    ∃ target target' row', w.SyncsTo params target ∧
      w'.findInvoiceByExternalId params.externalInvoiceId = some target' ∧
      LinksInvoice params target target' ∧ w'.subscriptions.find? k = some row' ∧
      (((params.status = .draft ∨ ¬target.Renews k) ∧ row' = row) ∨
        (target.Renews k ∧ SyncedSubscription E config params target row row')) := by
  rcases runs_syncInvoiceFromExternal h with ⟨_, hok, -⟩ | ⟨invoiceId, w₁, hresolve, happly⟩
  · exact nomatch hok
  obtain ⟨-, hsubs, htarget⟩ := hresolve.evolves
  obtain ⟨target, hfind, hsyncs, -⟩ := htarget invoiceId rfl
  rw [← hsubs] at hrow
  obtain ⟨target', row', htarget', hlinks, hrow', hchange⟩ :=
    happly.of_ok hfind (isPaidUnderOtherId_of_syncsTo hsyncs) hrow
  exact ⟨target, target', row', hsyncs,
    findInvoiceByExternalId_of_row htarget' hlinks.externalInvoiceId, hlinks, hrow', hchange⟩

/-! ### The two writes -/

/-- Stripe answers as in `stripe` throughout. -/
def AnswersAs (stripe : StripeApi) (env : Env) : Prop := env.stripe = stripe

section Reconcile

variable {stripe : StripeApi} {externalSubscriptionId : String} {snapshot : StripeSubscription}

/-- A reconciliation that returns has written the snapshot, and then its latest invoice if
    there is one. -/
theorem reconcileSubscription_ok
    (hsnapshot : stripe.retrieveSubscription externalSubscriptionId = .ok snapshot)
    (h : Runs (AnswersAs stripe) (reconcileSubscription config externalSubscriptionId) w
      (.ok ()) w') :
    ∃ log w₁ log₁, Runs (AnswersAs stripe)
        (syncSubscriptionFromExternal config (snapshotSyncParams snapshot))
        { w with stripeLog := log } (.ok ()) w₁ ∧
      ((obtainedInvoice stripe snapshot.latestInvoice = none ∧ w' = { w₁ with stripeLog := log₁ }) ∨
        ∃ invoice id, obtainedInvoice stripe snapshot.latestInvoice = some invoice ∧
          Runs (AnswersAs stripe)
            (syncInvoiceFromExternal config (reconciledSyncParams snapshot invoice))
            { w₁ with stripeLog := log₁ } (.ok id) w') := by
  -- Stripe has the snapshot, so the first call gives it
  have hretrieve : ∀ {r w₁}, Runs (AnswersAs stripe)
      (retrieveSnapshot externalSubscriptionId) w r w₁ →
      r = .ok (some snapshot) ∧ ∃ log, w₁ = { w with stripeLog := log } := by
    intro r w₁ hrun
    have hcall : ∀ {r₁ w₂}, Runs (AnswersAs stripe) (callStripe
          (.retrieveSubscription externalSubscriptionId)
            (·.retrieveSubscription externalSubscriptionId))
        w r₁ w₂ → r₁ = .ok snapshot ∧ ∃ log, w₂ = { w with stripeLog := log } := fun hrun =>
      have ⟨hr, hw⟩ := runs_callStripe_ok (fun env henv => henv ▸ hsnapshot) hrun
      ⟨hr, _, hw⟩
    rcases runs_tryCatch.mp hrun with ⟨_, htry, rfl⟩ | ⟨_, _, htry, -⟩
    · rcases runs_bind.mp htry with ⟨_, -, hok⟩ | ⟨_, _, hrun, hret⟩
      · exact nomatch hok
      · obtain ⟨hr, hlog⟩ := hcall hrun
        obtain rfl := Except.ok.inj hr
        obtain ⟨hvalue, rfl⟩ := runs_pure.mp hret
        exact ⟨hvalue, hlog⟩
    · rcases runs_bind.mp htry with ⟨_, hrun, -⟩ | ⟨_, _, -, hret⟩
      · exact nomatch (hcall hrun).1
      · exact nomatch (runs_pure.mp hret).1
  rcases runs_bind.mp h with ⟨_, -, hok⟩ | ⟨found, w₀, hrun, h⟩
  · exact nomatch hok
  obtain ⟨hfound, log, rfl⟩ := hretrieve hrun
  obtain rfl := Except.ok.inj hfound
  -- the snapshot is applied, then the latest invoice if there is one
  rcases runs_bind.mp h with ⟨_, -, hok⟩ | ⟨_, w₁, hsync, h₁⟩
  · exact nomatch hok
  rcases runs_bind.mp h₁ with ⟨_, -, hok⟩ | ⟨latest, w₂, hlatest, h₂⟩
  · exact nomatch hok
  obtain ⟨⟨log₁, rfl⟩, hvalue⟩ := runs_resolveLatestInvoice hlatest
  have hobtained := (hvalue stripe (fun _ henv => henv) latest rfl).symm
  refine ⟨log, w₁, log₁, hsync, ?_⟩
  cases latest with
  | none => exact .inl ⟨hobtained, (runs_pure.mp h₂).2⟩
  | some invoice =>
    rcases runs_bind.mp h₂ with ⟨_, -, hok⟩ | ⟨id, w₃, hinvoice, hret⟩
    · exact nomatch hok
    · obtain ⟨-, rfl⟩ := runs_pure.mp hret
      exact .inr ⟨invoice, id, hobtained, hinvoice⟩

/-! ### Faithfulness -/

/-- The row has the status and the period of the snapshot. -/
structure Mirrors (snapshot : StripeSubscription) (row : Subscription) : Prop where
  status : row.status = mapStripeSubscriptionStatus snapshot.status
  currentPeriodStart :
    row.currentPeriodStart = (extractStripeSubscriptionPeriod snapshot).currentPeriodStart
  currentPeriodEnd :
    row.currentPeriodEnd = (extractStripeSubscriptionPeriod snapshot).currentPeriodEnd

/-- The outcome of the latest invoice says what the snapshot says: a paid invoice that the
    subscription is active in the period of the local invoice, a void one that it is past due. -/
def OutcomeAgrees (snapshot : StripeSubscription) (invoice : StripeInvoice)
    (target : Invoice) : Prop :=
  match mapStripeInvoiceStatus invoice (mapStripeSubscriptionStatus snapshot.status) with
  | .paid => mapStripeSubscriptionStatus snapshot.status = .active ∧
      extractStripeSubscriptionPeriod snapshot = ⟨some target.periodStart, some target.periodEnd⟩
  | .pastDue | .void => mapStripeSubscriptionStatus snapshot.status = .pastDue
  | .draft => True

/-- The latest invoice of the snapshot, if it stands for a renewal of the subscription `id`,
    agrees with the snapshot. -/
def FaithfulAt (stripe : StripeApi) (snapshot : StripeSubscription) (id : Id) (w : World) : Prop :=
  ∀ invoice target, obtainedInvoice stripe snapshot.latestInvoice = some invoice →
    w.SyncsTo (reconciledSyncParams snapshot invoice) target → target.Renews id →
      OutcomeAgrees snapshot invoice target

/-- An outcome leaves the row mirroring the snapshot exactly when it agrees with it. -/
private theorem mirrors_synced_iff {invoice : StripeInvoice} {target : Invoice}
    {row row' : Subscription} (hrow : Mirrors snapshot row)
    (h : SyncedSubscription E config (reconciledSyncParams snapshot invoice) target row row') :
    Mirrors snapshot row' ↔ OutcomeAgrees snapshot invoice target := by
  -- a payment brings its own period and ACTIVE, a failure keeps the period and is PAST_DUE
  cases h with
  | paid hstatus =>
    have hstatus : mapStripeInvoiceStatus invoice (mapStripeSubscriptionStatus snapshot.status) =
      .paid := hstatus
    rw [OutcomeAgrees, hstatus]
    constructor
    · rintro ⟨hactive, hstart, hfinish⟩
      refine ⟨hactive.symm, ?_⟩
      rw [StripeSubscriptionPeriod.mk.injEq]
      exact ⟨hstart.symm, hfinish.symm⟩
    · rintro ⟨hactive, hperiod⟩
      exact ⟨hactive.symm, by rw [hperiod]; rfl, by rw [hperiod]; rfl⟩
  | failed env hstatus henv =>
    have hagrees : OutcomeAgrees snapshot invoice target ↔
        mapStripeSubscriptionStatus snapshot.status = .pastDue := by
      rcases hstatus with h | h <;>
      · have h : mapStripeInvoiceStatus invoice (mapStripeSubscriptionStatus snapshot.status) = _ :=
          h
        simp only [OutcomeAgrees, h]
    rw [hagrees]
    exact ⟨fun hmirrors => hmirrors.status.symm,
      fun hpastDue => ⟨hpastDue.symm, hrow.currentPeriodStart, hrow.currentPeriodEnd⟩⟩

/-- The subscription that an external invoice names, when the row that carries the external
    id is known. -/
private theorem namedSubscription_of_row {params : SyncInvoiceParams} {id : Id} {row : Subscription}
    {externalSubscriptionId : String} (hrow : w.subscriptions.find? id = some row)
    (hext : row.externalSubscriptionId = some externalSubscriptionId)
    (hparams : params.externalSubscriptionId = some externalSubscriptionId) :
    w.namedSubscription params =
      if truthy (some externalSubscriptionId) then some row else none := by
  simp only [World.namedSubscription, hparams, Option.bind_some,
    findSubscriptionByExternalId_of_row hrow hext]

/-- The invoice a synchronisation is about does not depend on the rest of the subscription's
    row. -/
private theorem syncsTo_congr {w₁ : World} {params : SyncInvoiceParams}
    (hinvoices : w₁.invoices = w.invoices)
    (hnamed : (w₁.namedSubscription params).map (·.id) = (w.namedSubscription params).map (·.id))
    {target : Invoice} (h : w₁.SyncsTo params target) : w.SyncsTo params target := by
  have hknown : w₁.knownInvoice params = w.knownInvoice params := by
    simp only [World.knownInvoice, World.findInvoiceByExternalId, hinvoices]
  rcases h with h | ⟨hnone, subscription, env, hsub, rfl⟩
  · exact .inl (hknown ▸ h)
  · rw [hsub] at hnamed
    obtain ⟨subscription', hsub', hid⟩ := Option.map_eq_some_iff.mp hnamed.symm
    exact .inr ⟨hknown ▸ hnone, subscription', env, hsub', by rw [hid]⟩

/-- Two targets of one synchronisation agree in what an outcome looks at. -/
theorem SyncsTo.unique {params : SyncInvoiceParams} {target target' : Invoice}
    (h : w.SyncsTo params target) (h' : w.SyncsTo params target') :
    target'.kind = target.kind ∧ target'.subscriptionId = target.subscriptionId ∧
      target'.periodStart = target.periodStart ∧ target'.periodEnd = target.periodEnd := by
  rcases h with h | ⟨hnone, subscription, env, hsub, rfl⟩ <;>
    rcases h' with h' | ⟨hnone', subscription', env', hsub', rfl⟩
  · obtain rfl := Option.some.inj (h.symm.trans h')
    exact ⟨rfl, rfl, rfl, rfl⟩
  · exact nomatch h.symm.trans hnone'
  · exact nomatch hnone.symm.trans h'
  · obtain rfl := Option.some.inj (hsub.symm.trans hsub')
    exact ⟨rfl, rfl, rfl, rfl⟩

/-- Whether an outcome agrees depends on the invoice's period only if it is paid. -/
theorem OutcomeAgrees.congr {invoice : StripeInvoice} {target target' : Invoice}
    (h : OutcomeAgrees snapshot invoice target)
    (hperiod : mapStripeInvoiceStatus invoice (mapStripeSubscriptionStatus snapshot.status) =
      .paid →
      target'.periodStart = target.periodStart ∧ target'.periodEnd = target.periodEnd) :
    OutcomeAgrees snapshot invoice target' := by
  simp only [OutcomeAgrees] at h ⊢
  split at h
  · rename_i hstatus
    rw [(hperiod hstatus).1, (hperiod hstatus).2]
    exact h
  · exact h
  · exact h
  · exact h

/-- One reconciliation that returns: the row mirrors the snapshot exactly when `FaithfulAt`
    held before, and what held of the latest invoice then holds of it now. -/
private theorem reconcileSubscription_step {row : Subscription}
    (hsnapshot : stripe.retrieveSubscription externalSubscriptionId = .ok snapshot)
    (hid : snapshot.id = externalSubscriptionId)
    (hrow : w.findSubscriptionByExternalId externalSubscriptionId = some row)
    (h : Runs (AnswersAs stripe) (reconcileSubscription config externalSubscriptionId) w
      (.ok ()) w') :
    ∃ row', w'.findSubscriptionByExternalId externalSubscriptionId = some row' ∧ row'.id = row.id ∧
      (Mirrors snapshot row' ↔ FaithfulAt stripe snapshot row.id w) ∧
      (FaithfulAt stripe snapshot row.id w → FaithfulAt stripe snapshot row.id w') := by
  obtain ⟨log, w₁, log₁, hsync, hlatest⟩ := reconcileSubscription_ok hsnapshot h
  -- the first write
  have hfind : w.subscriptions.find? row.id = some row :=
    Table.find?_key (Table.mem_of_findBy? hrow)
  have hext : row.externalSubscriptionId = some externalSubscriptionId :=
    Table.col_of_findBy? hrow
  have hfirst : ∃ row₁, w₁.subscriptions.find? row.id = some row₁ ∧ Mirrors snapshot row₁ ∧
      row₁.externalSubscriptionId = some externalSubscriptionId ∧ row₁.id = row.id ∧
      w₁.invoices = w.invoices := by
    rcases runs_syncSubscriptionFromExternal hsync with ⟨-, _, hok⟩ |
      ⟨subscription, now, hfound, -, hupdate, -⟩
    · exact nomatch hok
    · have hfound : w.findSubscriptionByExternalId snapshot.id = some subscription := hfound
      rw [hid, hrow] at hfound
      obtain rfl := Option.some.inj hfound
      have hupdated := find?_updateSubscription hupdate (fun _ => rfl) row.id
      rw [if_pos rfl] at hupdated
      have hinvoices := updateSubscription_invoices hupdate
      exact ⟨_, hupdated.trans (congrArg _ hfind), ⟨rfl, rfl, rfl⟩, hext, rfl, hinvoices⟩
  obtain ⟨row₁, hrow₁, hmirrors, hext₁, hid₁, hinvoices⟩ := hfirst
  rcases hlatest with ⟨hnone, rfl⟩ | ⟨invoice, invoiceId, hobtained, hinvoice⟩
  · have hfaithful : ∀ w, FaithfulAt stripe snapshot row.id w := fun _ invoice _ hobtained =>
      nomatch hnone.symm.trans hobtained
    exact ⟨row₁, findSubscriptionByExternalId_of_row hrow₁ hext₁, hid₁,
      ⟨fun _ => hfaithful w, fun _ => hmirrors⟩,
      fun _ => hfaithful _⟩
  -- the second write
  obtain ⟨target, target', row', hsyncs, htarget', hlinks, hrow', hchange⟩ :=
    syncInvoiceFromExternal_ok hinvoice hrow₁
  have hparams : (reconciledSyncParams snapshot invoice).externalSubscriptionId =
      some externalSubscriptionId := congrArg some hid
  have hsyncs : w.SyncsTo (reconciledSyncParams snapshot invoice) target := by
    refine syncsTo_congr hinvoices ?_ hsyncs
    rw [namedSubscription_of_row hrow₁ hext₁ hparams,
      namedSubscription_of_row hfind hext hparams]
    split
    · simp only [Option.map_some, hid₁]
    · rfl
  have hfaithful_iff : FaithfulAt stripe snapshot row.id w ↔
      (target.Renews row.id → OutcomeAgrees snapshot invoice target) := by
    constructor
    · exact fun h => h invoice target hobtained hsyncs
    · intro h invoice' other hobtained' hother hrenews
      obtain rfl := Option.some.inj (hobtained.symm.trans hobtained')
      obtain ⟨hkind, hsub, hstart, hfinish⟩ := SyncsTo.unique hsyncs hother
      exact (h ⟨hkind ▸ hrenews.1, hsub ▸ hrenews.2⟩).congr fun _ => ⟨hstart, hfinish⟩
  refine ⟨row', findSubscriptionByExternalId_of_row hrow' ?_, ?_, ?_, fun hfaithful => ?_⟩
  · rcases hchange with ⟨-, rfl⟩ | ⟨-, hsynced⟩
    · exact hext₁
    · cases hsynced <;> exact hparams
  · exact Table.key_of_find? hrow'
  · rw [hfaithful_iff]
    rcases hchange with ⟨hdraft | hother, rfl⟩ | ⟨hrenews, hsynced⟩
    · have hdraft : mapStripeInvoiceStatus invoice (mapStripeSubscriptionStatus snapshot.status) =
          .draft := hdraft
      exact ⟨fun _ _ => by simp only [OutcomeAgrees, hdraft], fun _ => hmirrors⟩
    · exact ⟨fun _ hrenews => absurd hrenews hother, fun _ => hmirrors⟩
    · rw [mirrors_synced_iff hmirrors hsynced]
      exact ⟨fun h _ => h, fun h => h hrenews⟩
  · intro invoice' other hobtained' hother hrenews
    obtain rfl := Option.some.inj (hobtained.symm.trans hobtained')
    -- now the invoice is known by its external id
    obtain rfl : target' = other := by
      rcases hother with hknown | ⟨hnone, -⟩
      · simp only [World.knownInvoice, htarget'] at hknown
        exact Option.some.inj hknown
      · simp only [World.knownInvoice, htarget', reduceCtorEq] at hnone
    exact (hfaithful_iff.mp hfaithful ⟨hlinks.kind ▸ hrenews.1,
      hlinks.subscriptionId ▸ hrenews.2⟩).congr
      hlinks.period

/-- Reconciling a subscription leaves its row mirroring the snapshot, and running again
    leaves the status and the period as they are, exactly when the latest invoice agrees
    with the snapshot or is not a renewal of the subscription. -/
theorem reconcileSubscription_faithful_iff {row : Subscription}
    (hsnapshot : stripe.retrieveSubscription externalSubscriptionId = .ok snapshot)
    (hid : snapshot.id = externalSubscriptionId)
    (hrow : w.findSubscriptionByExternalId externalSubscriptionId = some row)
    (h : Runs (AnswersAs stripe) (reconcileSubscription config externalSubscriptionId) w
      (.ok ()) w') :
    (∃ row', w'.subscriptions.find? row.id = some row' ∧ Mirrors snapshot row' ∧
      ∀ w₂, Runs (AnswersAs stripe) (reconcileSubscription config externalSubscriptionId) w'
        (.ok ()) w₂ →
        ∃ row₂, w₂.subscriptions.find? row.id = some row₂ ∧ row₂.status = row'.status ∧
          row₂.currentPeriodStart = row'.currentPeriodStart ∧
          row₂.currentPeriodEnd = row'.currentPeriodEnd) ↔
      FaithfulAt stripe snapshot row.id w := by
  obtain ⟨row', hfound', hid', hmirrors, hstays⟩ := reconcileSubscription_step hsnapshot hid hrow h
  have hfind : ∀ {w₂ : World} {row₂ : Subscription},
      w₂.findSubscriptionByExternalId externalSubscriptionId = some row₂ → row₂.id = row.id →
      w₂.subscriptions.find? row.id = some row₂ := fun hfound hid =>
    hid ▸ Table.find?_key (Table.mem_of_findBy? hfound)
  -- forwards: the row that mirrors the snapshot shows that the condition held
  constructor
  · rintro ⟨row₁, hrow₁, hmirrors₁, -⟩
    obtain rfl := Option.some.inj ((hfind hfound' hid').symm.trans hrow₁)
    exact hmirrors.mp hmirrors₁
  -- backwards: the second run meets the condition again
  · intro hfaithful
    have hmirrors' := hmirrors.mpr hfaithful
    refine ⟨row', hfind hfound' hid', hmirrors', fun w₂ h₂ => ?_⟩
    obtain ⟨row₂, hfound₂, hid₂, hmirrors₂, -⟩ :=
      reconcileSubscription_step hsnapshot hid hfound' h₂
    rw [hid'] at hmirrors₂
    have hmirrors₂ := hmirrors₂.mpr (hstays hfaithful)
    exact ⟨row₂, hfind hfound₂ (hid₂.trans hid'), hmirrors₂.status.trans hmirrors'.status.symm,
      hmirrors₂.currentPeriodStart.trans hmirrors'.currentPeriodStart.symm,
      hmirrors₂.currentPeriodEnd.trans hmirrors'.currentPeriodEnd.symm⟩

end Reconcile

/-! ### A canceled subscription with a paid invoice -/

/-- Stripe knows `sub_1` in the state `status`, with the latest invoice `invoice`. -/
def sampleStripe (status : StripeSubscriptionStatus) (invoice : StripeInvoiceStatus) : StripeApi :=
  { StripeApi.unavailable with
    retrieveSubscription := fun _ =>
      .ok (sampleSnapshot status (.expanded (sampleStripeInvoice invoice))) }

/-- The reconciliation of the sample subscription, whose renewal is past due. -/
def reconciled (stripe : StripeApi) : Except Err Unit × World :=
  (reconcileSubscription sampleConfig "sub_1").exec { Env.available 50 "u" with stripe }
    (sampleBilling (sampleSubscription .pastDue) (sampleInvoice .subscription .pastDue))

/-- The sample's reconciliation is a run of it. -/
private theorem runs_reconciled (stripe : StripeApi) (hok : (reconciled stripe).1.isOk = true) :
    Runs (AnswersAs stripe) (reconcileSubscription sampleConfig "sub_1")
      (sampleBilling (sampleSubscription .pastDue) (sampleInvoice .subscription .pastDue))
      (.ok ()) (reconciled stripe).2 := by
  have hrun := runs_exec (E := AnswersAs stripe) { Env.available 50 "u" with stripe } rfl
    (reconcileSubscription sampleConfig "sub_1")
    (sampleBilling (sampleSubscription .pastDue) (sampleInvoice .subscription .pastDue))
  cases hr : (reconciled stripe).1 with
  | error e =>
    rw [hr] at hok
    exact nomatch hok
  | ok u => exact hr ▸ hrun

/-- Reconciliation is not always faithful: the paid latest invoice of a canceled
    subscription makes the local one active. -/
theorem not_reconcileSubscription_faithful :
    ¬∀ w', Runs (AnswersAs (sampleStripe .canceled .paid))
        (reconcileSubscription sampleConfig "sub_1")
        (sampleBilling (sampleSubscription .pastDue) (sampleInvoice .subscription .pastDue))
        (.ok ()) w' →
      (w'.subscriptions.find? "sub").map (·.status) =
        some (mapStripeSubscriptionStatus .canceled) := by
  intro h
  have hactive : ((reconciled (sampleStripe .canceled .paid)).2.subscriptions.find? "sub").map
      (·.status) = some .active := by decide +kernel
  exact nomatch hactive.symm.trans (h _ (runs_reconciled _ (by decide +kernel)))

/-- A past due subscription with an open latest invoice is reconciled faithfully. -/
theorem reconcileSubscription_faithful_pastDue :
    ∃ row', (reconciled (sampleStripe .pastDue .open)).2.subscriptions.find? "sub" = some row' ∧
      Mirrors (sampleSnapshot .pastDue (.expanded (sampleStripeInvoice .open))) row' := by
  have hrun := runs_reconciled (sampleStripe .pastDue .open) (by decide +kernel)
  have hfaithful : FaithfulAt (sampleStripe .pastDue .open)
      (sampleSnapshot .pastDue (.expanded (sampleStripeInvoice .open))) "sub"
      (sampleBilling (sampleSubscription .pastDue) (sampleInvoice .subscription .pastDue)) := by
    rintro invoice target hobtained - -
    obtain rfl := Option.some.inj hobtained
    rfl
  have hfind : (sampleBilling (sampleSubscription .pastDue)
      (sampleInvoice .subscription .pastDue)).findSubscriptionByExternalId "sub_1" =
        some (sampleSubscription .pastDue) := rfl
  have hsnapshot : (sampleStripe .pastDue .open).retrieveSubscription "sub_1" =
      .ok (sampleSnapshot .pastDue (.expanded (sampleStripeInvoice .open))) := rfl
  have hiff := reconcileSubscription_faithful_iff hsnapshot rfl hfind hrun
  obtain ⟨row', hrow', hmirrors, -⟩ := hiff.mpr hfaithful
  exact ⟨row', hrow', hmirrors⟩

end HivePoint
