import HivePoint.Spec.BillingCalls
import HivePoint.Spec.Renewals

/-!
# The order of a subscription's periods

A payment event copies the period of the invoice it pays into the subscription, whatever
period the subscription is in by then. What keeps the period from turning back is the order of
the invoices: as long as none is paid that starts before one that is `PAID` already, the
subscription stays in the period of a latest paid invoice, and a redelivered event finds it there.

## Key results

- `pays_subscription`: what a payment event does to the subscription
- `PeriodStep.inPaidPeriod`: the subscription is in the period of a paid invoice
- `period_neverMovesBack`: runs of payment events and settlements, and redelivered events
- `not_period_neverMovesBack`: a redelivered checkout turns the period back
-/

namespace HivePoint

open Prog

variable {config : AppConfig} {id : Id} {w w' : World} {row : Subscription} {stripe : StripeApi}
  {c : BillingCall} {r : Except Err Unit} {E : Env → Prop}

/-! ### Errors that a handler swallows -/

/-- No run of the program ends in an error that a handler swallows. -/
def NeverNotFound {α : Type} (op : Op α) : Prop :=
  ∀ (E : Env → Prop) (w w' : World) (e : Err), Runs E op w (.error e) w' →
    isIgnoredNotFound e = false

section NeverNotFound

variable {α β : Type}

/-- A value does not fail. -/
private theorem neverNotFound_pure (a : α) : NeverNotFound (pure a : Op α) := by
  intro E w w' e h
  cases (runs_pure.mp h).1

/-- Two parts that do not fail with a code that is ignored. -/
private theorem neverNotFound_bind {op : Op α} {next : α → Op β} (hop : NeverNotFound op)
    (hnext : ∀ a, NeverNotFound (next a)) : NeverNotFound (op >>= next) := by
  intro E w w' e h
  rcases runs_bind.mp h with ⟨e', hrun, heq⟩ | ⟨a, w₁, -, hrun⟩
  · obtain rfl := Except.error.inj heq
    exact hop E w w' e hrun
  · exact hnext a E w₁ w' e hrun

/-- A read fails only if the database does. -/
private theorem neverNotFound_read (f : World → α) : NeverNotFound (read f) := by
  intro E w w' e h
  obtain ⟨env, -, heq⟩ := runs_stmt.mp h
  split at heq
  · obtain rfl := Except.error.inj (Prod.mk.inj heq).1
    rfl
  · cases (Prod.mk.inj heq).1

/-- A write is refused by the database, or for what it writes. -/
private theorem neverNotFound_mutate {f : Env → World → Except Err (α × World)}
    (hf : ∀ env w e, f env w = .error e → isIgnoredNotFound e = false) :
    NeverNotFound (mutate f) := by
  intro E w w' e h
  obtain ⟨env, -, heq⟩ := runs_stmt.mp h
  split at heq
  · obtain rfl := Except.error.inj (Prod.mk.inj heq).1
    rfl
  · split at heq
    · cases (Prod.mk.inj heq).1
    · rename_i e' he'
      obtain rfl := Except.error.inj (Prod.mk.inj heq).1
      exact hf env w e' he'

/-- Neither does an update of an invoice fail so. -/
private theorem neverNotFound_updateInvoice (id : Id) (data : Invoice → Invoice) :
    NeverNotFound (updateInvoice id data) := by
  refine neverNotFound_mutate fun env w e h => ?_
  rw [World.updateInvoice] at h
  split at h
  · obtain rfl := Except.error.inj h
    rfl
  · split at h
    · cases h
    · obtain rfl := Except.error.inj h
      rfl

/-- Nor an update of a subscription. -/
private theorem neverNotFound_updateSubscription (id : Id) (data : Subscription → Subscription) :
    NeverNotFound (updateSubscription id data) := by
  refine neverNotFound_mutate fun env w e h => ?_
  rw [World.updateSubscription] at h
  split at h
  · obtain rfl := Except.error.inj h
    rfl
  · split at h
    · cases h
    · obtain rfl := Except.error.inj h
      rfl

/-- A call that reads first ends in such an error only through what it has read. -/
private theorem notFound_of_read {f : World → α} {next : α → Op β} {e : Err}
    (h : Runs E (read f >>= next) w (.error e) w') (he : isIgnoredNotFound e = true) :
    Runs E (next (f w)) w (.error e) w' := by
  rcases runs_bind.mp h with ⟨e', hrun, heq⟩ | ⟨a, w₁, hread, hrun⟩
  · obtain rfl := Except.error.inj heq
    rw [neverNotFound_read f E w w' e hrun] at he
    cases he
  · obtain ⟨rfl, ha⟩ := runs_read hread
    exact ha a rfl ▸ hrun

end NeverNotFound

/-- A payment finds no invoice, or is not ended by a swallowed error. -/
private theorem markInvoicePaid_notFound {params : MarkInvoicePaidParams} {e : Err}
    (h : Runs E (markInvoicePaid params) w (.error e) w') (he : isIgnoredNotFound e = true) :
    w.findInvoiceWithSubscription params.invoiceId = none := by
  have hrun := notFound_of_read h he
  cases hfound : w.findInvoiceWithSubscription params.invoiceId with
  | none => rfl
  | some found =>
    rw [hfound] at hrun
    -- what follows the read fails with no code that is ignored
    have hnever : ∀ {op : Op Bool}, NeverNotFound op → Runs E op w (.error e) w' → False := by
      intro op hop hrun
      rw [hop E w w' e hrun] at he
      cases he
    dsimp only at hrun
    split at hrun
    · exact (hnever (neverNotFound_pure true) hrun).elim
    · refine (hnever (neverNotFound_bind (neverNotFound_updateInvoice _ _) fun _ => ?_) hrun).elim
      split
      · exact neverNotFound_pure false
      · exact neverNotFound_bind (neverNotFound_updateSubscription _ _)
          fun _ => neverNotFound_pure false

/-- The same of the link that a checkout records. -/
private theorem recordExternalCheckout_notFound {params : RecordExternalCheckoutParams} {e : Err}
    (h : Runs E (recordExternalCheckout params) w (.error e) w') (he : isIgnoredNotFound e = true) :
    w.findInvoiceWithSubscription params.invoiceId = none := by
  have hrun := notFound_of_read h he
  cases hfound : w.findInvoiceWithSubscription params.invoiceId with
  | none => rfl
  | some found =>
    rw [hfound] at hrun
    -- neither of the two writes fails with a code that is ignored
    have hnever : NeverNotFound (do
        updateInvoice found.1.id fun row =>
          { row with
            paymentProvider := params.paymentProvider
            externalCheckoutSessionId :=
              params.externalCheckoutSessionId.or found.1.externalCheckoutSessionId }
        if truthy params.externalSubscriptionId then
          updateSubscription found.2.id fun row =>
            { row with
              paymentProvider := params.paymentProvider
              externalSubscriptionId :=
                params.externalSubscriptionId.or found.2.externalSubscriptionId } : Op Unit) := by
      refine neverNotFound_bind (neverNotFound_updateInvoice _ _) fun _ => ?_
      split
      · exact neverNotFound_updateSubscription _ _
      · exact neverNotFound_pure ()
    rw [hnever E w w' e hrun] at he
    cases he

/-- Adding an invoice fails for its columns only. -/
private theorem neverNotFound_createInvoice (row : Env → Invoice) :
    NeverNotFound (mutate fun env w => (w.createInvoice (row env)).map (env.uuid, ·)) := by
  refine neverNotFound_mutate fun env w e h => ?_
  -- the database refuses what does not fit, or has a taken key
  cases hcreate : w.createInvoice (row env) with
  | ok w' =>
    rw [hcreate] at h
    cases h
  | error e' =>
    rw [hcreate] at h
    obtain rfl := Except.error.inj h
    rw [World.createInvoice] at hcreate
    split at hcreate
    · obtain rfl := Except.error.inj hcreate
      rfl
    · split at hcreate
      · cases hcreate
      · obtain rfl := Except.error.inj hcreate
        rfl

/-- Resolving an invoice that is known, or may be added, is not ended by a swallowed error. -/
private theorem resolveInvoiceForExternalSync_notFound {params : SyncInvoiceParams} {e : Err}
    (h : Runs E (resolveInvoiceForExternalSync params) w (.error e) w')
    (he : isIgnoredNotFound e = true) (target : Invoice) : ¬w.SyncsTo params target := by
  -- an invoice is created unless no subscription is found
  have hcreate : w.knownInvoice params = none →
      Runs E (createInvoiceForExternalSync params) w (.error e) w' → ¬w.SyncsTo params target := by
    intro hknown hrun hsyncs
    rcases hsyncs with hsome | ⟨-, subscription, env, hnamed, -⟩
    · cases hknown.symm.trans hsome
    rw [World.namedSubscription] at hnamed
    rw [createInvoiceForExternalSync] at hrun
    split at hnamed
    · rename_i htruthy
      rw [htruthy, Bool.not_true, if_neg Bool.false_ne_true] at hrun
      have hrun := notFound_of_read hrun he
      rw [hnamed] at hrun
      have hnever := neverNotFound_createInvoice _ E w w' e hrun
      rw [hnever] at he
      cases he
    · cases hnamed
  have hnever : ∀ id, ¬Runs E (pure id : Op Id) w (.error e) w' := fun id hrun =>
    (by cases (runs_pure.mp hrun).1)
  have hrun := notFound_of_read h he
  -- known by its external id, or named by the metadata, or neither
  cases hfound : w.findInvoiceByExternalId params.externalInvoiceId with
  | some invoice =>
    rw [hfound] at hrun
    exact (hnever _ hrun).elim
  | none =>
    rw [hfound] at hrun
    dsimp only at hrun
    split at hrun
    · rename_i hmetadata
      have hrun := notFound_of_read hrun he
      cases hnamed : params.metadataInvoiceId.bind w.invoices.find? with
      | none =>
        rw [hnamed] at hrun
        exact hcreate (by simp only [World.knownInvoice, hfound, hmetadata, hnamed, if_true,
          Option.filter_none]) hrun
      | some invoice =>
        rw [hnamed] at hrun
        dsimp only at hrun
        split at hrun
        · exact (hnever _ hrun).elim
        · rename_i haccepts
          exact hcreate (by simp only [World.knownInvoice, hfound, hmetadata, hnamed, if_true,
            Option.filter_some, haccepts, Bool.false_eq_true, if_false]) hrun
    · rename_i hmetadata
      exact hcreate (by simp only [World.knownInvoice, hfound, hmetadata, Bool.false_eq_true,
        if_false]) hrun

/-- The invoices that a synchronisation may be about differ in nothing that counts here. -/
theorem World.SyncsTo.same {params : SyncInvoiceParams} {a b : Invoice} (h : w.SyncsTo params a)
    (h' : w.SyncsTo params b) : a.subscriptionId = b.subscriptionId ∧ a.kind = b.kind ∧
      a.periodStart = b.periodStart ∧ a.periodEnd = b.periodEnd := by
  rcases h with h | ⟨hnone, subscription, env, hnamed, rfl⟩
  · rcases h' with h' | ⟨hnone, -⟩
    · obtain rfl := Option.some.inj (h.symm.trans h')
      exact ⟨rfl, rfl, rfl, rfl⟩
    · cases hnone.symm.trans h
  · rcases h' with h' | ⟨-, subscription', env', hnamed', rfl⟩
    · cases hnone.symm.trans h'
    · obtain rfl := Option.some.inj (hnamed.symm.trans hnamed')
      exact ⟨rfl, rfl, rfl, rfl⟩

/-- A paid report about an invoice that is known, or may be added, of a subscription that is
    there is not ended by a swallowed error. -/
private theorem syncInvoiceFromExternal_notFound {params : SyncInvoiceParams} {e : Err}
    (h : Runs E (syncInvoiceFromExternal config params) w (.error e) w')
    (he : isIgnoredNotFound e = true) (hstatus : params.status = .paid) {target : Invoice}
    (htarget : w.SyncsTo params target) :
    w.subscriptions.find? target.subscriptionId = none := by
  -- the invoice is not found, or it is found and its subscription is not
  rcases runs_bind.mp h with ⟨e', hresolve, heq⟩ | ⟨invoiceId, w₁, hresolve, hrun⟩
  · obtain rfl := Except.error.inj heq
    exact (resolveInvoiceForExternalSync_notFound hresolve he target htarget).elim
  obtain ⟨-, hsubs, hfound⟩ := (runs_resolveInvoiceForExternalSync hresolve).evolves
  obtain ⟨invoice, hinvoice, hsyncs, -⟩ := hfound invoiceId rfl
  have hrun := notFound_of_read hrun he
  rw [hinvoice] at hrun
  simp only [hstatus] at hrun
  rcases runs_bind.mp hrun with ⟨e', hpaid, heq⟩ | ⟨_, w₂, -, hret⟩
  -- of the two reads of the payment only that of the subscription can miss
  · obtain rfl := Except.error.inj heq
    have hnone := markInvoicePaid_notFound hpaid he
    cases hrow : w.subscriptions.find? target.subscriptionId with
    | none => rfl
    | some row =>
      rw [← hsubs, ← (hsyncs.same htarget).1] at hrow
      cases hnone.symm.trans (findInvoiceWithSubscription_eq_some.mpr ⟨hinvoice, hrow⟩)
  · cases (runs_pure.mp hret).1

/-! ### Payment events -/

/-- The event pays `target`. -/
def Pays (w : World) (stripe : StripeApi) : BillingCall → Invoice → Prop
  | .webhook (.checkoutSessionCompleted session), target =>
    (session.mode = .setup ∨ session.subscription = none) ∧
      ∃ invoiceId, session.metadataInvoiceId = some invoiceId ∧ invoiceId ≠ "" ∧
        w.invoices.find? invoiceId = some target
  | .webhook (.invoicePaid invoice), target =>
    w.SyncsTo (webhookParams stripe invoice .paid) target
  | _, _ => False

/-- A completed checkout or a paid invoice. -/
def IsPaymentEvent : BillingCall → Prop
  | .webhook (.checkoutSessionCompleted _) | .webhook (.invoicePaid _) => True
  | _ => False

/-- The local invoice that the event stands for once it has been paid: a checkout names it, and
    a paid invoice is stored in it. -/
def IsPaidBy : BillingCall → Invoice → Prop
  | .webhook (.checkoutSessionCompleted session), t => session.metadataInvoiceId = some t.id
  | .webhook (.invoicePaid invoice), t => t.externalInvoiceId = some invoice.id
  | _, _ => False

/-- The subscription is active in the period of the invoice. -/
structure ActiveIn (row : Subscription) (t : Invoice) : Prop where
  status : row.status = .active
  currentPeriodStart : row.currentPeriodStart = some t.periodStart
  currentPeriodEnd : row.currentPeriodEnd = some t.periodEnd

/-- The status and the period of a subscription. -/
structure SameStatusAndPeriod (row row' : Subscription) : Prop where
  status : row'.status = row.status
  currentPeriodStart : row'.currentPeriodStart = row.currentPeriodStart
  currentPeriodEnd : row'.currentPeriodEnd = row.currentPeriodEnd

/-- The event has paid an invoice of the subscription, which it has put into its period. -/
structure Activated (w w' : World) (stripe : StripeApi) (c : BillingCall) (id : Id)
    (row' : Subscription) (target t : Invoice) : Prop where
  pays : Pays w stripe c target
  renews : target.Renews id
  period : t.periodStart = target.periodStart ∧ t.periodEnd = target.periodEnd
  paid : t ∈ w'.paidPeriods id
  paidBy : IsPaidBy c t
  active : ActiveIn row' t

/-- A payment leaves the subscription alone, or writes the invoice and then the subscription. -/
private theorem markInvoicePaid_cases {params : MarkInvoicePaidParams} {r : Except Err Bool}
    (h : Runs E (markInvoicePaid params) w r w') {target : Invoice}
    (htarget : w.invoices.find? params.invoiceId = some target)
    (hguard : isPaidUnderOtherId target params.externalInvoiceId = false)
    (hrow : w.subscriptions.find? id = some row) :
    ∃ row', w'.subscriptions.find? id = some row' ∧
      (row' = row ∨ target.Renews id ∧ row' = activatedSubscription params target row row ∧
        w'.invoices.find? target.id = some (paidInvoice params target target)) ∧
      ((∃ ignored, r = .ok ignored) → target.Renews id →
        row' = activatedSubscription params target row row ∧
          w'.invoices.find? target.id = some (paidInvoice params target target)) := by
  have hid : target.id = params.invoiceId := Table.key_of_find? htarget
  have houtcome := runs_markInvoicePaid h
  -- a call that returns has written both rows
  cases r with
  | ok ignored =>
    obtain ⟨⟨subscription, _, rfl, hinvoice⟩, row', hrow', hcases⟩ :=
      houtcome.of_ok (fun hdata _ => by rw [hdata]; rfl) (fun hdata _ => by rw [hdata]; rfl)
        htarget hguard hrow
    rw [← hid] at hinvoice
    refine ⟨row', hrow', ?_, fun _ hrenews => ?_⟩
    · rcases hcases with ⟨-, heq⟩ | ⟨hrenews, _, rfl, heq⟩
      · exact .inl heq
      · exact .inr ⟨hrenews, heq, hinvoice⟩
    · rcases hcases with ⟨hnot, -⟩ | ⟨-, _, rfl, heq⟩
      · exact absurd hrenews hnot
      · exact ⟨heq, hinvoice⟩
  | error e =>
    have hnever : (∃ ignored, (.error e : Except Err Bool) = .ok ignored) → target.Renews id →
        row = activatedSubscription params target row row ∧
          w'.invoices.find? target.id = some (paidInvoice params target target) := by
      rintro ⟨ignored, heq⟩
      cases heq
    -- a call that fails has written the invoice, or nothing
    cases houtcome with
    | refused e => exact ⟨row, hrow, .inl rfl, hnever⟩
    | invoice invoice subscription data _ _ hfind _ hdata hinvoice hr =>
      refine ⟨row, ?_, .inl rfl, hnever⟩
      rw [updateInvoice_subscriptions hinvoice, hrow]

/-- What a payment of a known invoice does to its subscription. -/
private theorem activatedSubscription_activeIn (params : MarkInvoicePaidParams) (target : Invoice)
    (row : Subscription) :
    ActiveIn (activatedSubscription params target row row) (paidInvoice params target target) :=
  ⟨rfl, rfl, rfl⟩

/-- The paid invoice of a subscription is among its paid periods. -/
private theorem mem_paidPeriods {k : Id} {t : Invoice} (hfound : w.invoices.find? k = some t)
    (hpaid : t.status = .paid) (hrenews : t.Renews id) : t ∈ w.paidPeriods id :=
  List.mem_filter.mpr ⟨Table.mem_of_find? hfound, by
    simp [isPaidPeriod, hpaid, hrenews.1, hrenews.2]⟩

section Checkout

variable {session : CheckoutSession}

/-- A completed checkout leaves status and period of the subscription alone, or activates it; it
    does the latter if it returns and pays an invoice of it. -/
private theorem checkout_subscription (h : Runs E (handleCheckoutCompleted session) w r w')
    (hrow : w.subscriptions.find? id = some row) :
    ∃ row', w'.subscriptions.find? id = some row' ∧
      (SameStatusAndPeriod row row' ∨ ∃ target t,
        Activated w w' stripe (.webhook (.checkoutSessionCompleted session)) id row' target t) ∧
      (r = .ok () → ∀ target, Pays w stripe (.webhook (.checkoutSessionCompleted session)) target →
        target.Renews id → ∃ target t,
          Activated w w' stripe (.webhook (.checkoutSessionCompleted session)) id row'
            target t) := by
  have hsame : SameStatusAndPeriod row row := ⟨rfl, rfl, rfl⟩
  rw [handleCheckoutCompleted] at h
  split at h
  · rename_i hmetadata
    obtain ⟨rfl, rfl⟩ := runs_pure.mp h
    refine ⟨row, hrow, .inl hsame, ?_⟩
    rintro - target ⟨-, invoiceId, hnamed, -⟩
    cases hmetadata.symm.trans hnamed
  rename_i invoiceId hmetadata
  split at h
  · rename_i hempty
    obtain ⟨rfl, rfl⟩ := runs_pure.mp h
    refine ⟨row, hrow, .inl hsame, ?_⟩
    rintro - target ⟨-, invoiceId', hnamed, hne, -⟩
    obtain rfl := Option.some.inj (hmetadata.symm.trans hnamed)
    exact absurd hempty hne
  rename_i hne
  -- what the handler swallows it has swallowed because it found no invoice of the subscription
  have hswallowed : ∀ (u : World) (row₁ : Subscription), u.subscriptions.find? id = some row₁ →
      (∀ target, w.invoices.find? invoiceId = some target →
        ∃ t, u.invoices.find? invoiceId = some t ∧ t.subscriptionId = target.subscriptionId) →
      u.findInvoiceWithSubscription invoiceId = none →
      ∀ target, Pays w stripe (.webhook (.checkoutSessionCompleted session)) target →
        ¬target.Renews id := by
    rintro u row₁ hrow₁ hkept hnone target ⟨-, invoiceId', hnamed, -, hfound⟩ hrenews
    obtain rfl := Option.some.inj (hmetadata.symm.trans hnamed)
    obtain ⟨t, ht, hsub⟩ := hkept target hfound
    rw [← hrenews.2, ← hsub] at hrow₁
    cases hnone.symm.trans (findInvoiceWithSubscription_eq_some.mpr ⟨ht, hrow₁⟩)
  have hend : ∃ r₁, Runs E (do
      recordExternalCheckout
        { invoiceId
          paymentProvider := .stripe
          externalCheckoutSessionId := some session.id
          externalSubscriptionId := session.subscription }
      if session.mode = .setup || session.subscription.isNone then
        let _ ← markInvoicePaid
          { invoiceId, paymentProvider := .stripe, externalCheckoutSessionId := some session.id })
        w r₁ w' ∧ (r = .ok () → ∀ e, r₁ = .error e → isIgnoredNotFound e = true) := by
    rcases runs_tryCatch.mp h with ⟨_, hop, rfl⟩ | ⟨e, w₁, hop, hcatch⟩
    · exact ⟨_, hop, fun _ e he => by cases he⟩
    · split at hcatch
      · rename_i hignored
        obtain ⟨rfl, rfl⟩ := runs_pure.mp hcatch
        refine ⟨_, hop, fun _ e' he' => ?_⟩
        obtain rfl := Except.error.inj he'
        exact hignored
      · obtain ⟨rfl, rfl⟩ := runs_throw.mp hcatch
        exact ⟨_, hop, fun hr => by cases hr⟩
  obtain ⟨r₁, hrun, hr₁⟩ := hend
  rcases runs_bind.mp hrun with ⟨e, hrecord, rfl⟩ | ⟨_, w₁, hrecord, h₁⟩
  · -- only the link to Stripe has changed
    obtain ⟨row', hrow', hlinked⟩ := (recordExternalCheckout_evolves hrecord).2.1 id row hrow
    refine ⟨row', hrow', .inl ?_, fun hr target hpays hrenews => ?_⟩
    · rcases hlinked with rfl | ⟨_, _, rfl⟩ <;> exact ⟨rfl, rfl, rfl⟩
    · exact absurd hrenews (hswallowed w row hrow (fun target ht => ⟨target, ht, rfl⟩)
        (recordExternalCheckout_notFound hrecord (hr₁ hr e rfl)) target hpays)
  obtain ⟨hinvoices, hsubs, hrecorded⟩ := recordExternalCheckout_evolves hrecord
  obtain ⟨target, htarget⟩ := hrecorded rfl
  obtain ⟨t, ht, hlinkedInvoice⟩ := hinvoices _ _ htarget
  have hlinkedInvoice : RelinkedInvoice target t :=
    hlinkedInvoice.elim (fun h => h ▸ .refl _) fun h => h
  obtain ⟨row₁, hrow₁, hlinked⟩ := hsubs id row hrow
  have hsame₁ : SameStatusAndPeriod row row₁ := by
    rcases hlinked with rfl | ⟨_, _, rfl⟩ <;> exact ⟨rfl, rfl, rfl⟩
  split at h₁
  · rename_i hmode
    simp only [Bool.or_eq_true, decide_eq_true_eq, Option.isNone_iff_eq_none] at hmode
    have hpaid : ∃ r₂, Runs E (markInvoicePaid
          { invoiceId, paymentProvider := .stripe, externalCheckoutSessionId := some session.id })
          w₁ r₂ w' ∧ (r = .ok () → ∀ e, r₂ = .error e → isIgnoredNotFound e = true) := by
      rcases runs_bind.mp h₁ with ⟨e, hpaid, rfl⟩ | ⟨ignored, w₂, hpaid, hret⟩
      · exact ⟨_, hpaid, fun hr e' he' => hr₁ hr e' (by rw [Except.error.inj he'])⟩
      · obtain ⟨rfl, rfl⟩ := runs_pure.mp hret
        exact ⟨_, hpaid, fun _ e' he' => by cases he'⟩
    obtain ⟨r₂, hpaid, hr₂⟩ := hpaid
    obtain ⟨row', hrow', hcases, hok⟩ := markInvoicePaid_cases hpaid ht
      (by simp [isPaidUnderOtherId, truthy]) hrow₁
    have hactivated : t.Renews id → row' = activatedSubscription
          { invoiceId, paymentProvider := .stripe, externalCheckoutSessionId := some session.id }
          t row₁ row₁ →
        w'.invoices.find? t.id = some (paidInvoice
          { invoiceId, paymentProvider := .stripe, externalCheckoutSessionId := some session.id }
          t t) →
        ∃ target t, Activated w w' stripe (.webhook (.checkoutSessionCompleted session)) id row'
          target t := by
      rintro hrenews rfl hfound
      have htid : t.id = invoiceId := Table.key_of_find? ht
      have hpaidBy : session.metadataInvoiceId = some t.id :=
        hmetadata.trans (congrArg some htid.symm)
      have hmember := mem_paidPeriods hfound rfl hrenews
      have hactive := activatedSubscription_activeIn
          { invoiceId, paymentProvider := .stripe, externalCheckoutSessionId := some session.id }
          t row₁
      obtain ⟨_, _, rfl⟩ := hlinkedInvoice
      exact ⟨target, paidInvoice _ _ _, ⟨hmode, invoiceId, hmetadata, hne, htarget⟩, hrenews,
        ⟨rfl, rfl⟩, hmember, hpaidBy, hactive⟩
    refine ⟨row', hrow', ?_, fun hr target' hpays hrenews => ?_⟩
    · rcases hcases with rfl | ⟨hrenews, heq, hfound⟩
      · exact .inl hsame₁
      · exact .inr (hactivated hrenews heq hfound)
    · have hkept : ∀ target', w.invoices.find? invoiceId = some target' →
          ∃ t, w₁.invoices.find? invoiceId = some t ∧
            t.subscriptionId = target'.subscriptionId := by
        intro target' htarget'
        obtain rfl := Option.some.inj (htarget.symm.trans htarget')
        obtain ⟨_, _, rfl⟩ := hlinkedInvoice
        exact ⟨_, ht, rfl⟩
      have hreturned : ∃ ignored, r₂ = .ok ignored := by
        cases r₂ with
        | ok ignored => exact ⟨ignored, rfl⟩
        | error e =>
          exact absurd hrenews (hswallowed w₁ row₁ hrow₁ hkept
            (markInvoicePaid_notFound hpaid (hr₂ hr e rfl)) target' hpays)
      have htRenews : t.Renews id := by
        obtain ⟨-, invoiceId', hnamed, -, hfound⟩ := hpays
        obtain rfl := Option.some.inj (hmetadata.symm.trans hnamed)
        obtain rfl := Option.some.inj (htarget.symm.trans hfound)
        obtain ⟨_, _, rfl⟩ := hlinkedInvoice
        exact hrenews
      exact hactivated htRenews (hok hreturned htRenews).1 (hok hreturned htRenews).2
  · rename_i hmode
    obtain ⟨-, rfl⟩ := runs_pure.mp h₁
    refine ⟨row₁, hrow₁, .inl hsame₁, fun _ target' hpays _ => absurd hpays.1 ?_⟩
    simpa using hmode

end Checkout

section InvoicePaid

variable {invoice : StripeInvoice}

/-- An `invoice.paid` event is a synchronisation, and returns only if that does or is ended by an
    error that the handler swallows. -/
private theorem runs_handleInvoicePaid
    (h : Runs (fun env => env.stripe = stripe) (syncInvoice config invoice .paid) w r w') :
    ∃ log, (w' = { w with stripeLog := log } ∧ r ≠ .ok ()) ∨
      ∃ r₁, Runs (fun env => env.stripe = stripe)
          (syncInvoiceFromExternal config (webhookParams stripe invoice .paid))
          { w with stripeLog := log } r₁ w' ∧
        (r = .ok () → ∀ e, r₁ = .error e → isIgnoredNotFound e = true) := by
  rcases runs_bind.mp h with ⟨e, hmetadata, rfl⟩ | ⟨metadataInvoiceId, w₁, hmetadata, h₁⟩
  · obtain ⟨⟨log, rfl⟩, -⟩ := runs_resolveMetadataInvoiceId hmetadata
    exact ⟨log, .inl ⟨rfl, fun h => by cases h⟩⟩
  obtain ⟨⟨log, rfl⟩, hresolved⟩ := runs_resolveMetadataInvoiceId hmetadata
  have hsync : ∃ r₁, Runs (fun env => env.stripe = stripe)
      (syncInvoiceFromExternal config (webhookSyncParams invoice metadataInvoiceId .paid))
        { w with stripeLog := log } r₁ w' ∧
      (r = .ok () → ∀ e, r₁ = .error e → isIgnoredNotFound e = true) := by
    -- the handler drops the id that a synchronisation returns
    have hdrop : ∀ {r₂ : Except Err Unit} {w₂ : World}, Runs (fun env => env.stripe = stripe) (do
          let _ ← syncInvoiceFromExternal config
            (webhookSyncParams invoice metadataInvoiceId .paid))
          { w with stripeLog := log } r₂ w₂ →
        ∃ r₁, Runs (fun env => env.stripe = stripe)
          (syncInvoiceFromExternal config (webhookSyncParams invoice metadataInvoiceId .paid))
            { w with stripeLog := log } r₁ w₂ ∧ ∀ e, r₁ = .error e → r₂ = .error e := by
      intro r₂ w₂ hrun
      rcases runs_bind.mp hrun with ⟨e, hsync, rfl⟩ | ⟨id, w₃, hsync, hret⟩
      · exact ⟨_, hsync, fun _ he => by rw [Except.error.inj he]⟩
      · obtain ⟨rfl, rfl⟩ := runs_pure.mp hret
        exact ⟨_, hsync, fun _ he => by cases he⟩
    rcases runs_tryCatch.mp h₁ with ⟨_, hop, rfl⟩ | ⟨e, w₂, hop, hcatch⟩
    · obtain ⟨r₁, hsync, herror⟩ := hdrop hop
      exact ⟨r₁, hsync, fun _ e he => by cases herror e he⟩
    · obtain ⟨r₁, hsync, herror⟩ := hdrop hop
      split at hcatch
      · rename_i hignored
        obtain ⟨rfl, rfl⟩ := runs_pure.mp hcatch
        exact ⟨r₁, hsync, fun _ e' he' => Except.error.inj (herror e' he') ▸ hignored⟩
      · obtain ⟨rfl, rfl⟩ := runs_throw.mp hcatch
        exact ⟨r₁, hsync, fun hr => by cases hr⟩
  obtain ⟨r₁, hsync, hr₁⟩ := hsync
  have hE : ∃ env : Env, env.stripe = stripe := by
    cases hsync with
    | step env henv _ => exact ⟨env, henv⟩
  obtain ⟨env, rfl, rfl⟩ := hresolved _ rfl hE
  exact ⟨log, .inr ⟨r₁, hsync, hr₁⟩⟩

/-- A paid invoice leaves status and period of the subscription alone, or activates it; it does
    the latter if the handler returns and pays an invoice of it. -/
private theorem invoicePaid_subscription
    (h : Runs (fun env => env.stripe = stripe) (syncInvoice config invoice .paid) w r w')
    (hrow : w.subscriptions.find? id = some row) :
    ∃ row', w'.subscriptions.find? id = some row' ∧
      (SameStatusAndPeriod row row' ∨ ∃ target t,
        Activated w w' stripe (.webhook (.invoicePaid invoice)) id row' target t) ∧
      (r = .ok () → ∀ target, Pays w stripe (.webhook (.invoicePaid invoice)) target →
        target.Renews id → ∃ target t,
          Activated w w' stripe (.webhook (.invoicePaid invoice)) id row' target t) := by
  have hsame : SameStatusAndPeriod row row := ⟨rfl, rfl, rfl⟩
  obtain ⟨log, ⟨rfl, hr⟩ | ⟨r₁, hsync, hr₁⟩⟩ := runs_handleInvoicePaid h
  · exact ⟨row, hrow, .inl hsame, fun hok => absurd hok hr⟩
  -- a synchronisation that finds its invoice and its subscription is not swallowed
  have hreturned : r = .ok () → ∀ target, Pays w stripe (.webhook (.invoicePaid invoice)) target →
      target.Renews id → ∃ invoiceId, r₁ = .ok invoiceId := by
    intro hr target hpays hrenews
    cases r₁ with
    | ok invoiceId => exact ⟨invoiceId, rfl⟩
    | error e =>
      have hnone : w.subscriptions.find? target.subscriptionId = none :=
        syncInvoiceFromExternal_notFound hsync (hr₁ hr e rfl) rfl hpays
      rw [hrenews.2] at hnone
      cases hnone.symm.trans hrow
  rcases runs_syncInvoiceFromExternal hsync with ⟨e, rfl, hresolve⟩ | ⟨invoiceId, w₁,
    hresolve, happly⟩
  · obtain ⟨-, hsubs, -⟩ := hresolve.evolves
    refine ⟨row, by rw [hsubs]; exact hrow, .inl hsame, fun hr target hpays hrenews => ?_⟩
    obtain ⟨_, heq⟩ := hreturned hr target hpays hrenews
    cases heq
  obtain ⟨-, hsubs, hfound⟩ := hresolve.evolves
  obtain ⟨target, htarget, hsyncs, -⟩ := hfound invoiceId rfl
  have hrow₁ : w₁.subscriptions.find? id = some row := by
    rw [hsubs]
    exact hrow
  cases happly with
  | refused e =>
    refine ⟨row, hrow₁, .inl hsame, fun hr target hpays hrenews => ?_⟩
    obtain ⟨_, heq⟩ := hreturned hr target hpays hrenews
    cases heq
  | draft _ _ hstatus => cases hstatus
  | failed _ _ _ hstatus => rcases hstatus with hstatus | hstatus <;> cases hstatus
  | paid _ r₂ _ hstatus hrun hr₂ =>
    -- what it pays was found under the external id, or carries none yet
    have hguard : isPaidUnderOtherId target (some invoice.id) = false := by
      rcases hsyncs with hknown | ⟨-, subscription, env, -, rfl⟩
      · exact knownInvoice_accepts hknown
      · rfl
    obtain ⟨row', hrow', hcases, hok⟩ := markInvoicePaid_cases hrun htarget hguard hrow₁
    have hactivated : target.Renews id →
        row' = activatedSubscription ((webhookParams stripe invoice .paid).paidParams invoiceId)
          target row row →
        w'.invoices.find? target.id = some (paidInvoice
          ((webhookParams stripe invoice .paid).paidParams invoiceId) target target) →
        ∃ target t, Activated w w' stripe (.webhook (.invoicePaid invoice)) id row' target t := by
      rintro hrenews rfl hpaid
      exact ⟨target, paidInvoice _ target target, hsyncs, hrenews, ⟨rfl, rfl⟩,
        mem_paidPeriods hpaid rfl hrenews, rfl, activatedSubscription_activeIn _ _ _⟩
    refine ⟨row', hrow', ?_, fun hr target' hpays hrenews => ?_⟩
    · rcases hcases with rfl | ⟨hrenews, heq, hpaid⟩
      · exact .inl hsame
      · exact .inr (hactivated hrenews heq hpaid)
    · obtain ⟨invoiceId', heq⟩ := hreturned hr target' hpays hrenews
      have hsame := hsyncs.same (b := target') hpays
      have hrenews : target.Renews id := ⟨hsame.2.1.trans hrenews.1, hsame.1.trans hrenews.2⟩
      exact hactivated hrenews (hok (hr₂ invoiceId' heq) hrenews).1
        (hok (hr₂ invoiceId' heq) hrenews).2

end InvoicePaid

/-- A payment event leaves status and period of the subscription alone, or puts it into the
    period of an invoice that it has paid. -/
theorem pays_subscription (hevent : IsPaymentEvent c)
    (h : Runs (fun env => env.stripe = stripe) (c.op config) w r w')
    (hrow : w.subscriptions.find? id = some row) :
    ∃ row', w'.subscriptions.find? id = some row' ∧
      (SameStatusAndPeriod row row' ∨ ∃ target t, Activated w w' stripe c id row' target t) ∧
      (r = .ok () → ∀ target, Pays w stripe c target → target.Renews id →
        ∃ target t, Activated w w' stripe c id row' target t) := by
  cases c with
  | webhook event =>
    cases event with
    | checkoutSessionCompleted session => exact checkout_subscription h hrow
    | invoicePaid invoice => exact invoicePaid_subscription h hrow
    | _ => exact hevent.elim
  | _ => exact hevent.elim

/-! ### Invoices through payments and settlements -/

/-- An invoice keeps what it is for and its period, and stays paid under its external id. -/
structure KeepsPayment (row row' : Invoice) : Prop where
  subscriptionId : row'.subscriptionId = row.subscriptionId
  kind : row'.kind = row.kind
  periodStart : row'.periodStart = row.periodStart
  periodEnd : row'.periodEnd = row.periodEnd
  paid : row.status = .paid → row'.status = .paid
  link : row.status = .paid → truthy row.externalInvoiceId = true →
    row'.externalInvoiceId = row.externalInvoiceId

/-- A row keeps its own payment. -/
theorem KeepsPayment.refl (row : Invoice) : KeepsPayment row row :=
  ⟨rfl, rfl, rfl, rfl, fun h => h, fun _ _ => rfl⟩

/-- Two rewrites in a row keep the payment if each does. -/
theorem KeepsPayment.trans {row₁ row₂ row₃ : Invoice} (h : KeepsPayment row₁ row₂)
    (h' : KeepsPayment row₂ row₃) : KeepsPayment row₁ row₃ where
  subscriptionId := h'.subscriptionId.trans h.subscriptionId
  kind := h'.kind.trans h.kind
  periodStart := h'.periodStart.trans h.periodStart
  periodEnd := h'.periodEnd.trans h.periodEnd
  paid hpaid := h'.paid (h.paid hpaid)
  link hpaid hlink := by
    have hsame := h.link hpaid hlink
    rw [h'.link (h.paid hpaid) (hsame ▸ hlink), hsame]

/-- A payment event or a settlement. -/
def IsPeriodCall : BillingCall → Prop
  | .materialize _ _ => True
  | c => IsPaymentEvent c

/-- No call of a run takes a payment back. -/
private theorem keepsPayment_call (hcall : IsPeriodCall c)
    (h : Runs (fun env => env.stripe = stripe) (c.op config) w r w') :
    w.invoices.Evolves w'.invoices fun _ => KeepsPayment := by
  cases c with
  | materialize sourceInvoiceId processedAt =>
    rcases runs_materialize h with rfl | ⟨env, _, -, hmaterialize⟩
    · exact .refl _
    · refine (evolves_materialize hmaterialize).mono ?_
      rintro _ row _ - rfl
      exact ⟨rfl, rfl, rfl, rfl, fun hpaid => hpaid, fun _ _ => rfl⟩
  | webhook event =>
    cases event with
    | checkoutSessionCompleted session =>
      refine (handleCheckoutCompleted_invoices h).mono ?_
      rintro _ row _ - ⟨_, ⟨_, _, rfl⟩, rfl | ⟨params, hparams, rfl⟩⟩
      · exact ⟨rfl, rfl, rfl, rfl, fun hpaid => hpaid, fun _ _ => rfl⟩
      · -- a checkout reports no external id
        refine ⟨rfl, rfl, rfl, rfl, fun _ => rfl, fun _ _ => ?_⟩
        simp [paidInvoice, hparams]
    | invoicePaid invoice =>
      refine (syncInvoice_invoices h).mono ?_
      rintro _ row row' - ⟨env, -, hknown, hsynced⟩
      cases hsynced with
      | draft hstatus => cases hstatus
      | failed _ _ hstatus => rcases hstatus with hstatus | hstatus <;> cases hstatus
      | paid hstatus =>
        refine ⟨rfl, rfl, rfl, rfl, fun _ => rfl, fun hpaid hlink => ?_⟩
        -- the report was let through to an invoice that has an external id: its own
        have haccepts := knownInvoice_acceptsExternalId hknown
        simp only [acceptsExternalId, hlink, Bool.not_true, Bool.false_or, decide_eq_true_eq]
          at haccepts
        exact haccepts.symm
    | _ => exact hcall.elim
  | _ => exact hcall.elim

/-- A paid period of the subscription after payments and settlements. -/
private theorem paidPeriod_of_keepsPayment {h : w.invoices.Evolves w'.invoices fun _ =>
    KeepsPayment}
    {p : Invoice} (hp : p ∈ w.paidPeriods id) :
    ∃ p' ∈ w'.paidPeriods id, p'.id = p.id ∧ KeepsPayment p p' := by
  obtain ⟨hmem, hpaid⟩ := List.mem_filter.mp hp
  simp only [isPaidPeriod, Bool.and_eq_true, decide_eq_true_eq] at hpaid
  obtain ⟨p', hp', hkept⟩ := h p.id p (Table.find?_key hmem)
  have hkept : KeepsPayment p p' := hkept.elim (fun heq => heq ▸ .refl p) fun h => h
  exact ⟨p', mem_paidPeriods hp' (hkept.paid hpaid.2) ⟨hkept.kind.trans hpaid.1.2,
    hkept.subscriptionId.trans hpaid.1.1⟩, Table.key_of_find? hp', hkept⟩

/-! ### Steps of a run -/

/-- No paid invoice of the subscription starts later. -/
def NoneLater (id : Id) (w : World) (start : Int) : Prop :=
  ∀ p ∈ w.paidPeriods id, p.periodStart ≤ start

/-- The worker renews the subscription when it settles a period. -/
def World.RenewsLocally (w : World) (row : Subscription) : Prop :=
  ∃ plan, w.plans.find? row.planId = some plan ∧ isLocalManagedStripeSubscription row plan = true

/-- No paid invoice of the subscription starts after an invoice of it that the event pays, or
    after the end of a period of it that the worker settles and renews. -/
def PaysInOrder (id : Id) (w : World) (stripe : StripeApi) : BillingCall → Prop
  | .materialize sourceInvoiceId _ =>
    ∀ source row, w.invoices.find? sourceInvoiceId = some source → isPaidPeriod id source = true →
      source.overageProcessedAt = none → w.subscriptions.find? id = some row →
        w.RenewsLocally row → NoneLater id w source.periodEnd
  | c => IsPaymentEvent c ∧ ∀ target, Pays w stripe c target → target.Renews id →
      NoneLater id w target.periodStart

/-- Such a call is one of the calls that write periods. -/
private theorem PaysInOrder.isPeriodCall (h : PaysInOrder id w stripe c) : IsPeriodCall c := by
  cases c with
  | materialize _ _ => trivial
  | webhook event => exact h.1
  | _ => exact h.1.elim

/-- What one step of a run does to the subscription: it keeps the period, or enters that of a
    paid invoice that none was later than. -/
inductive PeriodStep (id : Id) (w w' : World) (row row' : Subscription) : Prop where
  | kept (hstart : row'.currentPeriodStart = row.currentPeriodStart)
      (hend : row'.currentPeriodEnd = row.currentPeriodEnd)
      (hstatus : row'.status = row.status ∨ row'.status = .canceled)
  | entered (t : Invoice) (hpaid : t ∈ w'.paidPeriods id) (hlatest : NoneLater id w t.periodStart)
      (hactive : ActiveIn row' t)

/-- A settlement leaves the period of a subscription alone, or renews it. -/
private theorem materialize_period {env : Env} {sourceInvoiceId : Id} {processedAt : Int}
    {processed : Bool}
    (h : w.materializeSourceInvoice env w sourceInvoiceId processedAt = .ok (processed, w'))
    (hrow : w.subscriptions.find? id = some row)
    (hok : PaysInOrder id w stripe (.materialize sourceInvoiceId processedAt)) :
    ∃ row', w'.subscriptions.find? id = some row' ∧ PeriodStep id w w' row row' := by
  have hkept : PeriodStep id w w' row row := .kept rfl rfl (.inl rfl)
  rcases materialize_cases h with
    ⟨-, rfl⟩ | ⟨-, source, subscription, plan, usedRequests, w₁, w₂, hdone⟩
  · exact ⟨row, hrow, hkept⟩
  have hrow₁ : w₁.subscriptions.find? id = some row := by rw [hdone.settled_subscriptions, hrow]
  have hmarked : w'.subscriptions = w₂.subscriptions := updateInvoice_subscriptions hdone.marked
  have hsub := hdone.subscription_id
  -- the row that a renewal or a cancellation writes
  have hwritten : ∀ {v : World} {data : Subscription → Subscription},
      v.subscriptions.find? id = some row → v.updateSubscription subscription.id data = .ok w₂ →
      (∀ row, (data row).id = row.id) →
      w'.subscriptions.find? id = some (if id = subscription.id then data row else row) := by
    intro v data hfound hupdate hdata
    rw [hmarked, find?_updateSubscription hupdate hdata]
    split
    · rename_i hid
      rw [← hid, hfound]
      rfl
    · exact hfound
  cases rollForward_cases hdone.rolled with
  | nothing heq => exact ⟨row, by rw [hmarked, heq, hrow₁], hkept⟩
  | canceled _ _ _ hupdate =>
    refine ⟨_, hwritten hrow₁ hupdate fun _ => rfl, ?_⟩
    split
    · exact .kept rfl rfl (.inr rfl)
    · exact hkept
  | renewed hlocal _ _ _ v hcreate hupdate =>
    rw [← createInvoice_subscriptions hcreate] at hrow₁
    refine ⟨_, hwritten hrow₁ hupdate fun _ => rfl, ?_⟩
    split
    · rename_i hid
      have hsource : source.subscriptionId = id := hsub.symm.trans hid.symm
      have hread := hdone.subscription_seen
      rw [hsource, hrow] at hread
      obtain rfl := Option.some.inj hread
      have hlatest := hok source row hdone.source_found
        (by simp [isPaidPeriod, hsource, hdone.kind, hdone.status]) hdone.unprocessed hrow
        ⟨plan, hdone.plan_seen, hlocal⟩
      -- the paid invoice of the next period, which the mark leaves as it is
      have hfound : w₂.invoices.find? env.nextUuid =
          some (renewalInvoice source plan env.nextUuid env.now) := by
        rw [updateSubscription_invoices hupdate, find?_createInvoice hcreate]
        exact if_pos rfl
      have hrenewal : ∃ t, w'.invoices.find? env.nextUuid = some t ∧ t.status = .paid ∧
          t.Renews id ∧ t.periodStart = source.periodEnd ∧
          t.periodEnd = addPlanPeriod source.periodEnd plan.period := by
        have hmark := find?_updateInvoice hdone.marked (fun _ => rfl) env.nextUuid
        split at hmark
        · rename_i heq
          rw [← heq, hfound] at hmark
          exact ⟨_, hmark, rfl, ⟨rfl, hsource⟩, rfl, rfl⟩
        · rw [hfound] at hmark
          exact ⟨_, hmark, rfl, ⟨rfl, hsource⟩, rfl, rfl⟩
      obtain ⟨t, ht, hpaid, hrenews, hstart, hend⟩ := hrenewal
      refine .entered t (mem_paidPeriods ht hpaid hrenews) (by rwa [hstart]) ⟨rfl, ?_, ?_⟩
      · rw [hstart]
      · rw [hend]
    · exact hkept

/-- One call of a run. -/
private theorem period_step (hok : PaysInOrder id w stripe c)
    (h : Runs (fun env => env.stripe = stripe) (c.op config) w r w')
    (hrow : w.subscriptions.find? id = some row) :
    ∃ row', w'.subscriptions.find? id = some row' ∧ PeriodStep id w w' row row' := by
  -- a payment event enters the period of the invoice that it pays, or writes nothing
  have hevent : IsPaymentEvent c → (∀ target, Pays w stripe c target → target.Renews id →
      NoneLater id w target.periodStart) →
      ∃ row', w'.subscriptions.find? id = some row' ∧ PeriodStep id w w' row row' := by
    intro hevent hlatest
    obtain ⟨row', hrow', hcases, -⟩ := pays_subscription hevent h hrow
    refine ⟨row', hrow', ?_⟩
    rcases hcases with hsame | ⟨target, t, hactivated⟩
    · exact .kept hsame.currentPeriodStart hsame.currentPeriodEnd (.inl hsame.status)
    · refine .entered t hactivated.paid ?_ hactivated.active
      rw [hactivated.period.1]
      exact hlatest target hactivated.pays hactivated.renews
  -- the worker renews; the other calls are payment events or are excluded
  cases c with
  | materialize sourceInvoiceId processedAt =>
    rcases runs_materialize h with rfl | ⟨env, _, -, hmaterialize⟩
    · exact ⟨row, hrow, .kept rfl rfl (.inl rfl)⟩
    · exact materialize_period hmaterialize hrow hok
  | webhook event => exact hevent hok.1 hok.2
  | _ => exact hok.1.elim

/-! ### Runs -/

/-- The subscription is in no period, or in that of a paid invoice of it. -/
def InPaidPeriod (id : Id) (w : World) : Prop :=
  ∀ row start, w.subscriptions.find? id = some row → row.currentPeriodStart = some start →
    ∃ p ∈ w.paidPeriods id, p.periodStart = start ∧ row.currentPeriodEnd = some p.periodEnd

section Steps

variable {row' : Subscription}

/-- After a step the subscription is still in a paid period. -/
theorem PeriodStep.inPaidPeriod (h : PeriodStep id w w' row row') (hw : InPaidPeriod id w)
    (hinvoices : w.invoices.Evolves w'.invoices fun _ => KeepsPayment)
    (hrow : w.subscriptions.find? id = some row) (hrow' : w'.subscriptions.find? id = some row') :
    InPaidPeriod id w' := by
  intro row₁ start hrow₁ hstart
  obtain rfl := Option.some.inj (hrow'.symm.trans hrow₁)
  cases h with
  | kept hsame hend hstatus =>
    obtain ⟨p, hp, hpstart, hpend⟩ := hw row start hrow (hsame.symm.trans hstart)
    obtain ⟨p', hp', -, hkept⟩ := paidPeriod_of_keepsPayment (h := hinvoices) hp
    refine ⟨p', hp', hkept.periodStart.trans hpstart, ?_⟩
    rw [hend, hpend, hkept.periodEnd]
  | entered t hpaid hlatest hactive =>
    refine ⟨t, hpaid, ?_, hactive.currentPeriodEnd⟩
    exact Option.some.inj (hactive.currentPeriodStart.symm.trans hstart)

/-- The period does not turn back: it is that of a paid invoice. -/
private theorem PeriodStep.start_le (h : PeriodStep id w w' row row') (hw : InPaidPeriod id w)
    (hrow : w.subscriptions.find? id = some row) {start : Int}
    (hstart : row.currentPeriodStart = some start) :
    ∃ start', row'.currentPeriodStart = some start' ∧ start ≤ start' := by
  cases h with
  | kept hsame hend hstatus => exact ⟨start, hsame.trans hstart, le_rfl⟩
  | entered t hpaid hlatest hactive =>
    obtain ⟨p, hp, rfl, -⟩ := hw row start hrow hstart
    exact ⟨t.periodStart, hactive.currentPeriodStart, hlatest p hp⟩

/-- A subscription that is active, or was, stays so. -/
theorem PeriodStep.status (h : PeriodStep id w w' row row')
    (hrow : row.status = .active ∨ row.status = .canceled) :
    row'.status = .active ∨ row'.status = .canceled := by
  cases h with
  | kept _ _ hstatus =>
    rcases hstatus with hstatus | hstatus
    · exact hstatus ▸ hrow
    · exact .inr hstatus
  | entered t hpaid hlatest hactive => exact .inl hactive.status

end Steps

/-- What a run keeps from the state `w` on. -/
structure RunKept (id : Id) (w w' : World) (row row' : Subscription) : Prop where
  inPaidPeriod : InPaidPeriod id w'
  invoices : w.invoices.Evolves w'.invoices fun _ => KeepsPayment
  start_le : ∀ start, row.currentPeriodStart = some start →
    ∃ start', row'.currentPeriodStart = some start' ∧ start ≤ start'
  status : row.status = .active ∨ row.status = .canceled →
    row'.status = .active ∨ row'.status = .canceled

/-- A run of calls in order keeps the row. -/
private theorem runKept (hw : InPaidPeriod id w) (hrow : w.subscriptions.find? id = some row)
    (hrun : CallRun config (PaysInOrder id) w w') :
    ∃ row', w'.subscriptions.find? id = some row' ∧ RunKept id w w' row row' := by
  -- induction on the calls of the run
  induction hrun with
  | start =>
    exact ⟨row, hrow, hw, .refl _, fun start hstart => ⟨start, hstart, le_rfl⟩, fun h => h⟩
  | call stripe c _ hok hcall ih =>
    obtain ⟨row₁, hrow₁, hkept⟩ := ih
    obtain ⟨row₂, hrow₂, hstep⟩ := period_step hok hcall hrow₁
    have hinvoices := keepsPayment_call hok.isPeriodCall hcall
    refine ⟨row₂, hrow₂, hstep.inPaidPeriod hkept.inPaidPeriod hinvoices hrow₁ hrow₂,
      hkept.invoices.trans hinvoices fun _ _ _ _ => KeepsPayment.trans, fun start hstart => ?_,
      fun hstatus => hstep.status (hkept.status hstatus)⟩
    -- the start moves forward in the earlier calls, and in the last one
    obtain ⟨start₁, hstart₁, hle₁⟩ := hkept.start_le start hstart
    obtain ⟨start₂, hstart₂, hle₂⟩ := hstep.start_le hkept.inPaidPeriod hrow₁ hstart₁
    exact ⟨start₂, hstart₂, hle₁.trans hle₂⟩

/-- The event has been handled in a run from `w₀` to `w`: it has found an invoice of the
    subscription to pay, and has returned. -/
structure Handled (config : AppConfig) (id : Id) (w₀ w : World) (c : BillingCall) : Prop where
  run : ∃ stripe w₁ w₂ target, CallRun config (PaysInOrder id) w₀ w₁ ∧ PaysInOrder id w₁ stripe c ∧
    Pays w₁ stripe c target ∧ target.Renews id ∧
    Runs (fun env => env.stripe = stripe) (c.op config) w₁ (.ok ()) w₂ ∧
    CallRun config (PaysInOrder id) w₂ w

/-- The state in which an event is delivered again: the subscription has not been canceled, and
    no other paid invoice of it starts as late as the one that the event pays, unless both have
    one period. -/
structure StillLatest (id : Id) (w : World) (stripe : StripeApi) (c : BillingCall) : Prop where
  isPayment : IsPaymentEvent c
  named : ∀ invoice, c = .webhook (.invoicePaid invoice) → invoice.id ≠ ""
  alive : ∀ row, w.subscriptions.find? id = some row → row.status ≠ .canceled
  latest : ∀ target, Pays w stripe c target → target.Renews id → ∀ p ∈ w.paidPeriods id,
    p.periodStart < target.periodStart ∨
      (p.periodStart = target.periodStart ∧ p.periodEnd = target.periodEnd)

/-- The event pays the invoice that it has been handled for. -/
private theorem eq_of_isPaidBy (hevent : IsPaymentEvent c) {t target : Invoice}
    (ht : w.invoices.find? t.id = some t) (hpaidBy : IsPaidBy c t)
    (hpays : Pays w stripe c target) : target = t := by
  -- each payment event finds the invoice by one key: the metadata, or the external id
  cases c with
  | webhook event =>
    cases event with
    | checkoutSessionCompleted session =>
      obtain ⟨-, invoiceId, hnamed, -, hfound⟩ := hpays
      obtain rfl := Option.some.inj (hpaidBy.symm.trans hnamed)
      exact Option.some.inj (hfound.symm.trans ht)
    | invoicePaid invoice =>
      have hknown : w.knownInvoice (webhookParams stripe invoice .paid) = some t := by
        simp only [World.knownInvoice, webhookParams, webhookSyncParams,
          findInvoiceByExternalId_of_row ht hpaidBy]
      rcases hpays with hsome | ⟨hnone, -⟩
      · exact Option.some.inj (hsome.symm.trans hknown)
      · cases hnone.symm.trans hknown
    | _ => exact hevent.elim
  | _ => exact hevent.elim

/-- What an event has been handled for stays paid by it. -/
theorem IsPaidBy.kept (hevent : IsPaymentEvent c)
    (hnamed : ∀ invoice, c = .webhook (.invoicePaid invoice) → invoice.id ≠ "") {t t' : Invoice}
    (h : IsPaidBy c t) (hpaid : t.status = .paid) (hid : t'.id = t.id) (hkept : KeepsPayment t t') :
    IsPaidBy c t' := by
  cases c with
  | webhook event =>
    cases event with
    | checkoutSessionCompleted session => exact h.trans (congrArg some hid.symm)
    | invoicePaid invoice =>
      have hlink : t.externalInvoiceId = some invoice.id := h
      have htruthy : truthy t.externalInvoiceId =
          true := by simp [hlink, truthy, hnamed invoice rfl]
      exact (hkept.link hpaid htruthy).trans hlink
    | _ => exact hevent.elim
  | _ => exact hevent.elim

/-- An event that has been handled finds the subscription active in the period of the invoice
    that it pays. -/
private theorem Handled.activeIn {w₀ : World} (h : Handled config id w₀ w c)
    (hw₀ : InPaidPeriod id w₀) {row₀ : Subscription} (hrow₀ : w₀.subscriptions.find? id = some row₀)
    (hrow : w.subscriptions.find? id = some row) (hlatest : StillLatest id w stripe c)
    {target : Invoice} (hpays : Pays w stripe c target) (hrenews : target.Renews id) :
    ActiveIn row target := by
  obtain ⟨stripe₁, w₁, w₂, target₁, hbefore, hok, hpays₁, hrenews₁, hcall, hafter⟩ := h.run
  obtain ⟨row₁, hrow₁, hkept₁⟩ := runKept hw₀ hrow₀ hbefore
  obtain ⟨row₂, hrow₂, -, hactivated⟩ := pays_subscription hlatest.isPayment hcall hrow₁
  obtain ⟨target₂, t, hactivated⟩ := hactivated rfl target₁ hpays₁ hrenews₁
  -- the state after the first delivery
  have hw₂ : InPaidPeriod id w₂ := by
    obtain ⟨row', hrow', hstep⟩ := period_step hok hcall hrow₁
    exact hstep.inPaidPeriod hkept₁.inPaidPeriod (keepsPayment_call hok.isPeriodCall hcall) hrow₁
      hrow'
  obtain ⟨row', hrow', hkept⟩ := runKept hw₂ hrow₂ hafter
  obtain rfl := Option.some.inj (hrow.symm.trans hrow')
  obtain ⟨t', ht', hid, hsame⟩ := paidPeriod_of_keepsPayment (h := hkept.invoices) hactivated.paid
  have htPaid : t.status = .paid := by
    have hpaid := (List.mem_filter.mp hactivated.paid).2
    simp only [isPaidPeriod, Bool.and_eq_true, decide_eq_true_eq] at hpaid
    exact hpaid.2
  obtain rfl := eq_of_isPaidBy hlatest.isPayment
    (Table.find?_key (List.mem_filter.mp ht').1)
    (hactivated.paidBy.kept hlatest.isPayment hlatest.named htPaid hid hsame) hpays
  -- the period has not turned back since, and no paid invoice is later
  obtain ⟨start, hstart, hle⟩ := hkept.start_le _ hactivated.active.currentPeriodStart
  obtain ⟨p, hp, rfl, hpend⟩ := hkept.inPaidPeriod row start hrow hstart
  have hperiod : p.periodStart = target.periodStart ∧ p.periodEnd = target.periodEnd := by
    rcases hlatest.latest target hpays hrenews p hp with hlt | hsame'
    · rw [hsame.periodStart] at hlt
      omega
    · exact hsame'
  refine ⟨?_, hperiod.1 ▸ hstart, hperiod.2 ▸ hpend⟩
  exact (hkept.status (.inl hactivated.active.status)).resolve_right (hlatest.alive row hrow)

/-- In a run in which no invoice is paid, and no period renewed, that starts before a paid
    invoice of the subscription, the start of the period never decreases; and an event that has
    been handled leaves status and period as they are when it is delivered again. -/
theorem period_neverMovesBack {w₀ : World} {row₀ : Subscription} (hw₀ : InPaidPeriod id w₀)
    (hrow₀ : w₀.subscriptions.find? id = some row₀) (hbefore : CallRun config (PaysInOrder id) w₀ w)
    (hlater : CallRun config (PaysInOrder id) w w') :
    ∃ row row', w.subscriptions.find? id = some row ∧ w'.subscriptions.find? id = some row' ∧
      (∀ start, row.currentPeriodStart = some start →
        ∃ start', row'.currentPeriodStart = some start' ∧ start ≤ start') ∧
      ∀ stripe c r w'', Handled config id w₀ w' c → StillLatest id w' stripe c →
        Runs (fun env => env.stripe = stripe) (c.op config) w' r w'' →
          ∃ row'', w''.subscriptions.find? id = some row'' ∧ SameStatusAndPeriod row' row'' := by
  obtain ⟨row, hrow, hkept⟩ := runKept hw₀ hrow₀ hbefore
  obtain ⟨row', hrow', hkept'⟩ := runKept hkept.inPaidPeriod hrow hlater
  refine ⟨row, row', hrow, hrow', hkept'.start_le, fun stripe c r w'' hhandled hlatest hrun => ?_⟩
  obtain ⟨row'', hrow'', hcases, -⟩ := pays_subscription hlatest.isPayment hrun hrow'
  refine ⟨row'', hrow'', ?_⟩
  rcases hcases with hsame | ⟨target, t, hactivated⟩
  · exact hsame
  · -- what it writes is what the first delivery has left
    have hbefore := hhandled.activeIn hw₀ hrow₀ hrow' hlatest hactivated.pays hactivated.renews
    have hafter := hactivated.active
    refine ⟨hafter.status.trans hbefore.status.symm, ?_, ?_⟩
    · rw [hafter.currentPeriodStart, hactivated.period.1, hbefore.currentPeriodStart]
    · rw [hafter.currentPeriodEnd, hactivated.period.2, hbefore.currentPeriodEnd]

/-! ### A redelivered checkout -/

/-- The setup checkout of the local subscription's first invoice. -/
def setupCheckout : CheckoutSession := ⟨"cs_1", .setup, some "inv", none⟩

def setupCompleted : BillingCall := .webhook (.checkoutSessionCompleted setupCheckout)

/-- Before the buyer completes the checkout. -/
def beforeCheckout : World :=
  { sampleBilling { localSubscription with
      status := .pending, currentPeriodStart := none, currentPeriodEnd := none }
      { firstPeriod with status := .draft } with
    plans := .singleton freePlan }

def checkedOut (w : World) : World :=
  ((handleWebhook sampleConfig (.checkoutSessionCompleted setupCheckout)).exec
    (.available 10 "u") w).2

/-- The worker has renewed the subscription once. -/
def renewedOnce : World :=
  (((BillingCall.materialize "inv" 200).op sampleConfig).exec (.available 200 "u")
    (checkedOut beforeCheckout)).2

/-- Delivered again after the renewal, the checkout puts the subscription back into its first
    period. -/
theorem not_period_neverMovesBack :
    ¬∀ w w', CallRun sampleConfig (fun _ _ => IsPeriodCall) beforeCheckout w →
      CallRun sampleConfig (fun _ _ => IsPeriodCall) w w' →
        ∀ row row' start start', w.subscriptions.find? "sub" = some row →
          w'.subscriptions.find? "sub" = some row' → row.currentPeriodStart = some start →
            row'.currentPeriodStart = some start' → start ≤ start' := by
  intro h
  -- the renewal has moved the subscription to the second period
  have hrenewed : (renewedOnce.subscriptions.find? "sub").bind (·.currentPeriodStart) =
      some 100 := by
    decide +kernel
  -- the redelivered checkout takes it back to the first
  have hback : ((checkedOut renewedOnce).subscriptions.find? "sub").bind (·.currentPeriodStart) =
      some 0 := by
    decide +kernel
  obtain ⟨row, hrow, hstart⟩ := Option.bind_eq_some_iff.mp hrenewed
  obtain ⟨row', hrow', hstart'⟩ := Option.bind_eq_some_iff.mp hback
  have hrun : CallRun sampleConfig (fun _ _ => IsPeriodCall) beforeCheckout renewedOnce :=
    .exec (.available 200 "u") (.materialize "inv" 200)
      (.exec (.available 10 "u") setupCompleted .start trivial) trivial
  have hagain : CallRun sampleConfig (fun _ _ => IsPeriodCall) renewedOnce
      (checkedOut renewedOnce) :=
    .exec (.available 10 "u") setupCompleted .start trivial
  exact absurd (h _ _ hrun hagain row row' 100 0 hrow hrow' hstart hstart') (by decide)

/-- Before the checkout there is no period. -/
private theorem inPaidPeriod_beforeCheckout : InPaidPeriod "sub" beforeCheckout := by
  intro row start hrow hstart
  obtain rfl := Option.some.inj hrow
  cases hstart

/-- The checkout pays the first invoice. -/
private theorem paysInOrder_setup : PaysInOrder "sub" beforeCheckout (Env.available 10 "u").stripe
    setupCompleted :=
  ⟨trivial, fun _ _ _ _ hp => (by cases hp)⟩

/-- After it the first period is the only one. -/
private theorem paidPeriod_checkedOut {p : Invoice}
    (hp : p ∈ (checkedOut beforeCheckout).paidPeriods "sub") :
    (checkedOut beforeCheckout).invoices.find? "inv" = some p ∧ p.periodStart = 0 ∧
      p.periodEnd = 100 := by
  have hone : (checkedOut beforeCheckout).paidPeriods "sub" =
      ((checkedOut beforeCheckout).invoices.find? "inv").toList := by
    decide +kernel
  have hperiod : ((checkedOut beforeCheckout).invoices.find? "inv").map
      (fun t => (t.periodStart, t.periodEnd)) = some (0, 100) := by
    decide +kernel
  rw [hone, Option.mem_toList] at hp
  rw [hp] at hperiod
  obtain ⟨hstart, hend⟩ := Prod.mk.inj (Option.some.inj hperiod)
  exact ⟨hp, hstart, hend⟩

/-- The checkout, delivered again at once, changes nothing, and the renewal moves forward. -/
theorem period_neverMovesBack_renewed :
    (∃ row row', (checkedOut beforeCheckout).subscriptions.find? "sub" = some row ∧
      (checkedOut (checkedOut beforeCheckout)).subscriptions.find? "sub" = some row' ∧
        SameStatusAndPeriod row row') ∧
      ∃ row row', (checkedOut beforeCheckout).subscriptions.find? "sub" = some row ∧
        renewedOnce.subscriptions.find? "sub" = some row' ∧
          ∀ start, row.currentPeriodStart = some start →
            ∃ start', row'.currentPeriodStart = some start' ∧ start ≤ start' := by
  have hrow : ∃ row, beforeCheckout.subscriptions.find? "sub" = some row := ⟨_, rfl⟩
  obtain ⟨row₀, hrow₀⟩ := hrow
  have hpaid : CallRun sampleConfig (PaysInOrder "sub") beforeCheckout
      (checkedOut beforeCheckout) :=
    .exec (.available 10 "u") setupCompleted .start paysInOrder_setup
  -- the checkout has been handled in the run
  have hhandled : Handled sampleConfig "sub" beforeCheckout (checkedOut beforeCheckout)
      setupCompleted := by
    have hok : ((setupCompleted.op sampleConfig).exec (.available 10 "u") beforeCheckout).1 =
        .ok () := by
      decide +kernel
    have hrun := runs_exec (E := fun env => env.stripe = (Env.available 10 "u").stripe)
      (.available 10 "u") rfl (setupCompleted.op sampleConfig) beforeCheckout
    rw [hok] at hrun
    exact ⟨_, _, _, _, .start, paysInOrder_setup, ⟨.inl rfl, "inv", rfl, by decide, rfl⟩,
      ⟨rfl, rfl⟩, hrun, .start⟩
  -- its invoice is still the latest that was paid
  have hlatest : StillLatest "sub" (checkedOut beforeCheckout) (Env.available 10 "u").stripe
      setupCompleted := by
    refine ⟨trivial, fun _ h => (by cases h), fun row hrow hcanceled => ?_, ?_⟩
    · have hactive : ((checkedOut beforeCheckout).subscriptions.find? "sub").map (·.status) =
          some .active := by
        decide +kernel
      rw [hrow] at hactive
      cases hcanceled.symm.trans (Option.some.inj hactive)
    · rintro target ⟨-, invoiceId, hnamed, -, hfound⟩ - p hp
      obtain rfl := Option.some.inj hnamed
      obtain rfl := Option.some.inj (hfound.symm.trans (paidPeriod_checkedOut hp).1)
      exact .inr ⟨rfl, rfl⟩
  -- the renewal ends no earlier than any paid period
  have hrenewal : CallRun sampleConfig (PaysInOrder "sub") (checkedOut beforeCheckout)
      renewedOnce := by
    refine .exec (.available 200 "u") (.materialize "inv" 200) .start ?_
    intro source row hsource hsourcePaid _ _ _ p hp
    obtain ⟨hfound, hstart, hend⟩ := paidPeriod_checkedOut hp
    obtain rfl := Option.some.inj (hsource.symm.trans hfound)
    omega
  obtain ⟨-, row, -, hrow, -, hagain⟩ :=
    period_neverMovesBack inPaidPeriod_beforeCheckout hrow₀ hpaid .start
  obtain ⟨row', hrow', hsame⟩ := hagain _ _ _ _ hhandled hlatest
    (runs_exec (E := fun env => env.stripe = (Env.available 10 "u").stripe) (.available 10 "u") rfl
      (setupCompleted.op sampleConfig) (checkedOut beforeCheckout))
  obtain ⟨row₁, row₂, hrow₁, hrow₂, hforward, -⟩ :=
    period_neverMovesBack inPaidPeriod_beforeCheckout hrow₀ hpaid hrenewal
  exact ⟨⟨row, row', hrow, hrow', hsame⟩, row₁, row₂, hrow₁, hrow₂, hforward⟩

end HivePoint
