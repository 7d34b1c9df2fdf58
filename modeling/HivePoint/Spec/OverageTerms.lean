import HivePoint.Spec.OverageFrame

/-!
# What an overage invoice charges, after its settlement

A settlement fixes the period, the amount and the currency of the overage invoice it creates.
The reports of a payment leave them alone. A `DRAFT` event writes what Stripe's invoice says,
whatever the kind of the local one.

## Key results

- `draftInvoice_sameTerms_iff`: when a draft write keeps the terms of an invoice.
- `settledOverage_keepsTerms`: no run changes them in which draft events name the overage's own.
- `not_settledOverage_keepsTerms`: the period and the total of Stripe's draft replace them.
-/

namespace HivePoint

open Prog

/-! ### The terms of an invoice -/

/-- The columns that a settlement fixes. -/
structure SameTerms (row row' : Invoice) : Prop where
  kind : row'.kind = row.kind
  overageSourceInvoiceId : row'.overageSourceInvoiceId = row.overageSourceInvoiceId
  overageUnits : row'.overageUnits = row.overageUnits
  amountCents : row'.amountCents = row.amountCents
  currency : row'.currency = row.currency
  periodStart : row'.periodStart = row.periodStart
  periodEnd : row'.periodEnd = row.periodEnd

/-- The terms are the same as themselves. -/
theorem SameTerms.refl (row : Invoice) : SameTerms row row := ⟨rfl, rfl, rfl, rfl, rfl, rfl, rfl⟩

/-- Terms kept twice are kept. -/
theorem SameTerms.trans {row₁ row₂ row₃ : Invoice} (h : SameTerms row₁ row₂)
    (h' : SameTerms row₂ row₃) : SameTerms row₁ row₃ where
  kind := h'.kind.trans h.kind
  overageSourceInvoiceId := h'.overageSourceInvoiceId.trans h.overageSourceInvoiceId
  overageUnits := h'.overageUnits.trans h.overageUnits
  amountCents := h'.amountCents.trans h.amountCents
  currency := h'.currency.trans h.currency
  periodStart := h'.periodStart.trans h.periodStart
  periodEnd := h'.periodEnd.trans h.periodEnd

/-- The external invoice has the amount, the currency and the period of the local one. -/
def NamesTermsOf (event : StripeInvoice) (row : Invoice) : Prop :=
  event.total = row.amountCents ∧ event.currency.toUpper = row.currency ∧
    event.periodStart * 1000 = row.periodStart ∧ event.periodEnd * 1000 = row.periodEnd

/-- A draft write keeps the terms exactly when the external invoice names them. -/
theorem draftInvoice_sameTerms_iff (event : StripeInvoice) (metadataInvoiceId : Option String)
    (status : InvoiceStatus) (current row : Invoice) :
    SameTerms row (draftInvoice (webhookSyncParams event metadataInvoiceId status) current row) ↔
      NamesTermsOf event row := by
  constructor
  · intro h
    exact ⟨h.amountCents, h.currency, h.periodStart, h.periodEnd⟩
  · rintro ⟨hamount, hcurrency, hstart, hend⟩
    exact ⟨rfl, rfl, rfl, hamount, hcurrency, hstart, hend⟩

/-- No invoice is lost, and all keep their terms. -/
def KeepsTerms (w w' : World) : Prop :=
  w.invoices.Evolves w'.invoices fun _ row row' => SameTerms row row'

/-- Doing nothing keeps the terms. -/
theorem KeepsTerms.refl (w : World) : KeepsTerms w w := Table.Evolves.refl _

/-- Terms kept twice are kept. -/
theorem KeepsTerms.trans {w₁ w₂ w₃ : World} (h : KeepsTerms w₁ w₂) (h' : KeepsTerms w₂ w₃) :
    KeepsTerms w₁ w₃ :=
  Table.Evolves.trans h h' fun _ _ _ _ => SameTerms.trans

/-- An invoice that stands still stands after the step, with its terms. -/
theorem KeepsTerms.find? {w w' : World} (h : KeepsTerms w w') {id : Id} {row : Invoice}
    (hrow : w.invoices.find? id = some row) :
    ∃ row', w'.invoices.find? id = some row' ∧ SameTerms row row' := by
  obtain ⟨row', hrow', rfl | hsame⟩ := h id row hrow
  · exact ⟨_, hrow', .refl _⟩
  · exact ⟨row', hrow', hsame⟩

/-! ### What becomes of a settled overage -/

section Runs

variable (toISOString : Int → String) (config : AppConfig) (id : Id)

/-- The event is about the invoice `id`, by its external id or by its metadata. -/
def IsResolvedTo (w : World) (stripe : StripeApi) (kind : InvoiceEventKind)
    (event : StripeInvoice) : Prop :=
  ∃ target, w.knownInvoice (webhookParams stripe event kind.status) = some target ∧ target.id = id

/-- The worker tries to collect the overage invoice `id`, and events arrive that are resolved
    to it and meet `ok`, in any order. -/
inductive OverageRun (ok : World → InvoiceEventKind → StripeInvoice → Prop) (w₀ : World) :
    World → Prop where
  | start : OverageRun ok w₀ w₀
  | event {w w' : World} {r : Except Err Unit} (stripe : StripeApi) (kind : InvoiceEventKind)
      (event : StripeInvoice) (hbefore : OverageRun ok w₀ w)
      (hresolved : IsResolvedTo id w stripe kind event) (hok : ok w kind event)
      (hrun : Runs (fun env => env.stripe = stripe) (handleWebhook config (kind.event event)) w r
        w') : OverageRun ok w₀ w'
  | collected {w w' : World} {r : Except Err Bool} (hbefore : OverageRun ok w₀ w)
      (hrun : Runs (fun _ => True) (collectOverageInvoice toISOString config id) w r w') :
      OverageRun ok w₀ w'

/-- A `DRAFT` event names the terms that the invoice `id` has. -/
def NamesOwnTerms (w : World) (kind : InvoiceEventKind) (event : StripeInvoice) : Prop :=
  kind.status = .draft → ∀ row, w.invoices.find? id = some row → NamesTermsOf event row

end Runs

section Steps

variable {toISOString : Int → String} {config : AppConfig} {id : Id} {w w' : World}

/-- An event whose handling meets the same `env` at every statement. -/
theorem OverageRun.exec {ok : World → InvoiceEventKind → StripeInvoice → Prop} {w₀ : World}
    (env : Env) (kind : InvoiceEventKind) (event : StripeInvoice)
    (h : OverageRun toISOString config id ok w₀ w)
    (hresolved : (w.knownInvoice (webhookParams env.stripe event kind.status)).map (·.id) = some id)
    (hok : ok w kind event) :
    OverageRun toISOString config id ok w₀
      ((handleWebhook config (kind.event event)).exec env w).2 :=
  .event env.stripe kind event h (Option.map_eq_some_iff.mp hresolved) hok
    (runs_exec (E := fun env' => env'.stripe = env.stripe) env rfl _ _)

/-- An update that keeps the terms of its row keeps the terms. -/
private theorem keepsTerms_updateInvoice {k : Id} {data : Invoice → Invoice}
    (hdata : ∀ row, (data row).id = row.id ∧ SameTerms row (data row))
    (h : w.updateInvoice k data = .ok w') : KeepsTerms w w' := by
  obtain ⟨t, ht, rfl⟩ := updateInvoice_eq_ok h
  refine (Table.evolves_update? ht fun row => (hdata row).1).mono ?_
  rintro _ row row' - ⟨-, rfl⟩
  exact (hdata row).2

/-- With the invoices untouched the terms are kept. -/
private theorem keepsTerms_of_invoices (h : w'.invoices = w.invoices) : KeepsTerms w w' := by
  unfold KeepsTerms
  rw [h]
  exact .refl _

/-- Collecting an invoice records a payment or its failure, never other terms. -/
private theorem collectOverageInvoice_keepsTerms {E : Env → Prop} {r : Except Err Bool}
    (h : Runs E (collectOverageInvoice toISOString config id) w r w') : KeepsTerms w w' := by
  have hsubscription : ∀ {k : Id} {data : Subscription → Subscription} {v v' : World},
      v.updateSubscription k data = .ok v' → KeepsTerms v v' := fun h =>
    keepsTerms_of_invoices (updateSubscription_invoices h)
  -- the collection reads, asks Stripe and records the answer, which writes no term
  have hsteps : (collectOverageInvoice toISOString config id).EachStep KeepsTerms := by
    refine eachStep_bind (eachStep_read KeepsTerms.refl _) fun found => ?_
    cases found with
    | none => trivial
    | some details =>
      dsimp only
      split
      · trivial
      · refine eachStep_bind ((onlyRequests_createManagedInvoice _).mono
          fun _ _ ⟨_, _, h⟩ => keepsTerms_of_invoices (by rw [h])) fun result => ?_
        refine eachStep_bind ?_ fun _ => eachStep_pure _
        rw [recordCollection]
        split
        · refine eachStep_bind (eachStep_markInvoicePaid KeepsTerms.refl _
            (fun _ _ _ h => keepsTerms_updateInvoice (fun row => ?_) h)
            fun _ _ _ _ h => hsubscription h) fun _ => eachStep_pure _
          exact ⟨rfl, rfl, rfl, rfl, rfl, rfl, rfl, rfl⟩
        · refine eachStep_bind (eachStep_markInvoiceFailed KeepsTerms.refl _ _
            (fun _ _ _ _ h => keepsTerms_updateInvoice (fun row => ?_) h)
            fun _ _ _ _ h => hsubscription h) fun _ => eachStep_pure _
          exact ⟨rfl, rfl, rfl, rfl, rfl, rfl, rfl, rfl⟩
  exact hsteps.runs (I := KeepsTerms w) (fun _ _ hstep hw => hw.trans hstep) h (.refl w)

/-- An event that names the terms of the invoice, if it is a draft, changes those of none. -/
private theorem event_keepsTerms {stripe : StripeApi} {kind : InvoiceEventKind}
    {event : StripeInvoice} {r : Except Err Unit} (hresolved : IsResolvedTo id w stripe kind event)
    (hterms : NamesOwnTerms id w kind event)
    (h : Runs (fun env => env.stripe = stripe) (handleWebhook config (kind.event event)) w r w') :
    KeepsTerms w w' := by
  rw [handleWebhook_event] at h
  refine (syncInvoice_invoices h).mono ?_
  rintro k row row' hrow ⟨env, rfl, hknown, hsynced⟩
  cases hsynced with
  | paid _ => exact ⟨rfl, rfl, rfl, rfl, rfl, rfl, rfl⟩
  | failed _ _ _ _ _ => exact ⟨rfl, rfl, rfl, rfl, rfl, rfl, rfl⟩
  | draft hstatus =>
    -- the row that a draft writes is the one it is resolved to
    obtain ⟨target, htarget, rfl⟩ := hresolved
    obtain rfl := Option.some.inj (hknown.symm.trans htarget)
    exact (draftInvoice_sameTerms_iff event _ _ row row).mpr
      (hterms hstatus row (knownInvoice_mem htarget))

/-- Such events and the worker keep the terms of every invoice. -/
private theorem OverageRun.keepsTerms {w₀ : World}
    (h : OverageRun toISOString config id (NamesOwnTerms id) w₀ w) : KeepsTerms w₀ w := by
  induction h with
  | start => exact .refl _
  | event stripe kind event _ hresolved hok hrun ih =>
    exact ih.trans (event_keepsTerms hresolved hok hrun)
  | collected _ hrun ih => exact ih.trans (collectOverageInvoice_keepsTerms hrun)

end Steps

/-! ### The settlement -/

/-- An overage that a settlement has added charges the units of its usage, for the period of
    the source. -/
private theorem materialize_added {env : Env} {w w' : World} {sourceInvoiceId : Id}
    {processedAt : Int} {processed : Bool} {added : Invoice}
    (h : w.materializeSourceInvoice env w sourceInvoiceId processedAt = .ok (processed, w'))
    (hfresh : w.invoices.find? added.id = none)
    (hadded : w'.invoices.find? added.id = some added) (hkind : added.kind = .overage) :
    ∃ source plan usedRequests, w.invoices.find? sourceInvoiceId = some source ∧
      w.planOf source.subscriptionId = some plan ∧
        0 < (buildSettlement plan usedRequests).amountCents ∧
          added = overageInvoice source plan (buildSettlement plan usedRequests) env.uuid
            env.now := by
  rcases materialize_cases h with
    ⟨-, rfl⟩ | ⟨-, source, subscription, plan, usedRequests, w₁, w₂, hdone⟩
  · cases hfresh.symm.trans hadded
  have hplan : w.planOf source.subscriptionId = some plan := by
    simp only [World.planOf, hdone.subscription_seen, Option.bind_some, hdone.plan_seen]
  refine ⟨source, plan, usedRequests, hdone.source_found, hplan, ?_⟩
  have hne : added.id ≠ source.id := by
    intro heq
    have hsource := Table.find?_key (Table.mem_of_find? hdone.source_found)
    rw [heq] at hfresh
    cases hfresh.symm.trans hsource
  -- the mark is on the source, and a renewal is no overage
  rw [find?_updateInvoice hdone.marked fun _ => rfl, if_neg hne] at hadded
  have hadded₁ : w₁.invoices.find? added.id = some added := by
    cases rollForward_cases hdone.rolled with
    | nothing h => exact h ▸ hadded
    | canceled _ _ _ h => exact updateSubscription_invoices h ▸ hadded
    | renewed _ _ _ _ v hcreate h =>
      rw [updateSubscription_invoices h, find?_createInvoice hcreate] at hadded
      split at hadded
      · rw [← Option.some.inj hadded] at hkind
        cases hkind
      · exact hadded
  rcases settleOverage_cases hdone.settled with ⟨rfl, -⟩ | ⟨hpos, -, hcreate⟩
  · cases hfresh.symm.trans hadded₁
  · rw [find?_createInvoice hcreate] at hadded₁
    split at hadded₁
    · exact ⟨hpos, (Option.some.inj hadded₁).symm⟩
    · cases hfresh.symm.trans hadded₁

/-- A charge is the price of its units. -/
private theorem buildSettlement_amountCents {plan : Plan} {usedRequests : Int}
    (hpos : 0 < (buildSettlement plan usedRequests).amountCents) :
    ∃ price, plan.overagePriceCents = some price ∧
      (buildSettlement plan usedRequests).amountCents =
        (buildSettlement plan usedRequests).overageUnits * price := by
  unfold buildSettlement at hpos ⊢
  split
  · rename_i unit price hunit hprice
    simp only [hunit, hprice] at hpos
    split
    · rename_i hnothing
      rw [if_pos hnothing] at hpos
      exact absurd hpos (by simp)
    · exact ⟨price, hprice, rfl⟩
  · rename_i hnone
    split at hpos
    · rename_i unit price hunit hprice
      exact absurd hprice (hnone unit price hunit)
    · exact absurd hpos (by simp)

/-- `materializeSourceInvoice` has created the overage invoice `settled` for the source, while
    its plan charged `price` for a unit. -/
structure CreatesOverage (w w' : World) (sourceInvoiceId : Id) (settled : Invoice) (price : Int) :
    Prop where
  run : ∃ processedAt r,
    Runs (fun _ => True) (materializeSourceInvoice sourceInvoiceId processedAt) w r w'
  fresh : w.invoices.find? settled.id = none
  created : w'.invoices.find? settled.id = some settled
  kind : settled.kind = .overage
  price : ((w.invoices.find? sourceInvoiceId).bind fun source =>
    (w.planOf source.subscriptionId).bind (·.overagePriceCents)) = some price

/-- The invoice charges its units at `price` for the period of its source, in the currency in
    which it was settled. -/
structure ChargesPeriod (price : Int) (settled source row : Invoice) : Prop where
  kind : row.kind = .overage
  overageSourceInvoiceId : row.overageSourceInvoiceId = some source.id
  currency : row.currency = settled.currency
  periodStart : row.periodStart = source.periodStart
  periodEnd : row.periodEnd = source.periodEnd
  amountCents : row.overageUnits.map (· * price) = some row.amountCents

/-- A charge stays one while source and row keep their terms. -/
private theorem ChargesPeriod.sameTerms {price : Int} {settled source source' row row' : Invoice}
    (h : ChargesPeriod price settled source row) (hid : source'.id = source.id)
    (hsource : SameTerms source source') (hrow : SameTerms row row') :
    ChargesPeriod price settled source' row' where
  kind := hrow.kind.trans h.kind
  overageSourceInvoiceId := by rw [hrow.overageSourceInvoiceId, h.overageSourceInvoiceId, hid]
  currency := hrow.currency.trans h.currency
  periodStart := by rw [hrow.periodStart, h.periodStart, hsource.periodStart]
  periodEnd := by rw [hrow.periodEnd, h.periodEnd, hsource.periodEnd]
  amountCents := by rw [hrow.overageUnits, h.amountCents, hrow.amountCents]

/-- When it is created, the overage charges what was settled. -/
private theorem CreatesOverage.chargesPeriod {w w' : World} {sourceInvoiceId : Id}
    {settled : Invoice} {price : Int} (h : CreatesOverage w w' sourceInvoiceId settled price) :
    ∃ source, w'.invoices.find? sourceInvoiceId = some source ∧
      ChargesPeriod price settled source settled := by
  obtain ⟨processedAt, r, hrun⟩ := h.run
  -- run alone, the transaction commits in the state of its snapshot
  rcases runs_materializeSourceInvoice hrun with rfl | ⟨env, processed, -, hmaterialize⟩
  · cases h.fresh.symm.trans h.created
  obtain ⟨source, plan, usedRequests, hsource, hplan, hpos, hsettled⟩ :=
    materialize_added hmaterialize h.fresh h.created h.kind
  obtain ⟨price', hprice', hamount⟩ := buildSettlement_amountCents hpos
  have hprice := h.price
  simp only [hsource, hplan, Option.bind_some, hprice', Option.some.injEq] at hprice
  subst hprice
  obtain ⟨source', hsource', hmark⟩ := evolves_materialize hmaterialize _ source hsource
  refine ⟨source', hsource', ?_⟩
  have hkey : source'.id = source.id ∧ source'.periodStart = source.periodStart ∧
      source'.periodEnd = source.periodEnd := by
    rcases hmark with rfl | rfl <;> exact ⟨rfl, rfl, rfl⟩
  rw [hsettled]
  exact
    { kind := rfl
      overageSourceInvoiceId := by rw [hkey.1]; rfl
      currency := rfl
      periodStart := hkey.2.1.symm
      periodEnd := hkey.2.2.symm
      amountCents := congrArg some hamount.symm }

/-- As long as the draft events that are resolved to it name its own terms, an overage keeps
    the period of its source, the price of its units, its kind, its currency and its source. -/
theorem settledOverage_keepsTerms {toISOString : Int → String} {config : AppConfig}
    {w₀ w₁ w : World} {sourceInvoiceId : Id} {settled : Invoice} {price : Int}
    (hcreates : CreatesOverage w₀ w₁ sourceInvoiceId settled price)
    (hrun : OverageRun toISOString config settled.id (NamesOwnTerms settled.id) w₁ w) :
    ∃ source row, w.invoices.find? sourceInvoiceId = some source ∧
      w.invoices.find? settled.id = some row ∧ ChargesPeriod price settled source row := by
  obtain ⟨source, hsource, hcharges⟩ := hcreates.chargesPeriod
  obtain ⟨source', hsource', hsameSource⟩ := hrun.keepsTerms.find? hsource
  obtain ⟨row, hrow, hsameRow⟩ := hrun.keepsTerms.find? hcreates.created
  have hid : source'.id = source.id :=
    (Table.key_of_find? hsource').trans (Table.key_of_find? hsource).symm
  exact ⟨source', row, hsource', hrow, hcharges.sameTerms hid hsameSource hsameRow⟩

/-! ### Stripe's draft of an overage -/

/-- The first period, paid and used. -/
def paidPeriod : World :=
  { billedWorld with invoices := .singleton { sourceInvoice with periodEnd := 1000 } }

def settledPeriod : World :=
  ((materializeSourceInvoice "inv" 2000).exec (.available 2000 "overage") paidPeriod).2

/-- The overage of the 5 requests that exceed the quota. -/
def settledInvoice : Invoice :=
  overageInvoice { sourceInvoice with periodEnd := 1000 } overagePlan
    (buildSettlement overagePlan 15) "overage" 2000

/-- A settlement creates the overage of the paid period. -/
private theorem createsOverage_paidPeriod :
    CreatesOverage paidPeriod settledPeriod "inv" settledInvoice 5 where
  run := ⟨2000, _, runs_exec (Env.available 2000 "overage") trivial _ _⟩
  fresh := by decide +kernel
  created := by decide +kernel
  kind := rfl
  price := by decide +kernel

/-- Stripe's invoice for this overage, over the given seconds. -/
def settledStripeInvoice (status : StripeInvoiceStatus) (periodStart periodEnd : Int) :
    StripeInvoice :=
  { overageStripeInvoice "in_9" status with total := ⟨25, by decide⟩, periodStart, periodEnd }

/-- Stripe has made the invoice at second 2, and sends its draft. -/
def draftedPeriod : World :=
  ((handleWebhook sampleConfig (.invoiceCreated (settledStripeInvoice .draft 2 2))).exec
    (.available 3000 "u") settledPeriod).2

/-- The draft of an overage replaces the period that was settled. -/
theorem not_settledOverage_keepsTerms :
    ¬∀ w₀ w₁ sourceInvoiceId settled price, CreatesOverage w₀ w₁ sourceInvoiceId settled price →
      ∀ w, OverageRun toString sampleConfig settled.id (fun _ _ _ => True) w₁ w →
        ∃ source row, w.invoices.find? sourceInvoiceId = some source ∧
          w.invoices.find? settled.id = some row ∧ ChargesPeriod price settled source row := by
  intro h
  -- Stripe's draft writes a period of its own over the settled one
  have hrun : OverageRun toString sampleConfig "overage" (fun _ _ _ => True) settledPeriod
      draftedPeriod :=
    .exec (.available 3000 "u") .created (settledStripeInvoice .draft 2 2) .start
      (by decide +kernel) trivial
  obtain ⟨source, row, hsource, hrow, hcharges⟩ :=
    h _ _ _ _ _ createsOverage_paidPeriod draftedPeriod hrun
  have hends : (draftedPeriod.invoices.find? "inv").map (·.periodEnd) = some 1000 ∧
      (draftedPeriod.invoices.find? "overage").map (·.periodEnd) = some 2000 := by
    decide +kernel
  have hrow : draftedPeriod.invoices.find? "overage" = some row := hrow
  simp only [hsource, hrow, Option.map_some, Option.some.injEq] at hends
  have heq := hcharges.periodEnd
  rw [hends.1, hends.2] at heq
  exact nomatch heq

/-- A draft that names the terms of the overage, and then its payment. -/
def collectedPeriod : World :=
  ((handleWebhook sampleConfig (.invoicePaid (settledStripeInvoice .paid 2 2))).exec
    (.available 4000 "u")
    ((handleWebhook sampleConfig (.invoiceCreated (settledStripeInvoice .draft 0 1))).exec
      (.available 3000 "u") settledPeriod).2).2

/-- A collected overage keeps the terms of its settlement. -/
theorem settledOverage_keepsTerms_paid :
    ∃ source row, collectedPeriod.invoices.find? "inv" = some source ∧
      collectedPeriod.invoices.find? "overage" = some row ∧
        ChargesPeriod 5 settledInvoice source row := by
  have hdraft : NamesOwnTerms "overage" settledPeriod .created
      (settledStripeInvoice .draft 0 1) := by
    intro _ row hrow
    obtain rfl := Option.some.inj (createsOverage_paidPeriod.created.symm.trans hrow)
    unfold NamesTermsOf
    decide +kernel
  have hrun : OverageRun toString sampleConfig "overage" (NamesOwnTerms "overage") settledPeriod
      collectedPeriod :=
    .exec (.available 4000 "u") .paid (settledStripeInvoice .paid 2 2)
      (.exec (.available 3000 "u") .created (settledStripeInvoice .draft 0 1) .start
        (by decide +kernel) hdraft)
      (by decide +kernel) fun hstatus => nomatch hstatus
  exact settledOverage_keepsTerms createsOverage_paidPeriod hrun

end HivePoint
