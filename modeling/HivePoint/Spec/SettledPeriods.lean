import HivePoint.Spec.BillingSteps
import HivePoint.Spec.Settlement
import HivePoint.Spec.Renewals

/-!
# The periods that overage is charged for

Every paid `SUBSCRIPTION` invoice of a subscription is settled for the usage of its period,
whoever created it and whatever period it was given. Nothing looks at more than one of them, so
usage is charged once only if Stripe reports periods that share no instant, and reports each of
its invoices for one local invoice.

## Key results

- `SourcesPlaced.report`, `SourcesPlaced.create`: what the webhooks do to the sources.
- `overage_billsOnce`: two charged sources share no instant.
- `not_overage_billsOnce`: two Stripe invoices of one period.
-/

namespace HivePoint

open Prog Pool

/-! ### Periods -/

/-- The instants that the settlement of the invoice counts the usage of. -/
def Invoice.period (invoice : Invoice) : Set Int := Set.Ico invoice.periodStart invoice.periodEnd

/-- The period that a webhook gives the local invoice, in milliseconds. -/
def StripeInvoice.period (invoice : StripeInvoice) : Set Int :=
  Set.Ico (invoice.periodStart * 1000) (invoice.periodEnd * 1000)

/-- Settlements of the subscription look at its `SUBSCRIPTION` invoices. -/
def IsSourceOf (subscriptionId : Id) (invoice : Invoice) : Prop :=
  invoice.subscriptionId = subscriptionId ∧ invoice.kind = .subscription

/-- An overage invoice was derived from the source. -/
def World.HasOverage (w : World) (source : Invoice) : Prop :=
  ∃ o ∈ w.invoices.rows, o.kind = .overage ∧ o.overageSourceInvoiceId = some source.id

instance (w : World) (source : Invoice) : Decidable (w.HasOverage source) :=
  inferInstanceAs (Decidable (∃ o ∈ _, _))

/-- The record is among the usage that the settlement of the source charges. -/
def IsCountedIn (r : UsageRecord) (source : Invoice) : Prop :=
  r.subscriptionId = source.subscriptionId ∧ r.occurredAt ∈ source.period

/-- Invoices are derived from `SUBSCRIPTION` invoices that have been settled. -/
def SourcesSettled (w : World) : Prop :=
  ∀ o ∈ w.invoices.rows, ∀ id, o.overageSourceInvoiceId = some id →
    ∃ source, w.invoices.find? id = some source ∧ source.kind = .subscription ∧
      source.overageProcessedAt.isSome

/-! ### The runs of the claim -/

/-- The invoice that a webhook is about. -/
def StripeEvent.invoice? : StripeEvent → Option StripeInvoice
  | .invoiceCreated invoice | .invoiceFinalized invoice | .invoicePaid invoice
  | .invoicePaymentFailed invoice => some invoice
  | _ => none

def BillingProcess.invoice? : BillingProcess → Option StripeInvoice
  | .webhook event => event.invoice?
  | _ => none

/-- Webhooks about invoices, and cycles of the overage worker. -/
def IsInvoiceRun (calls : Nat → BillingProcess) : Prop :=
  ∀ n, calls n = .collection ∨ (calls n).invoice?.isSome

/-- One of the webhooks is about the invoice. -/
def Reported (calls : Nat → BillingProcess) (invoice : StripeInvoice) : Prop :=
  ∃ n, (calls n).invoice? = some invoice

/-- The webhook looks its invoice up under this row: it has the external id or, if it has none,
    it is the local invoice that the webhook names. -/
def IsReportOf (invoice : StripeInvoice) (row : Invoice) : Prop :=
  if truthy row.externalInvoiceId then row.externalInvoiceId = some invoice.id
  else shouldAllowMetadataInvoiceId invoice = true ∧ ownMetadataInvoiceId invoice = some row.id

/-- The overage worker neither renews the subscription nor ends it. -/
def Unmanaged (subscriptionId : Id) (w : World) : Prop :=
  ∀ subscription plan, w.subscriptions.find? subscriptionId = some subscription →
    w.plans.find? subscription.planId = some plan →
      isLocalManagedStripeSubscription subscription plan = false

/-- Stripe bills the subscription, and the periods that the webhooks of a run report and those
    that are there before it share no instant, unless they are those of one invoice. -/
structure ReportsApart (subscriptionId : Id) (w : World) (reported : StripeInvoice → Prop) :
    Prop where
  unmanaged : Unmanaged subscriptionId w
  /-- The subscription costs something, or every bill names the Stripe subscription. -/
  billed : (∀ plan, w.planOf subscriptionId = some plan → plan.priceCents ≠ 0) ∨
    ∀ a, reported a → truthy (externalSubscriptionIdOf a) = true
  ids : ∀ a, reported a → a.id ≠ ""
  /-- The webhook of a first bill names its local invoice and leaves it to no later answer. -/
  named : ∀ a, reported a → shouldAllowMetadataInvoiceId a = true →
    ownMetadataInvoiceId a ≠ none
  apart : ∀ a b, reported a → reported b → a.id ≠ b.id → Disjoint a.period b.period
  there : ∀ r ∈ w.invoices.rows, IsSourceOf subscriptionId r →
    ∀ r' ∈ w.invoices.rows, IsSourceOf subscriptionId r' → r.id ≠ r'.id →
      Disjoint r.period r'.period
  others : ∀ r ∈ w.invoices.rows, IsSourceOf subscriptionId r → ∀ a, reported a →
    ¬IsReportOf a r → Disjoint r.period a.period
  /-- What is reported for one local invoice is one invoice of Stripe, and all of it. -/
  one : ∀ r ∈ w.invoices.rows, IsSourceOf subscriptionId r → ∀ a b, reported a → reported b →
    IsReportOf a r → (b.id = a.id ↔ IsReportOf b r)
  unique : ∀ r ∈ w.invoices.rows, IsSourceOf subscriptionId r →
    ∀ r' ∈ w.invoices.rows, IsSourceOf subscriptionId r' → ∀ a, reported a →
      IsReportOf a r → IsReportOf a r' → r.id = r'.id

/-! ### What a step does to invoices -/

/-- An invoice stays what it is for, and settled once it is. -/
structure Onward (row row' : Invoice) : Prop where
  subscriptionId : row'.subscriptionId = row.subscriptionId
  kind : row'.kind = row.kind
  overageSourceInvoiceId : row'.overageSourceInvoiceId = row.overageSourceInvoiceId
  settled : row.overageProcessedAt.isSome → row'.overageProcessedAt.isSome

/-- A row that is not rewritten goes onward. -/
theorem Onward.refl (row : Invoice) : Onward row row := ⟨rfl, rfl, rfl, id⟩

section Steps

variable {config : AppConfig} {met : World → Prop} {w w' : World}

/-- No step removes an invoice. -/
private theorem BillingStep.onward (h : BillingStep config met w w') :
    w.invoices.Evolves w'.invoices fun _ => Onward := by
  cases h with
  | subscribed env seen hseen userId plan periodStart periodEnd ids hplan h =>
    obtain ⟨_, _, -, -, -, hinsert, rfl⟩ := subscribe_cases h
    exact Table.evolves_insert? hinsert
  | settled env hdb seen hseen sourceInvoiceId processedAt processed h =>
    -- a settlement keeps the row, or stamps `overageProcessedAt` on the source
    refine (evolves_materialize h).mono fun _ row row' _ hrow => ?_
    subst hrow
    exact ⟨rfl, rfl, rfl, fun _ => rfl⟩
  | created params subscriptionId env h =>
    obtain ⟨t, ht, rfl⟩ := createInvoice_eq_ok h
    exact Table.evolves_insert? ht
  | invoice id data hdata h =>
    obtain ⟨t, ht, rfl⟩ := updateInvoice_eq_ok h
    refine (Table.evolves_update? ht fun row => (hdata row).id).mono ?_
    rintro _ row _ - ⟨-, rfl⟩
    -- a rewritten invoice keeps its subscription, kind and source, and stays settled
    refine ⟨(hdata row).subscriptionId, (hdata row).kind, (hdata row).overageSourceInvoiceId, ?_⟩
    rw [(hdata row).overageProcessedAt]
    exact fun hsettled => hsettled
  | subscription id data hdata h =>
    rw [updateSubscription_invoices h]
    exact .refl _
  | requested h =>
    obtain ⟨_, _, rfl⟩ := h
    exact .refl _

/-- A row that was there before the step, after it. -/
theorem BillingStep.onward_row (h : BillingStep config met w w') {id : Id} {row : Invoice}
    (hrow : w.invoices.find? id = some row) :
    ∃ row', w'.invoices.find? id = some row' ∧ Onward row row' := by
  obtain ⟨row', hrow', rfl | honward⟩ := h.onward id row hrow
  · exact ⟨row', hrow', .refl row'⟩
  · exact ⟨row', hrow', honward⟩

/-- A settlement derives an invoice from the source that it marks. -/
private theorem derived_materialize {env : Env} {seen : World} {sourceInvoiceId : Id}
    {processedAt : Int} {processed : Bool}
    (h : w.materializeSourceInvoice env seen sourceInvoiceId processedAt = .ok (processed, w'))
    {o : Invoice} (ho : o ∈ w'.invoices.rows) {id : Id} (hid : o.overageSourceInvoiceId = some id) :
    (∃ old ∈ w.invoices.rows, old.overageSourceInvoiceId = some id) ∨
      ∃ source, w'.invoices.find? id = some source ∧ source.kind = .subscription ∧
        source.status = .paid ∧ source.overageProcessedAt.isSome := by
  rcases materialize_cases h with
    ⟨-, rfl⟩ | ⟨-, source, subscription, plan, usedRequests, w₁, w₂, hdone⟩
  · exact .inl ⟨o, ho, hid⟩
  -- the mark and the renewal derive nothing
  have hrolled : ∃ o₁ ∈ w₁.invoices.rows, o₁.overageSourceInvoiceId = some id := by
    obtain ⟨t, ht, heq⟩ := updateInvoice_eq_ok hdone.marked
    have ho₂ : ∃ o₂ ∈ w₂.invoices.rows, o₂.overageSourceInvoiceId = some id := by
      subst heq
      obtain ⟨o₂, ho₂, rfl⟩ := (Table.mem_update? ht).mp ho
      refine ⟨o₂, ho₂, ?_⟩
      split at hid <;> exact hid
    obtain ⟨o₂, ho₂, hid₂⟩ := ho₂
    cases rollForward_cases hdone.rolled with
    | nothing h => exact ⟨o₂, h ▸ ho₂, hid₂⟩
    | canceled _ _ _ h => exact ⟨o₂, updateSubscription_invoices h ▸ ho₂, hid₂⟩
    | renewed _ _ _ _ v hcreate h =>
      rw [updateSubscription_invoices h] at ho₂
      obtain ⟨t, ht, rfl⟩ := createInvoice_eq_ok hcreate
      rcases (Table.mem_insert? ht).mp ho₂ with ho₂ | rfl
      · exact ⟨o₂, ho₂, hid₂⟩
      · exact nomatch hid₂
  obtain ⟨o₁, ho₁, hid₁⟩ := hrolled
  have hfound := hdone.unwritten
  rcases settleOverage_cases hdone.settled with ⟨rfl, -⟩ | ⟨-, -, hcreate⟩
  · exact .inl ⟨o₁, ho₁, hid₁⟩
  · obtain ⟨t, ht, rfl⟩ := createInvoice_eq_ok hcreate
    rcases (Table.mem_insert? ht).mp ho₁ with ho₁ | rfl
    · exact .inl ⟨o₁, ho₁, hid₁⟩
    · obtain rfl := Option.some.inj hid₁
      right
      obtain ⟨row', hrow', hsame⟩ := evolves_materialize h source.id source hfound
      have hmark := find?_updateInvoice hdone.marked (fun _ => rfl) source.id
      rw [if_pos rfl, hrow'] at hmark
      obtain ⟨row₂, -, rfl⟩ := Option.map_eq_some_iff.mp hmark.symm
      refine ⟨_, hrow', ?_, ?_, rfl⟩
      · rcases hsame with hsame | hsame
        · exact (congrArg Invoice.kind hsame).trans hdone.kind
        · exact (congrArg Invoice.kind hsame).trans hdone.kind
      · rcases hsame with hsame | hsame
        · exact (congrArg Invoice.status hsame).trans hdone.status
        · exact (congrArg Invoice.status hsame).trans hdone.status

/-- An invoice that is derived after a step was derived before, or from a source that the step
    settled. -/
theorem BillingStep.derived (h : BillingStep config met w w') {o : Invoice}
    (ho : o ∈ w'.invoices.rows) {id : Id} (hid : o.overageSourceInvoiceId = some id) :
    (∃ old ∈ w.invoices.rows, old.overageSourceInvoiceId = some id) ∨
      ∃ source, w'.invoices.find? id = some source ∧ source.kind = .subscription ∧
        source.status = .paid ∧ source.overageProcessedAt.isSome := by
  cases h with
  -- the settlement: the link of the new row and the stamp of its source come together
  | settled env hdb seen hseen sourceInvoiceId processedAt processed h =>
    exact derived_materialize h ho hid
  | subscribed env seen hseen userId plan periodStart periodEnd ids hplan h =>
    obtain ⟨_, _, -, -, -, hinsert, rfl⟩ := subscribe_cases h
    -- the new rows of a subscribe and of a webhook are no overage
    rcases (Table.mem_insert? hinsert).mp ho with ho | rfl
    · exact .inl ⟨o, ho, hid⟩
    · exact nomatch hid
  | created params subscriptionId env h =>
    obtain ⟨t, ht, rfl⟩ := createInvoice_eq_ok h
    rcases (Table.mem_insert? ht).mp ho with ho | rfl
    · exact .inl ⟨o, ho, hid⟩
    · exact nomatch hid
  | invoice k data hdata h =>
    obtain ⟨t, ht, rfl⟩ := updateInvoice_eq_ok h
    obtain ⟨old, hold, rfl⟩ := (Table.mem_update? ht).mp ho
    refine .inl ⟨old, hold, ?_⟩
    split at hid
    · exact (hdata old).overageSourceInvoiceId ▸ hid
    · exact hid
  | subscription k data hdata h => exact .inl ⟨o, updateSubscription_invoices h ▸ ho, hid⟩
  | requested h =>
    obtain ⟨_, _, rfl⟩ := h
    exact .inl ⟨o, ho, hid⟩

end Steps

/-! ### Where the sources have their periods from -/

section Placed

variable (subscriptionId : Id) (w₀ : World) (reported : StripeInvoice → Prop)

def SamePeriod (a b : Invoice) : Prop := a.periodStart = b.periodStart ∧ a.periodEnd = b.periodEnd

/-- The row has the period that the webhook reports. -/
def HasReported (invoice : StripeInvoice) (row : Invoice) : Prop :=
  row.periodStart = invoice.periodStart * 1000 ∧ row.periodEnd = invoice.periodEnd * 1000

/-- A source that was there at the start `w₀` has its own period or one that was reported for it;
    any other was added for an invoice of Stripe and has a period that was reported for that. -/
inductive Placed (row : Invoice) : Prop where
  | there (r : Invoice) (hr : r ∈ w₀.invoices.rows) (hid : r.id = row.id)
      (hsource : IsSourceOf subscriptionId r)
      (hlink : row.externalInvoiceId = r.externalInvoiceId ∨
        ∃ b, reported b ∧ IsReportOf b r ∧ row.externalInvoiceId = some b.id)
      (hperiod : SamePeriod r row ∨ ∃ b, reported b ∧ IsReportOf b r ∧ HasReported b row)
  | added (hid : w₀.invoices.find? row.id = none) (b c : StripeInvoice) (hb : reported b)
      (hc : reported c) (hlink : row.externalInvoiceId = some b.id)
      (hfree : ∀ r ∈ w₀.invoices.rows, IsSourceOf subscriptionId r → ¬IsReportOf b r)
      (hsame : c.id = b.id) (hperiod : HasReported c row)

/-- An invoice stays what it is for, and a source keeps its external id once it has one. -/
structure LinkKept (row row' : Invoice) : Prop where
  owner : row'.subscriptionId = row.subscriptionId
  kind : row'.kind = row.kind
  link : IsSourceOf subscriptionId row → truthy row.externalInvoiceId = true →
    row'.externalInvoiceId = row.externalInvoiceId

/-- No invoice is removed, and none loses its link to Stripe. -/
def LinksKept (w w' : World) : Prop :=
  w.invoices.Evolves w'.invoices fun _ => LinkKept subscriptionId

/-- What holds of the sources in every reachable state. -/
structure SourcesPlaced (w : World) : Prop where
  placed : ∀ row ∈ w.invoices.rows, IsSourceOf subscriptionId row →
    Placed subscriptionId w₀ reported row
  links : LinksKept subscriptionId w₀ w
  plan : w.planOf subscriptionId = w₀.planOf subscriptionId
  unmanaged : Unmanaged subscriptionId w

/-- The webhook may write the row, if that is a source. -/
def Answers (invoice : StripeInvoice) (id : Id) (w : World) : Prop :=
  ∃ row, w.invoices.find? id = some row ∧ (IsSourceOf subscriptionId row →
    row.externalInvoiceId = some invoice.id ∨
      ∃ r ∈ w₀.invoices.rows, IsSourceOf subscriptionId r ∧ r.id = id ∧ IsReportOf invoice r)

end Placed

section Links

variable {subscriptionId : Id} {row row' row'' : Invoice}

/-- A row keeps its own link. -/
theorem LinkKept.refl (row : Invoice) : LinkKept subscriptionId row row :=
  ⟨rfl, rfl, fun _ _ => rfl⟩

/-- Links keep which rows are sources of the subscription. -/
private theorem LinkKept.source_iff (h : LinkKept subscriptionId row row') :
    IsSourceOf subscriptionId row' ↔ IsSourceOf subscriptionId row := by
  rw [IsSourceOf, IsSourceOf, h.owner, h.kind]

/-- Two rewrites in a row keep the link if each does. -/
theorem LinkKept.trans (h : LinkKept subscriptionId row row')
    (h' : LinkKept subscriptionId row' row'') : LinkKept subscriptionId row row'' := by
  refine ⟨h'.owner.trans h.owner, h'.kind.trans h.kind, fun hsource hlink => ?_⟩
  have hsame := h.link hsource hlink
  rw [h'.link (h.source_iff.mpr hsource) (hsame ▸ hlink), hsame]

variable {w w' w'' : World}

/-- A state keeps its own links. -/
theorem LinksKept.refl (w : World) : LinksKept subscriptionId w w := Table.Evolves.refl _

/-- Two steps keep the links if each does. -/
theorem LinksKept.trans (h : LinksKept subscriptionId w w') (h' : LinksKept subscriptionId w' w'') :
    LinksKept subscriptionId w w'' :=
  Table.Evolves.trans h h' fun _ _ _ _ => LinkKept.trans

/-- Steps that leave the invoices alone keep the links. -/
theorem LinksKept.of_eq (h : w'.invoices = w.invoices) : LinksKept subscriptionId w w' := by
  rw [LinksKept, h]
  exact .refl _

/-- A row after steps that keep the links. -/
theorem LinksKept.find (h : LinksKept subscriptionId w w') {id : Id}
    (hrow : w.invoices.find? id = some row) :
    ∃ row', w'.invoices.find? id = some row' ∧ LinkKept subscriptionId row row' := by
  obtain ⟨row', hrow', rfl | hkept⟩ := h id row hrow
  · exact ⟨row', hrow', .refl row'⟩
  · exact ⟨row', hrow', hkept⟩

end Links

section Sources

variable {subscriptionId : Id} {w₀ w w' : World} {reported : StripeInvoice → Prop}
  {a : StripeInvoice} {id : Id}

/-- The start. -/
private theorem sourcesPlaced_start (hone : ReportsApart subscriptionId w₀ reported) :
    SourcesPlaced subscriptionId w₀ reported w₀ where
  placed row hrow hsource := .there row hrow rfl hsource (.inl rfl) (.inl ⟨rfl, rfl⟩)
  links := .refl w₀
  plan := rfl
  unmanaged := hone.unmanaged

/-- The placement reads the invoices, the plan of the subscription and that nobody manages it. -/
theorem SourcesPlaced.congr (hw : SourcesPlaced subscriptionId w₀ reported w)
    (hinvoices : w'.invoices = w.invoices)
    (hplan : w'.planOf subscriptionId = w.planOf subscriptionId)
    (hunmanaged : Unmanaged subscriptionId w') : SourcesPlaced subscriptionId w₀ reported w' :=
  ⟨hinvoices ▸ hw.placed, hw.links.trans (.of_eq hinvoices), hplan.trans hw.plan, hunmanaged⟩

/-- A webhook writes a subscription, and stores the Stripe subscription of a bill that names it. -/
theorem SourcesPlaced.updateSubscription (hw : SourcesPlaced subscriptionId w₀ reported w)
    (hone : ReportsApart subscriptionId w₀ reported) (ha : reported a)
    {data : Subscription → Subscription} (h : w.updateSubscription id data = .ok w')
    (hdata : ∀ row, (data row).id = row.id ∧ (data row).planId = row.planId)
    (hlinked : truthy (externalSubscriptionIdOf a) = true →
      ∀ row, truthy (data row).externalSubscriptionId = true) :
    SourcesPlaced subscriptionId w₀ reported w' ∧ LinksKept subscriptionId w w' := by
  have hplan := planOf_updateSubscription h hdata subscriptionId
  have hinvoices := updateSubscription_invoices h
  refine ⟨hw.congr hinvoices hplan fun subscription plan hfound hplan' => ?_, .of_eq hinvoices⟩
  rcases hone.billed with hpriced | hbilled
  · -- what costs something is not renewed
    have hcosts := hpriced plan <| by
      rw [← hw.plan, ← hplan, World.planOf, hfound]
      exact hplan'
    simp [isLocalManagedStripeSubscription, hcosts]
  · have hfind := find?_updateSubscription h (fun row => (hdata row).1) subscriptionId
    rw [hfound] at hfind
    obtain ⟨t, -, rfl⟩ := updateSubscription_eq_ok h
    split at hfind
    · obtain ⟨row, -, rfl⟩ := Option.map_eq_some_iff.mp hfind.symm
      simp [isLocalManagedStripeSubscription, hlinked (hbilled a ha) row]
    · exact hw.unmanaged subscription plan hfind.symm hplan'

/-- The permission stays while links are kept. -/
theorem Answers.kept (h : Answers subscriptionId w₀ a id w) (ha : a.id ≠ "")
    (hkept : LinksKept subscriptionId w w') : Answers subscriptionId w₀ a id w' := by
  obtain ⟨row, hrow, hlink⟩ := h
  obtain ⟨row', hrow', hsame⟩ := hkept.find hrow
  refine ⟨row', hrow', fun hsource => ?_⟩
  have hsource := hsame.source_iff.mp hsource
  refine (hlink hsource).imp_left fun hlink => ?_
  rw [hsame.link hsource (by simp [hlink, truthy, ha]), hlink]

/-- What a webhook writes to the invoice that it reports. -/
structure ReportedRow (a : StripeInvoice) (row row' : Invoice) : Prop where
  id : row'.id = row.id
  subscriptionId : row'.subscriptionId = row.subscriptionId
  kind : row'.kind = row.kind
  link : row'.externalInvoiceId = some a.id
  period : SamePeriod row row' ∨ HasReported a row'

/-- A source that the webhook may write was there and is reported by it, or was added for the
    same invoice of Stripe. -/
private theorem SourcesPlaced.answers_cases (hw : SourcesPlaced subscriptionId w₀ reported w)
    (hone : ReportsApart subscriptionId w₀ reported) (ha : reported a)
    (hanswers : Answers subscriptionId w₀ a id w) {row : Invoice}
    (hrow : w.invoices.find? id = some row) (hsource : IsSourceOf subscriptionId row) :
    (∃ r ∈ w₀.invoices.rows, r.id = row.id ∧ IsSourceOf subscriptionId r ∧ IsReportOf a r ∧
        (SamePeriod r row ∨ ∃ b, reported b ∧ IsReportOf b r ∧ HasReported b row)) ∨
      (w₀.invoices.find? row.id = none ∧ row.externalInvoiceId = some a.id ∧
        (∀ r ∈ w₀.invoices.rows, IsSourceOf subscriptionId r → ¬IsReportOf a r) ∧
        ∃ c, reported c ∧ c.id = a.id ∧ HasReported c row) := by
  obtain ⟨row', hrow', hlinked⟩ := hanswers
  obtain rfl := Option.some.inj (hrow.symm.trans hrow')
  have hid : row.id = id := Table.key_of_find? hrow
  cases hw.placed row (Table.mem_of_find? hrow) hsource with
  | there r hr hrid hrsource hlink hperiod =>
    refine .inl ⟨r, hr, hrid, hrsource, ?_, hperiod⟩
    rcases hlinked hsource with hext | ⟨r', hr', -, hr'id, hreport⟩
    · rcases hlink with hlink | ⟨b, hb, hreport, hlink⟩
      · -- the external id that it had at the start
        have hown : r.externalInvoiceId = some a.id := hlink.symm.trans hext
        rw [IsReportOf, if_pos (by simp [hown, truthy, hone.ids a ha])]
        exact hown
      · have hsame : a.id = b.id := Option.some.inj (hext.symm.trans hlink)
        exact (hone.one r hr hrsource b a hb ha hreport).mp hsame
    · obtain rfl := Table.eq_of_key_eq hr hr' ((hrid.trans hid).trans hr'id.symm)
      exact hreport
  | added hnew b c hb hc hlink hfree hsame hperiod =>
    rcases hlinked hsource with hext | ⟨r', hr', -, hr'id, -⟩
    · have hba : b.id = a.id := Option.some.inj (hlink.symm.trans hext)
      refine .inr ⟨hnew, hext, fun r hr hrsource hreport => ?_, c, hc, hsame.trans hba, hperiod⟩
      exact hfree r hr hrsource ((hone.one r hr hrsource a b ha hb hreport).mp hba)
    · rw [hid, ← hr'id] at hnew
      cases hnew.symm.trans (Table.find?_key hr')

/-- A webhook writes the invoice that it has looked up. -/
theorem SourcesPlaced.report (hw : SourcesPlaced subscriptionId w₀ reported w)
    (hone : ReportsApart subscriptionId w₀ reported) (ha : reported a)
    (hanswers : Answers subscriptionId w₀ a id w) {data : Invoice → Invoice}
    (h : w.updateInvoice id data = .ok w') (hdata : ∀ row, ReportedRow a row (data row)) :
    SourcesPlaced subscriptionId w₀ reported w' ∧ LinksKept subscriptionId w w' := by
  obtain ⟨t, ht, rfl⟩ := updateInvoice_eq_ok h
  have hlinks : LinksKept subscriptionId w { w with invoices := t } := by
    refine (Table.evolves_update? ht fun row => (hdata row).id).mono ?_
    rintro k row _ hrow ⟨rfl, rfl⟩
    refine ⟨(hdata row).subscriptionId, (hdata row).kind, fun hsource htruthy => ?_⟩
    rw [(hdata row).link]
    rcases hw.answers_cases hone ha hanswers hrow hsource with
      ⟨r, hr, hrid, hrsource, hreport, -⟩ | ⟨-, hext, -⟩
    · -- a row that was there and has an external id has this one
      cases hw.placed row (Table.mem_of_find? hrow) hsource with
      | there r' hr' hr'id hr'source hlink hperiod =>
        obtain rfl := Table.eq_of_key_eq hr hr' (hrid.trans hr'id.symm)
        rcases hlink with hlink | ⟨b, hb, hreport', hlink⟩
        · rw [IsReportOf, if_pos (hlink ▸ htruthy)] at hreport
          exact (hlink.trans hreport).symm
        · rw [hlink, (hone.one r hr hrsource b a hb ha hreport').mpr hreport]
      | added hnew b c hb hc hlink hfree hsame hperiod =>
        rw [← hrid] at hnew
        cases hnew.symm.trans (Table.find?_key hr)
    · exact hext.symm
  refine ⟨⟨fun row' hrow' hsource => ?_, hw.links.trans hlinks, hw.plan, hw.unmanaged⟩, hlinks⟩
  obtain ⟨row, hrow, rfl⟩ := (Table.mem_update? ht).mp hrow'
  split at hsource
  · rename_i hid
    rw [if_pos hid]
    have hfound : w.invoices.find? id = some row := hid ▸ Table.find?_key hrow
    have hrowSource : IsSourceOf subscriptionId row :=
      ⟨(hdata row).subscriptionId ▸ hsource.1, (hdata row).kind ▸ hsource.2⟩
    rcases hw.answers_cases hone ha hanswers hfound hrowSource with
      ⟨r, hr, hrid, hrsource, hreport, hperiod⟩ | ⟨hnew, -, hfree, c, hc, hsame, hperiod⟩
    · refine .there r hr (hrid.trans (hdata row).id.symm) hrsource
        (.inr ⟨a, ha, hreport, (hdata row).link⟩) ?_
      rcases (hdata row).period with hkept | hreported
      · refine hperiod.imp (fun h => ⟨h.1.trans hkept.1, h.2.trans hkept.2⟩) ?_
        rintro ⟨b, hb, hbreport, hbperiod⟩
        exact ⟨b, hb, hbreport, hkept.1.symm.trans hbperiod.1, hkept.2.symm.trans hbperiod.2⟩
      · exact .inr ⟨a, ha, hreport, hreported⟩
    · have hnew : w₀.invoices.find? (data row).id = none := (hdata row).id ▸ hnew
      rcases (hdata row).period with hkept | hreported
      · exact .added hnew a c ha hc (hdata row).link hfree hsame
          ⟨hkept.1.symm.trans hperiod.1, hkept.2.symm.trans hperiod.2⟩
      · exact .added hnew a a ha ha (hdata row).link hfree rfl hreported
  · rename_i hid
    rw [if_neg hid]
    exact hw.placed row hrow hsource

/-- A webhook adds an invoice for one that no local invoice stands for. -/
theorem SourcesPlaced.create (hw : SourcesPlaced subscriptionId w₀ reported w)
    (ha : reported a) (hfree : ∀ r ∈ w₀.invoices.rows, IsSourceOf subscriptionId r →
      ¬IsReportOf a r) {row : Invoice} (h : w.createInvoice row = .ok w')
    (hlink : row.externalInvoiceId = some a.id) (hperiod : HasReported a row) :
    SourcesPlaced subscriptionId w₀ reported w' ∧ LinksKept subscriptionId w w' ∧
      Answers subscriptionId w₀ a row.id w' := by
  have hfind := find?_createInvoice h row.id
  rw [if_pos rfl] at hfind
  obtain ⟨t, ht, rfl⟩ := createInvoice_eq_ok h
  have hlinks : LinksKept subscriptionId w { w with invoices := t } := Table.evolves_insert? ht
  refine ⟨⟨fun row' hrow' hsource => ?_, hw.links.trans hlinks, hw.plan, hw.unmanaged⟩,
    hlinks, row, hfind, fun _ => .inl hlink⟩
  rcases (Table.mem_insert? ht).mp hrow' with hrow' | rfl
  · exact hw.placed row' hrow' hsource
  · refine .added ?_ a a ha ha hlink hfree rfl hperiod
    -- its id is fresh, and nothing has been removed since the start
    by_contra hold
    obtain ⟨r, hr⟩ := Option.ne_none_iff_exists'.mp hold
    obtain ⟨r', hr', -⟩ := hw.links.find hr
    cases (Table.find?_of_insert? ht).symm.trans hr'

/-! ### Disjoint periods -/

/-- What a source stands for: an invoice that was there at the start, or one of Stripe's. -/
inductive Origin where
  | there (id : Id)
  | stripe (externalInvoiceId : String)

/-- The origin of the source that a webhook writes. -/
inductive ReportsFor (subscriptionId : Id) (w₀ : World) (c : StripeInvoice) : Origin → Prop where
  | there (r : Invoice) (hr : r ∈ w₀.invoices.rows) (hsource : IsSourceOf subscriptionId r)
      (hreport : IsReportOf c r) : ReportsFor subscriptionId w₀ c (.there r.id)
  | stripe (hfree : ∀ r ∈ w₀.invoices.rows, IsSourceOf subscriptionId r → ¬IsReportOf c r) :
      ReportsFor subscriptionId w₀ c (.stripe c.id)

/-- The period that was there, or one that was reported for the origin. -/
def HasOrigin (subscriptionId : Id) (w₀ : World) (reported : StripeInvoice → Prop) (o : Origin)
    (period : Set Int) : Prop :=
  (∃ r ∈ w₀.invoices.rows, IsSourceOf subscriptionId r ∧ o = .there r.id ∧ period = r.period) ∨
    ∃ c, reported c ∧ ReportsFor subscriptionId w₀ c o ∧ period = c.period

/-- Reports for different origins are reports of different invoices. -/
private theorem ReportsApart.ne_of_origin (hone : ReportsApart subscriptionId w₀ reported)
    {c c' : StripeInvoice} (hc : reported c) (hc' : reported c') {o o' : Origin}
    (h : ReportsFor subscriptionId w₀ c o) (h' : ReportsFor subscriptionId w₀ c' o')
    (hne : o ≠ o') :
    c.id ≠ c'.id := by
  intro heq
  -- two reports with one id have one origin, whichever of the two kinds it is
  cases h with
  | there r hr hsource hreport =>
    have hsame := (hone.one r hr hsource c c' hc hc' hreport).mp heq.symm
    cases h' with
    | there r' hr' hsource' hreport' =>
      exact hne (by rw [hone.unique r hr hsource r' hr' hsource' c' hc' hsame hreport'])
    | stripe hfree => exact hfree r hr hsource hsame
  | stripe hfree =>
    cases h' with
    | there r' hr' hsource' hreport' =>
      exact hfree r' hr' hsource' ((hone.one r' hr' hsource' c' c hc' hc hreport').mp heq)
    | stripe hfree' => exact hne (by rw [heq])

/-- Periods of different origins share no instant. -/
theorem HasOrigin.disjoint (hone : ReportsApart subscriptionId w₀ reported) {o o' : Origin}
    {p p' : Set Int} (h : HasOrigin subscriptionId w₀ reported o p)
    (h' : HasOrigin subscriptionId w₀ reported o' p') (hne : o ≠ o') : Disjoint p p' := by
  -- what was there against what is reported for another origin
  have hcross : ∀ r ∈ w₀.invoices.rows, IsSourceOf subscriptionId r → ∀ c, reported c →
      ∀ o, ReportsFor subscriptionId w₀ c o → Origin.there r.id ≠ o →
        Disjoint r.period c.period := by
    intro r hr hsource c hc o hfor hne
    refine hone.others r hr hsource c hc fun hreport => ?_
    cases hfor with
    | there r' hr' hsource' hreport' =>
      exact hne (by rw [hone.unique r hr hsource r' hr' hsource' c hc hreport hreport'])
    | stripe hfree => exact hfree r hr hsource hreport
  rcases h with ⟨r, hr, hsource, rfl, rfl⟩ | ⟨c, hc, hfor, rfl⟩
  · rcases h' with ⟨r', hr', hsource', rfl, rfl⟩ | ⟨c', hc', hfor', rfl⟩
    · exact hone.there r hr hsource r' hr' hsource' fun heq => hne (by rw [heq])
    · exact hcross r hr hsource c' hc' o' hfor' hne
  · rcases h' with ⟨r', hr', hsource', rfl, rfl⟩ | ⟨c', hc', hfor', rfl⟩
    · exact (hcross r' hr' hsource' c hc o hfor hne.symm).symm
    · exact hone.apart c c' hc hc' (hone.ne_of_origin hc hc' hfor hfor' hne)

/-- The origin of a source, which keeps its period in it. -/
private theorem Placed.origin (hone : ReportsApart subscriptionId w₀ reported) {row : Invoice}
    (h : Placed subscriptionId w₀ reported row) :
    HasOrigin subscriptionId w₀ reported (.there row.id) row.period ∨
      ∃ b, truthy (some b) = true ∧ row.externalInvoiceId = some b ∧
        HasOrigin subscriptionId w₀ reported (.stripe b) row.period := by
  have hreported : ∀ {c : StripeInvoice}, HasReported c row → row.period = c.period := by
    intro c h
    rw [Invoice.period, h.1, h.2]
    rfl
  -- a source keeps the origin it started with, or is reported by an invoice that has it
  cases h with
  | there r hr hid hsource hlink hperiod =>
    refine .inl ?_
    rw [← hid]
    rcases hperiod with hsame | ⟨b, hb, hreport, hperiod⟩
    · refine .inl ⟨r, hr, hsource, rfl, ?_⟩
      rw [Invoice.period, Invoice.period, hsame.1, hsame.2]
    · exact .inr ⟨b, hb, .there r hr hsource hreport, hreported hperiod⟩
  | added hid b c hb hc hlink hfree hsame hperiod =>
    refine .inr ⟨b.id, by simp [truthy, hone.ids b hb], hlink, .inr ⟨c, hc, ?_, hreported hperiod⟩⟩
    rw [← hsame]
    exact .stripe fun r hr hsource hreport =>
      hfree r hr hsource ((hone.one r hr hsource c b hc hb hreport).mp hsame.symm)

/-- Two sources, of which the second is seen later, share no instant. -/
theorem SourcesPlaced.disjoint (hone : ReportsApart subscriptionId w₀ reported)
    (hw : SourcesPlaced subscriptionId w₀ reported w)
    (hw' : SourcesPlaced subscriptionId w₀ reported w') (hkept : LinksKept subscriptionId w w')
    {s₁ s₂ : Invoice} (hs₁ : s₁ ∈ w.invoices.rows) (hsource₁ : IsSourceOf subscriptionId s₁)
    (hs₂ : s₂ ∈ w'.invoices.rows) (hsource₂ : IsSourceOf subscriptionId s₂) (hne : s₁.id ≠ s₂.id) :
    Disjoint s₁.period s₂.period := by
  rcases (hw.placed s₁ hs₁ hsource₁).origin hone with h₁ | ⟨b, hb, hlink₁, h₁⟩
  · rcases (hw'.placed s₂ hs₂ hsource₂).origin hone with h₂ | ⟨b, hb, hlink₂, h₂⟩
    · exact h₁.disjoint hone h₂ fun heq => hne (Origin.there.inj heq)
    · exact h₁.disjoint hone h₂ fun heq => (by cases heq)
  · rcases (hw'.placed s₂ hs₂ hsource₂).origin hone with h₂ | ⟨b', hb', hlink₂, h₂⟩
    · exact h₁.disjoint hone h₂ fun heq => (by cases heq)
    · refine h₁.disjoint hone h₂ fun heq => hne ?_
      obtain rfl := Origin.stripe.inj heq
      -- the first one still has the external id, which is unique
      obtain ⟨s, hs, hsame⟩ := hkept.find (Table.find?_key hs₁)
      have hlink : s.externalInvoiceId = some b :=
        (hsame.link hsource₁ (hlink₁ ▸ hb)).trans hlink₁
      have heq : s = s₂ := Table.eq_of_unique (by simp [Row.uniques]) (Table.mem_of_find? hs) hs₂
        hlink hlink₂
      exact (Table.key_of_find? hs).symm.trans (congrArg Invoice.id heq)

end Sources

/-! ### What the calls do to the sources -/

/-- The calls rely on the sources, and do to them what they rely on. -/
def sourceContract (subscriptionId : Id) (w₀ : World) (reported : StripeInvoice → Prop) :
    Contract World Env where
  permits _ _ _ := True
  rely w w' := KindsKept w w' ∧ (SourcesPlaced subscriptionId w₀ reported w →
    SourcesPlaced subscriptionId w₀ reported w' ∧ LinksKept subscriptionId w w')
  guar w w' := KindsKept w w' ∧ (SourcesPlaced subscriptionId w₀ reported w →
    SourcesPlaced subscriptionId w₀ reported w' ∧ LinksKept subscriptionId w w')
  rely_refl w := ⟨.of_eq rfl, fun hw => ⟨hw, .refl w⟩⟩
  rely_trans h h' := ⟨h.1.trans h'.1, fun hw =>
    ⟨(h'.2 (h.2 hw).1).1, (h.2 hw).2.trans (h'.2 (h.2 hw).1).2⟩⟩

section Calls

variable {subscriptionId : Id} {w₀ w w' : World} {reported : StripeInvoice → Prop}

/-- Kept links keep the kinds. -/
theorem LinksKept.kindsKept (h : LinksKept subscriptionId w w') : KindsKept w w' :=
  Table.Evolves.mono h fun _ _ _ _ h => h.kind

/-- What each party of a run of invoice webhooks and overage cycles guarantees. -/
private theorem sourceContract_guar (h : SourcesPlaced subscriptionId w₀ reported w' ∧
    LinksKept subscriptionId w w') : (sourceContract subscriptionId w₀ reported).guar w w' :=
  ⟨h.2.kindsKept, fun _ => h⟩

/-- Statements that write nothing. -/
private theorem sourceContract_guar_refl (w : World) :
    (sourceContract subscriptionId w₀ reported).guar w w :=
  (sourceContract subscriptionId w₀ reported).rely_refl w

/-- The placement survives what the other parties do. -/
private theorem stable_placed : Stable (sourceContract subscriptionId w₀ reported)
    (SourcesPlaced subscriptionId w₀ reported) :=
  ⟨fun _ _ hw h => (h.2 hw).1, fun w _ => sourceContract_guar_refl w⟩

/-- The sources are placed, and the webhook may write the row. -/
def MayWrite (subscriptionId : Id) (w₀ : World) (reported : StripeInvoice → Prop)
    (a : StripeInvoice) (id : Id) (w : World) : Prop :=
  SourcesPlaced subscriptionId w₀ reported w ∧ Answers subscriptionId w₀ a id w

variable (subscriptionId w₀ reported) in
/-- So does the permission to write the row `id`. -/
private theorem stable_mayWrite {a : StripeInvoice} (ha : a.id ≠ "") (id : Id) :
    Stable (sourceContract subscriptionId w₀ reported)
      (MayWrite subscriptionId w₀ reported a id) :=
  ⟨fun _ _ hw h => ⟨(h.2 hw.1).1, hw.2.kept ha (h.2 hw.1).2⟩,
    fun w _ => sourceContract_guar_refl w⟩

variable (hone : ReportsApart subscriptionId w₀ reported) {a : StripeInvoice} (ha : reported a)
include hone ha

/-- A webhook that has found nothing under its external id, and was not let write the local
    invoice that it names, reports no invoice that was there. -/
private theorem SourcesPlaced.not_reportOf (hw : SourcesPlaced subscriptionId w₀ reported w)
    (hexternal : w.findInvoiceByExternalId a.id = none)
    (hw' : SourcesPlaced subscriptionId w₀ reported w')
    (hnamed : ∀ row, ownMetadataInvoiceId a = some row.id → shouldAllowMetadataInvoiceId a = true →
      w'.invoices.find? row.id = some row → acceptsExternalId a.id row = false) :
    ∀ r ∈ w₀.invoices.rows, IsSourceOf subscriptionId r → ¬IsReportOf a r := by
  intro r hr hsource hreport
  have hall := hreport
  rw [IsReportOf] at hreport
  split at hreport
  · -- its external id would have been found
    rename_i htruthy
    obtain ⟨row, hrow, hkept⟩ := hw.links.find (Table.find?_key hr)
    exact findBy?_eq_none_iff.mp hexternal row (Table.mem_of_find? hrow)
      ((hkept.link hsource htruthy).trans hreport)
  · -- it is the local invoice that the webhook names
    rename_i hfalsy
    obtain ⟨row, hrow, hkept⟩ := hw'.links.find (Table.find?_key hr)
    have hid : row.id = r.id := Table.key_of_find? hrow
    have hrefused := hnamed row (hid ▸ hreport.2) hreport.1 (hid ▸ hrow)
    simp only [acceptsExternalId, Bool.or_eq_false_iff, Bool.not_eq_false', decide_eq_false_iff_not]
      at hrefused
    cases hw'.placed row (Table.mem_of_find? hrow) (hkept.source_iff.mpr hsource) with
    | there r' hr' hr'id hr'source hlink hperiod =>
      obtain rfl := Table.eq_of_key_eq hr hr' (hid.symm.trans hr'id.symm)
      rcases hlink with hlink | ⟨b, hb, hbreport, hlink⟩
      · exact hfalsy (hlink ▸ hrefused.1)
      · have hsame : a.id = b.id := (hone.one r hr hsource b a hb ha hbreport).mpr hall
        exact hrefused.2 (hsame ▸ hlink)
    | added hnew =>
      rw [hid] at hnew
      cases hnew.symm.trans (Table.find?_key hr)

omit hone ha in
/-- The local invoice that a webhook names has a non-empty id. -/
private theorem truthy_ownMetadataInvoiceId {invoice : StripeInvoice} {id : String}
    (h : ownMetadataInvoiceId invoice = some id) : truthy (some id) = true := by
  rw [ownMetadataInvoiceId] at h
  split at h
  · rename_i htruthy
    rwa [h] at htruthy
  · split at h
    · split at h
      · rename_i htruthy
        rwa [h] at htruthy
      · cases h
    · cases h

variable (status : InvoiceStatus)

/-- A webhook may write the row that it resolves to. -/
private theorem sat_resolveInvoiceForExternalSync
    (hw : SourcesPlaced subscriptionId w₀ reported w) :
    (resolveInvoiceForExternalSync (webhookSyncParams a (ownMetadataInvoiceId a) status)).Sat
      (sourceContract subscriptionId w₀ reported)
      (fun r w' => SourcesPlaced subscriptionId w₀ reported w' ∧
        ∀ id, r = .ok id → Answers subscriptionId w₀ a id w') w := by
  have herror : ∀ (e : Err) (w' : World), SourcesPlaced subscriptionId w₀ reported w' →
      SourcesPlaced subscriptionId w₀ reported w' ∧
        ∀ id, (.error e : Except Err Id) = .ok id → Answers subscriptionId w₀ a id w' :=
    fun e w' hw' => ⟨hw', fun id h => (by cases h)⟩
  have hcreate : (∀ r ∈ w₀.invoices.rows, IsSourceOf subscriptionId r → ¬IsReportOf a r) →
      ∀ w', SourcesPlaced subscriptionId w₀ reported w' →
        (createInvoiceForExternalSync (webhookSyncParams a (ownMetadataInvoiceId a) status)).Sat
          (sourceContract subscriptionId w₀ reported)
          (fun r w' => SourcesPlaced subscriptionId w₀ reported w' ∧
            ∀ id, r = .ok id → Answers subscriptionId w₀ a id w') w' := by
    intro hfree w' hw'
    rw [createInvoiceForExternalSync]
    split
    · exact herror _ w' hw'
    · refine (sat_bind _ _ _ w').mpr (sat_read stable_placed hw' (fun w₁ hw₁ => ?_) herror)
      cases (webhookSyncParams a (ownMetadataInvoiceId a) status).externalSubscriptionId.bind
          w₁.findSubscriptionByExternalId with
      | none => exact herror _ w₁ hw₁
      | some subscription =>
        refine sat_mutate stable_placed hw₁ (fun env w₂ id v hw₂ _ h => ?_) herror
        have hmade : w₂.createInvoice (externalInvoice (webhookSyncParams a (ownMetadataInvoiceId a)
            status) subscription.id env) = .ok v ∧ env.uuid = id := by
          cases hv : w₂.createInvoice _ with
          | error e =>
            rw [hv] at h
            cases h
          | ok v' =>
            rw [hv] at h
            obtain ⟨rfl, rfl⟩ := Prod.mk.inj (Except.ok.inj h)
            exact ⟨rfl, rfl⟩
        obtain ⟨hv, rfl⟩ := hmade
        obtain ⟨hplaced, hlinks, hanswers⟩ := hw₂.create ha hfree hv rfl ⟨rfl, rfl⟩
        refine ⟨sourceContract_guar ⟨hplaced, hlinks⟩, hplaced, fun id hid => ?_⟩
        obtain rfl := Except.ok.inj hid
        exact hanswers
  refine (sat_bind _ _ _ w).mpr (sat_read stable_placed hw (fun w₁ hw₁ => ?_) herror)
  cases hexternal : w₁.findInvoiceByExternalId
      (webhookSyncParams a (ownMetadataInvoiceId a) status).externalInvoiceId with
  | some invoice =>
    refine ⟨hw₁, fun id hid => ?_⟩
    obtain rfl := Except.ok.inj hid
    exact ⟨invoice, Table.find?_key (Table.mem_of_findBy? hexternal),
      fun _ => .inl (Table.col_of_findBy? hexternal)⟩
  | none =>
    dsimp only
    split
    · rename_i hallowed
      simp only [Bool.and_eq_true] at hallowed
      refine (sat_bind _ _ _ w₁).mpr (sat_read stable_placed hw₁ (fun w₂ hw₂ => ?_) herror)
      obtain ⟨named, hown⟩ : ∃ named, ownMetadataInvoiceId a = some named := by
        cases hown : ownMetadataInvoiceId a with
        | none => simp [webhookSyncParams, hown, truthy] at hallowed
        | some named => exact ⟨named, rfl⟩
      have hread : (webhookSyncParams a (ownMetadataInvoiceId a) status).metadataInvoiceId.bind
          w₂.invoices.find? = w₂.invoices.find? named := by
        simp [webhookSyncParams, hown]
      rw [hread]
      cases hnamed : w₂.invoices.find? named with
      | none =>
        refine hcreate (hw₁.not_reportOf hone ha hexternal hw₂ fun row hrow _ hfound => ?_) w₂ hw₂
        obtain rfl := Option.some.inj (hown.symm.trans hrow)
        cases hnamed.symm.trans hfound
      | some row =>
        have hid : row.id = named := Table.key_of_find? hnamed
        dsimp only
        split
        · rename_i haccepts
          refine ⟨hw₂, fun id hok => ?_⟩
          obtain rfl := Except.ok.inj hok
          refine ⟨row, hid ▸ hnamed, fun hsource => ?_⟩
          simp only [acceptsExternalId, Bool.or_eq_true, Bool.not_eq_true', decide_eq_true_eq]
            at haccepts
          rcases haccepts with hfalsy | hlinked
          · -- only a row that was there has no external id
            cases hw₂.placed row (Table.mem_of_find? hnamed) hsource with
            | there r hr hrid hrsource hlink hperiod =>
              rcases hlink with hlink | ⟨b, hb, hreport, hlink⟩
              · refine .inr ⟨r, hr, hrsource, hrid, ?_⟩
                rw [IsReportOf, if_neg (by rw [← hlink, hfalsy]; exact Bool.false_ne_true)]
                exact ⟨hallowed.1, hown.trans (by rw [hrid, hid])⟩
              · simp [hlink, truthy, hone.ids b hb] at hfalsy
            | added hnew b c hb hc hlink =>
              simp [hlink, truthy, hone.ids b hb] at hfalsy
          · exact .inl hlinked
        · rename_i hrefused
          refine hcreate (hw₁.not_reportOf hone ha hexternal hw₂ fun row' hrow' _ hfound =>
            ?_) w₂ hw₂
          rw [hown] at hrow'
          rw [← Option.some.inj hrow', hnamed] at hfound
          obtain rfl := Option.some.inj hfound
          exact Bool.eq_false_iff.mpr hrefused
    · rename_i hnamed
      refine hcreate (hw₁.not_reportOf hone ha hexternal hw₁ fun row hrow hallow _ => ?_) w₁ hw₁
      refine absurd ?_ hnamed
      rw [Bool.and_eq_true]
      exact ⟨hallow, by rw [webhookSyncParams, hrow]; exact truthy_ownMetadataInvoiceId hrow⟩

omit hone ha in
/-- A value that counts replaces the stored one. -/
private theorem truthy_or {new old : Option String} (h : truthy new = true) :
    truthy (new.or old) = true := by
  cases new with
  | none => cases h
  | some _ => exact h

/-- A payment that a webhook reports. -/
private theorem sat_markInvoicePaid_report {params : MarkInvoicePaidParams}
    (hparams : params.externalInvoiceId = some a.id)
    (hbills : params.externalSubscriptionId = externalSubscriptionIdOf a)
    (hw : MayWrite subscriptionId w₀ reported a params.invoiceId w) :
    (markInvoicePaid params).Sat (sourceContract subscriptionId w₀ reported)
      (fun _ => SourcesPlaced subscriptionId w₀ reported) w := by
  have hJ := stable_mayWrite subscriptionId w₀ reported
    (hone.ids a ha) params.invoiceId
  refine (sat_bind _ _ _ w).mpr (sat_read hJ hw (fun w₁ hw₁ => ?_) fun _ _ h => h.1)
  cases hfound : w₁.findInvoiceWithSubscription params.invoiceId with
  | none => exact hw₁.1
  | some found =>
    obtain ⟨row, subscription⟩ := found
    -- the row that is found is the one that the call names
    have hid : row.id = params.invoiceId := by
      obtain ⟨row', hrow', hrest⟩ := Option.bind_eq_some_iff.mp hfound
      obtain ⟨_, -, hpair⟩ := Option.bind_eq_some_iff.mp hrest
      obtain ⟨rfl, rfl⟩ := Prod.mk.inj (Option.some.inj hpair)
      exact Table.key_of_find? hrow'
    dsimp only
    split
    · exact hw₁.1
    · refine (sat_bind _ _ _ w₁).mpr ?_
      rw [hid]
      refine sat_updateInvoice hJ hw₁ (fun w₂ v hw₂ h => ?_) fun _ _ h => h.1
      -- the first write: the invoice gets the reported period
      have hreport := hw₂.1.report hone ha hw₂.2 h fun row =>
        ⟨rfl, rfl, rfl, by simp [paidInvoice, hparams], .inl ⟨rfl, rfl⟩⟩
      refine ⟨sourceContract_guar hreport, ?_⟩
      dsimp only
      split
      · exact hreport.1
      · refine (sat_bind _ _ _ v).mpr (sat_updateSubscription stable_placed hreport.1
          (fun w₃ v' hw₃ h => ?_) fun _ _ h => h)
        -- the second write: the subscription gets the external id that it has already
        have hwrite := hw₃.updateSubscription hone ha h (fun _ => ⟨rfl, rfl⟩) fun hlinked row =>
          (by rw [activatedSubscription, hbills, truthy_or hlinked])
        exact ⟨sourceContract_guar hwrite, hwrite.1⟩

/-- A failed payment that a webhook reports. -/
private theorem sat_markInvoiceFailed_report (config : AppConfig) {params : MarkInvoiceFailedParams}
    (hparams : params.externalInvoiceId = some a.id)
    (hbills : params.externalSubscriptionId = externalSubscriptionIdOf a)
    (hw : MayWrite subscriptionId w₀ reported a params.invoiceId w) :
    (markInvoiceFailed config params).Sat (sourceContract subscriptionId w₀ reported)
      (fun _ => SourcesPlaced subscriptionId w₀ reported) w := by
  have hJ := stable_mayWrite subscriptionId w₀ reported
    (hone.ids a ha) params.invoiceId
  refine (sat_bind _ _ _ w).mpr (sat_read hJ hw (fun w₁ hw₁ => ?_) fun _ _ h => h.1)
  cases hfound : w₁.findInvoiceWithSubscription params.invoiceId with
  | none => exact hw₁.1
  | some found =>
    obtain ⟨row, subscription⟩ := found
    have hid : row.id = params.invoiceId := by
      obtain ⟨row', hrow', hrest⟩ := Option.bind_eq_some_iff.mp hfound
      obtain ⟨_, -, hpair⟩ := Option.bind_eq_some_iff.mp hrest
      obtain ⟨rfl, rfl⟩ := Prod.mk.inj (Option.some.inj hpair)
      exact Table.key_of_find? hrow'
    dsimp only
    split
    · exact hw₁.1
    -- the clock is read before the write, to plan the next attempt
    · refine (sat_bind _ _ _ w₁).mpr (sat_clock hJ hw₁ fun now w₂ hw₂ => ?_)
      refine (sat_bind _ _ _ w₂).mpr ?_
      rw [hid]
      refine sat_updateInvoice hJ hw₂ (fun w₃ v hw₃ h => ?_) fun _ _ h => h.1
      -- the first write: the invoice, without a period of its own
      have hreport := hw₃.1.report hone ha hw₃.2 h fun row =>
        ⟨rfl, rfl, rfl, by simp [failedInvoice, hparams], .inl ⟨rfl, rfl⟩⟩
      refine ⟨sourceContract_guar hreport, ?_⟩
      dsimp only
      split
      · exact hreport.1
      · refine (sat_bind _ _ _ v).mpr (sat_clock stable_placed hreport.1 fun now w₄ hw₄ => ?_)
        refine (sat_bind _ _ _ w₄).mpr (sat_updateSubscription stable_placed hw₄
          (fun w₅ v' hw₅ h => ?_) fun _ _ h => h)
        -- the second write: the subscription, at the grace period
        have hwrite := hw₅.updateSubscription hone ha h (fun _ => ⟨rfl, rfl⟩) fun hlinked row =>
          (by rw [pastDueSubscription, hbills, truthy_or hlinked])
        exact ⟨sourceContract_guar hwrite, hwrite.1⟩

/-- What a report does to the invoice that it resolves to. -/
private theorem sat_syncInvoiceFromExternal (config : AppConfig)
    (hw : SourcesPlaced subscriptionId w₀ reported w) :
    (syncInvoiceFromExternal config (webhookSyncParams a (ownMetadataInvoiceId a) status)).Sat
      (sourceContract subscriptionId w₀ reported)
      (fun _ => SourcesPlaced subscriptionId w₀ reported) w := by
  refine (sat_bind _ _ _ w).mpr ((sat_resolveInvoiceForExternalSync hone ha status hw).mono ?_)
  rintro (e | id) w₁ ⟨hw₁, hanswers⟩
  · exact hw₁
  have hJ := stable_mayWrite subscriptionId w₀ reported
    (hone.ids a ha) id
  refine (sat_bind _ _ _ w₁).mpr (sat_read hJ ⟨hw₁, hanswers id rfl⟩ (fun w₂ hw₂ => ?_)
    fun _ _ h => h.1)
  -- one case for each status that a webhook reports
  cases w₂.invoices.find? id with
  | none => exact hw₂.1
  | some current =>
    dsimp only
    split
    · refine (sat_bind _ _ _ w₂).mpr (sat_updateInvoice hJ hw₂ (fun w₃ v hw₃ h => ?_)
        fun _ _ h => h.1)
      have hreport := hw₃.1.report hone ha hw₃.2 h fun row =>
        ⟨rfl, rfl, rfl, rfl, .inr ⟨rfl, rfl⟩⟩
      exact ⟨sourceContract_guar hreport, hreport.1⟩
    · refine (sat_bind _ _ _ w₂).mpr ((sat_markInvoicePaid_report hone ha rfl rfl hw₂).mono ?_)
      rintro (e | ignored) w₃ hw₃ <;> exact hw₃
    · refine (sat_bind _ _ _ w₂).mpr
        ((sat_markInvoiceFailed_report hone ha config rfl rfl hw₂).mono ?_)
      rintro (e | ignored) w₃ hw₃ <;> exact hw₃
    · refine (sat_bind _ _ _ w₂).mpr
        ((sat_markInvoiceFailed_report hone ha config rfl rfl hw₂).mono ?_)
      rintro (e | ignored) w₃ hw₃ <;> exact hw₃

/-- What a webhook about an invoice does. -/
private theorem sat_syncInvoice (config : AppConfig)
    (hw : SourcesPlaced subscriptionId w₀ reported w) :
    (syncInvoice config a status).Sat (sourceContract subscriptionId w₀ reported)
      (fun _ => SourcesPlaced subscriptionId w₀ reported) w := by
  -- the metadata are those of the invoice itself
  have hresolve : resolveMetadataInvoiceId a (externalSubscriptionIdOf a)
      (shouldAllowMetadataInvoiceId a) = pure (ownMetadataInvoiceId a) := by
    rw [resolveMetadataInvoiceId]
    cases hown : ownMetadataInvoiceId a with
    | some id => rfl
    | none =>
      have hallow : shouldAllowMetadataInvoiceId a = false :=
        Bool.eq_false_iff.mpr fun hallow => hone.named a ha hallow hown
      simp only [hallow, Bool.not_false, if_true]
  rw [syncInvoice, hresolve]
  show (ignoringNotFound _).Sat _ _ w
  refine sat_tryCatch_inv ?_ fun e w' hw' => ?_
  · refine (sat_bind _ _ _ w).mpr ((sat_syncInvoiceFromExternal hone ha status config hw).mono ?_)
    rintro (e | id) w' hw' <;> exact hw'
  · split <;> exact hw'

end Calls

/-! ### What a settlement does to the sources -/

section Settles

variable {subscriptionId : Id} {w₀ w seen w' : World} {reported : StripeInvoice → Prop} {env : Env}
  {sourceInvoiceId : Id} {processedAt : Int} {source : Invoice} {subscription : Subscription}
  {plan : Plan} {usedRequests : Int} {w₁ w₂ : World}

/-- What a settlement adds is an overage invoice or a renewal. -/
theorem Materialized.added (h : Materialized env sourceInvoiceId processedAt w seen w' source
    subscription plan usedRequests w₁ w₂) {row : Invoice} (hrow : row ∈ w'.invoices.rows)
    (hnew : w.invoices.find? row.id = none) :
    row.kind = .overage ∨ (isLocalManagedStripeSubscription subscription plan = true ∧
      row.subscriptionId = subscription.id) := by
  -- the mark is on the source, which is not new
  have hmarked : row ∈ w₂.invoices.rows := by
    obtain ⟨t, ht, heq⟩ := updateInvoice_eq_ok h.marked
    subst heq
    obtain ⟨row₂, hrow₂, rfl⟩ := (Table.mem_update? ht).mp hrow
    split at hnew
    · rename_i hid
      have hnew : w.invoices.find? row₂.id = none := hnew
      rw [show row₂.id = source.id from hid] at hnew
      cases hnew.symm.trans h.unwritten
    · rename_i hid
      rwa [if_neg hid]
  have hcharged : row ∈ w₁.invoices.rows → row.kind = .overage := by
    intro hrow₁
    rcases settleOverage_cases h.settled with ⟨rfl, -⟩ | ⟨-, -, hcreate⟩
    · cases hnew.symm.trans (Table.find?_key hrow₁)
    · obtain ⟨t, ht, rfl⟩ := createInvoice_eq_ok hcreate
      rcases (Table.mem_insert? ht).mp hrow₁ with hrow | rfl
      · cases hnew.symm.trans (Table.find?_key hrow)
      · rfl
  cases rollForward_cases h.rolled with
  | nothing heq => exact .inl (hcharged (heq ▸ hmarked))
  | canceled _ _ _ hupdate => exact .inl (hcharged (updateSubscription_invoices hupdate ▸ hmarked))
  | renewed hlocal _ _ _ v hcreate hupdate =>
    rw [updateSubscription_invoices hupdate] at hmarked
    obtain ⟨t, ht, rfl⟩ := createInvoice_eq_ok hcreate
    rcases (Table.mem_insert? ht).mp hmarked with hrow | rfl
    · exact .inl (hcharged hrow)
    · exact .inr ⟨hlocal, h.subscription_id.symm⟩

/-- A settlement writes no subscription but the one that it renews or ends. -/
private theorem Materialized.subscription_kept
    (h : Materialized env sourceInvoiceId processedAt w seen w'
    source subscription plan usedRequests w₁ w₂)
    (hother : isLocalManagedStripeSubscription subscription plan = true →
      subscription.id ≠ subscriptionId) :
    w'.subscriptions.find? subscriptionId = w.subscriptions.find? subscriptionId ∧
      w'.plans = w.plans := by
  obtain ⟨t, -, rfl⟩ := updateInvoice_eq_ok h.marked
  obtain ⟨t₁, rfl⟩ := settleOverage_rows h.settled
  -- a settlement writes the subscription only to renew or to cancel one that is managed here
  cases rollForward_cases h.rolled with
  | nothing heq =>
    subst heq
    exact ⟨rfl, rfl⟩
  | canceled hlocal _ _ hupdate =>
    have hfind := find?_updateSubscription hupdate (fun _ => rfl) subscriptionId
    rw [if_neg (hother hlocal).symm] at hfind
    obtain ⟨t₂, -, rfl⟩ := updateSubscription_eq_ok hupdate
    exact ⟨hfind, rfl⟩
  | renewed hlocal _ _ _ v hcreate hupdate =>
    have hfind := find?_updateSubscription hupdate (fun _ => rfl) subscriptionId
    rw [if_neg (hother hlocal).symm] at hfind
    obtain ⟨t₂, -, rfl⟩ := createInvoice_eq_ok hcreate
    obtain ⟨t₃, -, rfl⟩ := updateSubscription_eq_ok hupdate
    exact ⟨hfind, rfl⟩

/-- The placement reads three columns of the row. -/
theorem Placed.congr {row row' : Invoice} (h : Placed subscriptionId w₀ reported row)
    (hid : row'.id = row.id) (hlink : row'.externalInvoiceId = row.externalInvoiceId)
    (hperiod : SamePeriod row row') : Placed subscriptionId w₀ reported row' := by
  have hreported : ∀ b, HasReported b row → HasReported b row' := fun b h =>
    ⟨hperiod.1.symm.trans h.1, hperiod.2.symm.trans h.2⟩
  cases h with
  | there r hr hrid hsource hlink' hperiod' =>
    refine .there r hr (hrid.trans hid.symm) hsource (hlink ▸ hlink') ?_
    rcases hperiod' with hsame | ⟨b, hb, hreport, hperiod'⟩
    · exact .inl ⟨hsame.1.trans hperiod.1, hsame.2.trans hperiod.2⟩
    · exact .inr ⟨b, hb, hreport, hreported b hperiod'⟩
  | added hnew b c hb hc hlink' hfree hsame hperiod' =>
    exact .added (hid ▸ hnew) b c hb hc (hlink.trans hlink') hfree hsame (hreported c hperiod')

/-- A settlement whose snapshot had the sources placed adds none. -/
private theorem SourcesPlaced.settle (hw : SourcesPlaced subscriptionId w₀ reported w)
    (hseen : SourcesPlaced subscriptionId w₀ reported seen) {processed : Bool}
    (h : w.materializeSourceInvoice env seen sourceInvoiceId processedAt = .ok (processed, w')) :
    SourcesPlaced subscriptionId w₀ reported w' ∧ LinksKept subscriptionId w w' := by
  rcases materialize_cases h with
    ⟨-, rfl⟩ | ⟨-, source, subscription, plan, usedRequests, w₁, w₂, hdone⟩
  · exact ⟨hw, .refl w'⟩
  have hevolves := evolves_materialize h
  have hlinks : LinksKept subscriptionId w w' := hevolves.mono fun _ row row' _ hrow => by
    subst hrow
    exact ⟨rfl, rfl, fun _ _ => rfl⟩
  -- what the snapshot read of the subscription says that it is not renewed
  have hother : isLocalManagedStripeSubscription subscription plan = true →
      subscription.id ≠ subscriptionId := by
    intro hlocal hid
    have hread := hdone.subscription_seen
    rw [← hdone.subscription_id, hid] at hread
    rw [hseen.unmanaged subscription plan hread hdone.plan_seen] at hlocal
    cases hlocal
  obtain ⟨hsubscription, hplans⟩ := hdone.subscription_kept hother
  refine ⟨⟨fun row' hrow' hsource => ?_, hw.links.trans hlinks,
    (planOf_materialize h subscriptionId).trans hw.plan, fun row plan' hrow hplan => ?_⟩, hlinks⟩
  · cases hold : w.invoices.find? row'.id with
    | none =>
      rcases hdone.added hrow' hold with hoverage | ⟨hlocal, hsub⟩
      · cases hoverage.symm.trans hsource.2
      · exact absurd (hsub.symm.trans hsource.1) (hother hlocal)
    | some row =>
      obtain ⟨row'', hrow'', hsame⟩ := hevolves row'.id row hold
      obtain rfl := Option.some.inj (hrow''.symm.trans (Table.find?_key hrow'))
      rcases hsame with rfl | rfl
      · exact hw.placed _ (Table.mem_of_find? hold) hsource
      · exact (hw.placed row (Table.mem_of_find? hold) hsource).congr rfl rfl ⟨rfl, rfl⟩
  · rw [hsubscription] at hrow
    rw [hplans] at hplan
    exact hw.unmanaged row plan' hrow hplan

/-- A statement of the overage worker. -/
theorem SourcesPlaced.worker
    (h : WorkerStep (SourcesPlaced subscriptionId w₀ reported) w w') :
    (sourceContract subscriptionId w₀ reported).guar w w' := by
  refine ⟨h.kindsKept, fun hw => ?_⟩
  cases h with
  -- the settlement stamps its source and leaves the period alone
  | settled env hdb seen hseen sourceInvoiceId processedAt processed h => exact hw.settle hseen h
  | requested h =>
    obtain ⟨_, _, rfl⟩ := h
    exact ⟨⟨hw.placed, hw.links, hw.plan, hw.unmanaged⟩, .of_eq rfl⟩
  | charged id hkind data hdata h =>
    obtain ⟨t, ht, rfl⟩ := updateInvoice_eq_ok h
    obtain ⟨row₁, hrow₁, hoverage⟩ := hkind
    have hlinks : LinksKept subscriptionId w { w with invoices := t } := by
      refine (Table.evolves_update? ht fun row => (hdata row).id).mono ?_
      rintro k row _ hrow ⟨rfl, rfl⟩
      refine ⟨(hdata row).subscriptionId, (hdata row).kind, fun hsource _ => ?_⟩
      -- what is charged is an overage, and an overage is no source
      obtain rfl := Option.some.inj (hrow₁.symm.trans hrow)
      cases hoverage.symm.trans hsource.2
    refine ⟨⟨fun row' hrow' hsource => ?_, hw.links.trans hlinks, hw.plan, hw.unmanaged⟩, hlinks⟩
    obtain ⟨row, hrow, rfl⟩ := (Table.mem_update? ht).mp hrow'
    -- a row other than the one that is charged is as before
    split at hsource
    · rename_i hid
      obtain rfl := Option.some.inj ((hid ▸ Table.find?_key hrow).symm.trans hrow₁)
      cases ((hdata row).kind.trans hoverage).symm.trans hsource.2
    · rename_i hid
      rw [if_neg hid]
      exact hw.placed row hrow hsource

end Settles

/-! ### Every step of every run -/

section Runs

variable {toISOString : Int → String} {config : AppConfig} {calls : Nat → BillingProcess}
  {subscriptionId : Id} {w₀ w w' : World} {P P' : BillingProcesses}

/-- A call of an invoice run among others of it. -/
private theorem sat_invoiceRun (hcalls : IsInvoiceRun calls)
    (hone : ReportsApart subscriptionId w₀ (Reported calls)) (n : Nat)
    (hw : SourcesPlaced subscriptionId w₀ (Reported calls) w) :
    ((calls n).op toISOString config).Sat (sourceContract subscriptionId w₀ (Reported calls))
      (fun _ => SourcesPlaced subscriptionId w₀ (Reported calls)) w := by
  rcases hcalls n with hcollection | hwebhook
  -- the overage worker
  · rw [hcollection]
    have hkept : ∀ w w', SourcesPlaced subscriptionId w₀ (Reported calls) w →
        (sourceContract subscriptionId w₀ (Reported calls)).rely w w' →
          SourcesPlaced subscriptionId w₀ (Reported calls) w' := fun _ _ hw h => (h.2 hw).1
    have hkinds : ∀ w w', (sourceContract subscriptionId w₀ (Reported calls)).rely w w' →
        KindsKept w w' := fun _ _ h => h.1
    exact sat_processDueOverageCollection hkinds (fun _ _ => SourcesPlaced.worker) hkept hkept
      toISOString config hw
  -- an invoice webhook, which reports its invoice
  · have hreported : ∀ {a}, (calls n).invoice? = some a → Reported calls a := fun h => ⟨n, h⟩
    cases hcall : calls n with
    | webhook event =>
      rw [hcall] at hwebhook hreported
      cases event with
      | invoiceCreated a => exact sat_syncInvoice hone (hreported rfl) _ config hw
      | invoiceFinalized a => exact sat_syncInvoice hone (hreported rfl) _ config hw
      | invoicePaid a => exact sat_syncInvoice hone (hreported rfl) _ config hw
      | invoicePaymentFailed a => exact sat_syncInvoice hone (hreported rfl) _ config hw
      | _ => cases hwebhook
    | _ =>
      rw [hcall] at hwebhook
      cases hwebhook

/-- What one step of a run does to the sources. -/
private theorem sourcesPlaced_next (hcalls : IsInvoiceRun calls)
    (hone : ReportsApart subscriptionId w₀ (Reported calls))
    (hreach : Reach .free (fun _ _ => True) (startBilling toISOString config calls w₀) P)
    {c : Choice Nat Env Err} (hnext : P.next .free c = some P') :
    (sourceContract subscriptionId w₀ (Reported calls)).guar P.state P'.state := by
  -- every program meets the contract, so every step of the run does
  have hcompatible : Compatible .free
      (fun (_ : BillingProcesses) (_ : Choice Nat Env Err) => True)
      (fun n => (calls n).op toISOString config)
      (fun _ => sourceContract subscriptionId w₀ (Reported calls))
      (fun _ _ => SourcesPlaced subscriptionId w₀ (Reported calls))
      (SourcesPlaced subscriptionId w₀ (Reported calls)) :=
    .of_same (fun n w hw => sat_invoiceRun hcalls hone n hw) (fun _ _ _ _ _ => trivial)
      (fun _ _ h => h) (fun _ _ hw h => (h.2 hw).1) fun _ w => sourceContract_guar_refl w
  cases c with
  | run n env => exact hcompatible.guar_of_next (sourcesPlaced_start hone) hreach hnext
  | stop n e =>
    obtain ⟨-, rfl⟩ := next_stop_cases hnext
    exact sourceContract_guar_refl P.state

/-- In every reachable state the sources are placed. -/
private theorem sourcesPlaced_run (hcalls : IsInvoiceRun calls)
    (hone : ReportsApart subscriptionId w₀ (Reported calls))
    (hreach : Reach .free (fun _ _ => True) (startBilling toISOString config calls w₀) P) :
    SourcesPlaced subscriptionId w₀ (Reported calls) P.state := by
  induction hreach with
  | init => exact sourcesPlaced_start hone
  | step hreach hok hnext ih => exact ((sourcesPlaced_next hcalls hone hreach hnext).2 ih).1

/-- Between two states of a run the links are kept. -/
private theorem linksKept_run (hcalls : IsInvoiceRun calls)
    (hone : ReportsApart subscriptionId w₀ (Reported calls))
    (hreach : Reach .free (fun _ _ => True) (startBilling toISOString config calls w₀) P)
    (hlater : Reach .free (fun _ _ => True) P P') :
    LinksKept subscriptionId P.state P'.state := by
  induction hlater with
  | init => exact .refl P.state
  | step hlater hok hnext ih =>
    have hrun := hreach.trans hlater
    exact ih.trans ((sourcesPlaced_next hcalls hone hrun hnext).2
      (sourcesPlaced_run hcalls hone hrun)).2

/-- Whatever the calls, invoices are derived from settled sources. -/
private theorem sourcesSettled_run (hw₀ : SourcesSettled w₀)
    (hreach : Reach .free (fun _ _ => True) (startBilling toISOString config calls w₀) P) :
    SourcesSettled P.state := by
  induction hreach with
  | init => exact hw₀
  | step hreach hok hnext ih =>
    have hstep := billingStep_of_next hreach hnext
    intro o ho id hid
    rcases hstep.derived ho hid with ⟨old, hold, hsame⟩ | ⟨source, hfound, hkind, -, hsettled⟩
    · obtain ⟨source, hfound, hkind, hsettled⟩ := ih old hold id hsame
      obtain ⟨source', hfound', honward⟩ := hstep.onward_row hfound
      exact ⟨source', hfound', honward.kind.trans hkind, honward.settled hsettled⟩
    · exact ⟨source, hfound, hkind, hsettled⟩

/-- A charged source is a source. -/
private theorem SourcesSettled.isSourceOf (hw : SourcesSettled w) {s : Invoice}
    (hs : s ∈ w.invoices.rows) (hsub : s.subscriptionId = subscriptionId)
    (hcharged : w.HasOverage s) :
    IsSourceOf subscriptionId s := by
  obtain ⟨o, ho, -, hid⟩ := hcharged
  obtain ⟨source, hfound, hkind, -⟩ := hw o ho s.id hid
  obtain rfl := Option.some.inj ((Table.find?_key hs).symm.trans hfound)
  exact ⟨hsub, hkind⟩

/-! ### A subscription that the worker renews -/

/-- The invoices of the subscription that others are derived from are its paid periods. -/
def SourcesPaid (subscriptionId : Id) (w : World) : Prop :=
  ∀ o ∈ w.invoices.rows, ∀ id, o.overageSourceInvoiceId = some id →
    ∃ source, w.invoices.find? id = some source ∧
      (source.subscriptionId = subscriptionId → isPaidPeriod subscriptionId source = true)

/-- The calls are cycles of the overage worker, which are renewal calls too. -/
private theorem startBilling_collections (hcalls : ∀ n, calls n = .collection) :
    startBilling toISOString config calls w₀ =
      startRenewals toISOString config (fun _ => .cycle) w₀ := by
  obtain rfl : calls = fun _ => .collection := funext hcalls
  rfl

/-- The overage worker leaves the period of an invoice alone. -/
private theorem RenewalStep.samePeriod (h : RenewalStep subscriptionId w w') :
    w.invoices.Evolves w'.invoices fun _ => SamePeriod := by
  cases h with
  | canceling id currentPeriodEnd hkept h =>
    rw [updateSubscription_invoices h]
    exact .refl _
  | worker h =>
    -- only a settlement and a charge write an invoice, and neither writes a period
    cases h with
    | requested h =>
      obtain ⟨_, _, rfl⟩ := h
      exact .refl _
    | settled env hdb seen hseen sourceInvoiceId processedAt processed h =>
      exact (evolves_materialize h).mono fun _ _ _ _ hrow => by rw [hrow]; exact ⟨rfl, rfl⟩
    | charged id hkind data hdata h =>
      obtain ⟨t, ht, rfl⟩ := updateInvoice_eq_ok h
      refine (Table.evolves_update? ht fun row => (hdata row).id).mono ?_
      rintro k row _ hfound ⟨rfl, rfl⟩
      exact ⟨(hdata row).periodStart.symm, (hdata row).periodEnd.symm⟩

/-- The periods of the paid invoices of a tiling share no instant. -/
theorem Tiled.disjoint (hw : Tiled subscriptionId w) {s₁ s₂ : Invoice}
    (hs₁ : s₁ ∈ w.paidPeriods subscriptionId) (hs₂ : s₂ ∈ w.paidPeriods subscriptionId)
    (hne : s₁ ≠ s₂) : Disjoint s₁.period s₂.period := by
  obtain ⟨earlier, last, hw⟩ := hw
  rw [hw.periods] at hs₁ hs₂
  have hpairwise : (earlier ++ [last]).Pairwise fun a b => Disjoint a.period b.period :=
    hw.tiles.pairwise.imp fun hle => Set.disjoint_left.mpr fun t ha hb =>
      absurd (hb.1.trans_lt ha.2) (not_lt.mpr hle)
  have : Std.Symm fun a b : Invoice => Disjoint a.period b.period := ⟨fun _ _ h => h.symm⟩
  exact hpairwise.forall hs₁ hs₂ hne

/-- What holds in every state while the worker renews the subscription. -/
structure Renewed (subscriptionId : Id) (w : World) : Prop where
  tiled : Tiled subscriptionId w
  paid : SourcesPaid subscriptionId w

/-- One step of a run of the worker keeps the tiling, and is a renewal step. -/
theorem Renewed.next (hw₀ : Tiled subscriptionId w₀) (hcalls : ∀ n, calls n = .collection)
    (hreach : Reach .free (fun _ _ => True) (startBilling toISOString config calls w₀) P)
    {c : Choice Nat Env Err} (hnext : P.next .free c = some P')
    (hP : Renewed subscriptionId P.state) :
    Renewed subscriptionId P'.state ∧ RenewalStep subscriptionId P.state P'.state := by
  have hbilling := billingStep_of_next hreach hnext
  rw [startBilling_collections hcalls] at hreach
  have hstep := renewalStep_of_next hw₀ hreach hnext
  refine ⟨⟨hP.tiled.step hstep, fun o ho id hid => ?_⟩, hstep⟩
  rcases hbilling.derived ho hid with ⟨old, hold, hsame⟩ | ⟨source, hfound, hkind, hpaid, -⟩
  · -- the source was there, and no cycle makes a paid period another
    obtain ⟨source, hfound, hpaid⟩ := hP.paid old hold id hsame
    obtain ⟨source', hfound', honward⟩ := hbilling.onward_row hfound
    refine ⟨source', hfound', fun hsub => ?_⟩
    have hpaid := hpaid (honward.subscriptionId.symm.trans hsub)
    obtain ⟨source'', hfound'', hkept⟩ := hstep.evolves id source hfound
    obtain rfl := Option.some.inj (hfound'.symm.trans hfound'')
    rcases hkept with rfl | hkept
    · exact hpaid
    · exact hkept.trans hpaid
  · exact ⟨source, hfound, fun hsub => by simp [isPaidPeriod, hsub, hkind, hpaid]⟩

/-- In every state of a run of the worker the paid periods tile. -/
private theorem renewed_run (hw₀ : Renewed subscriptionId w₀) (hcalls : ∀ n, calls n = .collection)
    (hreach : Reach .free (fun _ _ => True) (startBilling toISOString config calls w₀) P) :
    Renewed subscriptionId P.state := by
  induction hreach with
  | init => exact hw₀
  | step hreach hok hnext ih => exact (Renewed.next hw₀.tiled hcalls hreach hnext ih).1

/-- A paid period is there for the rest of the run, with the instants that it had. -/
private theorem paidPeriod_kept (hw₀ : Renewed subscriptionId w₀)
    (hcalls : ∀ n, calls n = .collection)
    (hreach : Reach .free (fun _ _ => True) (startBilling toISOString config calls w₀) P)
    (hlater : Reach .free (fun _ _ => True) P P') {source : Invoice}
    (hsource : source ∈ P.state.paidPeriods subscriptionId) :
    ∃ s ∈ P'.state.paidPeriods subscriptionId, s.id = source.id ∧ s.period = source.period := by
  -- induction on the later run: a paid period is never rewritten
  induction hlater with
  | init => exact ⟨source, hsource, rfl, rfl⟩
  | step hlater hok hnext ih =>
    obtain ⟨s, hs, hid, hperiod⟩ := ih
    have hrun := hreach.trans hlater
    obtain ⟨-, hstep⟩ := Renewed.next hw₀.tiled hcalls hrun hnext (renewed_run hw₀ hcalls hrun)
    obtain ⟨hmem, hpaid⟩ := List.mem_filter.mp hs
    obtain ⟨s', hs', hkept⟩ := hstep.evolves s.id s (Table.find?_key hmem)
    obtain ⟨s'', hs'', hsame⟩ := hstep.samePeriod s.id s (Table.find?_key hmem)
    obtain rfl := Option.some.inj (hs'.symm.trans hs'')
    refine ⟨s', List.mem_filter.mpr ⟨Table.mem_of_find? hs', ?_⟩,
      (Table.key_of_find? hs').trans hid, ?_⟩
    · rcases hkept with rfl | hkept
      · exact hpaid
      · exact hkept.trans hpaid
    · rw [← hperiod]
      rcases hsame with rfl | hsame
      · rfl
      · rw [Invoice.period, Invoice.period, hsame.1, hsame.2]

/-! ### The charged periods -/

/-- The periods that a run gives to the sources of the subscription are apart: what Stripe bills
    is reported apart, and what the worker renews tiles time from the start, without a webhook. -/
inductive PeriodsApart (subscriptionId : Id) (calls : Nat → BillingProcess) (w : World) : Prop where
  | billed (hcalls : IsInvoiceRun calls) (hone : ReportsApart subscriptionId w (Reported calls))
  | renewed (hcalls : ∀ n, calls n = .collection) (hw : Renewed subscriptionId w)

/-- Two charged sources of a subscription that the worker renews. -/
private theorem Renewed.charged_disjoint (hw₀ : Renewed subscriptionId w₀)
    (hcalls : ∀ n, calls n = .collection)
    (hreach : Reach .free (fun _ _ => True) (startBilling toISOString config calls w₀) P)
    (hlater : Reach .free (fun _ _ => True) P P') {s₁ s₂ : Invoice}
    (hs₁ : s₁ ∈ P.state.invoices.rows) (hsub₁ : s₁.subscriptionId = subscriptionId)
    (hcharged₁ : P.state.HasOverage s₁) (hs₂ : s₂ ∈ P'.state.invoices.rows)
    (hsub₂ : s₂.subscriptionId = subscriptionId) (hcharged₂ : P'.state.HasOverage s₂)
    (hne : s₁.id ≠ s₂.id) : Disjoint s₁.period s₂.period := by
  -- a source that was charged is a paid period
  have hpaid : ∀ {w : World} {s : Invoice}, Renewed subscriptionId w → s ∈ w.invoices.rows →
      s.subscriptionId = subscriptionId → w.HasOverage s → s ∈ w.paidPeriods subscriptionId := by
    rintro w s hw hs hsub ⟨o, ho, -, hid⟩
    obtain ⟨source, hfound, hpaid⟩ := hw.paid o ho s.id hid
    obtain rfl := Option.some.inj ((Table.find?_key hs).symm.trans hfound)
    exact List.mem_filter.mpr ⟨hs, hpaid hsub⟩
  have hP' := renewed_run hw₀ hcalls (hreach.trans hlater)
  obtain ⟨s, hs, hid, hperiod⟩ := paidPeriod_kept hw₀ hcalls hreach hlater
    (hpaid (renewed_run hw₀ hcalls hreach) hs₁ hsub₁ hcharged₁)
  rw [← hperiod]
  -- the two are different tiles of the later state
  refine hP'.tiled.disjoint hs (hpaid hP' hs₂ hsub₂ hcharged₂) fun heq => hne ?_
  rw [← hid, heq]

/-- Whatever the webhooks and the overage workers do next to each other: while the periods that
    the run hands to the sources of the subscription are apart, two sources that are charged, at
    whatever time, share no instant, and no usage record is counted in both. -/
theorem overage_billsOnce (hw₀ : SourcesSettled w₀) (hapart : PeriodsApart subscriptionId calls w₀)
    (hreach : Reach .free (fun _ _ => True) (startBilling toISOString config calls w₀) P)
    (hlater : Reach .free (fun _ _ => True) P P') {s₁ s₂ : Invoice}
    (hs₁ : s₁ ∈ P.state.invoices.rows) (hsub₁ : s₁.subscriptionId = subscriptionId)
    (hcharged₁ : P.state.HasOverage s₁) (hs₂ : s₂ ∈ P'.state.invoices.rows)
    (hsub₂ : s₂.subscriptionId = subscriptionId) (hcharged₂ : P'.state.HasOverage s₂)
    (hne : s₁.id ≠ s₂.id) :
    Disjoint s₁.period s₂.period ∧ ∀ r, ¬(IsCountedIn r s₁ ∧ IsCountedIn r s₂) := by
  -- either the worker renews, or Stripe's reports are apart
  have hdisjoint : Disjoint s₁.period s₂.period := by
    cases hapart with
    | renewed hcalls hw =>
      exact hw.charged_disjoint hcalls hreach hlater hs₁ hsub₁ hcharged₁ hs₂ hsub₂ hcharged₂ hne
    | billed hcalls hone =>
      have hsource₁ := (sourcesSettled_run hw₀ hreach).isSourceOf hs₁ hsub₁ hcharged₁
      have hsource₂ :=
        (sourcesSettled_run hw₀ (hreach.trans hlater)).isSourceOf hs₂ hsub₂ hcharged₂
      exact (sourcesPlaced_run hcalls hone hreach).disjoint hone
        (sourcesPlaced_run hcalls hone (hreach.trans hlater))
        (linksKept_run hcalls hone hreach hlater) hs₁ hsource₁ hs₂ hsource₂ hne
  exact ⟨hdisjoint, fun r ⟨h₁, h₂⟩ => Set.disjoint_left.mp hdisjoint h₁.2 h₂.2⟩

end Runs

/-! ### Two Stripe invoices of one period -/

/-- 15 requests at this instant, of which the sample plan includes 10. -/
def usageAt (id : Id) (occurredAt : Int) : UsageRecord where
  id := id
  subscriptionId := "sub"
  sourceJobId := none
  aggregatedAt := none
  occurredAt := occurredAt
  endpoint := "/v1"
  requestCount := 15

/-- The sample subscription on the plan with overage, used at 50 and at 1050. -/
def billedWorld : World :=
  { sampleWorld (sampleSubscription .active) with
    plans := .singleton overagePlan
    usageRecords := ⟨[usageAt "r1" 50, usageAt "r2" 1050], by decide⟩ }

/-- A second invoice of the subscription, for the given seconds. -/
def secondStripeInvoice (periodStart periodEnd : Int) : StripeInvoice :=
  { sampleStripeInvoice .paid with
    id := "in_2", billingReason := some .subscriptionUpdate, periodStart, periodEnd }

/-- Calls 0 and 1 handle `invoice.paid` of `in_1` and of the second invoice, the others are
    cycles of the overage worker. -/
def twoPaid (second : StripeInvoice) : Nat → BillingProcess
  | 0 => .webhook (.invoicePaid (sampleStripeInvoice .paid))
  | 1 => .webhook (.invoicePaid second)
  | _ => .collection

def paidTwice (second : StripeInvoice) : BillingProcesses :=
  startBilling toString sampleConfig (twoPaid second) billedWorld

/-- Each invoice is paid and then settled in a cycle of its own. -/
def payAndSettle : List (Choice Nat Env Err) :=
  List.replicate 7 (.run 0 (.available 10 "i1")) ++
    List.replicate 3 (.run 2 (.available 3000 "o1")) ++
    List.replicate 7 (.run 1 (.available 4000 "i2")) ++
    List.replicate 3 (.run 3 (.available 5000 "o2"))

structure ChargedPeriod where
  subscriptionId : Id
  periodStart : Int
  periodEnd : Int
  hasOverage : Bool
  deriving DecidableEq

/-- What an invoice is charged for. -/
def chargedPeriod (P : BillingProcesses) (id : Id) : Option ChargedPeriod :=
  (P.state.invoices.find? id).map fun s =>
    ⟨s.subscriptionId, s.periodStart, s.periodEnd, P.state.HasOverage s⟩

/-- The charged source that `chargedPeriod` has found. -/
private theorem chargedPeriod_eq_some {P : BillingProcesses} {id subscriptionId : Id}
    {periodStart periodEnd : Int}
    (h : chargedPeriod P id = some ⟨subscriptionId, periodStart, periodEnd, true⟩) :
    ∃ s ∈ P.state.invoices.rows, s.id = id ∧ s.subscriptionId = subscriptionId ∧
      s.period = Set.Ico periodStart periodEnd ∧ P.state.HasOverage s := by
  obtain ⟨s, hs, heq⟩ := Option.map_eq_some_iff.mp h
  simp only [ChargedPeriod.mk.injEq, decide_eq_true_eq] at heq
  obtain ⟨hsub, rfl, rfl, hcharged⟩ := heq
  exact ⟨s, Table.mem_of_find? hs, Table.key_of_find? hs, hsub, rfl, hcharged⟩

/-- Nothing is settled in the sample. -/
private theorem sourcesSettled_billedWorld : SourcesSettled billedWorld := fun _ ho => (by cases ho)

/-- The two invoices that are reported. -/
private theorem reported_twoPaid {second a : StripeInvoice} (h : Reported (twoPaid second) a) :
    a = sampleStripeInvoice .paid ∨ a = second := by
  obtain ⟨n, hn⟩ := h
  match n with
  | 0 => exact .inl (Option.some.inj hn).symm
  | 1 => exact .inr (Option.some.inj hn).symm
  | n + 2 => cases hn

/-- Two invoices whose periods follow each other. -/
private theorem periodsApart_twoPaid :
    PeriodsApart "sub" (twoPaid (secondStripeInvoice 1 2)) billedWorld := by
  refine .billed (fun n => ?_) ?_
  · match n with
    | 0 => exact .inr rfl
    | 1 => exact .inr rfl
    | n + 2 => exact .inl rfl
  · have hcross : Disjoint (sampleStripeInvoice .paid).period (secondStripeInvoice 1 2).period :=
      Set.disjoint_left.mpr fun t h h' => absurd (h'.1.trans_lt h.2) (by decide)
    constructor
    case unmanaged =>
      intro subscription plan hrow hplan
      obtain rfl := Option.some.inj hrow
      rfl
    case billed =>
      refine .inr fun a ha => ?_
      rcases reported_twoPaid ha with rfl | rfl <;> rfl
    case ids =>
      intro a ha
      rcases reported_twoPaid ha with rfl | rfl <;> decide
    case named =>
      intro a ha hallow
      rcases reported_twoPaid ha with rfl | rfl <;> cases hallow
    case apart =>
      intro a b ha hb hne
      rcases reported_twoPaid ha with rfl | rfl <;> rcases reported_twoPaid hb with rfl | rfl
      · exact absurd rfl hne
      · exact hcross
      · exact hcross.symm
      · exact absurd rfl hne
    -- there are no invoices before the run
    all_goals exact fun r hr => (by cases hr)

/-- Both invoices of the period charge its usage. -/
theorem not_overage_billsOnce :
    ¬∀ P, Reach .free (fun _ _ => True) (paidTwice (secondStripeInvoice 0 1)) P →
      ∀ s₁ ∈ P.state.invoices.rows, ∀ s₂ ∈ P.state.invoices.rows, s₁.subscriptionId = "sub" →
        s₂.subscriptionId = "sub" → P.state.HasOverage s₁ → P.state.HasOverage s₂ → s₁.id ≠ s₂.id →
          Disjoint s₁.period s₂.period := by
  intro h
  -- one period, charged under two invoices
  have hfacts : (runSchedule .free payAndSettle (paidTwice (secondStripeInvoice 0 1))).map (fun P =>
      (chargedPeriod P "i1", chargedPeriod P "i2")) =
      some (some ⟨"sub", 0, 1000, true⟩, some ⟨"sub", 0, 1000, true⟩) := by
    decide +kernel
  obtain ⟨P, hP, hfacts⟩ := Option.map_eq_some_iff.mp hfacts
  obtain ⟨h₁, h₂⟩ := Prod.mk.inj hfacts
  obtain ⟨s₁, hs₁, hid₁, hsub₁, hperiod₁, hcharged₁⟩ := chargedPeriod_eq_some h₁
  obtain ⟨s₂, hs₂, hid₂, hsub₂, hperiod₂, hcharged₂⟩ := chargedPeriod_eq_some h₂
  have hdisjoint := h P (reach_runSchedule _ .init hP) s₁ hs₁ s₂ hs₂ hsub₁ hsub₂ hcharged₁ hcharged₂
    (by rw [hid₁, hid₂]; decide)
  rw [hperiod₁, hperiod₂, Set.Ico_disjoint_Ico] at hdisjoint
  exact absurd hdisjoint (by decide)

/-- Invoices of consecutive periods charge the usage of each once. -/
theorem overage_billsOnce_consecutive :
    ∃ P s₁ s₂, runSchedule .free payAndSettle (paidTwice (secondStripeInvoice 1 2)) = some P ∧
      s₁ ∈ P.state.invoices.rows ∧ s₂ ∈ P.state.invoices.rows ∧ P.state.HasOverage s₁ ∧
      P.state.HasOverage s₂ ∧ s₁.id ≠ s₂.id ∧ Disjoint s₁.period s₂.period ∧
      ∀ r, ¬(IsCountedIn r s₁ ∧ IsCountedIn r s₂) := by
  -- two periods that touch, charged under one invoice each
  have hfacts : (runSchedule .free payAndSettle (paidTwice (secondStripeInvoice 1 2))).map (fun P =>
      (chargedPeriod P "i1", chargedPeriod P "i2")) =
      some (some ⟨"sub", 0, 1000, true⟩, some ⟨"sub", 1000, 2000, true⟩) := by
    decide +kernel
  obtain ⟨P, hP, hfacts⟩ := Option.map_eq_some_iff.mp hfacts
  obtain ⟨h₁, h₂⟩ := Prod.mk.inj hfacts
  obtain ⟨s₁, hs₁, hid₁, hsub₁, -, hcharged₁⟩ := chargedPeriod_eq_some h₁
  obtain ⟨s₂, hs₂, hid₂, hsub₂, -, hcharged₂⟩ := chargedPeriod_eq_some h₂
  have hne : s₁.id ≠ s₂.id := by
    rw [hid₁, hid₂]
    decide
  obtain ⟨hdisjoint, hcounted⟩ := overage_billsOnce sourcesSettled_billedWorld periodsApart_twoPaid
    (reach_runSchedule _ .init hP) .init hs₁ hsub₁ hcharged₁ hs₂ hsub₂ hcharged₂ hne
  exact ⟨P, s₁, s₂, hP, hs₁, hs₂, hcharged₁, hcharged₂, hne, hdisjoint, hcounted⟩

end HivePoint
