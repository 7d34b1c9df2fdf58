import HivePoint.Spec.BillingCalls
import HivePoint.Spec.LiveSubscriptions

/-!
# The order in which the events of a purchase arrive

Stripe reports a purchase in five events and promises no order. Every handler looks its rows
up by ids that another handler may still have to store, and swallows the event when it does
not find them. Here any set of the five is handled, one after the other, in any order.

## Key results

- `Purchase.At.handleWebhook`: on the rows of the purchase, a handler does what `deliver` says.
- `Purchase.deliverAll_agrees`: all orders of a set end alike when the events in it agree with
  the local invoice and with each other.
- `Purchase.agrees_of_deliverAll`: they end alike only then.
- `deliveryOrder_iff`: both, for the invoice of any call of `subscribe`.
- `not_deliveryOrder`: a snapshot that is lost, and a period that is copied too early.
-/

namespace HivePoint

open Prog

/-! ### The events -/

/-- The events of one purchase, and the ids that tie them to each other and to the local
    invoice. -/
structure Purchase where
  invoiceId : Id
  externalInvoiceId : String
  externalSubscriptionId : String
  session : CheckoutSession
  created : StripeInvoice
  finalized : StripeInvoice
  paid : StripeInvoice
  snapshot : StripeSubscription
  session_invoiceId : session.metadataInvoiceId = some invoiceId
  session_subscription :
    session.subscription = none ∨ session.subscription = some externalSubscriptionId
  invoice_id : ∀ invoice ∈ [created, finalized, paid], invoice.id = externalInvoiceId
  invoice_metadata : ∀ invoice ∈ [created, finalized, paid],
    ownMetadataInvoiceId invoice = some invoiceId ∧ shouldAllowMetadataInvoiceId invoice = true
  paid_subscription : externalSubscriptionIdOf paid = some externalSubscriptionId
  snapshot_id : snapshot.id = externalSubscriptionId
  snapshot_status : snapshot.status = .active

inductive PurchaseEvent where
  | checkout | created | finalized | paid | updated
  deriving DecidableEq

def PurchaseEvent.all : List PurchaseEvent := [.checkout, .created, .finalized, .paid, .updated]

def Purchase.payload (p : Purchase) : PurchaseEvent → StripeEvent
  | .checkout => .checkoutSessionCompleted p.session
  | .created => .invoiceCreated p.created
  | .finalized => .invoiceFinalized p.finalized
  | .paid => .invoicePaid p.paid
  | .updated => .customerSubscriptionUpdated p.snapshot

/-! ### What becomes of the purchase -/

/-- The columns of the local invoice and of its subscription that the purchase decides. -/
@[ext] structure PurchaseOutcome where
  status : InvoiceStatus
  amountCents : Int
  externalCheckoutSessionId : Option String
  externalInvoiceId : Option String
  periodStart : Int
  periodEnd : Int
  subscriptionStatus : SubscriptionStatus
  externalSubscriptionId : Option String
  currentPeriodStart : Option Int
  currentPeriodEnd : Option Int
  deriving DecidableEq

namespace PurchaseOutcome

def ofRows (invoice : Invoice) (subscription : Subscription) : PurchaseOutcome where
  status := invoice.status
  amountCents := invoice.amountCents
  externalCheckoutSessionId := invoice.externalCheckoutSessionId
  externalInvoiceId := invoice.externalInvoiceId
  periodStart := invoice.periodStart
  periodEnd := invoice.periodEnd
  subscriptionStatus := subscription.status
  externalSubscriptionId := subscription.externalSubscriptionId
  currentPeriodStart := subscription.currentPeriodStart
  currentPeriodEnd := subscription.currentPeriodEnd

/-- A payment activates the subscription for the period that the invoice has by then. -/
def pay (v : PurchaseOutcome) : PurchaseOutcome :=
  { v with
    status := .paid
    subscriptionStatus := .active
    currentPeriodStart := some v.periodStart
    currentPeriodEnd := some v.periodEnd }

/-- A draft event keeps the status. -/
def draft (v : PurchaseOutcome) (invoice : StripeInvoice) : PurchaseOutcome :=
  { v with
    externalInvoiceId := some invoice.id
    amountCents := invoice.total.1
    periodStart := invoice.periodStart * 1000
    periodEnd := invoice.periodEnd * 1000 }

end PurchaseOutcome

def World.purchaseOutcome (w : World) (invoiceId : Id) : Option PurchaseOutcome :=
  (w.findInvoiceWithSubscription invoiceId).map fun found => .ofRows found.1 found.2

/-- The ids that a completed checkout session records. -/
def Purchase.record (p : Purchase) (v : PurchaseOutcome) : PurchaseOutcome :=
  { v with
    externalCheckoutSessionId := some p.session.id
    externalSubscriptionId :=
      if truthy p.session.subscription then p.session.subscription else v.externalSubscriptionId }

/-- What handling one event does to the outcome. -/
def Purchase.deliver (p : Purchase) (v : PurchaseOutcome) : PurchaseEvent → PurchaseOutcome
  | .checkout =>
    if p.session.mode = .setup || p.session.subscription.isNone then (p.record v).pay
    else p.record v
  | .created => v.draft p.created
  | .finalized => v.draft p.finalized
  | .paid =>
    { v with
      externalInvoiceId := some p.externalInvoiceId
      externalSubscriptionId := some p.externalSubscriptionId }.pay
  | .updated =>
    -- without the external id on record the snapshot is lost
    if v.externalSubscriptionId = some p.externalSubscriptionId then
      { v with
        subscriptionStatus := .active
        currentPeriodStart := (extractStripeSubscriptionPeriod p.snapshot).currentPeriodStart
        currentPeriodEnd := (extractStripeSubscriptionPeriod p.snapshot).currentPeriodEnd }
    else v

/-! ### What a set of events decides -/

namespace Purchase

/-- A session that names a subscription names that of the purchase. -/
private theorem session_of_truthy (p : Purchase) (h : truthy p.session.subscription = true) :
    p.session.subscription = some p.externalSubscriptionId := by
  rcases p.session_subscription with hnone | hsome
  · rw [hnone] at h
    cases h
  · exact hsome

/-- A session for a set-up, or without a subscription, is paid when it is completed. -/
def SessionPays (p : Purchase) : Prop := p.session.mode = .setup ∨ p.session.subscription = none

/-- One of the events pays the invoice. -/
def PaysIn (p : Purchase) (events : PurchaseEvent → Prop) : Prop :=
  events .paid ∨ (events .checkout ∧ p.SessionPays)

/-- One of the events stores the external id of the subscription. -/
def StoresIn (p : Purchase) (events : PurchaseEvent → Prop) : Prop :=
  events .paid ∨ (events .checkout ∧ truthy p.session.subscription = true)

/-- The invoice is reported by one of the draft events. -/
def DraftIn (p : Purchase) (events : PurchaseEvent → Prop) (invoice : StripeInvoice) : Prop :=
  (events .created ∧ invoice = p.created) ∨ (events .finalized ∧ invoice = p.finalized)

/-- The drafts report one total and one period, which is that of the local invoice if that gets
    paid; and a snapshot that can be stored comes with a payment and reports that period too. -/
structure Agrees (p : Purchase) (events : Finset PurchaseEvent) (periodStart periodEnd : Int) :
    Prop where
  drafts : ∀ a b, p.DraftIn (· ∈ events) a → p.DraftIn (· ∈ events) b →
    a.total = b.total ∧ a.periodStart = b.periodStart ∧ a.periodEnd = b.periodEnd
  paid : p.PaysIn (· ∈ events) → ∀ a, p.DraftIn (· ∈ events) a →
    a.periodStart * 1000 = periodStart ∧ a.periodEnd * 1000 = periodEnd
  snapshot : .updated ∈ events → p.StoresIn (· ∈ events) → p.PaysIn (· ∈ events) ∧
    extractStripeSubscriptionPeriod p.snapshot = ⟨some periodStart, some periodEnd⟩

section Handled

variable {p : Purchase} {handled : PurchaseEvent → Prop} {event : PurchaseEvent}

/-- One event more pays, or the earlier ones do. -/
private theorem paysIn_cons : p.PaysIn (fun e => event = e ∨ handled e) ↔
    (event = .paid ∨ (event = .checkout ∧ p.SessionPays)) ∨ p.PaysIn handled := by
  simp only [PaysIn]
  tauto

/-- One event more stores the id of the subscription, or the earlier ones do. -/
private theorem storesIn_cons : p.StoresIn (fun e => event = e ∨ handled e) ↔
    (event = .paid ∨ (event = .checkout ∧ truthy p.session.subscription = true)) ∨
      p.StoresIn handled := by
  simp only [StoresIn]
  tauto

/-- One event more is a draft, or the earlier ones have one. -/
private theorem draftIn_cons {invoice : StripeInvoice} :
    p.DraftIn (fun e => event = e ∨ handled e) invoice ↔
      (event = .created ∧ invoice = p.created ∨ event = .finalized ∧ invoice = p.finalized) ∨
        p.DraftIn handled invoice := by
  simp only [DraftIn]
  tauto

/-- More events have more drafts. -/
theorem DraftIn.mono {events : PurchaseEvent → Prop} {invoice : StripeInvoice}
    (h : p.DraftIn handled invoice) (hsub : ∀ e, handled e → events e) : p.DraftIn events invoice :=
  h.imp (fun h => ⟨hsub _ h.1, h.2⟩) fun h => ⟨hsub _ h.1, h.2⟩

end Handled

end Purchase

/-! ### Orders that cannot be told apart -/

section Outcome

variable {p : Purchase} {events : Finset PurchaseEvent} {v u : PurchaseOutcome}

/-- What the outcome `u` owes to the events that have been handled, out of those that the purchase
    `v` meets in all. -/
structure Purchase.Settles (p : Purchase) (events : Finset PurchaseEvent) (v : PurchaseOutcome)
    (handled : PurchaseEvent → Prop) (u : PurchaseOutcome) : Prop where
  paid : p.PaysIn handled → u.status = .paid ∧ u.subscriptionStatus = .active ∧
    u.currentPeriodStart = some v.periodStart ∧ u.currentPeriodEnd = some v.periodEnd
  unpaid : ¬p.PaysIn handled → u.status = v.status
  draft : ∀ a, p.DraftIn handled a → u.amountCents = a.total.1 ∧
    u.periodStart = a.periodStart * 1000 ∧ u.periodEnd = a.periodEnd * 1000
  undrafted : (∀ a, ¬p.DraftIn handled a) → u.amountCents = v.amountCents ∧
    u.periodStart = v.periodStart ∧ u.periodEnd = v.periodEnd
  checkout : handled .checkout → u.externalCheckoutSessionId = some p.session.id
  unchecked : ¬handled .checkout → u.externalCheckoutSessionId = v.externalCheckoutSessionId
  invoiceId : (p.DraftIn handled p.created ∨ p.DraftIn handled p.finalized ∨ handled .paid) →
    u.externalInvoiceId = some p.externalInvoiceId
  noInvoiceId : (∀ a, ¬p.DraftIn handled a) → ¬handled .paid →
    u.externalInvoiceId = v.externalInvoiceId
  stored : p.StoresIn handled → u.externalSubscriptionId = some p.externalSubscriptionId
  unstored : ¬p.StoresIn handled → u.externalSubscriptionId = v.externalSubscriptionId
  /-- Without a payment among the events no snapshot can be stored either. -/
  standing : ¬p.PaysIn (· ∈ events) → u.subscriptionStatus = v.subscriptionStatus ∧
    u.currentPeriodStart = v.currentPeriodStart ∧ u.currentPeriodEnd = v.currentPeriodEnd

/-- Before the first event. -/
private theorem Purchase.settles_nil : p.Settles events v (fun _ => False) v where
  paid h := by simp [Purchase.PaysIn] at h
  unpaid _ := rfl
  draft a h := by simp [Purchase.DraftIn] at h
  undrafted _ := ⟨rfl, rfl, rfl⟩
  checkout h := h.elim
  unchecked _ := rfl
  invoiceId h := by simp [Purchase.DraftIn] at h
  noInvoiceId _ _ := rfl
  stored h := by simp [Purchase.StoresIn] at h
  unstored _ := rfl
  standing _ := ⟨rfl, rfl, rfl⟩

/-- Two outcomes that owe the same to the same events are one, if no event is left. -/
theorem Purchase.Settles.unique {u' : PurchaseOutcome}
    (h : p.Settles events v (· ∈ events) u) (h' : p.Settles events v (· ∈ events) u') : u = u' := by
  -- the columns that a draft writes
  have hdraft : u.amountCents = u'.amountCents ∧ u.periodStart = u'.periodStart ∧
      u.periodEnd = u'.periodEnd := by
    by_cases hsome : ∃ a, p.DraftIn (· ∈ events) a
    · obtain ⟨a, ha⟩ := hsome
      obtain ⟨h₁, h₂, h₃⟩ := h.draft a ha
      obtain ⟨h₁', h₂', h₃'⟩ := h'.draft a ha
      exact ⟨h₁.trans h₁'.symm, h₂.trans h₂'.symm, h₃.trans h₃'.symm⟩
    · have hnone := not_exists.mp hsome
      obtain ⟨h₁, h₂, h₃⟩ := h.undrafted hnone
      obtain ⟨h₁', h₂', h₃'⟩ := h'.undrafted hnone
      exact ⟨h₁.trans h₁'.symm, h₂.trans h₂'.symm, h₃.trans h₃'.symm⟩
  -- the columns that a payment writes
  have hstanding : u.status = u'.status ∧ u.subscriptionStatus = u'.subscriptionStatus ∧
      u.currentPeriodStart = u'.currentPeriodStart ∧ u.currentPeriodEnd = u'.currentPeriodEnd := by
    by_cases hpays : p.PaysIn (· ∈ events)
    · obtain ⟨h₁, h₂, h₃, h₄⟩ := h.paid hpays
      obtain ⟨h₁', h₂', h₃', h₄'⟩ := h'.paid hpays
      exact ⟨h₁.trans h₁'.symm, h₂.trans h₂'.symm, h₃.trans h₃'.symm, h₄.trans h₄'.symm⟩
    · obtain ⟨h₂, h₃, h₄⟩ := h.standing hpays
      obtain ⟨h₂', h₃', h₄'⟩ := h'.standing hpays
      exact ⟨(h.unpaid hpays).trans (h'.unpaid hpays).symm, h₂.trans h₂'.symm, h₃.trans h₃'.symm,
        h₄.trans h₄'.symm⟩
  -- the columns that any event which names them writes
  have hsession : u.externalCheckoutSessionId = u'.externalCheckoutSessionId := by
    by_cases hcheckout : .checkout ∈ events
    · exact (h.checkout hcheckout).trans (h'.checkout hcheckout).symm
    · exact (h.unchecked hcheckout).trans (h'.unchecked hcheckout).symm
  have hinvoiceId : u.externalInvoiceId = u'.externalInvoiceId := by
    by_cases hsome : p.DraftIn (· ∈ events) p.created ∨ p.DraftIn (· ∈ events) p.finalized ∨
        .paid ∈ events
    · exact (h.invoiceId hsome).trans (h'.invoiceId hsome).symm
    · have hnone : ∀ a, ¬p.DraftIn (· ∈ events) a := by
        rintro a (⟨hmem, rfl⟩ | ⟨hmem, rfl⟩)
        · exact hsome (.inl (.inl ⟨hmem, rfl⟩))
        · exact hsome (.inr (.inl (.inr ⟨hmem, rfl⟩)))
      have hunpaid : .paid ∉ events := fun hmem => hsome (.inr (.inr hmem))
      exact (h.noInvoiceId hnone hunpaid).trans (h'.noInvoiceId hnone hunpaid).symm
  have hstored : u.externalSubscriptionId = u'.externalSubscriptionId := by
    by_cases hstores : p.StoresIn (· ∈ events)
    · exact (h.stored hstores).trans (h'.stored hstores).symm
    · exact (h.unstored hstores).trans (h'.unstored hstores).symm
  exact PurchaseOutcome.ext hstanding.1 hdraft.1 hsession hinvoiceId hdraft.2.1 hdraft.2.2
    hstanding.2.1 hstored hstanding.2.2.1 hstanding.2.2.2

section Deliver

variable {handled : PurchaseEvent → Prop} (hp : p.Agrees events v.periodStart v.periodEnd)
  (hnew : v.externalSubscriptionId = none) (h : p.Settles events v handled u)
  (hsub : ∀ e, handled e → e ∈ events)

include hp h hsub in
/-- An invoice that gets paid keeps its period. -/
theorem Purchase.Settles.period (hpays : p.PaysIn (· ∈ events)) :
    u.periodStart = v.periodStart ∧ u.periodEnd = v.periodEnd := by
  by_cases hsome : ∃ a, p.DraftIn handled a
  · obtain ⟨a, ha⟩ := hsome
    obtain ⟨-, hstart, hend⟩ := h.draft a ha
    obtain ⟨hstart', hend'⟩ := hp.paid hpays a (ha.mono hsub)
    exact ⟨hstart.trans hstart', hend.trans hend'⟩
  · exact (h.undrafted (not_exists.mp hsome)).2

include hp h hsub in
/-- A draft settles the amount, the period and the external id of the invoice. -/
private theorem Purchase.Settles.draftEvent {event : PurchaseEvent} {invoice : StripeInvoice}
    (hevent : event = .created ∧ invoice = p.created ∨ event = .finalized ∧ invoice = p.finalized)
    (hmem : event ∈ events) :
    p.Settles events v (fun e => event = e ∨ handled e) (u.draft invoice) := by
  have hne : event ≠ .paid ∧ event ≠ .checkout := by
    rcases hevent with ⟨rfl, -⟩ | ⟨rfl, -⟩ <;> decide
  have hpays : p.PaysIn (fun e => event = e ∨ handled e) ↔ p.PaysIn handled := by
    simp [Purchase.paysIn_cons, hne.1, hne.2]
  have hstores : p.StoresIn (fun e => event = e ∨ handled e) ↔ p.StoresIn handled := by
    simp [Purchase.storesIn_cons, hne.1, hne.2]
  have hthis : p.DraftIn (fun e => event = e ∨ handled e) invoice :=
    Purchase.draftIn_cons.mpr (.inl hevent)
  have hsub' : ∀ e, event = e ∨ handled e → e ∈ events := by
    rintro e (rfl | he)
    · exact hmem
    · exact hsub e he
  constructor
  case paid => exact fun hh => h.paid (hpays.mp hh)
  case unpaid => exact fun hh => h.unpaid fun hh' => hh (hpays.mpr hh')
  case draft =>
    intro a ha
    -- all drafts among the events say the same
    obtain ⟨htotal, hstart, hend⟩ := hp.drafts invoice a (hthis.mono hsub') (ha.mono hsub')
    refine ⟨?_, ?_, ?_⟩
    · rw [← htotal]
      rfl
    · rw [← hstart]
      rfl
    · rw [← hend]
      rfl
  case undrafted => exact fun hnone => absurd hthis (hnone invoice)
  case checkout => exact fun hh => h.checkout (hh.resolve_left hne.2)
  case unchecked => exact fun hh => h.unchecked fun hh' => hh (.inr hh')
  case invoiceId =>
    intro _
    refine congrArg some (p.invoice_id invoice ?_)
    rcases hevent with ⟨-, rfl⟩ | ⟨-, rfl⟩ <;> simp
  case noInvoiceId => exact fun hnone => absurd hthis (hnone invoice)
  case stored => exact fun hh => h.stored (hstores.mp hh)
  case unstored => exact fun hh => h.unstored fun hh' => hh (hstores.mpr hh')
  case standing => exact h.standing

include hp hnew h hsub in
/-- Each event settles its columns, and keeps those that another one has settled. -/
private theorem Purchase.settles_deliver {event : PurchaseEvent} (hmem : event ∈ events) :
    p.Settles events v (fun e => event = e ∨ handled e) (p.deliver u event) := by
  cases event with
  | created => exact h.draftEvent hp hsub (.inl ⟨rfl, rfl⟩) hmem
  | finalized => exact h.draftEvent hp hsub (.inr ⟨rfl, rfl⟩) hmem
  | checkout =>
    have hdraft : ∀ a, p.DraftIn (fun e => .checkout = e ∨ handled e) a ↔ p.DraftIn handled a := by
      simp [Purchase.draftIn_cons]
    have hstores : p.StoresIn (fun e => .checkout = e ∨ handled e) ↔
        truthy p.session.subscription = true ∨ p.StoresIn handled := by
      simp [Purchase.storesIn_cons]
    have hpays : p.PaysIn (fun e => .checkout = e ∨ handled e) ↔ p.SessionPays ∨
        p.PaysIn handled := by
      simp [Purchase.paysIn_cons]
    -- the ids are recorded whether the session pays or not
    have hstored : p.StoresIn (fun e => .checkout = e ∨ handled e) →
        (p.record u).externalSubscriptionId = some p.externalSubscriptionId := by
      intro hh
      simp only [Purchase.record]
      rcases hstores.mp hh with htruthy | hh
      · rw [if_pos htruthy]
        exact p.session_of_truthy htruthy
      · split
        · rename_i htruthy
          exact p.session_of_truthy htruthy
        · exact h.stored hh
    have hunstored : ¬p.StoresIn (fun e => .checkout = e ∨ handled e) →
        (p.record u).externalSubscriptionId = v.externalSubscriptionId := by
      intro hh
      rw [hstores, not_or] at hh
      simp only [Purchase.record, if_neg hh.1]
      exact h.unstored hh.2
    have hinvoiceId : (p.DraftIn (fun e => .checkout = e ∨ handled e) p.created ∨
        p.DraftIn (fun e => .checkout = e ∨ handled e) p.finalized ∨
          (.checkout = PurchaseEvent.paid ∨ handled .paid)) →
        u.externalInvoiceId = some p.externalInvoiceId := by
      intro hh
      refine h.invoiceId (hh.imp (hdraft _).mp fun hh => hh.imp (hdraft _).mp fun hh => ?_)
      exact hh.resolve_left (by decide)
    have hpaysIn : p.SessionPays → p.PaysIn (· ∈ events) := fun hsession => .inr ⟨hmem, hsession⟩
    simp only [Purchase.deliver]
    split
    · rename_i hsession
      replace hsession : p.SessionPays := by
        simpa [Purchase.SessionPays, Option.isNone_iff_eq_none] using hsession
      obtain ⟨hstart, hend⟩ := h.period hp hsub (hpaysIn hsession)
      constructor
      case paid => exact fun _ => ⟨rfl, rfl, congrArg some hstart, congrArg some hend⟩
      case unpaid => exact fun hh => absurd (hpays.mpr (.inl hsession)) hh
      case draft => exact fun a ha => h.draft a ((hdraft a).mp ha)
      case undrafted => exact fun hnone => h.undrafted fun a ha => hnone a ((hdraft a).mpr ha)
      case checkout => exact fun _ => rfl
      case unchecked => exact fun hh => absurd (.inl rfl) hh
      case invoiceId => exact hinvoiceId
      case noInvoiceId =>
        exact fun hnone hh => h.noInvoiceId (fun a ha => hnone a ((hdraft a).mpr ha))
          fun hh' => hh (.inr hh')
      case stored => exact hstored
      case unstored => exact hunstored
      case standing => exact fun hh => absurd (hpaysIn hsession) hh
    · rename_i hsession
      replace hsession : ¬p.SessionPays := by
        simpa [Purchase.SessionPays, Option.isNone_iff_eq_none] using hsession
      constructor
      case paid => exact fun hh => h.paid ((hpays.mp hh).resolve_left hsession)
      case unpaid => exact fun hh => h.unpaid fun hh' => hh (hpays.mpr (.inr hh'))
      case draft => exact fun a ha => h.draft a ((hdraft a).mp ha)
      case undrafted => exact fun hnone => h.undrafted fun a ha => hnone a ((hdraft a).mpr ha)
      case checkout => exact fun _ => rfl
      case unchecked => exact fun hh => absurd (.inl rfl) hh
      case invoiceId => exact hinvoiceId
      case noInvoiceId =>
        exact fun hnone hh => h.noInvoiceId (fun a ha => hnone a ((hdraft a).mpr ha))
          fun hh' => hh (.inr hh')
      case stored => exact hstored
      case unstored => exact hunstored
      case standing => exact h.standing
  | paid =>
    have hdraft : ∀ a, p.DraftIn (fun e => .paid = e ∨ handled e) a ↔ p.DraftIn handled a := by
      simp [Purchase.draftIn_cons]
    obtain ⟨hstart, hend⟩ := h.period hp hsub (.inl hmem)
    constructor
    case paid => exact fun _ => ⟨rfl, rfl, congrArg some hstart, congrArg some hend⟩
    case unpaid => exact fun hh => absurd (Purchase.paysIn_cons.mpr (.inl (.inl rfl))) hh
    case draft => exact fun a ha => h.draft a ((hdraft a).mp ha)
    case undrafted => exact fun hnone => h.undrafted fun a ha => hnone a ((hdraft a).mpr ha)
    case checkout => exact fun hh => h.checkout (hh.resolve_left (by decide))
    case unchecked => exact fun hh => h.unchecked fun hh' => hh (.inr hh')
    case invoiceId => exact fun _ => rfl
    case noInvoiceId => exact fun _ hh => absurd (.inl rfl) hh
    case stored => exact fun _ => rfl
    case unstored => exact fun hh => absurd (Purchase.storesIn_cons.mpr (.inl (.inl rfl))) hh
    case standing => exact fun hh => absurd (.inl hmem) hh
  | updated =>
    have hdraft : ∀ a, p.DraftIn (fun e => .updated = e ∨ handled e) a ↔ p.DraftIn handled a := by
      simp [Purchase.draftIn_cons]
    have hstores : p.StoresIn (fun e => .updated = e ∨ handled e) ↔ p.StoresIn handled := by
      simp [Purchase.storesIn_cons]
    have hpays : p.PaysIn (fun e => .updated = e ∨ handled e) ↔ p.PaysIn handled := by
      simp [Purchase.paysIn_cons]
    have hids : ∀ u' : PurchaseOutcome, u'.status = u.status → u'.amountCents = u.amountCents →
        u'.externalCheckoutSessionId = u.externalCheckoutSessionId →
        u'.externalInvoiceId = u.externalInvoiceId → u'.periodStart = u.periodStart →
        u'.periodEnd = u.periodEnd → u'.externalSubscriptionId = u.externalSubscriptionId →
        (p.PaysIn handled → u'.subscriptionStatus = .active ∧
          u'.currentPeriodStart = some v.periodStart ∧ u'.currentPeriodEnd = some v.periodEnd) →
        (¬p.PaysIn (· ∈ events) → u'.subscriptionStatus = v.subscriptionStatus ∧
          u'.currentPeriodStart = v.currentPeriodStart ∧ u'.currentPeriodEnd = v.currentPeriodEnd) →
        p.Settles events v (fun e => .updated = e ∨ handled e) u' := by
      intro u' hstatus hamount hsession hinvoiceId hstart hend hstored hpaid hstanding
      constructor
      case paid => exact fun hh => ⟨hstatus.trans (h.paid (hpays.mp hh)).1, hpaid (hpays.mp hh)⟩
      case unpaid => exact fun hh => hstatus.trans (h.unpaid fun hh' => hh (hpays.mpr hh'))
      case draft =>
        intro a ha
        rw [hamount, hstart, hend]
        exact h.draft a ((hdraft a).mp ha)
      case undrafted =>
        intro hnone
        rw [hamount, hstart, hend]
        exact h.undrafted fun a ha => hnone a ((hdraft a).mpr ha)
      case checkout => exact fun hh => hsession.trans (h.checkout (hh.resolve_left (by decide)))
      case unchecked => exact fun hh => hsession.trans (h.unchecked fun hh' => hh (.inr hh'))
      case invoiceId =>
        intro hh
        refine hinvoiceId.trans (h.invoiceId (hh.imp (hdraft _).mp fun hh =>
          hh.imp (hdraft _).mp fun hh => hh.resolve_left (by decide)))
      case noInvoiceId =>
        exact fun hnone hh => hinvoiceId.trans (h.noInvoiceId
          (fun a ha => hnone a ((hdraft a).mpr ha)) fun hh' => hh (.inr hh'))
      case stored => exact fun hh => hstored.trans (h.stored (hstores.mp hh))
      case unstored => exact fun hh => hstored.trans (h.unstored fun hh' => hh (hstores.mpr hh'))
      case standing => exact hstanding
    simp only [Purchase.deliver]
    split
    · rename_i hfound
      -- the snapshot is found, so its id has been stored, and there is a payment among the events
      have hstoresIn : p.StoresIn handled := by
        by_contra hnone
        rw [h.unstored hnone, hnew] at hfound
        cases hfound
      have hstoresIn : p.StoresIn (· ∈ events) :=
        hstoresIn.imp (hsub _) fun hh => ⟨hsub _ hh.1, hh.2⟩
      obtain ⟨hpaysIn, hsnapshot⟩ := hp.snapshot hmem hstoresIn
      refine hids _ rfl rfl rfl rfl rfl rfl rfl (fun _ => ⟨rfl, ?_, ?_⟩)
        fun hh => absurd hpaysIn hh
      · rw [hsnapshot]
      · rw [hsnapshot]
    · exact hids u rfl rfl rfl rfl rfl rfl rfl (fun hh => (h.paid hh).2) h.standing

end Deliver

/-- After any list of the events the outcome owes to each of them what it settles. -/
private theorem Purchase.settles_deliverAll (hp : p.Agrees events v.periodStart v.periodEnd)
    (hnew : v.externalSubscriptionId = none) {handled : PurchaseEvent → Prop}
    (h : p.Settles events v handled u) (hsub : ∀ e, handled e → e ∈ events)
    {order : List PurchaseEvent} (horder : ∀ e ∈ order, e ∈ events) :
    p.Settles events v (fun e => e ∈ order ∨ handled e) (order.foldl p.deliver u) := by
  -- induction on the order; the events handled so far grow by one
  induction order generalizing handled u with
  | nil => simpa using h
  | cons event order ih =>
    have hmem := horder event List.mem_cons_self
    have hrest := ih (p.settles_deliver hp hnew h hsub hmem)
      (by
        rintro e (rfl | he)
        · exact hmem
        · exact hsub e he)
      fun e he => horder e (List.mem_cons_of_mem _ he)
    simpa only [List.foldl_cons, List.mem_cons, or_assoc, or_left_comm, @eq_comm _ event]
      using hrest

/-- All orders of the events end alike, if Stripe agrees with the local invoice. -/
theorem Purchase.deliverAll_agrees (hp : p.Agrees events v.periodStart v.periodEnd)
    (hnew : v.externalSubscriptionId = none) {order order' : List PurchaseEvent}
    (horder : ∀ e, e ∈ order ↔ e ∈ events) (horder' : ∀ e, e ∈ order' ↔ e ∈ events) :
    order.foldl p.deliver v = order'.foldl p.deliver v := by
  have hall : ∀ {l : List PurchaseEvent}, (∀ e, e ∈ l ↔ e ∈ events) →
      p.Settles events v (· ∈ events) (l.foldl p.deliver v) := by
    intro l hl
    have hsettled := p.settles_deliverAll hp hnew p.settles_nil (fun _ hh => hh.elim)
      fun e he => (hl e).mp he
    simpa only [or_false, hl] using hsettled
  exact (hall horder).unique (hall horder')

/-! ### Orders that tell the events apart -/

/-- The events of the set, one after the other. -/
def IsOrder (events : Finset PurchaseEvent) (order : List PurchaseEvent) : Prop :=
  order.Nodup ∧ ∀ e, e ∈ order ↔ e ∈ events

/-- The events of the set in an order that ends with those of `last`. -/
def orderEnding (events : Finset PurchaseEvent) (last : List PurchaseEvent) :
    List PurchaseEvent :=
  PurchaseEvent.all.filter (fun e => e ∈ events ∧ e ∉ last) ++ last

/-- The list of the events holds them all. -/
private theorem PurchaseEvent.mem_all (e : PurchaseEvent) : e ∈ PurchaseEvent.all := by
  cases e <;> decide

/-- The events, with those of `last` at the end, are an order of them. -/
private theorem isOrder_orderEnding {last : List PurchaseEvent} (hlast : last.Nodup)
    (hsub : ∀ e ∈ last, e ∈ events) : IsOrder events (orderEnding events last) := by
  have hall : PurchaseEvent.all.Nodup := by decide
  constructor
  · rw [orderEnding, List.nodup_append]
    refine ⟨hall.filter _, hlast, fun e he e' he' heq => ?_⟩
    have hnot := (of_decide_eq_true (List.mem_filter.mp he).2).2
    exact hnot (heq ▸ he')
  · intro e
    simp only [orderEnding, List.mem_append, List.mem_filter, PurchaseEvent.mem_all, true_and,
      decide_eq_true_eq]
    by_cases he : e ∈ last
    · simp [he, hsub e he]
    · simp [he]

/-- The drafts that are among the events. -/
def draftsIn (events : Finset PurchaseEvent) : List PurchaseEvent :=
  [.created, .finalized].filter (· ∈ events)

/-- The drafts are the events that carry one. -/
private theorem mem_draftsIn {e : PurchaseEvent} :
    e ∈ draftsIn events ↔ (e = .created ∨ e = .finalized) ∧ e ∈ events := by
  simp [draftsIn]

/-- Only a draft changes the period of the invoice. -/
private theorem Purchase.foldl_deliver_period (order : List PurchaseEvent)
    (horder : ∀ e ∈ order, ¬(e = .created ∨ e = .finalized)) :
    (order.foldl p.deliver u).periodStart = u.periodStart ∧
      (order.foldl p.deliver u).periodEnd = u.periodEnd := by
  -- induction on the order: no event of it is a draft
  induction order generalizing u with
  | nil => exact ⟨rfl, rfl⟩
  | cons e order ih =>
    obtain ⟨hstart, hend⟩ := ih (u := p.deliver u e) fun e' he' =>
      horder e' (List.mem_cons_of_mem _ he')
    have hkept : (p.deliver u e).periodStart = u.periodStart ∧
        (p.deliver u e).periodEnd = u.periodEnd := by
      have hnot := horder e List.mem_cons_self
      cases e with
      | created => exact absurd (.inl rfl) hnot
      | finalized => exact absurd (.inr rfl) hnot
      | checkout =>
        simp only [Purchase.deliver]
        split <;> exact ⟨rfl, rfl⟩
      | paid => exact ⟨rfl, rfl⟩
      | updated =>
        simp only [Purchase.deliver]
        split <;> exact ⟨rfl, rfl⟩
    exact ⟨hstart.trans hkept.1, hend.trans hkept.2⟩

/-- A draft leaves the period of the subscription alone. -/
private theorem Purchase.foldl_deliver_drafts (order : List PurchaseEvent)
    (horder : ∀ e ∈ order, e = .created ∨ e = .finalized) :
    (order.foldl p.deliver u).currentPeriodStart = u.currentPeriodStart ∧
      (order.foldl p.deliver u).currentPeriodEnd = u.currentPeriodEnd := by
  induction order generalizing u with
  | nil => exact ⟨rfl, rfl⟩
  | cons e order ih =>
    have hrest := ih (u := p.deliver u e) fun e' he' => horder e' (List.mem_cons_of_mem _ he')
    rcases horder e List.mem_cons_self with rfl | rfl
    · exact hrest
    · exact hrest

/-- Neither the snapshot nor a payment: the status of the subscription stays. -/
private theorem Purchase.foldl_deliver_unpaid {order : List PurchaseEvent}
    (horder : ∀ e ∈ order, e ≠ .updated ∧ e ≠ .paid ∧ (e = .checkout → ¬p.SessionPays)) :
    (order.foldl p.deliver u).subscriptionStatus = u.subscriptionStatus := by
  -- induction on the order: no event of it writes the status
  induction order generalizing u with
  | nil => rfl
  | cons e order ih =>
    have hrest := ih (u := p.deliver u e) fun e' he' => horder e' (List.mem_cons_of_mem _ he')
    obtain ⟨hupdated, hpaid, hcheckout⟩ := horder e List.mem_cons_self
    cases e with
    | created => exact hrest
    | finalized => exact hrest
    | paid => exact absurd rfl hpaid
    | updated => exact absurd rfl hupdated
    | checkout =>
      rw [List.foldl_cons, hrest]
      simp only [Purchase.deliver]
      -- a checkout that pays is excluded by the hypothesis
      split
      · rename_i hpays
        refine absurd ?_ (hcheckout rfl)
        simpa [Purchase.SessionPays, Option.isNone_iff_eq_none] using hpays
      · rfl

/-- An event that pays sets the period of the subscription to what the invoice has by then. -/
private theorem Purchase.deliver_pays {payer : PurchaseEvent}
    (hpayer : payer = .paid ∨ payer = .checkout ∧ p.SessionPays) :
    (p.deliver u payer).currentPeriodStart = some u.periodStart ∧
      (p.deliver u payer).currentPeriodEnd = some u.periodEnd := by
  rcases hpayer with rfl | ⟨rfl, hpays⟩
  · exact ⟨rfl, rfl⟩
  · simp only [Purchase.deliver]
    split
    · exact ⟨rfl, rfl⟩
    · rename_i hnot
      refine absurd ?_ hnot
      simpa [Purchase.SessionPays, Option.isNone_iff_eq_none] using hpays

/-- An event that stores the id of the subscription. -/
private theorem Purchase.deliver_stores {storing : PurchaseEvent}
    (hstoring : storing = .paid ∨ storing = .checkout ∧ truthy p.session.subscription = true) :
    (p.deliver u storing).externalSubscriptionId = some p.externalSubscriptionId := by
  rcases hstoring with rfl | ⟨rfl, htruthy⟩
  · rfl
  · have hsome : (p.record u).externalSubscriptionId = some p.externalSubscriptionId := by
      rw [Purchase.record, if_pos htruthy, p.session_of_truthy htruthy]
    simp only [Purchase.deliver]
    split
    · exact hsome
    · exact hsome

/-- A payment, and the drafts after it, may end an order. -/
private theorem Purchase.isOrder_orderEnding_drafts {payer : PurchaseEvent}
    (hpayer : payer = .paid ∨ payer = .checkout ∧ p.SessionPays) (hmem : payer ∈ events) :
    IsOrder events (orderEnding events (payer :: draftsIn events)) := by
  have hdrafts : [PurchaseEvent.created, .finalized].Nodup := by decide
  refine isOrder_orderEnding (List.nodup_cons.mpr ⟨fun h => ?_, hdrafts.filter _⟩) ?_
  · rcases (mem_draftsIn.mp h).1 with rfl | rfl <;> rcases hpayer with h | ⟨h, -⟩ <;> cases h
  · intro e he
    rcases List.mem_cons.mp he with rfl | he
    · exact hmem
    · exact (mem_draftsIn.mp he).2

variable (events v) in
/-- Paid before the drafts arrive, the subscription gets the period that the invoice had. -/
private theorem Purchase.foldl_orderEnding_drafts {payer : PurchaseEvent}
    (hpayer : payer = .paid ∨ payer = .checkout ∧ p.SessionPays) :
    ((orderEnding events (payer :: draftsIn events)).foldl p.deliver v).currentPeriodStart =
        some v.periodStart ∧
      ((orderEnding events (payer :: draftsIn events)).foldl p.deliver v).currentPeriodEnd =
        some v.periodEnd := by
  rw [orderEnding, List.foldl_append, List.foldl_cons]
  obtain ⟨hstart, hend⟩ := p.foldl_deliver_drafts (draftsIn events)
    (u := p.deliver ((PurchaseEvent.all.filter
      (fun e => e ∈ events ∧ e ∉ payer :: draftsIn events)).foldl p.deliver v) payer)
    fun e he => (mem_draftsIn.mp he).1
  obtain ⟨hpaid, hpaid'⟩ := p.deliver_pays (u := (PurchaseEvent.all.filter
    (fun e => e ∈ events ∧ e ∉ payer :: draftsIn events)).foldl p.deliver v) hpayer
  -- no draft comes before the payment
  obtain ⟨hkept, hkept'⟩ := p.foldl_deliver_period (u := v) (PurchaseEvent.all.filter
      (fun e => e ∈ events ∧ e ∉ payer :: draftsIn events)) (by
    intro e he hdraft
    obtain ⟨hmem, hnot⟩ := of_decide_eq_true (List.mem_filter.mp he).2
    exact hnot (List.mem_cons_of_mem _ (mem_draftsIn.mpr ⟨hdraft, hmem⟩)))
  rw [hstart, hend, hpaid, hpaid', hkept, hkept']
  exact ⟨rfl, rfl⟩

section OnlyIf

variable (hsame : ∀ order order', IsOrder events order → IsOrder events order' →
  order.foldl p.deliver v = order'.foldl p.deliver v)

include hsame in
/-- A draft, and then the other: the later one's total and period stand. -/
private theorem Purchase.drafts_of_deliverAll (hcreated : .created ∈ events)
    (hfinalized : .finalized ∈ events) : p.created.total = p.finalized.total ∧
      p.created.periodStart = p.finalized.periodStart ∧
        p.created.periodEnd = p.finalized.periodEnd := by
  -- the two orders that differ in the draft that comes last
  have hone : IsOrder events (orderEnding events [.created, .finalized]) :=
    isOrder_orderEnding (by decide) (by simp [hcreated, hfinalized])
  have hother : IsOrder events (orderEnding events [.finalized, .created]) :=
    isOrder_orderEnding (by decide) (by simp [hcreated, hfinalized])
  have heq := hsame _ _ hother hone
  simp only [orderEnding, List.foldl_append, List.foldl_cons, List.foldl_nil,
    Purchase.deliver] at heq
  have hamount := congrArg PurchaseOutcome.amountCents heq
  have hstart := congrArg PurchaseOutcome.periodStart heq
  have hend := congrArg PurchaseOutcome.periodEnd heq
  simp only [PurchaseOutcome.draft] at hamount hstart hend
  exact ⟨Subtype.ext hamount, by omega, by omega⟩

include hsame in
/-- A payment copies the period of the draft before it, or that of the local invoice. -/
private theorem Purchase.paid_of_deliverAll {payer draft : PurchaseEvent} {invoice : StripeInvoice}
    (hpayer : payer = .paid ∨ payer = .checkout ∧ p.SessionPays)
    (hdraft : draft = .created ∧ invoice = p.created ∨
      draft = .finalized ∧ invoice = p.finalized)
    (hmem : payer ∈ events) (hmem' : draft ∈ events) :
    invoice.periodStart * 1000 = v.periodStart ∧ invoice.periodEnd * 1000 = v.periodEnd := by
  have hne : draft ≠ payer := by
    rcases hdraft with ⟨rfl, -⟩ | ⟨rfl, -⟩ <;> rcases hpayer with rfl | ⟨rfl, -⟩ <;> decide
  -- the order that ends with the draft and then the payment
  have hlate : IsOrder events (orderEnding events [draft, payer]) :=
    isOrder_orderEnding (by simp [hne]) (by simp [hmem, hmem'])
  -- the order that ends with the payment and then the drafts
  have hearly := p.isOrder_orderEnding_drafts hpayer hmem
  obtain ⟨hstart, hend⟩ := p.foldl_orderEnding_drafts events v hpayer
  rw [← hsame _ _ hlate hearly] at hstart hend
  simp only [orderEnding, List.foldl_append, List.foldl_cons, List.foldl_nil] at hstart hend
  -- in the former the subscription gets the period of the draft
  obtain ⟨hpaid, hpaid'⟩ := p.deliver_pays (u := p.deliver ((PurchaseEvent.all.filter
    (fun e => e ∈ events ∧ e ∉ [draft, payer])).foldl p.deliver v) draft) hpayer
  rw [hpaid] at hstart
  rw [hpaid'] at hend
  rcases hdraft with ⟨rfl, rfl⟩ | ⟨rfl, rfl⟩ <;>
    exact ⟨Option.some.inj hstart, Option.some.inj hend⟩

include hsame in
/-- A snapshot that is handled first is lost; handled after its id has been stored it decides the
    status and the period. -/
private theorem Purchase.snapshot_of_deliverAll (hnew : v.externalSubscriptionId = none)
    (hinactive : v.subscriptionStatus ≠ .active) {storing : PurchaseEvent}
    (hstoring : storing = .paid ∨ storing = .checkout ∧ truthy p.session.subscription = true)
    (hmem : storing ∈ events) (hupdated : .updated ∈ events) :
    p.PaysIn (· ∈ events) ∧
      extractStripeSubscriptionPeriod p.snapshot = ⟨some v.periodStart, some v.periodEnd⟩ := by
  have hne : storing ≠ .updated := by
    rcases hstoring with rfl | ⟨rfl, -⟩ <;> decide
  have hfound : IsOrder events (orderEnding events [storing, .updated]) :=
    isOrder_orderEnding (by simp [hne]) (by simp [hmem, hupdated])
  have hstored := p.deliver_stores (u := (PurchaseEvent.all.filter
    (fun e => e ∈ events ∧ e ∉ [storing, .updated])).foldl p.deliver v) hstoring
  have hlast : (orderEnding events [storing, .updated]).foldl p.deliver v =
      { p.deliver ((PurchaseEvent.all.filter (fun e => e ∈ events ∧
          e ∉ [storing, .updated])).foldl p.deliver v) storing with
        subscriptionStatus := .active
        currentPeriodStart := (extractStripeSubscriptionPeriod p.snapshot).currentPeriodStart
        currentPeriodEnd := (extractStripeSubscriptionPeriod p.snapshot).currentPeriodEnd } := by
    simp only [orderEnding, List.foldl_append, List.foldl_cons, List.foldl_nil]
    rw [Purchase.deliver, if_pos hstored]
  have hpays : p.PaysIn (· ∈ events) := by
    by_contra hunpaid
    -- without a payment only the snapshot can activate the subscription
    have hlost : IsOrder events
        (.updated :: PurchaseEvent.all.filter fun e => e ∈ events ∧ e ≠ .updated) := by
      refine ⟨List.nodup_cons.mpr ⟨by simp, (by decide : PurchaseEvent.all.Nodup).filter _⟩,
        fun e => ?_⟩
      simp only [List.mem_cons, List.mem_filter, PurchaseEvent.mem_all, true_and,
        decide_eq_true_eq]
      by_cases he : e = .updated
      · simp [he, hupdated]
      · simp [he]
    have heq := congrArg PurchaseOutcome.subscriptionStatus (hsame _ _ hfound hlost)
    rw [hlast, List.foldl_cons, Purchase.deliver, if_neg (by simp [hnew])] at heq
    rw [p.foldl_deliver_unpaid] at heq
    · exact hinactive heq.symm
    · intro e he
      obtain ⟨hin, hother⟩ := of_decide_eq_true (List.mem_filter.mp he).2
      refine ⟨hother, ?_, ?_⟩
      · rintro rfl
        exact hunpaid (.inl hin)
      · rintro rfl hsession
        exact hunpaid (.inr ⟨hin, hsession⟩)
  refine ⟨hpays, ?_⟩
  obtain ⟨payer, hpayer, hmem'⟩ : ∃ payer, (payer = .paid ∨ payer = .checkout ∧ p.SessionPays) ∧
      payer ∈ events := by
    rcases hpays with h | ⟨h, hsession⟩
    · exact ⟨.paid, .inl rfl, h⟩
    · exact ⟨.checkout, .inr ⟨rfl, hsession⟩, h⟩
  have hearly := p.isOrder_orderEnding_drafts hpayer hmem'
  obtain ⟨hstart, hend⟩ := p.foldl_orderEnding_drafts events v hpayer
  rw [← hsame _ _ hfound hearly, hlast] at hstart hend
  cases hperiod : extractStripeSubscriptionPeriod p.snapshot with
  | mk currentPeriodStart currentPeriodEnd =>
    rw [hperiod] at hstart hend
    simp only at hstart hend
    rw [hstart, hend]

include hsame in
/-- If all orders end alike, Stripe agrees with the local invoice. -/
theorem Purchase.agrees_of_deliverAll (hnew : v.externalSubscriptionId = none)
    (hinactive : v.subscriptionStatus ≠ .active) : p.Agrees events v.periodStart v.periodEnd := by
  constructor
  -- two drafts
  · rintro a b (⟨ha, rfl⟩ | ⟨ha, rfl⟩) (⟨hb, rfl⟩ | ⟨hb, rfl⟩)
    · exact ⟨rfl, rfl, rfl⟩
    · exact p.drafts_of_deliverAll hsame ha hb
    · obtain ⟨htotal, hstart, hend⟩ := p.drafts_of_deliverAll hsame hb ha
      exact ⟨htotal.symm, hstart.symm, hend.symm⟩
    · exact ⟨rfl, rfl, rfl⟩
  -- a draft and a payment
  · rintro hpays a ha
    obtain ⟨payer, hpayer, hmem⟩ : ∃ payer,
        (payer = .paid ∨ payer = .checkout ∧ p.SessionPays) ∧ payer ∈ events := by
      rcases hpays with h | ⟨h, hsession⟩
      · exact ⟨.paid, .inl rfl, h⟩
      · exact ⟨.checkout, .inr ⟨rfl, hsession⟩, h⟩
    rcases ha with ⟨hmem', rfl⟩ | ⟨hmem', rfl⟩
    · exact p.paid_of_deliverAll hsame hpayer (.inl ⟨rfl, rfl⟩) hmem hmem'
    · exact p.paid_of_deliverAll hsame hpayer (.inr ⟨rfl, rfl⟩) hmem hmem'
  -- a snapshot, and an event that stores the id it looks for
  · rintro hupdated (hmem | ⟨hmem, htruthy⟩)
    · exact p.snapshot_of_deliverAll hsame hnew hinactive (.inl rfl) hmem hupdated
    · exact p.snapshot_of_deliverAll hsame hnew hinactive (.inr ⟨rfl, htruthy⟩) hmem hupdated

end OnlyIf

end Outcome

/-! ### The rows of the purchase -/

/-- The rows of the purchase, and that no other row carries the ids of its events. -/
structure Purchase.At (p : Purchase) (w : World) (invoice : Invoice) (subscription : Subscription) :
    Prop where
  found : w.findInvoiceWithSubscription p.invoiceId = some (invoice, subscription)
  kind : invoice.kind = .subscription
  externalInvoiceId :
    invoice.externalInvoiceId = none ∨ invoice.externalInvoiceId = some p.externalInvoiceId
  externalSubscriptionId : subscription.externalSubscriptionId = none ∨
    subscription.externalSubscriptionId = some p.externalSubscriptionId
  sessionId : ∀ row ∈ w.invoices.rows,
    row.externalCheckoutSessionId = some p.session.id → row.id = invoice.id
  stripeInvoiceId : ∀ row ∈ w.invoices.rows,
    row.externalInvoiceId = some p.externalInvoiceId → row.id = invoice.id
  stripeSubscriptionId : ∀ row ∈ w.subscriptions.rows,
    row.externalSubscriptionId = some p.externalSubscriptionId → row.id = subscription.id

section Rows

variable {p : Purchase} {w : World} {invoice : Invoice} {subscription : Subscription} {env : Env}

/-- The outcome is what the two rows hold. -/
private theorem Purchase.At.purchaseOutcome (h : p.At w invoice subscription) :
    w.purchaseOutcome p.invoiceId = some (.ofRows invoice subscription) := by
  rw [World.purchaseOutcome, h.found]
  rfl

/-- The invoice is the one that the purchase names. -/
private theorem Purchase.At.invoice_id (h : p.At w invoice subscription) :
    invoice.id = p.invoiceId :=
  Table.key_of_find? (findInvoiceWithSubscription_eq_some.mp h.found).1

/-- A write to the invoice that gives it no external id but those of the purchase. -/
theorem Purchase.At.updateInvoice (h : p.At w invoice subscription) (hdb : env.dbError = none)
    (data : Invoice → Invoice) (hid : ∀ row, (data row).id = row.id)
    (horigin : SameOrigin invoice (data invoice))
    (hsession : (data invoice).externalCheckoutSessionId = invoice.externalCheckoutSessionId ∨
      (data invoice).externalCheckoutSessionId = some p.session.id)
    (hext : (data invoice).externalInvoiceId = invoice.externalInvoiceId ∨
      (data invoice).externalInvoiceId = some p.externalInvoiceId) :
    ∃ w', (HivePoint.updateInvoice invoice.id data).exec env w = (.ok (), w') ∧
      p.At w' (data invoice) subscription := by
  obtain ⟨hinvoice, hsubscription⟩ := findInvoiceWithSubscription_eq_some.mp h.found
  have hmem := Table.mem_of_find? hinvoice
  rw [← h.invoice_id] at hinvoice
  -- a column that is kept or gets an id of the purchase collides with no other row
  have hcolumn : ∀ u ∈ Row.uniques (ρ := Invoice), u (data invoice) = u invoice ∨
      (∃ ours, u (data invoice) = some ours ∧
        ∀ row ∈ w.invoices.rows, u row = some ours → row.id = invoice.id) →
      ∀ v, u (data invoice) = some v → ∀ row ∈ w.invoices.rows, u row = some v → row = invoice := by
    intro u hu hnew v hv row hrow hrowv
    rcases hnew with hkept | ⟨ours, hset, hours⟩
    · exact Table.eq_of_unique hu hrow hmem hrowv (hkept ▸ hv)
    · obtain rfl := Option.some.inj (hset.symm.trans hv)
      exact Table.eq_of_key_eq hrow hmem (hours row hrow hrowv)
  have hupdate : ∃ t, w.invoices.update? invoice.id data = some t := by
    refine Table.update?_of_unique hid fun u hu row hrow hkey => ?_
    obtain rfl := Table.eq_of_key_eq hrow hmem hkey
    refine hcolumn u hu ?_
    simp only [Row.uniques, List.mem_cons, List.not_mem_nil, or_false] at hu
    rcases hu with rfl | rfl | rfl
    · exact hsession.imp_right fun hset => ⟨_, hset, h.sessionId⟩
    · exact hext.imp_right fun hset => ⟨_, hset, h.stripeInvoiceId⟩
    · exact .inl horigin.overageSourceInvoiceId
  obtain ⟨t, ht⟩ := hupdate
  have hwrite : w.updateInvoice invoice.id data = .ok { w with invoices := t } := by
    simp [World.updateInvoice, hinvoice, ht]
  refine ⟨{ w with invoices := t }, exec_mutate_ok hdb (by rw [hwrite]; rfl), ?_⟩
  have hfound : t.find? invoice.id = some (data invoice) := by
    rw [Table.find?_update?_self ht hid, hinvoice, Option.map_some]
  -- the row itself may now carry the ids, every other row is as before
  have hrows : ∀ row ∈ t.rows, row.id = invoice.id ∨ row ∈ w.invoices.rows := by
    intro row hrow
    obtain ⟨old, hold, rfl⟩ := (Table.mem_update? ht).mp hrow
    split
    · rename_i hkey
      exact .inl ((hid old).trans hkey)
    · exact .inr hold
  exact {
    found := findInvoiceWithSubscription_eq_some.mpr
      ⟨h.invoice_id ▸ hfound, horigin.subscriptionId ▸ hsubscription⟩
    kind := horigin.kind.trans h.kind
    externalInvoiceId := by
      rcases hext with hkept | hset
      · exact hkept ▸ h.externalInvoiceId
      · exact .inr hset
    externalSubscriptionId := h.externalSubscriptionId
    sessionId := fun row hrow hcol =>
      ((hrows row hrow).elim id fun hold => h.sessionId row hold hcol).trans horigin.id.symm
    stripeInvoiceId := fun row hrow hcol =>
      ((hrows row hrow).elim id fun hold => h.stripeInvoiceId row hold hcol).trans horigin.id.symm
    stripeSubscriptionId := h.stripeSubscriptionId }

/-- A write to the subscription that gives it no external id but that of the purchase. -/
theorem Purchase.At.updateSubscription (h : p.At w invoice subscription) (hdb : env.dbError = none)
    (data : Subscription → Subscription) (hid : ∀ row, (data row).id = row.id)
    (hext : (data subscription).externalSubscriptionId = subscription.externalSubscriptionId ∨
      (data subscription).externalSubscriptionId = some p.externalSubscriptionId) :
    ∃ w', (HivePoint.updateSubscription subscription.id data).exec env w = (.ok (), w') ∧
      p.At w' invoice (data subscription) := by
  obtain ⟨hinvoice, hsubscription⟩ := findInvoiceWithSubscription_eq_some.mp h.found
  have hmem := Table.mem_of_find? hsubscription
  have hkey : subscription.id = invoice.subscriptionId := Table.key_of_find? hsubscription
  rw [← hkey] at hsubscription
  -- no other row has the external id, so the unique column stays unique
  have hupdate : ∃ t, w.subscriptions.update? subscription.id data = some t := by
    refine Table.update?_of_unique hid fun u hu row hrow hkey v hv row' hrow' hrowv => ?_
    obtain rfl := Table.eq_of_key_eq hrow hmem hkey
    obtain rfl : u = Subscription.externalSubscriptionId := by simpa [Row.uniques] using hu
    rcases hext with hkept | hset
    · exact Table.eq_of_unique hu hrow' hmem hrowv (hkept ▸ hv)
    · obtain rfl := Option.some.inj (hset.symm.trans hv)
      exact Table.eq_of_key_eq hrow' hmem (h.stripeSubscriptionId row' hrow' hrowv)
  obtain ⟨t, ht⟩ := hupdate
  have hwrite : w.updateSubscription subscription.id data = .ok { w with subscriptions := t } := by
    simp [World.updateSubscription, hsubscription, ht]
  refine ⟨{ w with subscriptions := t }, exec_mutate_ok hdb (by rw [hwrite]; rfl), ?_⟩
  have hfound : t.find? subscription.id = some (data subscription) := by
    rw [Table.find?_update?_self ht hid, hsubscription, Option.map_some]
  exact {
    found := findInvoiceWithSubscription_eq_some.mpr ⟨hinvoice, hkey ▸ hfound⟩
    kind := h.kind
    externalInvoiceId := h.externalInvoiceId
    externalSubscriptionId := by
      rcases hext with hkept | hset
      · exact hkept ▸ h.externalSubscriptionId
      · exact .inr hset
    sessionId := h.sessionId
    stripeInvoiceId := h.stripeInvoiceId
    -- the rows with the external id are the old ones, rewritten or not
    stripeSubscriptionId := by
      intro row hrow hcol
      rw [hid]
      obtain ⟨old, hold, rfl⟩ := (Table.mem_update? ht).mp hrow
      split at hcol
      · rename_i hkey
        rw [if_pos hkey]
        exact (hid old).trans hkey
      · rename_i hkey
        rw [if_neg hkey]
        exact h.stripeSubscriptionId old hold hcol }

/-! ### The handlers -/

/-- The invoice is not paid under an id of another purchase. -/
private theorem Purchase.At.not_isPaidUnderOtherId (h : p.At w invoice subscription)
    {externalInvoiceId : Option String}
    (hparam : externalInvoiceId = none ∨ externalInvoiceId = some p.externalInvoiceId) :
    isPaidUnderOtherId invoice externalInvoiceId = false := by
  rcases hparam with rfl | rfl
  · simp [isPaidUnderOtherId, truthy]
  · rcases h.externalInvoiceId with hnone | hours
    · simp [isPaidUnderOtherId, hnone, truthy]
    · simp [isPaidUnderOtherId, hours]

/-- A payment goes through, and leaves the two rows paid and activated. -/
theorem Purchase.At.markInvoicePaid (h : p.At w invoice subscription) (hdb : env.dbError = none)
    (params : MarkInvoicePaidParams) (hinvoiceId : params.invoiceId = p.invoiceId)
    (hsession : params.externalCheckoutSessionId = none ∨
      params.externalCheckoutSessionId = some p.session.id)
    (hext : params.externalInvoiceId = none ∨ params.externalInvoiceId = some p.externalInvoiceId)
    (hsubscription : params.externalSubscriptionId = none ∨
      params.externalSubscriptionId = some p.externalSubscriptionId) :
    ∃ w', (HivePoint.markInvoicePaid params).exec env w = (.ok false, w') ∧
      p.At w' (paidInvoice params invoice invoice)
        (activatedSubscription params invoice subscription subscription) := by
  obtain ⟨w₁, hexec₁, hat₁⟩ := h.updateInvoice hdb (paidInvoice params invoice)
    (fun _ => rfl) ⟨rfl, rfl, rfl, rfl, rfl⟩
    (by rcases hsession with hs | hs <;> simp [paidInvoice, hs])
    (by rcases hext with he | he <;> simp [paidInvoice, he])
  obtain ⟨w₂, hexec₂, hat₂⟩ := hat₁.updateSubscription hdb
    (activatedSubscription params invoice subscription) (fun _ => rfl)
    (by rcases hsubscription with hs | hs <;> simp [activatedSubscription, hs])
  refine ⟨w₂, ?_, hat₂⟩
  have hguard := h.not_isPaidUnderOtherId hext
  simp only [HivePoint.markInvoicePaid, exec_bind, exec_read hdb, hinvoiceId, h.found, hguard,
    Bool.false_eq_true, if_false, hexec₁, h.kind, reduceCtorEq, hexec₂, exec_pure]

/-- A checkout is recorded on the two rows. -/
theorem Purchase.At.recordExternalCheckout (h : p.At w invoice subscription)
    (hdb : env.dbError = none) (params : RecordExternalCheckoutParams)
    (hinvoiceId : params.invoiceId = p.invoiceId)
    (hsession : params.externalCheckoutSessionId = some p.session.id)
    (hsubscription : params.externalSubscriptionId = p.session.subscription) :
    ∃ w' invoice' subscription',
      (HivePoint.recordExternalCheckout params).exec env w = (.ok (), w') ∧
        p.At w' invoice' subscription' ∧
        PurchaseOutcome.ofRows invoice' subscription' =
          p.record (PurchaseOutcome.ofRows invoice subscription) := by
  have hrecorded : params.externalCheckoutSessionId.or invoice.externalCheckoutSessionId =
      some p.session.id := by
    rw [hsession, Option.some_or]
  obtain ⟨w₁, hexec₁, hat₁⟩ := h.updateInvoice hdb (fun row =>
    { row with
      paymentProvider := params.paymentProvider
      externalCheckoutSessionId :=
        params.externalCheckoutSessionId.or invoice.externalCheckoutSessionId })
    (fun _ => rfl) ⟨rfl, rfl, rfl, rfl, rfl⟩ (.inr hrecorded) (.inl rfl)
  by_cases htruthy : truthy p.session.subscription
  · -- the session names the subscription
    have hsome := p.session_of_truthy htruthy
    obtain ⟨w₂, hexec₂, hat₂⟩ := hat₁.updateSubscription hdb (fun row =>
      { row with
        paymentProvider := params.paymentProvider
        externalSubscriptionId :=
          params.externalSubscriptionId.or subscription.externalSubscriptionId })
      (fun _ => rfl) (.inr (by rw [hsubscription, hsome, Option.some_or]))
    refine ⟨w₂, _, _, ?_, hat₂, ?_⟩
    · simp only [HivePoint.recordExternalCheckout, exec_bind, exec_read hdb, hinvoiceId, h.found,
        hexec₁, hsubscription, htruthy, if_true]
      rw [← hsubscription]
      exact hexec₂
    · simp only [PurchaseOutcome.ofRows, Purchase.record, hrecorded, hsubscription, if_pos htruthy]
      rw [hsome, Option.some_or]
  · refine ⟨w₁, _, _, ?_, hat₁, ?_⟩
    · simp [HivePoint.recordExternalCheckout, hdb, hinvoiceId, h.found, hexec₁, hsubscription,
        htruthy]
    · simp [PurchaseOutcome.ofRows, Purchase.record, hrecorded, htruthy]

/-- The invoices of the purchase are found, by their id or by their metadata. -/
theorem Purchase.At.resolveInvoiceForExternalSync (h : p.At w invoice subscription)
    (hdb : env.dbError = none) (params : SyncInvoiceParams)
    (hid : params.externalInvoiceId = p.externalInvoiceId)
    (hmetadata : params.metadataInvoiceId = some p.invoiceId) (htruthy : p.invoiceId ≠ "")
    (hallow : params.allowMetadataInvoiceId = true) :
    (HivePoint.resolveInvoiceForExternalSync params).exec env w = (.ok p.invoiceId, w) := by
  obtain ⟨hinvoice, -⟩ := findInvoiceWithSubscription_eq_some.mp h.found
  -- known by its external id, or resolved by the metadata
  cases hknown : w.findInvoiceByExternalId p.externalInvoiceId with
  | some row =>
    have hrow : row.id = p.invoiceId := (h.stripeInvoiceId row (Table.mem_of_findBy? hknown)
      (Table.col_of_findBy? hknown)).trans h.invoice_id
    simp [HivePoint.resolveInvoiceForExternalSync, hdb, hid, hknown, hrow]
  | none =>
    have haccepts : acceptsExternalId p.externalInvoiceId invoice = true := by
      rcases h.externalInvoiceId with hnone | hours
      · simp [acceptsExternalId, hnone, truthy]
      · simp [acceptsExternalId, hours]
    simp [HivePoint.resolveInvoiceForExternalSync, hdb, hid, hknown, hallow, hmetadata, truthy,
      htruthy, hinvoice, haccepts, h.invoice_id]

/-- The id of the local invoice is not empty. -/
private theorem Purchase.invoiceId_truthy (p : Purchase) : p.invoiceId ≠ "" := by
  have hmetadata := (p.invoice_metadata p.created (by simp)).1
  rintro hempty
  rw [hempty, ownMetadataInvoiceId] at hmetadata
  split at hmetadata
  · rename_i htruthy
    rw [hmetadata] at htruthy
    exact nomatch htruthy
  · split at hmetadata
    · split at hmetadata
      · rename_i htruthy
        rw [hmetadata] at htruthy
        exact nomatch htruthy
      · exact nomatch hmetadata
    · exact nomatch hmetadata

/-- A draft writes amount and period of the invoice, and nothing else. -/
private theorem Purchase.At.syncInvoice_draft (h : p.At w invoice subscription)
    (hdb : env.dbError = none) (config : AppConfig) (event : StripeInvoice)
    (hevent : event ∈ [p.created, p.finalized, p.paid]) :
    ∃ w' invoice', (syncInvoice config event .draft).exec env w = (.ok (), w') ∧
      p.At w' invoice' subscription ∧
      PurchaseOutcome.ofRows invoice' subscription =
        (PurchaseOutcome.ofRows invoice subscription).draft event := by
  obtain ⟨hmetadata, hallow⟩ := p.invoice_metadata event hevent
  obtain ⟨hinvoice, -⟩ := findInvoiceWithSubscription_eq_some.mp h.found
  -- the event leads to the local invoice of the purchase
  have hresolve := h.resolveInvoiceForExternalSync hdb
    (webhookSyncParams event (some p.invoiceId) .draft) (p.invoice_id event hevent) rfl
    p.invoiceId_truthy hallow
  obtain ⟨w₁, hexec, hat⟩ := h.updateInvoice hdb
    (draftInvoice (webhookSyncParams event (some p.invoiceId) .draft) invoice)
    (fun _ => rfl) ⟨rfl, rfl, rfl, rfl, rfl⟩ (.inl (by simp [draftInvoice, webhookSyncParams]))
    (.inr (congrArg some (p.invoice_id event hevent)))
  rw [h.invoice_id] at hexec
  refine ⟨w₁, _, exec_syncInvoice p.invoiceId hmetadata ?_, hat, ?_⟩
  · have hstatus : (webhookSyncParams event (some p.invoiceId) .draft).status = .draft := rfl
    simp only [syncInvoiceFromExternal, exec_bind, hresolve, exec_read hdb, hinvoice,
      hstatus, hexec,
      exec_pure]
  -- a draft does not take a status back
  · have hkept : (if invoice.status ≠ .draft then invoice.status else .draft) = invoice.status := by
      by_cases hdraft : invoice.status = .draft
      · rw [if_neg (not_not.mpr hdraft), hdraft]
      · rw [if_pos hdraft]
    simp only [PurchaseOutcome.ofRows, PurchaseOutcome.draft, draftInvoice,
      webhookSyncParams, hkept]
    rfl

/-- The invoice of the purchase is paid for. -/
private theorem Purchase.At.syncInvoice_paid (h : p.At w invoice subscription)
    (hdb : env.dbError = none) (config : AppConfig) :
    ∃ w' invoice' subscription', (syncInvoice config p.paid .paid).exec env w = (.ok (), w') ∧
      p.At w' invoice' subscription' ∧
      PurchaseOutcome.ofRows invoice' subscription' =
        p.deliver (PurchaseOutcome.ofRows invoice subscription) .paid := by
  obtain ⟨hmetadata, hallow⟩ := p.invoice_metadata p.paid (by simp)
  have hid := p.invoice_id p.paid (by simp)
  obtain ⟨hinvoice, -⟩ := findInvoiceWithSubscription_eq_some.mp h.found
  -- the event leads to the local invoice of the purchase
  have hresolve := h.resolveInvoiceForExternalSync hdb
    (webhookSyncParams p.paid (some p.invoiceId) .paid) hid rfl p.invoiceId_truthy hallow
  -- it is open or has the same external id, so the payment is not refused
  obtain ⟨w₁, hexec, hat⟩ := h.markInvoicePaid hdb
    ((webhookSyncParams p.paid (some p.invoiceId) .paid).paidParams p.invoiceId) rfl
    (.inl rfl) (.inr (congrArg some hid)) (.inr p.paid_subscription)
  refine ⟨w₁, _, _, exec_syncInvoice p.invoiceId hmetadata ?_, hat, ?_⟩
  · have hstatus : (webhookSyncParams p.paid (some p.invoiceId) .paid).status = .paid := rfl
    simp only [SyncInvoiceParams.paidParams] at hexec
    simp only [syncInvoiceFromExternal, exec_bind, hresolve, exec_read hdb, hinvoice,
      hstatus, hexec,
      exec_pure]
  · simp only [Purchase.deliver, PurchaseOutcome.ofRows, PurchaseOutcome.pay, paidInvoice,
      activatedSubscription, SyncInvoiceParams.paidParams, webhookSyncParams, hid,
      p.paid_subscription, Option.some_or, Option.none_or]

/-- The snapshot is written to the subscription that carries its id, or lost. -/
private theorem Purchase.At.syncSubscription (h : p.At w invoice subscription)
    (hdb : env.dbError = none) (config : AppConfig) :
    ∃ w' subscription',
      (handleSubscriptionUpdated config p.snapshot).exec env w = (.ok (), w') ∧
        p.At w' invoice subscription' ∧
        PurchaseOutcome.ofRows invoice subscription' =
          p.deliver (PurchaseOutcome.ofRows invoice subscription) .updated := by
  obtain ⟨-, hsubscription⟩ := findInvoiceWithSubscription_eq_some.mp h.found
  simp only [Purchase.deliver]
  -- the snapshot finds the subscription only if its id is stored
  split
  · rename_i hstored
    have hfound := findSubscriptionByExternalId_of_row hsubscription hstored
    obtain ⟨w₁, hexec, hat⟩ := h.updateSubscription hdb
      (syncedSubscription config env.now (snapshotSyncParams p.snapshot) subscription)
      (fun _ => rfl) (.inl rfl)
    refine ⟨w₁, _, exec_ignoringNotFound ?_, hat, ?_⟩
    · have hid : (snapshotSyncParams p.snapshot).externalSubscriptionId =
          p.externalSubscriptionId :=
        p.snapshot_id
      simp only [syncSubscriptionFromExternal, exec_bind, exec_read hdb, hid, hfound,
        exec_clock, hexec]
    · simp only [PurchaseOutcome.ofRows, syncedSubscription, snapshotSyncParams, p.snapshot_status,
        mapStripeSubscriptionStatus, Option.getD_some]
  · rename_i hmissing
    -- without the id no row is found, and the handler ignores that
    have hnone : w.findSubscriptionByExternalId p.snapshot.id = none := by
      rw [p.snapshot_id]
      cases hfound : w.findSubscriptionByExternalId p.externalSubscriptionId with
      | none => rfl
      | some row =>
        have hcol := Table.col_of_findBy? hfound
        have hmem := Table.mem_of_findBy? hfound
        obtain rfl := Table.eq_of_key_eq hmem (Table.mem_of_find? hsubscription)
          (h.stripeSubscriptionId row hmem hcol)
        exact absurd hcol hmissing
    refine ⟨w, subscription, ?_, h, rfl⟩
    simp only [handleSubscriptionUpdated, ignoringNotFound, exec_tryCatch,
      syncSubscriptionFromExternal, snapshotSyncParams, exec_bind, exec_read hdb, hnone, exec_throw]
    rfl

/-- On the rows of the purchase, each handler does what `deliver` says, and returns. -/
theorem Purchase.At.handleWebhook (h : p.At w invoice subscription) (hdb : env.dbError = none)
    (config : AppConfig) (event : PurchaseEvent) :
    ∃ w' invoice' subscription',
      (HivePoint.handleWebhook config (p.payload event)).exec env w = (.ok (), w') ∧
        p.At w' invoice' subscription' ∧
        PurchaseOutcome.ofRows invoice' subscription' =
          p.deliver (PurchaseOutcome.ofRows invoice subscription) event := by
  -- one case for each event of the purchase
  cases event with
  | checkout =>
    obtain ⟨w₁, invoice₁, subscription₁, hexec₁, hat₁, hrecorded⟩ := h.recordExternalCheckout hdb
      { invoiceId := p.invoiceId
        paymentProvider := .stripe
        externalCheckoutSessionId := some p.session.id
        externalSubscriptionId := p.session.subscription } rfl rfl rfl
    obtain ⟨w₂, hexec₂, hat₂⟩ := hat₁.markInvoicePaid hdb
      { invoiceId := p.invoiceId
        paymentProvider := .stripe
        externalCheckoutSessionId := some p.session.id } rfl (.inr rfl) (.inl rfl) (.inl rfl)
    simp only [Purchase.payload, HivePoint.handleWebhook, handleCheckoutCompleted,
      p.session_invoiceId, if_neg p.invoiceId_truthy, Purchase.deliver, ← hrecorded]
    -- a session that is paid also marks the invoice paid
    split
    · rename_i hpays
      refine ⟨w₂, _, _, exec_ignoringNotFound ?_, hat₂, ?_⟩
      · simp only [exec_bind, hexec₁, hexec₂, exec_pure]
      · have hsession : invoice₁.externalCheckoutSessionId = some p.session.id :=
          congrArg PurchaseOutcome.externalCheckoutSessionId hrecorded
        simp only [PurchaseOutcome.ofRows, PurchaseOutcome.pay, paidInvoice, activatedSubscription,
          Option.some_or, Option.none_or, hsession]
    · rename_i hpays
      refine ⟨w₁, _, _, exec_ignoringNotFound ?_, hat₁, rfl⟩
      simp only [exec_bind, hexec₁, exec_pure]
  | created =>
    obtain ⟨w', invoice', hexec, hat, houtcome⟩ :=
      h.syncInvoice_draft hdb config p.created (by simp)
    exact ⟨w', invoice', subscription, hexec, hat, houtcome⟩
  | finalized =>
    obtain ⟨w', invoice', hexec, hat, houtcome⟩ :=
      h.syncInvoice_draft hdb config p.finalized (by simp)
    exact ⟨w', invoice', subscription, hexec, hat, houtcome⟩
  | paid => exact h.syncInvoice_paid hdb config
  | updated =>
    obtain ⟨w', subscription', hexec, hat, houtcome⟩ := h.syncSubscription hdb config
    exact ⟨w', invoice, subscription', hexec, hat, houtcome⟩

end Rows

/-! ### What `subscribe` leaves -/

/-- The invoice of a subscription that Stripe knows neither of, and that nothing has activated. -/
def World.IsNewPurchase (w : World) (invoiceId : Id) : Prop :=
  ∃ invoice subscription, w.findInvoiceWithSubscription invoiceId = some (invoice, subscription) ∧
    invoice.kind = .subscription ∧ invoice.externalInvoiceId = none ∧
      subscription.externalSubscriptionId = none ∧ subscription.status ≠ .active

section Subscribe

variable {E : Env → Prop} {config : AppConfig} {w w' : World} {invoiceId : Id}

/-- A step that keeps the links of the rows, and activates nobody, keeps the purchase new. -/
theorem World.IsNewPurchase.evolves (h : w.IsNewPurchase invoiceId)
    (hinvoices : w.invoices.Evolves w'.invoices fun _ row row' =>
      row'.subscriptionId = row.subscriptionId ∧ row'.kind = row.kind ∧
        row'.externalInvoiceId = row.externalInvoiceId)
    (hsubscriptions : w.subscriptions.Evolves w'.subscriptions fun _ row row' =>
      row'.externalSubscriptionId = row.externalSubscriptionId ∧
        (row'.status = row.status ∨ row'.status ≠ .active)) :
    w'.IsNewPurchase invoiceId := by
  obtain ⟨invoice, subscription, hfound, hkind, hinvoiceId, hsubscriptionId, hinactive⟩ := h
  obtain ⟨hinvoice, hsubscription⟩ := findInvoiceWithSubscription_eq_some.mp hfound
  obtain ⟨invoice', hinvoice', hchange⟩ := hinvoices _ _ hinvoice
  obtain ⟨subscription', hsubscription', hchange'⟩ := hsubscriptions _ _ hsubscription
  -- the rows are as before, or rewritten by the step
  have hsame : invoice'.subscriptionId = invoice.subscriptionId ∧ invoice'.kind = invoice.kind ∧
      invoice'.externalInvoiceId = invoice.externalInvoiceId := by
    rcases hchange with rfl | hchange
    · exact ⟨rfl, rfl, rfl⟩
    · exact hchange
  have hsame' : subscription'.externalSubscriptionId = subscription.externalSubscriptionId ∧
      (subscription'.status = subscription.status ∨ subscription'.status ≠ .active) := by
    rcases hchange' with rfl | hchange'
    · exact ⟨rfl, .inl rfl⟩
    · exact hchange'
  have hinactive' : subscription'.status ≠ .active := by
    rcases hsame'.2 with hstatus | hother
    · exact hstatus ▸ hinactive
    · exact hother
  exact ⟨invoice', subscription',
    findInvoiceWithSubscription_eq_some.mpr ⟨hinvoice', hsame.1.symm ▸ hsubscription'⟩,
    hsame.2.1.trans hkind, hsame.2.2.trans hinvoiceId,
    hsame'.1.trans hsubscriptionId, hinactive'⟩

/-- A reported failure without an external invoice gives the purchase no external id. -/
private theorem isNewPurchase_markInvoiceFailed {params : MarkInvoiceFailedParams}
    {r : Except Err Bool}
    (hparams : params.externalInvoiceId = none ∧ params.externalSubscriptionId = none)
    (h : w.IsNewPurchase invoiceId) (hrun : Runs E (markInvoiceFailed config params) w r w') :
    w'.IsNewPurchase invoiceId := by
  refine h.evolves ((markInvoiceFailed_invoices hrun).mono ?_)
    ((markInvoiceFailed_subscriptions hrun).mono ?_)
  · rintro k row row' - ⟨-, -, subscription, env, -, -, rfl⟩
    exact ⟨rfl, rfl, by simp [failedInvoice, hparams.1]⟩
  · rintro k row row' - ⟨invoice, env, -, -, -, -, -, rfl⟩
    exact ⟨by simp [pastDueSubscription, hparams.2], .inr (by simp [pastDueSubscription])⟩

/-- Asking for the payment, and failing to, gives the purchase no external id. -/
private theorem isNewPurchase_requestPayment {user : AuthenticatedUser} {plan : Plan}
    {product : ApiProduct} {subscriptionId invoiceId' : Id} {r : Except Err SubscribeResult}
    (h : w.IsNewPurchase invoiceId)
    (hrun : Runs E (requestPayment config user plan product subscriptionId invoiceId') w r w') :
    w'.IsNewPurchase invoiceId := by
  -- the request to the provider writes the session id of the other invoice only
  have hkeeps : ∀ params : CreatePaymentParams,
      (do
        let payment ← createPayment config params
        if truthy payment.externalPaymentId then
          updateInvoice invoiceId' fun row =>
            { row with externalCheckoutSessionId := payment.externalPaymentId }
        return (⟨subscriptionId, invoiceId', payment.paymentLink⟩ : SubscribeResult) :
          Op SubscribeResult).EachStep
        fun w w' => w.IsNewPurchase invoiceId → w'.IsNewPurchase invoiceId := by
    intro params
    refine eachStep_bind ?_ fun payment => ?_
    · refine (onlyRequests_createPayment config params).mono fun w w' hstep h => ?_
      obtain ⟨_, _, rfl⟩ := hstep
      exact h
    · split
      · refine eachStep_bind (eachStep_updateInvoice (fun _ h => h) fun w w' hupdate h => ?_)
          fun _ => eachStep_pure _
        obtain ⟨t, ht, rfl⟩ := updateInvoice_eq_ok hupdate
        refine h.evolves ((Table.evolves_update? ht fun _ => rfl).mono ?_) (.refl _)
        rintro k row row' - ⟨-, rfl⟩
        exact ⟨rfl, rfl, rfl⟩
      · trivial
  -- or it fails, and the other invoice is marked failed
  rcases runs_tryCatch.mp hrun with ⟨result, htry, -⟩ | ⟨error, w₁, htry, hcatch⟩
  · exact (hkeeps _).runs (fun _ _ h => h) htry h
  · have h₁ := (hkeeps _).runs (fun _ _ h => h) htry h
    rcases runs_bind.mp hcatch with ⟨e, hfailed, -⟩ | ⟨ignored, w₂, hfailed, hthrow⟩
    · exact isNewPurchase_markInvoiceFailed ⟨rfl, rfl⟩ h₁ hfailed
    · obtain ⟨-, rfl⟩ := runs_throw.mp hthrow
      exact isNewPurchase_markInvoiceFailed ⟨rfl, rfl⟩ h₁ hfailed

/-- Asking for the payment adds no invoice. -/
private theorem find?_requestPayment {user : AuthenticatedUser} {plan : Plan} {product : ApiProduct}
    {subscriptionId invoiceId' : Id} {r : Except Err SubscribeResult}
    (hnone : w.invoices.find? invoiceId = none)
    (hrun : Runs E (requestPayment config user plan product subscriptionId invoiceId') w r w') :
    w'.invoices.find? invoiceId = none := by
  -- an update adds no invoice
  have hupdate : ∀ {id : Id} {data : Invoice → Invoice}, (∀ row, (data row).id = row.id) →
      ∀ w w' : World, w.updateInvoice id data = .ok w' → w.invoices.find? invoiceId = none →
        w'.invoices.find? invoiceId = none := by
    intro id data hid w w' h hnone
    rw [find?_updateInvoice h hid]
    split
    · rename_i hkey
      rw [← hkey, hnone, Option.map_none]
    · exact hnone
  -- neither does a statement of the request
  have hkeeps : (requestPayment config user plan product subscriptionId invoiceId').EachStep
      fun w w' => w.invoices.find? invoiceId = none → w'.invoices.find? invoiceId = none := by
    refine eachStep_tryCatch (eachStep_bind ?_ fun payment => ?_) fun error =>
      eachStep_bind (eachStep_markInvoiceFailed (fun _ h => h) config _
        (fun _ _ => hupdate fun _ => rfl) fun _ _ w w' h hnone => ?_) fun _ => eachStep_throw _
    · refine (onlyRequests_createPayment config _).mono fun w w' hstep hnone => ?_
      obtain ⟨_, _, rfl⟩ := hstep
      exact hnone
    · split
      · exact eachStep_bind (eachStep_updateInvoice (fun _ h => h) (hupdate fun _ => rfl))
          fun _ => eachStep_pure _
      · trivial
    · rw [updateSubscription_invoices h, hnone]
  exact hkeeps.runs (fun _ _ h => h) hrun hnone

/-- An invoice that a call of `subscribe` has produced is that of a new purchase. -/
private theorem isNewPurchase_subscribe {user : AuthenticatedUser} {planId : Id}
    {r : Except Err SubscribeResult} (hrun : Runs E (subscribe config user planId) w r w')
    (hbefore : w.invoices.find? invoiceId = none) {invoice : Invoice}
    (hafter : w'.invoices.find? invoiceId = some invoice) : w'.IsNewPurchase invoiceId := by
  -- a call that ends before its transaction has produced nothing
  have hnothing : w' = w → w'.IsNewPurchase invoiceId := by
    rintro rfl
    exact nomatch hbefore.symm.trans hafter
  rcases runs_bind.mp hrun with ⟨e, hread, -⟩ | ⟨found, w₁, hread, h₁⟩
  · exact hnothing (runs_read hread).1
  obtain ⟨rfl, -⟩ := runs_read hread
  cases found with
  | none => exact hnothing (runs_throw.mp h₁).2
  | some found =>
    dsimp only at h₁
    split at h₁
    · exact hnothing (runs_throw.mp h₁).2
    split at h₁
    · exact hnothing (runs_throw.mp h₁).2
    rcases runs_bind.mp h₁ with ⟨e, hread, -⟩ | ⟨version, w₂, hread, h₂⟩
    · exact hnothing (runs_read hread).1
    obtain ⟨rfl, -⟩ := runs_read hread
    cases version with
    | none => exact hnothing (runs_throw.mp h₂).2
    | some version =>
      rcases runs_bind.mp h₂ with ⟨e, hclock, -⟩ | ⟨now, w₃, hclock, h₃⟩
      · exact hnothing (runs_clock hclock).1
      obtain ⟨rfl, -⟩ := runs_clock hclock
      rcases runs_bind.mp h₃ with ⟨e, hread, -⟩ | ⟨seen, w₃', hread, h₃'⟩
      · exact hnothing (runs_read hread).1
      obtain ⟨rfl, -⟩ := runs_read hread
      rcases runs_bind.mp h₃' with ⟨e, hmutate, -⟩ | ⟨ids, w₄, hmutate, h₄⟩
      · rcases runs_mutate hmutate with ⟨hsame, -⟩ | ⟨_, _, -, -, herror⟩
        · exact hnothing hsame
        · exact nomatch herror
      rcases runs_mutate hmutate with ⟨-, _, herror⟩ | ⟨env, ids', -, hsubscribe, -⟩
      · exact nomatch herror
      obtain ⟨subscriptions, invoices, -, -, hsubscription, hinvoice, rfl⟩ :=
        subscribe_cases hsubscribe
      have hfound := Table.find?_insert? hinvoice invoiceId
      split at hfound
      · -- the invoice of the transaction
        exact isNewPurchase_requestPayment ⟨_, pendingSubscription config user.id _ env,
          findInvoiceWithSubscription_eq_some.mpr
            ⟨hfound, (Table.find?_insert? hsubscription env.uuid).trans (if_pos rfl)⟩,
          rfl, rfl, rfl, by simp [pendingSubscription]⟩ h₄
      · exact nomatch hafter.symm.trans (find?_requestPayment (hfound.trans hbefore) h₄)

end Subscribe

/-! ### Every order -/

/-- Handle the events one after the other, whatever the handlers return. -/
def handleInOrder (config : AppConfig) (p : Purchase) (deliveries : List (Env × PurchaseEvent))
    (w : World) : World :=
  deliveries.foldl (fun w d => ((handleWebhook config (p.payload d.2)).exec d.1 w).2) w

/-- The events of the set in some order, and a database that executes their statements. -/
def IsDelivery (events : Finset PurchaseEvent) (deliveries : List (Env × PurchaseEvent)) : Prop :=
  (∀ d ∈ deliveries, d.1.dbError = none) ∧ IsOrder events (deliveries.map (·.2))

/-- No two orders of the events are told apart by the rows they leave. -/
def OrderIndependent (config : AppConfig) (p : Purchase) (events : Finset PurchaseEvent)
    (w : World) : Prop :=
  ∀ deliveries deliveries', IsDelivery events deliveries → IsDelivery events deliveries' →
    (handleInOrder config p deliveries w).purchaseOutcome p.invoiceId =
      (handleInOrder config p deliveries' w).purchaseOutcome p.invoiceId

section Orders

variable {config : AppConfig} {p : Purchase} {w : World} {invoice : Invoice}
  {subscription : Subscription}

/-- The handlers carry out the abstract deliveries. -/
private theorem Purchase.At.handleInOrder (h : p.At w invoice subscription)
    {deliveries : List (Env × PurchaseEvent)} (hdb : ∀ d ∈ deliveries, d.1.dbError = none) :
    (HivePoint.handleInOrder config p deliveries w).purchaseOutcome p.invoiceId =
      some ((deliveries.map (·.2)).foldl p.deliver (.ofRows invoice subscription)) := by
  induction deliveries generalizing w invoice subscription with
  | nil => exact h.purchaseOutcome
  | cons d deliveries ih =>
    obtain ⟨w', invoice', subscription', hexec, hat, houtcome⟩ :=
      h.handleWebhook (hdb d List.mem_cons_self) config d.2
    have hrest := ih hat fun d' hd' => hdb d' (List.mem_cons_of_mem d hd')
    rw [houtcome] at hrest
    rw [HivePoint.handleInOrder, List.foldl_cons, hexec]
    exact hrest

/-- On the rows of a new purchase the orders end alike exactly when Stripe agrees with the
    local invoice. -/
private theorem Purchase.At.orderIndependent_iff (h : p.At w invoice subscription)
    (hnew : subscription.externalSubscriptionId = none) (hinactive : subscription.status ≠ .active)
    (events : Finset PurchaseEvent) :
    OrderIndependent config p events w ↔
      p.Agrees events invoice.periodStart invoice.periodEnd := by
  constructor
  · intro hsame
    refine p.agrees_of_deliverAll (v := .ofRows invoice subscription) ?_ hnew hinactive
    intro order order' horder horder'
    -- deliver the two orders to an available database
    have hdelivery : ∀ es : List PurchaseEvent, IsOrder events es →
        IsDelivery events (es.map fun e => (Env.available 0 "", e)) := by
      intro es hes
      refine ⟨fun d hd => ?_, by simpa [Function.comp_def] using hes⟩
      obtain ⟨e, -, rfl⟩ := List.mem_map.mp hd
      rfl
    have heq := hsame _ _ (hdelivery order horder) (hdelivery order' horder')
    rw [h.handleInOrder (hdelivery order horder).1,
      h.handleInOrder (hdelivery order' horder').1] at heq
    simpa [Function.comp_def] using heq
  · intro hagrees deliveries deliveries' hd hd'
    rw [h.handleInOrder hd.1, h.handleInOrder hd'.1,
      p.deliverAll_agrees (v := .ofRows invoice subscription) hagrees hnew hd.2.2 hd'.2.2]

end Orders

/-! ### After `subscribe` -/

/-- Stripe has given the ids of the purchase to nothing else. -/
structure Purchase.Unclaimed (p : Purchase) (w : World) : Prop where
  session : ∀ row ∈ w.invoices.rows,
    row.externalCheckoutSessionId = some p.session.id → row.id = p.invoiceId
  invoice : ∀ row ∈ w.invoices.rows, row.externalInvoiceId ≠ some p.externalInvoiceId
  subscription : ∀ row ∈ w.subscriptions.rows,
    row.externalSubscriptionId ≠ some p.externalSubscriptionId

/-- For a local invoice that a call of `subscribe` has produced, a set of the events leaves the
    same rows in every order exactly when its drafts report one total and one period, which is
    that of the local invoice if it gets paid, and a snapshot that can be stored comes with a
    payment and reports that period too. -/
theorem deliveryOrder_iff {E : Env → Prop} {config : AppConfig} {user : AuthenticatedUser}
    {planId : Id} {w₀ w : World} {r : Except Err SubscribeResult} {p : Purchase} {invoice : Invoice}
    (events : Finset PurchaseEvent)
    (hrun : Runs E (subscribe config user planId) w₀ r w)
    (hbefore : w₀.invoices.find? p.invoiceId = none)
    (hinvoice : w.invoices.find? p.invoiceId = some invoice) (hids : p.Unclaimed w) :
    OrderIndependent config p events w ↔
      p.Agrees events invoice.periodStart invoice.periodEnd := by
  obtain ⟨_, subscription, hfound, hkind, hexternal, hnew, hinactive⟩ :=
    isNewPurchase_subscribe hrun hbefore hinvoice
  obtain ⟨hinvoice', hsubscription⟩ := findInvoiceWithSubscription_eq_some.mp hfound
  obtain rfl := Option.some.inj (hinvoice'.symm.trans hinvoice)
  have hkey := Table.key_of_find? hinvoice
  -- what `subscribe` left is as the events need it
  have hat : p.At w _ subscription :=
    { found := hfound
      kind := hkind
      externalInvoiceId := .inl hexternal
      externalSubscriptionId := .inl hnew
      sessionId := fun row hrow hcol => (hids.session row hrow hcol).trans hkey.symm
      stripeInvoiceId := fun row hrow hcol => absurd hcol (hids.invoice row hrow)
      stripeSubscriptionId := fun row hrow hcol => absurd hcol (hids.subscription row hrow) }
  exact hat.orderIndependent_iff hnew hinactive events

/-! ### A snapshot before its payment -/

/-- Stripe opens a customer and a checkout session. -/
def checkoutEnv : Env :=
  { Env.available 0 "local" with
    stripe :=
      { StripeApi.unavailable with
        createCustomer := fun _ _ => .ok "cus_1"
        createCheckoutSession := fun _ => .ok ⟨"cs_1", some "https://checkout"⟩ } }

/-- The product on sale, and the buyer. -/
def buyerStorefront : World :=
  { storefront with users := .singleton ⟨"buyer", "buyer@example.com", none⟩ }

/-- The buyer has subscribed: the invoice `local'` has the period from 0 to 31 days. -/
def subscribedWorld : World :=
  ((subscribe sampleConfig sampleBuyer "plan").exec checkoutEnv buyerStorefront).2

/-- `in_1` as the first invoice of `sub_1`, with the period of the local invoice. -/
def firstStripeInvoice (status : StripeInvoiceStatus) : StripeInvoice :=
  { sampleStripeInvoice status with
    billingReason := some .subscriptionCreate
    periodEnd := 2678400
    subscriptionDetails := some ⟨some "local'", some "sub_1"⟩ }

/-- The events of that purchase, with a snapshot whose period starts at `start`. -/
def samplePurchase (start : Int) : Purchase where
  invoiceId := "local'"
  externalInvoiceId := "in_1"
  externalSubscriptionId := "sub_1"
  session := ⟨"cs_1", .subscription, some "local'", some "sub_1"⟩
  created := firstStripeInvoice .draft
  finalized := firstStripeInvoice .open
  paid := firstStripeInvoice .paid
  snapshot := { sampleSnapshot .active .null with items := [⟨some start, some 2678400⟩] }
  session_invoiceId := rfl
  session_subscription := .inr rfl
  invoice_id := by simp [firstStripeInvoice, sampleStripeInvoice]
  invoice_metadata := by decide
  paid_subscription := rfl
  snapshot_id := rfl
  snapshot_status := rfl

/-- The new purchase has taken none of the ids that Stripe sends. -/
private theorem unclaimed_subscribedWorld (start : Int) :
    (samplePurchase start).Unclaimed subscribedWorld :=
  ⟨show ∀ row ∈ subscribedWorld.invoices.rows,
      row.externalCheckoutSessionId = some "cs_1" → row.id = "local'" by decide +kernel,
    show ∀ row ∈ subscribedWorld.invoices.rows, row.externalInvoiceId ≠ some "in_1" by
        decide +kernel,
    show ∀ row ∈ subscribedWorld.subscriptions.rows,
      row.externalSubscriptionId ≠ some "sub_1" by decide +kernel⟩

/-- The call of `subscribe` that leaves the storefront with a purchase. -/
private theorem runs_subscribedWorld : Runs (fun _ => True)
    (subscribe sampleConfig sampleBuyer "plan")
    buyerStorefront ((subscribe sampleConfig sampleBuyer "plan").exec checkoutEnv buyerStorefront).1
    subscribedWorld :=
  runs_exec checkoutEnv trivial _ _

/-- Stripe's period starts 5 s after the local one: handled last, the snapshot sets the period
    of the subscription; handled before `invoice.paid`, the local period replaces it. -/
theorem not_deliveryOrder :
    ¬∀ r w, Runs (fun _ => True) (subscribe sampleConfig sampleBuyer "plan") buyerStorefront r w →
      (w.invoices.find? "local'").isSome → (samplePurchase 5).Unclaimed w →
        ∀ events, OrderIndependent sampleConfig (samplePurchase 5) events w := by
  intro h
  -- the payment before the snapshot, and after it
  have hsame := h _ _ runs_subscribedWorld (by decide +kernel) (unclaimed_subscribedWorld 5)
    PurchaseEvent.all.toFinset
    ([.created, .finalized, .checkout, .paid, .updated].map fun e => (.available 10 "u", e))
    ([.created, .finalized, .checkout, .updated, .paid].map fun e => (.available 10 "u", e))
    ⟨by simp [Env.available], by decide, fun e => by cases e <;> decide⟩
    ⟨by simp [Env.available], by decide, fun e => by cases e <;> decide⟩
  have hdiffer : (handleInOrder sampleConfig (samplePurchase 5)
        ([.created, .finalized, .checkout, .paid, .updated].map fun e => (.available 10 "u", e))
        subscribedWorld).purchaseOutcome "local'" ≠
      (handleInOrder sampleConfig (samplePurchase 5)
        ([.created, .finalized, .checkout, .updated, .paid].map fun e => (.available 10 "u", e))
        subscribedWorld).purchaseOutcome "local'" := by
    decide +kernel
  exact hdiffer hsame

/-- With one period in all of them, no two orders of the five events differ. -/
theorem deliveryOrder_iff_agreeing :
    OrderIndependent sampleConfig (samplePurchase 0) PurchaseEvent.all.toFinset
      subscribedWorld := by
  have hfound : (subscribedWorld.invoices.find? "local'").map (fun i =>
      (i.periodStart, i.periodEnd)) =
      some (0, 2678400000) := by
    decide +kernel
  obtain ⟨invoice, hinvoice, hperiod⟩ := Option.map_eq_some_iff.mp hfound
  obtain ⟨hstart, hend⟩ := Prod.mk.inj hperiod
  refine (deliveryOrder_iff PurchaseEvent.all.toFinset runs_subscribedWorld rfl hinvoice
    (unclaimed_subscribedWorld 0)).mpr ?_
  rw [hstart, hend]
  -- the drafts report the period that the invoice has
  have hdrafts : ∀ a, (samplePurchase 0).DraftIn (· ∈ PurchaseEvent.all.toFinset) a →
      a = firstStripeInvoice .draft ∨ a = firstStripeInvoice .open := by
    rintro a (⟨-, rfl⟩ | ⟨-, rfl⟩)
    · exact .inl rfl
    · exact .inr rfl
  refine ⟨fun a b ha hb => ?_, fun _ a ha => ?_, fun _ _ => ⟨.inl (by decide), by decide⟩⟩
  · rcases hdrafts a ha with rfl | rfl <;> rcases hdrafts b hb with rfl | rfl <;> decide
  · rcases hdrafts a ha with rfl | rfl <;> decide

end HivePoint
