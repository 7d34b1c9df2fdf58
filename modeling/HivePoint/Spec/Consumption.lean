import HivePoint.Spec.Quota
import HivePoint.Spec.OverageWorker
import HivePoint.Spec.EachStatement

/-!
# Consumption next to changes of the subscription

A consuming transaction reads the subscription, then locks its row, and decides on what it
read. Under the lock the row cannot change; between the read and the lock it can.

## Key results

- `ConsumerPhase.step`, `ConsumerPhase.interfere`: the phases of a consuming transaction
- `consumption_restsOnLockedRow`: usage is committed against what the locked row grants,
  when no step changes that between the read and the lock
-/

namespace HivePoint

open Prog Pool

/-! ### The parties -/

/-- What runs next to each other: consuming transactions, and the operations that change
    `Subscription` rows. -/
inductive Actor where
  | consume (params : ConsumptionParams)
  | cancel (externalSubscriptionId : String)
  | sync (params : SyncSubscriptionParams)
  | markPaid (params : MarkInvoicePaidParams)
  | markFailed (params : MarkInvoiceFailedParams)
  | materialize (sourceInvoiceId : Id) (processedAt : Int)

/-- A consuming transaction of which `rest` is still to be done. -/
def consuming (tx : TxId) (rest : Op (AuthorizeUsageResponse × Pending)) :
    Op (Option AuthorizeUsageResponse) := do
  let response ← runTransaction tx rest
  return some response

def Actor.op (config : AppConfig) (tx : TxId) : Actor → Op (Option AuthorizeUsageResponse)
  | .consume params => do
    let response ← authorizeUsageWithConsumption tx params
    return some response
  | .cancel externalSubscriptionId => do
    markSubscriptionCanceledByExternalId externalSubscriptionId
    return none
  | .sync params => do
    syncSubscriptionFromExternal config params
    return none
  | .markPaid params => do
    let _ ← markInvoicePaid params
    return none
  | .markFailed params => do
    let _ ← markInvoiceFailed config params
    return none
  | .materialize sourceInvoiceId processedAt => do
    let _ ← materializeSourceInvoice sourceInvoiceId processedAt
    return none

abbrev Actors := Pool TxId World Env Err (Option AuthorizeUsageResponse)

/-- The actors before their first statement. -/
def startActors (config : AppConfig) (actors : TxId → Actor) (w : World) : Actors :=
  ⟨fun tx => (actors tx).op config tx, w⟩

/-! ### What a row grants -/

/-- The window of the row at an instant, while its status lets usage be consumed. -/
def World.grantedWindow (w : World) (subscriptionId : Id) (occurredAt : Int) : Option UsageWindow :=
  (w.subscriptions.find? subscriptionId).bind fun row =>
    if row.status = .active ∨ row.status = .pastDue then getUsageWindow row occurredAt else none

/-- A granted window is that of an ACTIVE or PAST_DUE row. -/
private theorem grantedWindow_eq_some_iff {w : World} {subscriptionId : Id} {occurredAt : Int}
    {usageWindow : UsageWindow} :
    w.grantedWindow subscriptionId occurredAt = some usageWindow ↔
      ∃ row, w.subscriptions.find? subscriptionId = some row ∧
        (row.status = .active ∨ row.status = .pastDue) ∧
        getUsageWindow row occurredAt = some usageWindow := by
  simp only [World.grantedWindow, Option.bind_eq_some_iff, Option.ite_none_right_eq_some]

/-- What a subscription grants is read off its row. -/
private theorem grantedWindow_congr {w w' : World} {subscriptionId : Id}
    (h : w'.subscriptions.find? subscriptionId = w.subscriptions.find? subscriptionId)
    (occurredAt : Int) :
    w'.grantedWindow subscriptionId occurredAt = w.grantedWindow subscriptionId occurredAt := by
  simp only [World.grantedWindow, h]

/-- What authorization finds is granted a window as soon as it has one. -/
private theorem grantedWindow_of_found {w : World} {userId productId : Id} {occurredAt : Int}
    {found : SubscriptionWithPlan} {usageWindow : UsageWindow}
    (hfound : w.findAuthorizableSubscription userId productId occurredAt = some found)
    (hwindow : getUsageWindow found.subscription occurredAt = some usageWindow) :
    w.grantedWindow found.subscription.id occurredAt = some usageWindow := by
  obtain ⟨hmem, -⟩ := findAuthorizableSubscription_eq_some hfound
  obtain ⟨hrow, hauthorizable⟩ := List.mem_filter.mp hmem
  have hstatus : found.subscription.status = .active ∨ found.subscription.status = .pastDue := by
    simp only [isAuthorizable, Bool.or_eq_true, Bool.and_eq_true,
      decide_eq_true_eq] at hauthorizable
    rcases hauthorizable.2 with h | h
    · exact .inl h.1.1
    · exact .inr h.1.1
  exact grantedWindow_eq_some_iff.mpr ⟨_, Table.find?_key hrow, hstatus, hwindow⟩

/-! ### Operations that take no lock -/

/-- The state changes in the rows of the billing tables only. -/
def OnlyBillingRows (w w' : World) : Prop :=
  ∃ subscriptions invoices, w' = { w with subscriptions, invoices }

/-- A state differs from itself in nothing. -/
theorem OnlyBillingRows.refl (w : World) : OnlyBillingRows w w := ⟨_, _, rfl⟩

/-- A write to a subscription leaves the ledger alone. -/
private theorem onlyBillingRows_updateSubscription {w w' : World} {id : Id}
    {data : Subscription → Subscription} (h : w.updateSubscription id data = .ok w') :
    OnlyBillingRows w w' := by
  obtain ⟨t, -, rfl⟩ := updateSubscription_eq_ok h
  exact ⟨_, _, rfl⟩

/-- A write to an invoice leaves the ledger alone. -/
private theorem onlyBillingRows_updateInvoice {w w' : World} {id : Id} {data : Invoice → Invoice}
    (h : w.updateInvoice id data = .ok w') : OnlyBillingRows w w' := by
  obtain ⟨t, -, rfl⟩ := updateInvoice_eq_ok h
  exact ⟨_, _, rfl⟩

/-- The operations that change `Subscription` rows leave the row locks alone. -/
private theorem eachStep_op (config : AppConfig) (tx : TxId) (actor : Actor)
    (hactor : ∀ params, actor ≠ .consume params) :
    (actor.op config tx).EachStep OnlyBillingRows := by
  -- every operation but the consumption writes subscriptions and invoices only
  cases actor with
  | consume params => exact absurd rfl (hactor params)
  | cancel externalSubscriptionId =>
    exact eachStep_bind (eachStep_markSubscriptionCanceled OnlyBillingRows.refl _
      fun _ _ _ => onlyBillingRows_updateSubscription) fun _ => eachStep_pure _
  | sync params =>
    exact eachStep_bind (eachStep_syncSubscriptionFromExternal OnlyBillingRows.refl config params
      fun _ _ _ _ => onlyBillingRows_updateSubscription) fun _ => eachStep_pure _
  | markPaid params =>
    exact eachStep_bind (eachStep_markInvoicePaid OnlyBillingRows.refl params
      (fun _ _ _ => onlyBillingRows_updateInvoice)
      fun _ _ _ _ => onlyBillingRows_updateSubscription) fun _ => eachStep_pure _
  | markFailed params =>
    exact eachStep_bind (eachStep_markInvoiceFailed OnlyBillingRows.refl config params
      (fun _ _ _ _ => onlyBillingRows_updateInvoice)
      fun _ _ _ _ => onlyBillingRows_updateSubscription) fun _ => eachStep_pure _
  | materialize sourceInvoiceId processedAt =>
    exact eachStep_bind (eachStep_materializeSourceInvoice OnlyBillingRows.refl
      fun _ _ _ _ _ _ => materialize_rows) fun _ => eachStep_pure _

/-! ### The phases of a consuming transaction -/

/-- The statements of a transaction before its commit leave the state alone. -/
def still : Contract World Env where
  permits _ _ _ := True
  rely _ _ := True
  guar w w' := w' = w
  rely_refl _ := trivial
  rely_trans _ _ := trivial

/-- Nothing is assumed about a state that stands still. -/
private theorem stable_still : Stable still fun _ => True :=
  ⟨fun _ _ _ _ => trivial, fun _ _ => rfl⟩

/-- The statements of `rest` leave the state alone, and it ends with an answer and pending
    writes that meet `Q`, or throws. -/
def Prepares (Q : AuthorizeUsageResponse → Pending → Prop)
    (rest : Op (AuthorizeUsageResponse × Pending)) : Prop :=
  ∀ w, Sat still (fun r _ => ∀ a p, r = .ok (a, p) → Q a p) rest w

/-- What is known of the outcomes of the rest is known of what it prepares. -/
private theorem Prepares.of_sat {Q : AuthorizeUsageResponse → Pending → Prop}
    {rest : Op (AuthorizeUsageResponse × Pending)} {w : World}
    (h : Sat still (fun r _ => ∀ a p, r = .ok (a, p) → Q a p) rest w) : Prepares Q rest := by
  intro w'
  cases rest with
  | done r => exact h
  | step act nxt => exact h.interfere trivial

/-- A statement of a part that only prepares leaves the state alone. -/
theorem Prepares.next {Q : AuthorizeUsageResponse → Pending → Prop} {act : Env → World → World}
    {nxt : Env → World → Op (AuthorizeUsageResponse × Pending)} (h : Prepares Q (.step act nxt))
    (env : Env) (w : World) : act env w = w ∧ Prepares Q (nxt env w) :=
  have hstep := h w w trivial env trivial
  ⟨hstep.1, .of_sat hstep.2⟩

/-- The same next to others that leave the ledger of a subscription alone. -/
def ledgerKept (subscriptionId : Id) : Contract World Env where
  permits _ _ _ := True
  rely w w' := w'.ledger subscriptionId = w.ledger subscriptionId
  guar w w' := w' = w
  rely_refl _ := rfl
  rely_trans h₁ h₂ := h₂.trans h₁

/-- What is left of the part under the lock: it decides on the usage of the window as it stands. -/
def SumsUnderLock (params : ConsumptionParams) (found : SubscriptionWithPlan)
    (usageWindow : UsageWindow) (w : World) (rest : Op (AuthorizeUsageResponse × Pending)) : Prop :=
  Sat (ledgerKept found.subscription.id) (fun r _ => ∀ a p, r = .ok (a, p) →
    Decided params found usageWindow
      (w.windowUsage found.subscription.id usageWindow.gte usageWindow.lt) a p) rest w

section SumsUnderLock

variable {params : ConsumptionParams} {found : SubscriptionWithPlan} {usageWindow : UsageWindow}
  {w : World} {rest : Op (AuthorizeUsageResponse × Pending)}

/-- As long as the ledger is kept, the usage of the window is. -/
theorem SumsUnderLock.interfere (h : SumsUnderLock params found usageWindow w rest) {w' : World}
    (hledger : w'.ledger found.subscription.id = w.ledger found.subscription.id) :
    SumsUnderLock params found usageWindow w' rest := by
  unfold SumsUnderLock
  rw [windowUsage_eq_of_ledger hledger]
  cases rest with
  | done r => exact h
  | step act nxt => exact Sat.interfere h hledger

/-- A statement under the lock changes nothing, and the sum stays the one of the ledger. -/
theorem SumsUnderLock.next {act : Env → World → World}
    {nxt : Env → World → Op (AuthorizeUsageResponse × Pending)}
    (h : SumsUnderLock params found usageWindow w (.step act nxt)) (env : Env) :
    act env w = w ∧ SumsUnderLock params found usageWindow w (nxt env w) := by
  have hstep := h w rfl env trivial
  have hstill : act env w = w := hstep.1
  refine ⟨hstill, ?_⟩
  have hrest := hstep.2
  rw [hstill] at hrest
  exact hrest

end SumsUnderLock

/-- Row `id` is locked by `tx` and by nobody else. -/
def World.HeldAlone (w : World) (id : Id) (tx : TxId) : Prop :=
  (id, tx) ∈ w.subscriptionLocks ∧ ∀ tx', (id, tx') ∈ w.subscriptionLocks → tx' = tx

/-- A consuming transaction that is about to lock the row of the subscription it found. -/
def awaitingLock (tx : TxId) (params : ConsumptionParams) (found : SubscriptionWithPlan) :
    Op (Option AuthorizeUsageResponse) :=
  consuming tx (consumeFound tx params (some found) .ok)

/-- Where the consuming transaction `tx` stands. -/
inductive ConsumerPhase (tx : TxId) (params : ConsumptionParams) (w : World) :
    Op (Option AuthorizeUsageResponse) → Prop where
  | start : ConsumerPhase tx params w (consuming tx (consume tx params .ok))
  /-- the row that was read still grants the window that it granted then -/
  | waiting (found : SubscriptionWithPlan) (usageWindow : UsageWindow)
      (hwindow : getUsageWindow found.subscription params.occurredAt = some usageWindow)
      (hgranted : w.grantedWindow found.subscription.id params.occurredAt = some usageWindow) :
      ConsumerPhase tx params w (awaitingLock tx params found)
  | locked (found : SubscriptionWithPlan) (usageWindow : UsageWindow)
      (rest : Op (AuthorizeUsageResponse × Pending))
      (hlock : w.HeldAlone found.subscription.id tx)
      (hgranted : w.grantedWindow found.subscription.id params.occurredAt = some usageWindow)
      (hrest : SumsUnderLock params found usageWindow w rest) :
      ConsumerPhase tx params w (consuming tx rest)
  | refusing (rest : Op (AuthorizeUsageResponse × Pending))
      (hrest : Prepares (fun a p => a.allowed = false ∧ p = .ok) rest) :
      ConsumerPhase tx params w (consuming tx rest)
  | ended (r : Except Err (Option AuthorizeUsageResponse)) : ConsumerPhase tx params w (.done r)

/-- What the others have to leave alone while a consuming transaction is in its phase. -/
theorem ConsumerPhase.interfere {tx : TxId} {params : ConsumptionParams} {w w' : World}
    {p : Op (Option AuthorizeUsageResponse)} (h : ConsumerPhase tx params w p)
    (hlocked : ∀ id, w.HeldAlone id tx → w'.HeldAlone id tx ∧
      w'.subscriptions.find? id = w.subscriptions.find? id ∧ w'.ledger id = w.ledger id)
    (hkept : ∀ found, p = awaitingLock tx params found →
      w'.grantedWindow found.subscription.id params.occurredAt =
        w.grantedWindow found.subscription.id params.occurredAt) :
    ConsumerPhase tx params w' p := by
  -- the phases that hold no lock do not look at the state, or only at the awaited row
  cases h with
  | start => exact .start
  | waiting found usageWindow hwindow hgranted =>
    exact .waiting found usageWindow hwindow ((hkept found rfl).trans hgranted)
  -- under the lock nobody else writes the row or its ledger
  | locked found usageWindow rest hlock hgranted hrest =>
    obtain ⟨hlock', hrow, hledger⟩ := hlocked _ hlock
    exact .locked found usageWindow rest hlock'
      ((grantedWindow_congr hrow params.occurredAt).trans hgranted) (hrest.interfere hledger)
  | refusing rest hrest => exact .refusing rest hrest
  | ended r => exact .ended r

/-! ### One step of a consuming transaction -/

/-- What the next step of an unfinished consuming transaction is: a statement of its body,
    its commit, or its rollback. -/
inductive ConsumerStep (tx : TxId) (env : Env) (rest : Op (AuthorizeUsageResponse × Pending))
    (P P' : Actors) : Prop where
  | statement (act : Env → World → World)
      (nxt : Env → World → Op (AuthorizeUsageResponse × Pending)) (hrest : rest = .step act nxt)
      (hstate : P'.state = act env P.state)
      (hthread : P'.threads tx = consuming tx (nxt env P.state))
  | committed (a : AuthorizeUsageResponse) (p : Pending) (v : World)
      (hrest : rest = .done (.ok (a, p))) (hwrites : p P.state = .ok v)
      (hstate : P'.state = v.releaseLocks tx) (hthread : P'.threads tx = .done (.ok (some a)))
  | rolledBack (e : Err) (hstate : P'.state = P.state.releaseLocks tx)
      (hthread : P'.threads tx = .done (.error e))

/-- A step of the transaction is a statement of its body, or its end. -/
private theorem consumerStep {P P' : Actors} {tx : TxId} {env : Env}
    {rest : Op (AuthorizeUsageResponse × Pending)} (hthread : P.threads tx = consuming tx rest)
    (hnext : P.next readCommitted (.run tx env) = some P') : ConsumerStep tx env rest P P' := by
  obtain ⟨left, hstep, hleft⟩ := next_runTransaction hthread hnext
  cases hstep with
  | statement act nxt hrest hstate => exact .statement act nxt hrest hstate hleft
  | committed a p v hrest hwrites hstate => exact .committed a p v hrest hwrites hstate hleft
  | rolledBack e hstate => exact .rolledBack e hstate hleft

section Step

variable {tx : TxId} {params : ConsumptionParams} {act : Env → World → World}
  {nxt : Env → World → Op (AuthorizeUsageResponse × Pending)}

/-- The read of the subscription. -/
private theorem consume_step (env : Env) (w : World) (h : consume tx params .ok = .step act nxt) :
    act env w = w ∧ ((∃ e, nxt env w = .done (.error e)) ∨ nxt env w =
      consumeFound tx params
        (w.findAuthorizableSubscription params.userId params.productId params.occurredAt) .ok) := by
  obtain ⟨rfl, rfl⟩ := Prog.step.inj h
  cases hdb : env.dbError with
  | some m =>
    simp only [hdb, true_and]
    exact .inl ⟨_, rfl⟩
  | none =>
    simp only [hdb, true_and]
    exact .inr rfl

/-- The lock of the row. -/
private theorem lock_step (env : Env) (w : World) {found : SubscriptionWithPlan}
    {usageWindow : UsageWindow}
    (hwindow : getUsageWindow found.subscription params.occurredAt = some usageWindow)
    (h : consumeFound tx params (some found) .ok = .step act nxt) :
    (act env w = w ∧ ∃ e, nxt env w = .done (.error e)) ∨
      act env w = w.lockSubscription tx found.subscription.id ∧
        nxt env w = consumeLocked params found usageWindow .ok := by
  simp only [consumeFound, hwindow, Option.isNone_some, Bool.false_eq_true, if_false] at h
  obtain ⟨rfl, rfl⟩ := Prog.step.inj h
  -- the lock is refused, or taken
  cases hdb : env.dbError with
  | some m =>
    simp only [hdb]
    exact .inl ⟨trivial, _, rfl⟩
  | none =>
    simp only [hdb]
    exact .inr ⟨trivial, rfl⟩

/-- What the transaction does once it holds the row. -/
theorem prepares_consumeLocked (found : SubscriptionWithPlan) (usageWindow : UsageWindow) :
    Prepares (fun a p => ∃ used, Decided params found usageWindow used a p)
      (consumeLocked params found usageWindow .ok) := by
  have hsum : TxSat still (fun _ => True) (sumUsageForWindow found.subscription.id usageWindow.gte
      usageWindow.lt) .ok fun _ p => True ∧ p = .ok :=
    txSat_sumUsageForWindow_ok stable_still _ _ _ fun _ => ⟨trivial, rfl⟩
  have hrate : TxSat still (fun _ => True) (sumRateLimitUsage found.subscription.id
      (getRateLimitWindowStart params.occurredAt usageWindow.gte) params.occurredAt) .ok
      fun _ p => True ∧ p = .ok := txSat_query stable_still fun _ _ _ _ => ⟨trivial, rfl⟩
  intro w
  refine (txSat_consumeLocked stable_still params found usageWindow hsum hrate w trivial).mono ?_
  rintro r _ ⟨-, hr, -⟩ a p hap
  obtain ⟨used, -, hdecided, -⟩ := hr a p hap
  exact ⟨used, hdecided⟩

/-- It sums the window that it has been given. -/
private theorem sumsUnderLock_consumeLocked (found : SubscriptionWithPlan)
    (usageWindow : UsageWindow) (w : World) :
    SumsUnderLock params found usageWindow w (consumeLocked params found usageWindow .ok) := by
  have hstable : Stable (ledgerKept found.subscription.id) fun w' =>
      w'.ledger found.subscription.id = w.ledger found.subscription.id :=
    ⟨fun _ _ hw hrely => hrely.trans hw, fun _ _ => rfl⟩
  -- the sum over the window, which the ledger under the lock determines
  have hsum := txSat_windowUsage hstable (fun _ h => h) (s := usageWindow.gte) (e := usageWindow.lt)
    (Q := fun n p => n = w.windowUsage found.subscription.id usageWindow.gte usageWindow.lt ∧
      p = .ok)
    ⟨rfl, rfl⟩
  -- the sum of the rate limit, about which nothing is asked
  have hrate : TxSat (ledgerKept found.subscription.id) (fun w' =>
      w'.ledger found.subscription.id = w.ledger found.subscription.id)
      (sumRateLimitUsage found.subscription.id
        (getRateLimitWindowStart params.occurredAt usageWindow.gte) params.occurredAt) .ok
      fun _ p => True ∧ p = .ok := txSat_query hstable fun _ _ _ _ => ⟨trivial, rfl⟩
  refine (txSat_consumeLocked hstable params found usageWindow hsum hrate w rfl).mono ?_
  intro r w' h a p hap
  obtain ⟨-, hr, -⟩ := h
  obtain ⟨used, hused, hdecided, -⟩ := hr a p hap
  exact hused ▸ hdecided

/-- A statement that the database does not execute ends the body. -/
private theorem prepares_error {Q : AuthorizeUsageResponse → Pending → Prop} (e : Err) :
    Prepares Q (.done (.error e)) := fun _ _ _ hap => nomatch hap

/-- The phase after the read. -/
private theorem phase_found {w : World} (found : Option SubscriptionWithPlan)
    (hfound : w.findAuthorizableSubscription params.userId params.productId params.occurredAt =
      found) : ConsumerPhase tx params w (consuming tx (consumeFound tx params found .ok)) := by
  -- a refusal records nothing
  have hrefused : ConsumerPhase tx params w
      (consuming tx ((pure (noActiveSubscription params) : TxM AuthorizeUsageResponse) .ok)) := by
    refine .refusing _ fun _ a p hap => ?_
    obtain ⟨rfl, rfl⟩ := Prod.mk.inj (Except.ok.inj hap)
    exact ⟨rfl, rfl⟩
  cases found with
  | none => exact hrefused
  | some found =>
    cases hwindow : getUsageWindow found.subscription params.occurredAt with
    | none =>
      simp only [consumeFound, hwindow, Option.isNone_none, if_true]
      exact hrefused
    -- the row that was found grants the window at the time of the read
    | some usageWindow =>
      exact .waiting found usageWindow hwindow (grantedWindow_of_found hfound hwindow)

end Step

/-- What a step of `tx` leaves alone: the locks of the others, and the ledgers of the rows that it
    has not locked. -/
structure LeavesOthers (tx : TxId) (w w' : World) : Prop where
  locks : ∀ id tx', tx' ≠ tx →
    ((id, tx') ∈ w'.subscriptionLocks ↔ (id, tx') ∈ w.subscriptionLocks)
  ledger : ∀ id, (id, tx) ∈ w.subscriptionLocks ∨ w'.ledger id = w.ledger id

/-- A step that changes nothing leaves the others alone. -/
theorem LeavesOthers.refl (tx : TxId) (w : World) : LeavesOthers tx w w :=
  ⟨fun _ _ _ => .rfl, fun _ => .inr rfl⟩

/-- Taking a lock writes no row. -/
private theorem leavesOthers_lockSubscription (tx : TxId) (w : World) (id : Id) :
    LeavesOthers tx w (w.lockSubscription tx id) := by
  refine ⟨fun id' tx' hne => ?_, fun _ => .inr rfl⟩
  rw [mem_lockSubscription]
  exact or_iff_right fun h => hne h.2

/-- Releasing one's own locks leaves the others what they hold. -/
private theorem leavesOthers_releaseLocks {tx : TxId} {w v : World}
    (hlocks : v.subscriptionLocks = w.subscriptionLocks)
    (hledger : ∀ id, (id, tx) ∈ w.subscriptionLocks ∨ v.ledger id = w.ledger id) :
    LeavesOthers tx w (v.releaseLocks tx) := by
  refine ⟨fun id tx' hne => ?_, hledger⟩
  rw [mem_releaseLocks, hlocks]
  exact and_iff_left hne

/-- What a party other than `tx` does to a row that `tx` holds alone. -/
private theorem LeavesOthers.heldAlone {tx u : TxId} {w w' : World} (h : LeavesOthers u w w')
    (hperm : w.respectsLocks u w' = true) {id : Id} (hheld : w.HeldAlone id tx) (hne : tx ≠ u) :
    w'.HeldAlone id tx ∧ w'.subscriptions.find? id = w.subscriptions.find? id ∧
      w'.ledger id = w.ledger id := by
  obtain ⟨hrow, hfree⟩ := respectsLocks_iff.mp hperm id tx hheld.1 hne
  refine ⟨⟨(h.locks id tx hne).mpr hheld.1, fun tx' hlock => ?_⟩, hrow, ?_⟩
  · by_cases hu : tx' = u
    · exact absurd (hu ▸ hlock) hfree
    · exact hheld.2 tx' ((h.locks id tx' hu).mp hlock)
  · exact (h.ledger id).resolve_left fun hlock => hne (hheld.2 u hlock).symm

/-- A lock that the database grants is held alone. -/
private theorem heldAlone_lockSubscription {tx : TxId} {w : World} {id : Id}
    (hperm : w.respectsLocks tx (w.lockSubscription tx id) = true) :
    (w.lockSubscription tx id).HeldAlone id tx := by
  have hmine : (id, tx) ∈ (w.lockSubscription tx id).subscriptionLocks :=
    mem_lockSubscription.mpr (.inl ⟨rfl, rfl⟩)
  refine ⟨hmine, fun tx' hlock => ?_⟩
  by_contra hne
  have hbefore := ((leavesOthers_lockSubscription tx w id).locks id tx' hne).mp hlock
  exact (respectsLocks_iff.mp hperm id tx' hbefore hne).2 hmine

/-- The writes of a decision are those of its recording. -/
theorem Decided.subscriptionLocks {params : ConsumptionParams} {found : SubscriptionWithPlan}
    {usageWindow : UsageWindow} {used : Int} {a : AuthorizeUsageResponse} {p : Pending}
    {w v : World} (h : Decided params found usageWindow used a p) (hv : p w = .ok v) :
    v.subscriptionLocks = w.subscriptionLocks := by
  rcases h with ⟨-, rfl⟩ | ⟨⟨aggregatedAt, uuid, rfl⟩, -⟩
  · rw [Except.ok.inj hv]
  · obtain ⟨_, _, _, -, -, rfl⟩ := recordUsage_eq_ok hv
    rfl

/-- They are to the ledger of the subscription that was found. -/
theorem Decided.ledger {params : ConsumptionParams} {found : SubscriptionWithPlan}
    {usageWindow : UsageWindow} {used : Int} {a : AuthorizeUsageResponse} {p : Pending}
    {w v : World} (h : Decided params found usageWindow used a p) (hv : p w = .ok v) (id : Id) :
    id = found.subscription.id ∨ v.ledger id = w.ledger id := by
  cases h with
  | inl hrefused =>
    obtain ⟨-, rfl⟩ := hrefused
    rw [Except.ok.inj hv]
    exact .inr rfl
  | inr hgranted =>
    obtain ⟨⟨aggregatedAt, uuid, rfl⟩, -⟩ := hgranted
    by_cases hid : id = found.subscription.id
    · exact .inl hid
    · exact .inr (ledger_recordUsage hv fun h => hid h.symm)

/-- Every step leads from a phase to a phase. -/
theorem ConsumerPhase.step {tx : TxId} {params : ConsumptionParams} {env : Env} {P P' : Actors}
    (h : ConsumerPhase tx params P.state (P.threads tx))
    (hnext : P.next readCommitted (.run tx env) = some P') :
    ConsumerPhase tx params P'.state (P'.threads tx) ∧ LeavesOthers tx P.state P'.state := by
  have hperm : P.state.respectsLocks tx P'.state = true := by
    obtain ⟨_, _, -, hperm, rfl⟩ := next_run_cases hnext
    exact hperm
  have hreleased : LeavesOthers tx P.state (P.state.releaseLocks tx) :=
    leavesOthers_releaseLocks rfl fun _ => .inr rfl
  generalize hthread : P.threads tx = p at h
  cases h with
  | start =>
    cases consumerStep hthread hnext with
    | committed a p v hrest => cases hrest
    | rolledBack e hstate hthread' =>
      rw [hthread', hstate]
      exact ⟨.ended _, hreleased⟩
    | statement act nxt hrest hstate hthread' =>
      obtain ⟨hact, hnxt⟩ := consume_step env P.state hrest
      rw [hthread', hstate, hact]
      refine ⟨?_, .refl tx _⟩
      rcases hnxt with ⟨e, he⟩ | hnxt
      · rw [he]
        exact .refusing _ (prepares_error e)
      · rw [hnxt]
        exact phase_found _ rfl
  | waiting found usageWindow hwindow hgranted =>
    cases consumerStep hthread hnext with
    | committed a p v hrest =>
      simp only [consumeFound, hwindow, Option.isNone_some, Bool.false_eq_true, if_false] at hrest
      cases hrest
    | rolledBack e hstate hthread' =>
      rw [hthread', hstate]
      exact ⟨.ended _, hreleased⟩
    | statement act nxt hrest hstate hthread' =>
      rw [hthread', hstate]
      rcases lock_step env P.state hwindow hrest with ⟨hact, e, he⟩ | ⟨hact, hnxt⟩
      · rw [hact, he]
        exact ⟨.refusing _ (prepares_error e), .refl tx _⟩
      · rw [hstate, hact] at hperm
        rw [hact, hnxt]
        exact ⟨.locked found usageWindow _ (heldAlone_lockSubscription hperm) hgranted
          (sumsUnderLock_consumeLocked found usageWindow _), leavesOthers_lockSubscription tx _ _⟩
  | locked found usageWindow rest hlock hgranted hrest =>
    cases consumerStep hthread hnext with
    | committed a p v hdone hwrites hstate hthread' =>
      subst hdone
      have hdecided := hrest a p rfl
      rw [hthread', hstate]
      refine ⟨.ended _, leavesOthers_releaseLocks (hdecided.subscriptionLocks hwrites) fun id => ?_⟩
      -- what is written is the ledger of the row that it holds
      cases hdecided.ledger hwrites id with
      | inl hid => exact .inl (hid ▸ hlock.1)
      | inr hkept => exact .inr hkept
    | rolledBack e hstate hthread' =>
      rw [hthread', hstate]
      exact ⟨.ended _, hreleased⟩
    | statement act nxt hstep hstate hthread' =>
      subst hstep
      obtain ⟨hact, hnxt⟩ := hrest.next env
      rw [hthread', hstate, hact]
      exact ⟨.locked found usageWindow _ hlock hgranted hnxt, .refl tx _⟩
  | refusing rest hrest =>
    cases consumerStep hthread hnext with
    | committed a p v hdone hwrites hstate hthread' =>
      obtain ⟨-, rfl⟩ := (hdone ▸ hrest) P.state a p rfl
      obtain rfl := Except.ok.inj hwrites
      rw [hthread', hstate]
      exact ⟨.ended _, hreleased⟩
    | rolledBack e hstate hthread' =>
      rw [hthread', hstate]
      exact ⟨.ended _, hreleased⟩
    | statement act nxt hstep hstate hthread' =>
      obtain ⟨hact, hnxt⟩ := (hstep ▸ hrest).next env P.state
      rw [hthread', hstate, hact]
      exact ⟨.refusing _ hnxt, .refl tx _⟩
  | ended r =>
    obtain ⟨_, _, hstep, -⟩ := next_run_cases hnext
    cases hthread.symm.trans hstep

/-! ### All parties together -/

/-- The step changes no window on which a consuming transaction has decided to go on, but
    which it has not locked yet. -/
def KeepsAwaited (P : Actors) (c : Choice TxId Env Err) : Prop :=
  ∀ P', P.next readCommitted c = some P' → ∀ tx params found,
    P.threads tx = awaitingLock tx params found →
    P'.state.grantedWindow found.subscription.id params.occurredAt =
      P.state.grantedWindow found.subscription.id params.occurredAt

/-- Every consuming transaction is in a phase, and every other operation still leaves the
    locks alone. -/
structure InPhase (actors : TxId → Actor) (P : Actors) : Prop where
  consumer : ∀ tx params, actors tx = .consume params →
    ConsumerPhase tx params P.state (P.threads tx)
  billing : ∀ tx, (∀ params, actors tx ≠ .consume params) →
    (P.threads tx).EachStep OnlyBillingRows

section Run

variable {config : AppConfig} {actors : TxId → Actor} {P P' : Actors}

/-- What one step leaves to the others. -/
private theorem InPhase.leavesOthers (h : InPhase actors P) {tx : TxId} {env : Env}
    (hnext : P.next readCommitted (.run tx env) = some P') : LeavesOthers tx P.state P'.state := by
  by_cases hconsumer : ∃ params, actors tx = .consume params
  · obtain ⟨params, hactor⟩ := hconsumer
    exact ((h.consumer tx params hactor).step hnext).2
  · have hbilling := h.billing tx fun params hactor => hconsumer ⟨params, hactor⟩
    obtain ⟨act, nxt, hthread, -, rfl⟩ := next_run_cases hnext
    rw [hthread] at hbilling
    obtain ⟨subscriptions, invoices, hrows⟩ := (hbilling env P.state).1
    simp only [hrows]
    exact ⟨fun _ _ _ => .rfl, fun _ => .inr rfl⟩

/-- One step keeps every transaction in one of its phases. -/
theorem InPhase.next (h : InPhase actors P) {c : Choice TxId Env Err} (hkept : KeepsAwaited P c)
    (hnext : P.next readCommitted c = some P') : InPhase actors P' := by
  have hawaited := hkept P' hnext
  -- what `u` holds alone, the others neither change nor take
  have hlocked : ∀ u, u ≠ c.thread → ∀ id, P.state.HeldAlone id u → P'.state.HeldAlone id u ∧
      P'.state.subscriptions.find? id = P.state.subscriptions.find? id ∧
      P'.state.ledger id = P.state.ledger id := by
    intro u hu id hheld
    cases c with
    | run tx env =>
      have hleaves := h.leavesOthers hnext
      obtain ⟨act, nxt, -, hperm, rfl⟩ := next_run_cases hnext
      exact hleaves.heldAlone hperm hheld hu
    | stop tx e =>
      obtain ⟨-, rfl⟩ := next_stop_cases hnext
      refine ⟨⟨mem_releaseLocks.mpr ⟨hheld.1, hu⟩, fun tx' hlock => ?_⟩, rfl, rfl⟩
      exact hheld.2 tx' (mem_releaseLocks.mp hlock).1
  refine ⟨fun u params hactor => ?_, fun u hactor => ?_⟩
  · by_cases hu : u = c.thread
    · cases c with
      | run tx env => exact hu ▸ ((hu ▸ h.consumer u params hactor).step hnext).1
      | stop tx e =>
        obtain ⟨-, rfl⟩ := next_stop_cases hnext
        obtain rfl : u = tx := hu
        simp only [Function.update_self]
        exact .ended _
    · rw [next_threads_of_ne hnext hu]
      exact (h.consumer u params hactor).interfere (hlocked u hu) fun found =>
        hawaited u params found
  · have hbilling := h.billing u hactor
    by_cases hu : u = c.thread
    · cases c with
      | run tx env =>
        obtain ⟨act, nxt, hthread, -, rfl⟩ := next_run_cases hnext
        obtain rfl : u = tx := hu
        rw [hthread] at hbilling
        simp only [Function.update_self]
        exact (hbilling env P.state).2
      | stop tx e =>
        obtain ⟨-, rfl⟩ := next_stop_cases hnext
        obtain rfl : u = tx := hu
        simp only [Function.update_self]
        trivial
    · rwa [next_threads_of_ne hnext hu]

/-- In every reachable state each transaction is in one of its phases. -/
private theorem inPhase_of_reach {w₀ : World}
    (hreach : Reach readCommitted KeepsAwaited (startActors config actors w₀) P) :
    InPhase actors P := by
  induction hreach with
  | init =>
    refine ⟨fun tx params hactor => ?_, fun tx hactor => eachStep_op config tx _ hactor⟩
    simp only [startActors, hactor]
    exact .start
  | step _ hkept hnext ih => exact ih.next hkept hnext

/-- What a step that commits usage rests on: `tx` holds a row that grants a window at the
    instant; the usage is recorded for this row, the answer is about this window, and the requests
    that it counts are those of this window and the new ones. -/
def RestsOnLockedRow (tx : TxId) (params : ConsumptionParams) (P P' : Actors) : Prop :=
  ∃ row usageWindow response, (row.id, tx) ∈ P.state.subscriptionLocks ∧
    P.state.subscriptions.find? row.id = some row ∧
    (row.status = .active ∨ row.status = .pastDue) ∧
    getUsageWindow row params.occurredAt = some usageWindow ∧
    (∃ aggregatedAt uuid v, P.state.recordUsage
      ⟨row.id, params.occurredAt, params.endpoint, params.requestCount, none⟩ aggregatedAt uuid =
        .ok v ∧ P'.state = v.releaseLocks tx) ∧
    P'.threads tx = .done (.ok (some response)) ∧ response.subscriptionId = some row.id ∧
    response.periodStart = some usageWindow.gte ∧ response.periodEnd = some usageWindow.lt ∧
    response.usedRequests = some
      (P.state.windowUsage row.id usageWindow.gte usageWindow.lt + params.requestCount)

/-- A consuming transaction records usage by its commit only, under the lock of a row that
    grants the window it has summed. -/
private theorem ConsumerPhase.restsOnLockedRow {tx : TxId} {params : ConsumptionParams} {env : Env}
    (h : ConsumerPhase tx params P.state (P.threads tx))
    (hnext : P.next readCommitted (.run tx env) = some P')
    (hrecords : P'.state.usageRecords ≠ P.state.usageRecords) :
    RestsOnLockedRow tx params P P' := by
  -- only a commit adds records, so each phase is asked whether it can commit
  generalize hthread : P.threads tx = p at h
  cases h with
  -- the first read is still to come
  | start =>
    cases consumerStep hthread hnext with
    | committed a p v hrest => cases hrest
    | rolledBack e hstate => exact absurd (by rw [hstate]; rfl) hrecords
    | statement act nxt hrest hstate =>
      rw [hstate, (consume_step env P.state hrest).1] at hrecords
      exact absurd rfl hrecords
  -- the lock is still to come
  | waiting found usageWindow hwindow =>
    cases consumerStep hthread hnext with
    | committed a p v hrest =>
      simp only [consumeFound, hwindow, Option.isNone_some, Bool.false_eq_true, if_false] at hrest
      cases hrest
    | rolledBack e hstate => exact absurd (by rw [hstate]; rfl) hrecords
    | statement act nxt hrest hstate =>
      refine absurd ?_ hrecords
      rcases lock_step env P.state hwindow hrest with ⟨hact, -⟩ | ⟨hact, -⟩
      · rw [hstate, hact]
      · rw [hstate, hact]
        rfl
  -- under the lock: what is committed was decided there
  | locked found usageWindow rest hlock hgranted hrest =>
    cases consumerStep hthread hnext with
    | committed a p v hdone hwrites hstate hthread' =>
      obtain ⟨row, hrow, hstatus, hrowWindow⟩ := grantedWindow_eq_some_iff.mp hgranted
      have hid : row.id = found.subscription.id := Table.key_of_find? hrow
      subst hdone
      cases hrest a p rfl with
      | inl hrefused =>
        obtain ⟨-, rfl⟩ := hrefused
        obtain rfl := Except.ok.inj hwrites
        exact absurd (by rw [hstate]; rfl) hrecords
      | inr hgrants =>
        obtain ⟨⟨aggregatedAt, uuid, rfl⟩, -, -, hsubscription, hstart, hfinish, hused, -⟩ :=
          hgrants
        rw [← hid] at hlock hrow hsubscription hwrites hused
        exact ⟨row, usageWindow, a, hlock.1, hrow, hstatus, hrowWindow,
          ⟨aggregatedAt, uuid, v, hwrites, hstate⟩, hthread', hsubscription, hstart, hfinish, hused⟩
    | rolledBack e hstate => exact absurd (by rw [hstate]; rfl) hrecords
    | statement act nxt hstep hstate =>
      subst hstep
      rw [hstate, (hrest.next env).1] at hrecords
      exact absurd rfl hrecords
  -- a refusal commits nothing
  | refusing rest hrest =>
    cases consumerStep hthread hnext with
    | committed a p v hdone hwrites hstate =>
      obtain ⟨-, rfl⟩ := (hdone ▸ hrest) P.state a p rfl
      obtain rfl := Except.ok.inj hwrites
      exact absurd (by rw [hstate]; rfl) hrecords
    | rolledBack e hstate => exact absurd (by rw [hstate]; rfl) hrecords
    | statement act nxt hstep hstate =>
      have hprepares : Prepares _ (.step act nxt) := hstep ▸ hrest
      rw [hstate, (hprepares.next env P.state).1] at hrecords
      exact absurd rfl hrecords
  | ended r =>
    obtain ⟨_, _, hstep, -⟩ := next_run_cases hnext
    cases hthread.symm.trans hstep

/-- When no step changes what a row grants between a transaction's read of it and its lock,
    usage is committed only against what the locked row grants. -/
theorem consumption_restsOnLockedRow {w₀ : World}
    (hreach : Reach readCommitted KeepsAwaited (startActors config actors w₀) P) {tx : TxId}
    {params : ConsumptionParams} (hactor : actors tx = .consume params) {env : Env}
    (hnext : P.next readCommitted (.run tx env) = some P')
    (hrecords : P'.state.usageRecords ≠ P.state.usageRecords) : RestsOnLockedRow tx params P P' :=
  ((inPhase_of_reach hreach).consumer tx params hactor).restsOnLockedRow hnext hrecords

end Run

/-! ### A deletion between the read and the lock -/

/-- Transaction 0 asks for one request; 1 is the deletion of the subscription in Stripe. -/
def consumeAndCancel (tx : TxId) : Actor :=
  if tx = 0 then .consume ⟨"key", "buyer", "product", "/v1", 1, 50⟩ else .cancel "sub_1"

/-- The transaction reads, the deletion is handled, the transaction goes on to its commit. -/
def canceledMidway : List (Choice TxId Env Err) :=
  .run 0 (.available 50 "r0") :: List.replicate 2 (.run 1 (.available 50 "r1")) ++
    List.replicate 6 (.run 0 (.available 50 "r0"))

/-- Usage is not always committed against what the locked row grants: here the locked row
    is canceled. -/
theorem not_consumption_restsOnLockedRow :
    ¬∀ P P' env, Reach readCommitted (fun _ _ => True) (startActors sampleConfig consumeAndCancel
        (sampleWorld (sampleSubscription .active))) P →
      P.next readCommitted (.run 0 env) = some P' →
      P'.state.usageRecords ≠ P.state.usageRecords →
      RestsOnLockedRow 0 ⟨"key", "buyer", "product", "/v1", 1, 50⟩ P P' := by
  intro h
  -- the step that records finds the subscription CANCELED
  have hcommits :
      ((runSchedule readCommitted canceledMidway (startActors sampleConfig consumeAndCancel
      (sampleWorld (sampleSubscription .active)))).bind fun P =>
        (P.next readCommitted (.run 0 (.available 50 "r0"))).map fun P' =>
          (P.state.subscriptions.rows.all (·.status = .canceled), P.state.usageRecords.rows.length,
            P'.state.usageRecords.rows.length)) = some (true, 0, 1) := by
    decide +kernel
  obtain ⟨P, hrun, hnext⟩ := Option.bind_eq_some_iff.mp hcommits
  obtain ⟨P', hnext, hfacts⟩ := Option.map_eq_some_iff.mp hnext
  obtain ⟨hcanceled, hlengths⟩ := Prod.mk.inj hfacts
  obtain ⟨hbefore, hafter⟩ := Prod.mk.inj hlengths
  have hrecords : P'.state.usageRecords ≠ P.state.usageRecords := by
    intro heq
    rw [heq, hbefore] at hafter
    exact nomatch hafter
  obtain ⟨row, _, _, -, hrow, hstatus, -⟩ :=
    h P P' _ (reach_runSchedule canceledMidway .init hrun) hnext hrecords
  have hrowCanceled := List.all_eq_true.mp hcanceled row (Table.mem_of_find? hrow)
  rcases hstatus with hs | hs <;> simp [hs] at hrowCanceled

/-! ### A transaction that nobody disturbs -/

/-- A step that changes no subscription. -/
private theorem keepsAwaited_of_subscriptions {P : Actors} {c : Choice TxId Env Err}
    (h : ∀ P', P.next readCommitted c = some P' → P'.state.subscriptions = P.state.subscriptions) :
    KeepsAwaited P c := by
  intro P' hnext tx params found _
  exact grantedWindow_congr (by rw [h P' hnext]) params.occurredAt

/-- Take the steps of a schedule while they change no subscription. -/
def runUndisturbed : List (Choice TxId Env Err) → Actors → Option Actors
  | [], P => some P
  | c :: cs, P => do
    let P' ← P.next readCommitted c
    if P'.state.subscriptions.rows = P.state.subscriptions.rows then runUndisturbed cs P' else none

/-- A schedule that disturbs nobody is a run. -/
private theorem reach_runUndisturbed {P₀ P P' : Actors} (cs : List (Choice TxId Env Err))
    (h : Reach readCommitted KeepsAwaited P₀ P) (hrun : runUndisturbed cs P = some P') :
    Reach readCommitted KeepsAwaited P₀ P' := by
  -- induction on the schedule, each step of which leaves the subscriptions alone
  induction cs generalizing P with
  | nil =>
    obtain rfl := Option.some.inj hrun
    exact h
  | cons c cs ih =>
    obtain ⟨P₁, hnext, hrun⟩ := Option.bind_eq_some_iff.mp hrun
    split at hrun
    · rename_i hrows
      have hkept : KeepsAwaited P c := keepsAwaited_of_subscriptions fun P₂ hnext₂ => by
        obtain rfl := Option.some.inj (hnext.symm.trans hnext₂)
        exact Table.eq_of_rows hrows
      exact ih (h.step hkept hnext) hrun
    · exact nomatch hrun

/-- Transaction 0 of the same pool, with the deletion left for later. -/
theorem consumption_restsOnLockedRow_undisturbed :
    ∃ P P', runUndisturbed (List.replicate 7 (.run 0 (.available 50 "r0")))
        (startActors sampleConfig consumeAndCancel (sampleWorld (sampleSubscription .active))) =
          some P ∧
      RestsOnLockedRow 0 ⟨"key", "buyer", "product", "/v1", 1, 50⟩ P P' := by
  -- seven steps, and the eighth records
  have hcommits : ((runUndisturbed (List.replicate 7 (.run 0 (.available 50 "r0")))
      (startActors sampleConfig consumeAndCancel
        (sampleWorld (sampleSubscription .active)))).bind fun P =>
        (P.next readCommitted (.run 0 (.available 50 "r0"))).map fun P' =>
          (P.state.usageRecords.rows.length, P'.state.usageRecords.rows.length)) = some (0, 1) := by
    decide +kernel
  obtain ⟨P, hrun, hnext⟩ := Option.bind_eq_some_iff.mp hcommits
  obtain ⟨P', hnext, hfacts⟩ := Option.map_eq_some_iff.mp hnext
  obtain ⟨hbefore, hafter⟩ := Prod.mk.inj hfacts
  have hrecords : P'.state.usageRecords ≠ P.state.usageRecords := by
    intro heq
    rw [heq, hbefore] at hafter
    exact nomatch hafter
  exact ⟨P, P', hrun, consumption_restsOnLockedRow (reach_runUndisturbed _ .init hrun) rfl hnext
    hrecords⟩

end HivePoint
