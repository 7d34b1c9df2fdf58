import HivePoint.ForStd.Pool
import HivePoint.Native.BillingReconciliation
import HivePoint.Native.BillingManagedRetry
import HivePoint.Spec.OverageWorker

/-!
# The statements of billing

Everything that writes `Subscription` and `Invoice` rows: subscribing and canceling, payment
outcomes, webhooks, managed retries, reconciliation and the overage worker. Any number of
their calls run next to each other, each a program of its own. `BillingStep` says what one
statement of such a call does, and `billingStep_of_recall` that every step of every run is one.
-/

namespace HivePoint

open Prog Pool

/-! ### The calls -/

inductive BillingProcess where
  | subscribe (user : AuthenticatedUser) (planId : Id)
  | cancel (subscriptionId : Id) (user : AuthenticatedUser)
  | mockSucceed (invoiceId : Id)
  | mockFail (invoiceId : Id)
  | webhook (event : StripeEvent)
  /-- a cycle of managed retries -/
  | retries
  /-- one subscription of a reconciliation cycle -/
  | reconcile (externalSubscriptionId : String)
  /-- a cycle of the overage worker -/
  | collection

def BillingProcess.op (toISOString : Int → String) (config : AppConfig) : BillingProcess → Op Unit
  | .subscribe user planId => do
    let _ ← HivePoint.subscribe config user planId
  | .cancel subscriptionId user => do
    let _ ← cancelSubscription subscriptionId user
  | .mockSucceed invoiceId => HivePoint.mockSucceed invoiceId
  | .mockFail invoiceId => HivePoint.mockFail config invoiceId
  | .webhook event => handleWebhook config event
  | .retries => processDueRetries config
  | .reconcile externalSubscriptionId => reconcileSubscription config externalSubscriptionId
  | .collection => processDueOverageCollection toISOString config

abbrev BillingProcesses := Pool Nat World Env Err Unit

/-- The calls before their first statement. -/
def startBilling (toISOString : Int → String) (config : AppConfig) (calls : Nat → BillingProcess)
    (w : World) : BillingProcesses :=
  ⟨fun n => (calls n).op toISOString config, w⟩

/-! ### The transaction of `subscribe` -/

/-- What `subscribe` creates, and that its snapshot had no live subscription of the user to the
    product and all of theirs that are there now. -/
theorem subscribe_cases {config : AppConfig} {env : Env} {w seen w' : World} {userId : Id}
    {plan : Plan} {periodStart periodEnd : Int} {ids : Id × Id}
    (h : w.subscribe config env seen userId plan periodStart periodEnd = .ok (ids, w')) :
    ∃ subscriptions invoices, seen.findLiveSubscription userId plan.productId = none ∧
      w.boughtSince seen userId plan.productId = false ∧
      w.subscriptions.insert? (pendingSubscription config userId plan env) = some subscriptions ∧
      w.invoices.insert? (firstInvoice config plan periodStart periodEnd env) = some invoices ∧
      w' = { w with subscriptions, invoices } := by
  -- no live subscription was read, none was bought since, and both inserts succeeded
  rw [World.subscribe] at h
  split at h
  · exact nomatch h
  · rename_i hnone
    split at h
    · cases h
    · rename_i hbought
      obtain ⟨w₁, hsubscription, h⟩ := except_bind_eq_ok.mp h
      obtain ⟨w₂, hinvoice, h⟩ := except_bind_eq_ok.mp h
      obtain ⟨-, rfl⟩ := Prod.mk.inj (Except.ok.inj h)
      obtain ⟨s, hs, rfl⟩ := createSubscription_eq_ok hsubscription
      obtain ⟨t, ht, rfl⟩ := createInvoice_eq_ok hinvoice
      exact ⟨s, t, hnone, Bool.eq_false_iff.mpr hbought, hs, ht, rfl⟩

/-! ### What a statement of any call does -/

/-- The columns of an invoice that say what it is for. -/
structure SameOrigin (row row' : Invoice) : Prop where
  id : row'.id = row.id
  subscriptionId : row'.subscriptionId = row.subscriptionId
  kind : row'.kind = row.kind
  overageSourceInvoiceId : row'.overageSourceInvoiceId = row.overageSourceInvoiceId
  overageProcessedAt : row'.overageProcessedAt = row.overageProcessedAt

/-- A new subscription, a settlement, an invoice that Stripe created, other columns of an
    invoice or a subscription, or nothing but users and the log of Stripe requests. The snapshots
    of the first two meet `met`. -/
inductive BillingStep (config : AppConfig) (met : World → Prop) (w w' : World) : Prop where
  | subscribed (env : Env) (seen : World) (hseen : met seen) (userId : Id) (plan : Plan)
      (periodStart periodEnd : Int) (ids : Id × Id) (hplan : w.plans.find? plan.id = some plan)
      (h : w.subscribe config env seen userId plan periodStart periodEnd = .ok (ids, w'))
  | settled (env : Env) (hdb : env.dbError = none) (seen : World) (hseen : met seen)
      (sourceInvoiceId : Id) (processedAt : Int) (processed : Bool)
      (h : w.materializeSourceInvoice env seen sourceInvoiceId processedAt = .ok (processed, w'))
  | created (params : SyncInvoiceParams) (subscriptionId : Id) (env : Env)
      (h : w.createInvoice (externalInvoice params subscriptionId env) = .ok w')
  | invoice (id : Id) (data : Invoice → Invoice) (hdata : ∀ row, SameOrigin row (data row))
      (h : w.updateInvoice id data = .ok w')
  | subscription (id : Id) (data : Subscription → Subscription)
      (hdata : ∀ row, SameOwner row (data row)) (h : w.updateSubscription id data = .ok w')
  | requested (h : OnlyRequests w w')

variable {config : AppConfig} {met : World → Prop}

/-- A step may change nothing. -/
theorem BillingStep.refl (w : World) : BillingStep config met w w := .requested (.refl w)

/-- What a step's reader met may be told less precisely. -/
theorem BillingStep.mono {met' : World → Prop} {w w' : World} (h : BillingStep config met w w')
    (hmet : ∀ seen, met seen → met' seen) : BillingStep config met' w w' := by
  cases h with
  | subscribed env seen hseen userId plan periodStart periodEnd ids hplan h =>
    exact .subscribed env seen (hmet seen hseen) userId plan periodStart periodEnd ids hplan h
  | settled env hdb seen hseen sourceInvoiceId processedAt processed h =>
    exact .settled env hdb seen (hmet seen hseen) sourceInvoiceId processedAt processed h
  | created params subscriptionId env h => exact .created params subscriptionId env h
  | invoice id data hdata h => exact .invoice id data hdata h
  | subscription id data hdata h => exact .subscription id data hdata h
  | requested h => exact .requested h

section Programs

/-- A call of Stripe is a billing step. -/
private theorem billingStep_callStripe {α : Type} (request : StripeRequest)
    (answer : StripeApi → Answer α) :
    (callStripe request answer).EachStep (BillingStep config met) :=
  (onlyRequests_callStripe request answer).mono fun _ _ => .requested

/-- Marking an invoice paid takes billing steps. -/
private theorem billingStep_markInvoicePaid (params : MarkInvoicePaidParams) :
    (markInvoicePaid params).EachStep (BillingStep config met) := by
  refine eachStep_markInvoicePaid BillingStep.refl params
    (fun _ _ _ h => .invoice _ _ (fun row => ?_) h)
    fun _ _ _ _ h => .subscription _ _ (fun row => ?_) h
  · exact ⟨rfl, rfl, rfl, rfl, rfl⟩
  · exact ⟨rfl, rfl, rfl⟩

/-- Marking an invoice failed takes billing steps. -/
private theorem billingStep_markInvoiceFailed (params : MarkInvoiceFailedParams) :
    (markInvoiceFailed config params).EachStep (BillingStep config met) := by
  refine eachStep_markInvoiceFailed BillingStep.refl config params
    (fun _ _ _ _ h => .invoice _ _ (fun row => ?_) h)
    fun _ _ _ _ h => .subscription _ _ (fun row => ?_) h
  · exact ⟨rfl, rfl, rfl, rfl, rfl⟩
  · exact ⟨rfl, rfl, rfl⟩

/-- Canceling a subscription takes billing steps. -/
private theorem billingStep_markSubscriptionCanceled (externalSubscriptionId : String) :
    (markSubscriptionCanceledByExternalId externalSubscriptionId).EachStep
      (BillingStep config met) :=
  eachStep_markSubscriptionCanceled BillingStep.refl _
    fun _ _ _ h => .subscription _ canceledRow (fun _ => ⟨rfl, rfl, rfl⟩) h

/-- Syncing a subscription takes billing steps. -/
private theorem billingStep_syncSubscriptionFromExternal (params : SyncSubscriptionParams) :
    (syncSubscriptionFromExternal config params).EachStep (BillingStep config met) := by
  refine eachStep_syncSubscriptionFromExternal BillingStep.refl config params
    fun _ _ _ _ h => .subscription _ _ (fun row => ?_) h
  exact ⟨rfl, rfl, rfl⟩

/-- Syncing an invoice takes billing steps. -/
private theorem billingStep_syncInvoiceFromExternal (params : SyncInvoiceParams) :
    (syncInvoiceFromExternal config params).EachStep (BillingStep config met) := by
  refine eachStep_bind (eachStep_resolveInvoiceForExternalSync BillingStep.refl params
    fun _ _ _ _ h => .created _ _ _ h) fun invoiceId => ?_
  refine eachStep_bind (eachStep_read BillingStep.refl _) fun found => ?_
  cases found with
  | none => trivial
  | some current =>
    dsimp only
    split
    · refine eachStep_bind (eachStep_updateInvoice BillingStep.refl
        fun _ _ h => .invoice _ _ (fun row => ?_) h) fun _ => eachStep_pure _
      exact ⟨rfl, rfl, rfl, rfl, rfl⟩
    · exact eachStep_bind (billingStep_markInvoicePaid _) fun _ => eachStep_pure _
    · exact eachStep_bind (billingStep_markInvoiceFailed _) fun _ => eachStep_pure _
    · exact eachStep_bind (billingStep_markInvoiceFailed _) fun _ => eachStep_pure _

/-- Recording a checkout takes billing steps. -/
private theorem billingStep_recordExternalCheckout (params : RecordExternalCheckoutParams) :
    (recordExternalCheckout params).EachStep (BillingStep config met) := by
  refine eachStep_bind (eachStep_read BillingStep.refl _) fun found => ?_
  cases found with
  | none => trivial
  | some found =>
    dsimp only
    refine eachStep_bind (eachStep_updateInvoice BillingStep.refl
      fun _ _ h => .invoice _ _ (fun row => ?_) h) fun _ => ?_
    · exact ⟨rfl, rfl, rfl, rfl, rfl⟩
    · split
      · refine eachStep_updateSubscription BillingStep.refl
          fun _ _ h => .subscription _ _ (fun row => ?_) h
        exact ⟨rfl, rfl, rfl⟩
      · trivial

/-- A handler swallows errors without another statement. -/
private theorem eachStep_ignoringNotFound {R : World → World → Prop} {op : Op Unit}
    (h : op.EachStep R) :
    (ignoringNotFound op).EachStep R := by
  refine eachStep_tryCatch h fun error => ?_
  split <;> trivial

/-- A webhook takes billing steps. -/
private theorem billingStep_handleWebhook (event : StripeEvent) :
    (handleWebhook config event).EachStep (BillingStep config met) := by
  -- the invoice events resolve their metadata and then sync
  have hsync : ∀ invoice status, (syncInvoice config invoice status).EachStep
      (BillingStep config met) := by
    intro invoice status
    have hmetadata : ∀ id allow,
        (resolveMetadataInvoiceId invoice id allow).EachStep (BillingStep config met) := by
      intro id allow
      rw [resolveMetadataInvoiceId]
      split
      · trivial
      · split
        · trivial
        · rw [resolveSubscriptionMetadata.eq_def]
          split
          · trivial
          · split
            · trivial
            · exact eachStep_bind (billingStep_callStripe _ _) fun _ => eachStep_pure _
    exact eachStep_bind (hmetadata _ _) fun _ => eachStep_ignoringNotFound <|
      eachStep_bind (billingStep_syncInvoiceFromExternal _) fun _ => eachStep_pure _
  -- the checkout events mark their invoice, the subscription events sync their row
  cases event with
  | checkoutSessionCompleted session =>
    rw [handleWebhook, handleCheckoutCompleted]
    split
    · trivial
    · split
      · trivial
      · refine eachStep_ignoringNotFound ?_
        refine eachStep_bind (billingStep_recordExternalCheckout _) fun _ => ?_
        split
        · exact eachStep_bind (billingStep_markInvoicePaid _) fun _ => eachStep_pure _
        · trivial
  | checkoutSessionExpired session =>
    rw [handleWebhook, handleCheckoutExpired]
    split
    · trivial
    · split
      · trivial
      · exact eachStep_ignoringNotFound <|
          eachStep_bind (billingStep_markInvoiceFailed _) fun _ => eachStep_pure _
  | invoiceCreated invoice => exact hsync invoice .draft
  | invoiceFinalized invoice => exact hsync invoice .draft
  | invoicePaid invoice => exact hsync invoice .paid
  | invoicePaymentFailed invoice => exact hsync invoice .pastDue
  | customerSubscriptionUpdated subscription =>
    exact eachStep_ignoringNotFound (billingStep_syncSubscriptionFromExternal _)
  | customerSubscriptionDeleted subscription =>
    exact eachStep_ignoringNotFound (billingStep_markSubscriptionCanceled _)
  | other => trivial

/-- A retry cycle takes billing steps. -/
private theorem billingStep_processDueRetries :
    (processDueRetries config).EachStep (BillingStep config met) := by
  refine BatchJob.eachStep_cycle BillingStep.refl fun due => ?_
  -- the three outcomes of a retry: an attempt, a payment, a failure with its attempt
  have hrecord : ∀ attemptedAt message,
      (recordRetryAttempt config due attemptedAt message).EachStep (BillingStep config met) := by
    intro attemptedAt message
    refine eachStep_updateInvoice BillingStep.refl fun _ _ h => .invoice _ _ (fun row => ?_) h
    exact ⟨rfl, rfl, rfl, rfl, rfl⟩
  have hretry : (processInvoiceRetry config due).EachStep (BillingStep config met) := by
    refine eachStep_bind (eachStep_clock BillingStep.refl) fun attemptedAt => ?_
    refine eachStep_tryCatch ?_ fun error => eachStep_bind (hrecord _ _) fun _ => eachStep_throw _
    refine eachStep_bind (eachStep_bind (billingStep_callStripe _ _) fun _ => eachStep_pure _)
      fun result => ?_
    rw [applyRetryResult]
    split
    · exact eachStep_bind (billingStep_markInvoicePaid _) fun _ => eachStep_pure _
    · refine eachStep_bind (billingStep_markInvoiceFailed _) fun _ => ?_
      split
      · exact hrecord _ _
      · trivial
  exact hretry

/-- A reconciliation takes billing steps. -/
private theorem billingStep_reconcileSubscription (externalSubscriptionId : String) :
    (reconcileSubscription config externalSubscriptionId).EachStep (BillingStep config met) := by
  -- a snapshot that Stripe no longer has cancels the subscription
  have hretrieve : (retrieveSnapshot externalSubscriptionId).EachStep (BillingStep config met) := by
    refine eachStep_tryCatch (eachStep_bind (billingStep_callStripe _ _) fun _ => eachStep_pure _)
      fun error => ?_
    split
    · exact eachStep_bind (billingStep_markSubscriptionCanceled _) fun _ => eachStep_pure _
    · trivial
  refine eachStep_bind hretrieve fun found => ?_
  cases found with
  | none => trivial
  | some subscription =>
    refine eachStep_bind (billingStep_syncSubscriptionFromExternal _) fun _ => ?_
    have hlatest : (resolveLatestInvoice subscription.latestInvoice).EachStep
        (BillingStep config met) := by
      rw [resolveLatestInvoice.eq_def]
      split
      · trivial
      · trivial
      · split
        · trivial
        · exact eachStep_bind (billingStep_callStripe _ _) fun _ => eachStep_pure _
    refine eachStep_bind hlatest fun found => ?_
    cases found with
    | none => trivial
    | some latestInvoice =>
      exact eachStep_bind (billingStep_syncInvoiceFromExternal _) fun _ => eachStep_pure _

/-- A cancellation takes billing steps. -/
private theorem billingStep_cancelSubscription (subscriptionId : Id) (user : AuthenticatedUser) :
    (cancelSubscription subscriptionId user).EachStep (BillingStep config met) := by
  refine eachStep_bind (eachStep_read BillingStep.refl _) fun found => ?_
  cases found with
  | none => trivial
  | some subscription =>
    dsimp only
    split
    · trivial
    · refine eachStep_bind ((onlyRequests_scheduleCancellation _).mono fun _ _ => .requested)
        fun currentPeriodEnd => ?_
      refine eachStep_bind (eachStep_updateSubscription BillingStep.refl
        fun _ _ h => .subscription _ _ (fun row => ?_) h) fun _ => eachStep_pure _
      exact ⟨rfl, rfl, rfl⟩

/-- A request of payment takes billing steps. -/
private theorem billingStep_requestPayment (user : AuthenticatedUser) (plan : Plan)
    (product : ApiProduct) (subscriptionId invoiceId : Id) :
    (requestPayment config user plan product subscriptionId invoiceId).EachStep
      (BillingStep config met) := by
  refine eachStep_tryCatch (eachStep_bind ?_ fun payment => ?_)
    fun error => eachStep_bind (billingStep_markInvoiceFailed _) fun _ => eachStep_throw _
  · exact (onlyRequests_createPayment _ _).mono fun _ _ => .requested
  · split
    · refine eachStep_bind (eachStep_updateInvoice BillingStep.refl
        fun _ _ h => .invoice _ _ (fun row => ?_) h) fun _ => eachStep_pure _
      exact ⟨rfl, rfl, rfl, rfl, rfl⟩
    · trivial

end Programs

/-! ### Every step of every run -/

/-- No call changes a plan. -/
theorem BillingStep.plans {w w' : World} (h : BillingStep config met w w') :
    w'.plans = w.plans := by
  -- no step writes a plan
  cases h with
  | subscribed env seen hseen userId plan periodStart periodEnd ids hplan h =>
    obtain ⟨_, _, -, -, -, -, rfl⟩ := subscribe_cases h
    rfl
  | settled env hdb seen hseen sourceInvoiceId processedAt processed h =>
    obtain ⟨_, _, rfl⟩ := materialize_rows h
    rfl
  | created params subscriptionId env h =>
    obtain ⟨t, -, rfl⟩ := createInvoice_eq_ok h
    rfl
  | invoice id data hdata h =>
    obtain ⟨t, -, rfl⟩ := updateInvoice_eq_ok h
    rfl
  | subscription id data hdata h =>
    obtain ⟨t, -, rfl⟩ := updateSubscription_eq_ok h
    rfl
  | requested h =>
    obtain ⟨_, _, rfl⟩ := h
    rfl

section Calls

variable {plans : Table Plan} {m : World}

/-- What the statements of a call do among calls that leave the plans as they are. The snapshot
    of a transaction is the state that the statement before its commit has met. -/
def Billing (config : AppConfig) (plans : Table Plan) {α : Type} (op : Op α) (m : World) : Prop :=
  op.EachStepAfter (fun w => w.plans = plans) (fun m => BillingStep config (· = m)) m

/-- A call without snapshots. -/
private theorem billing_of_eachStep {α : Type} {op : Op α}
    (h : op.EachStep (BillingStep config fun _ => False)) : Billing config plans op m :=
  h.after fun _ _ _ h => h.mono fun _ h => h.elim

/-- What follows a query may rely on what it has read. -/
private theorem billing_read_bind {α β : Type} {f : World → α} {g : α → Op β}
    (h : ∀ w, w.plans = plans → Billing config plans (g (f w)) w) :
    Billing config plans (read f >>= g) m := by
  refine eachStepAfter_stmt_bind (fun env w _ => ?_) fun env w a hw ha => ?_
  · split <;> exact .refl w
  · split at ha
    · cases ha
    · exact Except.ok.inj ha ▸ h w hw

/-- The plan that `subscribe` has read is still there when its transaction runs. -/
private theorem billing_subscribe (user : AuthenticatedUser) (planId : Id) :
    Billing config plans (subscribe config user planId) m := by
  refine billing_read_bind fun w₁ hplans => ?_
  cases hfound : w₁.findPlanWithProduct planId with
  | none => trivial
  | some found =>
    obtain ⟨plan, product⟩ := found
    obtain ⟨row, hrow, hrest⟩ := Option.bind_eq_some_iff.mp hfound
    obtain ⟨_, -, hpair⟩ := Option.bind_eq_some_iff.mp hrest
    obtain ⟨rfl, rfl⟩ := Prod.mk.inj (Option.some.inj hpair)
    -- the plan that the call read is the plan that stands
    have hplan : plans.find? row.id = some row := by
      rw [← hplans]
      exact Table.find?_key (Table.mem_of_find? hrow)
    dsimp only
    split
    · trivial
    · split
      · trivial
      · refine billing_read_bind fun w₂ _ => ?_
        cases w₂.findPublishedVersion row.productId with
        | none => trivial
        | some version =>
          refine eachStepAfter_bind (billing_of_eachStep (eachStep_clock BillingStep.refl))
            fun now m => ?_
          -- the check reads one state, and the statement after it writes to another
          refine billing_read_bind fun seen _ => ?_
          refine eachStepAfter_stmt_bind (fun env w hw => ?_) fun env w ids hw _ => ?_
          · split
            · exact .refl w
            · split
              · rename_i hmade
                exact .subscribed env seen rfl _ _ _ _ _ (hw ▸ hplan) hmade
              · exact .refl w
          · exact billing_of_eachStep (billingStep_requestPayment user row _ _ _)

/-- Every billing process takes billing steps. -/
private theorem billing_process (toISOString : Int → String) (process : BillingProcess) :
    Billing config plans (process.op toISOString config) m := by
  cases process with
  | subscribe user planId =>
    exact eachStepAfter_bind (billing_subscribe user planId) fun _ _ => eachStepAfter_pure _
  | cancel subscriptionId user =>
    exact billing_of_eachStep
      (eachStep_bind (billingStep_cancelSubscription _ _) fun _ => eachStep_pure _)
  | mockSucceed invoiceId =>
    exact billing_of_eachStep
      (eachStep_bind (billingStep_markInvoicePaid _) fun _ => eachStep_pure _)
  | mockFail invoiceId =>
    exact billing_of_eachStep
      (eachStep_bind (billingStep_markInvoiceFailed _) fun _ => eachStep_pure _)
  | webhook event => exact billing_of_eachStep (billingStep_handleWebhook event)
  | retries => exact billing_of_eachStep billingStep_processDueRetries
  | reconcile externalSubscriptionId =>
    exact billing_of_eachStep (billingStep_reconcileSubscription _)
  | collection =>
    refine eachStepAfter_processDueOverageCollection (R := BillingStep config fun _ => False)
      (T := fun m => BillingStep config (· = m)) BillingStep.refl
      (fun _ _ _ _ hdata h => .invoice _ _ (fun row => ?_) h)
      (fun _ _ _ _ hdata h => .subscription _ _ hdata h)
      (fun _ _ _ h => h.mono fun _ h => h.elim)
      (fun _ _ _ _ _ _ _ hdb h => .settled _ hdb _ rfl _ _ _ h)
      (fun _ _ => .requested) toISOString config m
    exact ⟨(hdata row).id, (hdata row).subscriptionId, (hdata row).kind,
      (hdata row).overageSourceInvoiceId, (hdata row).overageProcessedAt⟩

end Calls

section Runs

variable {toISOString : Int → String} {calls : Nat → BillingProcess} {w₀ : World}
  {P P' : BillingProcesses} {c : Choice Nat Env Err}

/-- Whatever the calls and the order of their statements, every step is a `BillingStep`, and the
    snapshot of a transaction is the state that its call has met last. -/
theorem billingStep_of_recall {ok : BillingProcesses → (Nat → World) → Choice Nat Env Err → Prop}
    {met : Nat → World} (hrun : Recall .free ok (startBilling toISOString config calls w₀) P met)
    (hnext : P.next .free c = some P') :
    BillingStep config (· = met c.thread) P.state P'.state := by
  have hstart : ∀ n, Billing config w₀.plans ((calls n).op toISOString config) w₀ := fun n =>
    billing_process toISOString (calls n)
  have hafter := hrun.eachStepAfter (J := fun w : World => w.plans = w₀.plans)
    (R := fun _ m => BillingStep config (· = m)) (fun _ _ _ _ hs h => h.plans.trans hs)
    (fun _ _ hs => hs) rfl hstart
  cases c with
  | run n env => exact next_eachStepAfter hafter.1 (hafter.2 n) hnext
  | stop n e =>
    obtain ⟨-, rfl⟩ := next_stop_cases hnext
    exact .refl P.state

/-- Without the snapshots. -/
theorem billingStep_of_next {ok : BillingProcesses → Choice Nat Env Err → Prop}
    (hreach : Reach .free ok (startBilling toISOString config calls w₀) P)
    (hnext : P.next .free c = some P') : BillingStep config (fun _ => True) P.state P'.state := by
  obtain ⟨met, hrun⟩ := hreach.recall
  exact (billingStep_of_recall hrun hnext).mono fun _ _ => trivial

end Runs

end HivePoint
