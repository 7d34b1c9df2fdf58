import HivePoint.ForStd.Pool
import HivePoint.Native.BillingManagedRetry
import HivePoint.Native.StripeWebhooks
import HivePoint.Spec.EachStatement
import HivePoint.Spec.PaymentOutcomes

/-!
# Retry schedules

`managedNextRetryAt` announces another payment attempt of an invoice. The retry worker writes
it after a request to Stripe, and in an error handler, while webhooks write the same invoices.
Here any number of cycles and of webhook calls run next to each other, statement by statement.

## Key results

- `OutcomeData.scheduled`: what a write that rests on a true read leaves of the law.
- `schedule_onPastDueRenewals`: only past-due renewals are scheduled, as long as the writes
  rest on what the invoice is.
- `not_schedule_onPastDueRenewals`: a payment that was taken and is scheduled again.
-/

namespace HivePoint

open Prog Pool

/-! ### The law -/

/-- A past-due renewal that Stripe bills. -/
def IsPastDueRenewal (row : Invoice) : Prop :=
  row.status = .pastDue ∧ row.kind = .subscription ∧ row.paymentProvider = .stripe

instance (row : Invoice) : Decidable (IsPastDueRenewal row) :=
  inferInstanceAs (Decidable (_ ∧ _))

/-- The law for one invoice. -/
def IsScheduledRightly (row : Invoice) : Prop :=
  row.managedNextRetryAt.isSome → IsPastDueRenewal row

/-- Every invoice with a retry schedule is a past-due renewal. -/
def SchedulesOnRenewals (w : World) : Prop := ∀ row ∈ w.invoices.rows, IsScheduledRightly row

/-! ### The writes -/

/-- What the statement `invoice.update` does to the state. -/
def writeInvoice (id : Id) (data : Invoice → Invoice) (env : Env) (w : World) : World :=
  ((updateInvoice id data).exec env w).2

/-- It is refused or made. -/
private theorem writeInvoice_cases (id : Id) (data : Invoice → Invoice) (env : Env) (w : World) :
    writeInvoice id data env w = w ∨ w.updateInvoice id data =
      .ok (writeInvoice id data env w) := by
  have hrun := runs_exec (E := fun _ => True) env trivial (updateInvoice id data) w
  rcases runs_mutate hrun with ⟨hsame, -⟩ | ⟨_, _, -, hf, -⟩
  · exact .inl hsame
  · exact .inr (except_map_eq_ok hf)

/-- What an outcome or a draft event writes, from the invoice that it has read. -/
inductive OutcomeData (config : AppConfig) (read : Invoice) : (Invoice → Invoice) → Prop where
  | paid (params : MarkInvoicePaidParams) : OutcomeData config read (paidInvoice params read)
  | failed (params : MarkInvoiceFailedParams) (now : Int) (currentPeriodStart : Option Int) :
      OutcomeData config read (failedInvoice params
        (resolveManagedRetryState config now read.kind params.paymentProvider
          (params.invoiceStatus.getD .void) read.status currentPeriodStart
          read.toManagedRetryState) read)
  | draft (params : SyncInvoiceParams) (hprovider : params.paymentProvider = .stripe) :
      OutcomeData config read (draftInvoice params read)

/-- What `recordRetryAttempt` writes. -/
def attemptedInvoice (config : AppConfig) (due : DueRetry) (attemptedAt : Int)
    (errorMessage : Option String) (row : Invoice) : Invoice :=
  { row with
    toManagedRetryState :=
      createManagedRetryStateAfterAttempt due.managedRetryCount attemptedAt
        config.billingManagedRetryDelaysMinutes errorMessage }

section Rows

variable {config : AppConfig} {read row : Invoice}

/-- A schedule is part of the retry state. -/
private theorem hasManagedRetryState_of_scheduled {state : ManagedRetryState}
    (h : state.managedNextRetryAt.isSome) : hasManagedRetryState state = true := by
  simp [hasManagedRetryState, h]

/-- A failure report schedules retries of past-due renewals only. -/
private theorem resolveManagedRetryState_scheduled {now : Int} {kind : InvoiceKind}
    {provider : BillingProvider} {status currentStatus : InvoiceStatus}
    {currentPeriodStart : Option Int} {current state : ManagedRetryState}
    (h : resolveManagedRetryState config now kind provider status currentStatus currentPeriodStart
      current = some state)
    (hnext : state.managedNextRetryAt.isSome) :
    status = .pastDue ∧ kind = .subscription ∧ provider = .stripe := by
  unfold resolveManagedRetryState at h
  split at h
  · split at h
    · obtain rfl := Option.some.inj h
      exact nomatch hnext
    · exact nomatch h
  · rename_i hmanaged
    simp only [shouldUseManagedRenewalRetry, Bool.not_eq_true', Bool.not_eq_false, Bool.and_eq_true,
      decide_eq_true_eq] at hmanaged
    exact ⟨hmanaged.1.2, hmanaged.1.1.1.2, hmanaged.1.1.2⟩

/-- It keeps a schedule only on a past-due renewal. -/
private theorem resolveManagedRetryState_kept {now : Int} {kind : InvoiceKind}
    {provider : BillingProvider} {status currentStatus : InvoiceStatus}
    {currentPeriodStart : Option Int} {current : ManagedRetryState}
    (h : resolveManagedRetryState config now kind provider status currentStatus currentPeriodStart
      current = none)
    (hnext : current.managedNextRetryAt.isSome) : status = .pastDue ∧ provider = .stripe := by
  unfold resolveManagedRetryState at h
  split at h
  · rw [if_pos (hasManagedRetryState_of_scheduled hnext)] at h
    exact nomatch h
  · rename_i hmanaged
    simp only [shouldUseManagedRenewalRetry, Bool.not_eq_true', Bool.not_eq_false, Bool.and_eq_true,
      decide_eq_true_eq] at hmanaged
    exact ⟨hmanaged.1.2, hmanaged.1.1.2⟩

/-- An outcome keeps the law of an invoice if the invoice has the kind that was read, and, where
    there is a schedule, the status and the retry state that were read. -/
theorem OutcomeData.scheduled {data : Invoice → Invoice} (hdata : OutcomeData config read data)
    (hrow : IsScheduledRightly row)
    (hkind : row.managedNextRetryAt.isSome = false → read.kind = row.kind)
    (hcurrent : row.managedNextRetryAt.isSome →
      read.status = row.status ∧ read.toManagedRetryState = row.toManagedRetryState) :
    IsScheduledRightly (data row) := by
  have hsubscription : read.kind = .subscription ∨ row.managedNextRetryAt.isSome →
      row.kind = .subscription := by
    intro h
    cases hnext : row.managedNextRetryAt.isSome with
    | true => exact (hrow hnext).2.1
    | false =>
      rcases h with h | h
      · exact (hkind hnext).symm.trans h
      · exact nomatch hnext.symm.trans h
  intro hnext
  cases hdata with
  | paid params =>
    -- a schedule that was read is cleared
    simp only [paidInvoice] at hnext
    split at hnext
    · exact nomatch hnext
    · rename_i hempty
      rw [← (hcurrent hnext).2] at hnext
      exact absurd (hasManagedRetryState_of_scheduled hnext) hempty
  | failed params now currentPeriodStart =>
    cases hstate : resolveManagedRetryState config now read.kind params.paymentProvider
        (params.invoiceStatus.getD .void) read.status currentPeriodStart
        read.toManagedRetryState with
    | some state =>
      simp only [failedInvoice, hstate, Option.getD_some] at hnext
      obtain ⟨hstatus, hkind', hprovider⟩ := resolveManagedRetryState_scheduled hstate hnext
      exact ⟨hstatus, hsubscription (.inl hkind'), hprovider⟩
    | none =>
      simp only [failedInvoice, hstate, Option.getD_none] at hnext
      have hread := (hcurrent hnext).2 ▸ hnext
      obtain ⟨hstatus, hprovider⟩ := resolveManagedRetryState_kept hstate hread
      exact ⟨hstatus, hsubscription (.inr hnext), hprovider⟩
  | draft params hprovider =>
    -- the status that was read is kept
    have hstatus : read.status = .pastDue := (hcurrent hnext).1.trans (hrow hnext).1
    refine ⟨?_, hsubscription (.inr hnext), hprovider⟩
    simp [draftInvoice, hstatus]

/-- The write of an attempt keeps the law exactly when it schedules nothing or the invoice is a
    past-due renewal. -/
theorem attemptedInvoice_scheduled_iff {due : DueRetry} {attemptedAt : Int}
    {errorMessage : Option String} :
    IsScheduledRightly (attemptedInvoice config due attemptedAt errorMessage row) ↔
      ((createManagedRetryStateAfterAttempt due.managedRetryCount attemptedAt
        config.billingManagedRetryDelaysMinutes errorMessage).managedNextRetryAt.isSome →
          IsPastDueRenewal row) := Iff.rfl

end Rows

/-! ### The statements -/

/-- What a statement that decides on no schedule can do to the invoices. -/
inductive SchedulesKept (w w' : World) : Prop where
  | created (row : Invoice) (hkind : row.kind = .subscription)
    (hnext : row.managedNextRetryAt = none)
      (h : w.createInvoice row = .ok w')
  | relinked (id : Id) (data : Invoice → Invoice)
      (hdata : ∀ row, (data row).id = row.id ∧ (data row).kind = row.kind ∧
        (data row).status = row.status ∧ (data row).paymentProvider = .stripe ∧
          (data row).managedNextRetryAt = row.managedNextRetryAt)
      (h : w.updateInvoice id data = .ok w')
  | elsewhere (h : w'.invoices = w.invoices)

/-- Doing nothing keeps the schedules. -/
theorem SchedulesKept.refl (w : World) : SchedulesKept w w := .elsewhere rfl

/-- The statements of the retry worker and of the webhooks. `kindOf` tells the kind of each
    invoice, which nothing changes. -/
inductive RetryStatement (config : AppConfig) (kindOf : Id → InvoiceKind) :
    (Env → World → World) → Prop where
  | outcome (read : Invoice) (data : Invoice → Invoice) (hkind : kindOf read.id = read.kind)
      (hdata : OutcomeData config read data) :
        RetryStatement config kindOf (writeInvoice read.id data)
  | attempt (due : DueRetry) (attemptedAt : Int) (errorMessage : Option String) :
      RetryStatement config kindOf
        (writeInvoice due.id (attemptedInvoice config due attemptedAt errorMessage))
  | other (act : Env → World → World) (h : ∀ env w, SchedulesKept w (act env w)) :
      RetryStatement config kindOf act

/-- The invoices have the kinds that `kindOf` tells, and new ones will be renewals. -/
structure HasKinds (kindOf : Id → InvoiceKind) (w : World) : Prop where
  rows : ∀ row ∈ w.invoices.rows, row.kind = kindOf row.id
  fresh : ∀ id, w.invoices.find? id = none → kindOf id = .subscription

section Statements

variable {config : AppConfig} {kindOf : Id → InvoiceKind} {w w' : World}

/-- A write that keeps ids and kinds. -/
theorem HasKinds.updateInvoice (h : HasKinds kindOf w) {id : Id} {data : Invoice → Invoice}
    (hid : ∀ row, (data row).id = row.id) (hkind : ∀ row, (data row).kind = row.kind)
    (hwrite : w.updateInvoice id data = .ok w') : HasKinds kindOf w' := by
  obtain ⟨t, ht, rfl⟩ := updateInvoice_eq_ok hwrite
  constructor
  · intro row hrow
    obtain ⟨old, hold, rfl⟩ := (Table.mem_update? ht).mp hrow
    split
    · rw [hkind, hid]
      exact h.rows old hold
    · exact h.rows old hold
  · intro k hk
    have hfound := Table.find?_update? ht hid k
    rw [hk] at hfound
    split at hfound
    · rename_i hkey
      exact h.fresh k (hkey ▸ Option.map_eq_none_iff.mp hfound.symm)
    · exact h.fresh k hfound.symm

/-- An outcome keeps the invoice's id and kind. -/
theorem OutcomeData.keeps {read : Invoice} {data : Invoice → Invoice}
    (h : OutcomeData config read data) (row : Invoice) :
    (data row).id = row.id ∧ (data row).kind = row.kind := by
  cases h <;> exact ⟨rfl, rfl⟩

/-- No statement changes a kind. -/
theorem HasKinds.step (h : HasKinds kindOf w) {act : Env → World → World}
    (hact : RetryStatement config kindOf act) (env : Env) : HasKinds kindOf (act env w) := by
  cases hact with
  | outcome read data _ hdata =>
    -- an update keeps ids and kinds, a new invoice has the kind given to its id
    rcases writeInvoice_cases read.id data env w with hsame | hwrite
    · rw [hsame]
      exact h
    · exact h.updateInvoice (fun row => (hdata.keeps row).1) (fun row => (hdata.keeps row).2) hwrite
  | attempt due attemptedAt errorMessage =>
    rcases writeInvoice_cases due.id (attemptedInvoice config due attemptedAt errorMessage) env w
      with hsame | hwrite
    · rw [hsame]
      exact h
    · refine h.updateInvoice (fun row => ?_) (fun row => ?_) hwrite <;> rfl
  | other act hkept =>
    cases hkept env w with
    | elsewhere hsame =>
      refine ⟨fun row hrow => h.rows row (hsame ▸ hrow), fun id hid => h.fresh id ?_⟩
      rw [← hsame]
      exact hid
    | relinked id data hdata hwrite =>
      exact h.updateInvoice (fun row => (hdata row).1) (fun row => (hdata row).2.1) hwrite
    | created row hkind hnext hcreate =>
      obtain ⟨t, ht, heq⟩ := createInvoice_eq_ok hcreate
      rw [heq]
      -- the new id was free, so only its own kind had to be right
      constructor
      · intro row' hrow'
        rcases (Table.mem_insert? ht).mp hrow' with hold | rfl
        · exact h.rows row' hold
        · exact hkind.trans (h.fresh row'.id (Table.find?_of_insert? ht)).symm
      · intro id hid
        have hfound := Table.find?_insert? ht id
        rw [hid] at hfound
        split at hfound
        · exact nomatch hfound
        · exact h.fresh id hfound.symm

/-- What the statements of the calls are made of: reads that tell kinds, and outcomes. -/
private theorem eachAct_other {α : Type} {op : Op α} (h : op.EachStep SchedulesKept) :
    op.EachAct (HasKinds kindOf) (RetryStatement config kindOf) :=
  h.eachAct fun act hact => .other act hact

/-- What follows a read may rely on what it has found. -/
private theorem eachAct_read_bind {α β : Type} {f : World → α} {g : α → Op β}
    (hg : ∀ w, HasKinds kindOf w →
      (g (f w)).EachAct (HasKinds kindOf) (RetryStatement config kindOf)) :
    (read f >>= g).EachAct (HasKinds kindOf) (RetryStatement config kindOf) := by
  refine eachAct_stmt_bind (.other _ fun env w => ?_) fun env w a hw ha => ?_
  · split <;> exact .refl w
  · split at ha
    · exact nomatch ha
    · exact Except.ok.inj ha ▸ hg w hw

/-- Writing an outcome is a statement on the retry schedule. -/
private theorem eachAct_outcome {read : Invoice} {data : Invoice → Invoice}
    (hkind : read.kind = kindOf read.id) (hdata : OutcomeData config read data) :
    (updateInvoice read.id data).EachAct (HasKinds kindOf) (RetryStatement config kindOf) :=
  eachAct_stmt (.outcome read data hkind.symm hdata)

/-- An update of a subscription keeps the schedules. -/
private theorem eachStep_updateSubscription_kept {id : Id} {data : Subscription → Subscription} :
    (updateSubscription id data).EachStep SchedulesKept :=
  eachStep_updateSubscription SchedulesKept.refl fun _ _ h =>
    .elsewhere (updateSubscription_invoices h)

/-- A found invoice has the kind that its id tells. -/
theorem HasKinds.find? (h : HasKinds kindOf w) {id : Id} {row : Invoice}
    (hrow : w.invoices.find? id = some row) : row.kind = kindOf row.id :=
  h.rows row (Table.mem_of_find? hrow)

/-- Marking an invoice paid sends statements of the schedule. -/
private theorem eachAct_markInvoicePaid (params : MarkInvoicePaidParams) :
    (markInvoicePaid params).EachAct (HasKinds kindOf) (RetryStatement config kindOf) := by
  refine eachAct_read_bind fun w hw => ?_
  cases hfound : w.findInvoiceWithSubscription params.invoiceId with
  | none => trivial
  | some found =>
    obtain ⟨invoice, subscription⟩ := found
    have hkind := hw.find? (findInvoiceWithSubscription_eq_some.mp hfound).1
    dsimp only
    split
    · trivial
    · refine eachAct_bind (eachAct_outcome hkind (.paid params)) fun _ => ?_
      split
      · trivial
      · exact eachAct_bind (eachAct_other eachStep_updateSubscription_kept) fun _ => eachAct_pure _

/-- Marking an invoice failed sends statements of the schedule. -/
private theorem eachAct_markInvoiceFailed (params : MarkInvoiceFailedParams) :
    (markInvoiceFailed config params).EachAct (HasKinds kindOf) (RetryStatement config kindOf) := by
  refine eachAct_read_bind fun w hw => ?_
  cases hfound : w.findInvoiceWithSubscription params.invoiceId with
  | none => trivial
  | some found =>
    obtain ⟨invoice, subscription⟩ := found
    have hkind := hw.find? (findInvoiceWithSubscription_eq_some.mp hfound).1
    have hclock : clock.EachAct (HasKinds kindOf) (RetryStatement config kindOf) :=
      eachAct_other (eachStep_clock SchedulesKept.refl)
    dsimp only
    split
    · trivial
    · refine eachAct_bind hclock fun now => ?_
      refine eachAct_bind (eachAct_outcome hkind (.failed params now _)) fun _ => ?_
      split
      · trivial
      · refine eachAct_bind hclock fun _ => ?_
        exact eachAct_bind (eachAct_other eachStep_updateSubscription_kept) fun _ => eachAct_pure _

/-- Syncing an invoice sends statements of the schedule. -/
private theorem eachAct_syncInvoiceFromExternal {params : SyncInvoiceParams}
    (hprovider : params.paymentProvider = .stripe) :
    (syncInvoiceFromExternal config params).EachAct (HasKinds kindOf)
      (RetryStatement config kindOf) := by
  refine eachAct_bind (eachAct_other (eachStep_resolveInvoiceForExternalSync SchedulesKept.refl
    params fun _ _ _ _ h => .created _ rfl rfl h)) fun invoiceId => ?_
  refine eachAct_read_bind fun w hw => ?_
  cases hfound : w.invoices.find? invoiceId with
  | none => trivial
  | some current =>
    obtain rfl : current.id = invoiceId := Table.key_of_find? hfound
    dsimp only
    split
    · exact eachAct_bind (eachAct_outcome (hw.find? hfound) (.draft params hprovider))
        fun _ => eachAct_pure _
    · exact eachAct_bind (eachAct_markInvoicePaid _) fun _ => eachAct_pure _
    · exact eachAct_bind (eachAct_markInvoiceFailed _) fun _ => eachAct_pure _
    · exact eachAct_bind (eachAct_markInvoiceFailed _) fun _ => eachAct_pure _

/-- Passing over a missing row sends no statement of its own. -/
private theorem eachAct_ignoringNotFound {op : Op Unit}
    (h : op.EachAct (HasKinds kindOf) (RetryStatement config kindOf)) :
    (ignoringNotFound op).EachAct (HasKinds kindOf) (RetryStatement config kindOf) := by
  refine eachAct_tryCatch h fun error => ?_
  split <;> trivial

/-- Recording a checkout sends statements of the schedule. -/
private theorem eachAct_recordExternalCheckout {params : RecordExternalCheckoutParams}
    (hprovider : params.paymentProvider = .stripe) :
    (recordExternalCheckout params).EachAct (HasKinds kindOf) (RetryStatement config kindOf) := by
  refine eachAct_other (eachStep_bind (eachStep_read SchedulesKept.refl _) fun found => ?_)
  cases found with
  | none => trivial
  | some found =>
    dsimp only
    refine eachStep_bind (eachStep_updateInvoice SchedulesKept.refl
      fun _ _ h => .relinked _ _ (fun row => ?_) h) fun _ => ?_
    · exact ⟨rfl, rfl, rfl, hprovider, rfl⟩
    · split
      · exact eachStep_updateSubscription_kept
      · trivial

/-- A call of Stripe keeps the schedules. -/
private theorem schedulesKept_callStripe {α : Type} (request : StripeRequest)
    (answer : StripeApi → Answer α) : (callStripe request answer).EachStep SchedulesKept :=
  eachStep_callStripe (fun _ _ => .elsewhere rfl) request answer

/-- A webhook sends statements of the schedule. -/
private theorem eachAct_handleWebhook (event : StripeEvent) :
    (handleWebhook config event).EachAct (HasKinds kindOf) (RetryStatement config kindOf) := by
  -- the invoice events resolve their metadata and then sync
  have hsync : ∀ invoice status, (syncInvoice config invoice status).EachAct (HasKinds kindOf)
      (RetryStatement config kindOf) := by
    intro invoice status
    have hmetadata : ∀ id allow,
        (resolveMetadataInvoiceId invoice id allow).EachStep SchedulesKept := by
      intro id allow
      rw [resolveMetadataInvoiceId]
      split
      · trivial
      · split
        · trivial
        · rw [resolveSubscriptionMetadata.eq_def]
          split
          · trivial
          · split
            · trivial
            · exact eachStep_bind (schedulesKept_callStripe _ _) fun _ => eachStep_pure _
    refine eachAct_bind (eachAct_other (hmetadata _ _)) fun _ => eachAct_ignoringNotFound ?_
    exact eachAct_bind (eachAct_syncInvoiceFromExternal rfl) fun _ => eachAct_pure _
  -- the checkout events mark their invoice, the subscription events write no invoice
  cases event with
  | checkoutSessionCompleted session =>
    rw [handleWebhook, handleCheckoutCompleted]
    split
    · trivial
    · split
      · trivial
      · refine eachAct_ignoringNotFound ?_
        refine eachAct_bind (eachAct_recordExternalCheckout rfl) fun _ => ?_
        split
        · exact eachAct_bind (eachAct_markInvoicePaid _) fun _ => eachAct_pure _
        · trivial
  | checkoutSessionExpired session =>
    rw [handleWebhook, handleCheckoutExpired]
    split
    · trivial
    · split
      · trivial
      · exact eachAct_ignoringNotFound <|
          eachAct_bind (eachAct_markInvoiceFailed _) fun _ => eachAct_pure _
  | invoiceCreated invoice => exact hsync invoice .draft
  | invoiceFinalized invoice => exact hsync invoice .draft
  | invoicePaid invoice => exact hsync invoice .paid
  | invoicePaymentFailed invoice => exact hsync invoice .pastDue
  | customerSubscriptionUpdated subscription =>
    exact eachAct_ignoringNotFound (eachAct_other
      (eachStep_syncSubscriptionFromExternal SchedulesKept.refl config _
        fun _ _ _ _ h => .elsewhere (updateSubscription_invoices h)))
  | customerSubscriptionDeleted subscription =>
    exact eachAct_ignoringNotFound (eachAct_other
      (eachStep_markSubscriptionCanceled SchedulesKept.refl _
        fun _ _ _ h => .elsewhere (updateSubscription_invoices h)))
  | other => trivial

/-- A retry cycle sends statements of the schedule. -/
private theorem eachAct_processDueRetries :
    (processDueRetries config).EachAct (HasKinds kindOf) (RetryStatement config kindOf) := by
  refine BatchJob.eachAct_cycle (.other _ fun _ w => .refl w) fun due => ?_
  -- the three outcomes of a retry: an attempt, a payment, a failure with its attempt
  have hrecord : ∀ attemptedAt errorMessage,
      (recordRetryAttempt config due attemptedAt errorMessage).EachAct
      (HasKinds kindOf) (RetryStatement config kindOf) :=
    fun attemptedAt errorMessage => eachAct_stmt (.attempt due attemptedAt errorMessage)
  have hretry : (processInvoiceRetry config due).EachAct (HasKinds kindOf)
      (RetryStatement config kindOf) := by
    refine eachAct_bind (eachAct_other (eachStep_clock SchedulesKept.refl)) fun attemptedAt => ?_
    refine eachAct_tryCatch ?_ fun error => eachAct_bind (hrecord _ _) fun _ => eachAct_throw _
    refine eachAct_bind (eachAct_bind (eachAct_other (schedulesKept_callStripe _ _))
      fun _ => eachAct_pure _) fun result => ?_
    rw [applyRetryResult]
    split
    · exact eachAct_bind (eachAct_markInvoicePaid _) fun _ => eachAct_pure _
    · refine eachAct_bind (eachAct_markInvoiceFailed _) fun _ => ?_
      split
      · exact hrecord _ _
      · trivial
  exact hretry

end Statements

/-! ### Every run -/

inductive RetryProcess where
  /-- a cycle of managed retries -/
  | retries
  | webhook (event : StripeEvent)

def RetryProcess.op (config : AppConfig) : RetryProcess → Op Unit
  | .retries => processDueRetries config
  | .webhook event => handleWebhook config event

abbrev RetryCalls := Pool Nat World Env Err Unit

/-- The calls before their first statement. -/
def startRetries (config : AppConfig) (calls : Nat → RetryProcess) (w : World) : RetryCalls :=
  ⟨fun n => (calls n).op config, w⟩

/-- If the step writes an outcome or a draft event to an invoice with a schedule, it writes what
    it would write from the status and the retry state that the invoice has now. If it writes an
    attempt that schedules another one, the invoice is a past-due renewal. -/
structure RestsOnInvoice (config : AppConfig) (P : RetryCalls) (c : Choice Nat Env Err) : Prop where
  outcome : ∀ nxt read data row,
    P.threads c.thread = .step (writeInvoice read.id data) nxt → OutcomeData config read data →
      P.state.invoices.find? read.id = some row → row.managedNextRetryAt.isSome →
        ∃ current, OutcomeData config current data ∧ current.status = row.status ∧
          current.toManagedRetryState = row.toManagedRetryState
  attempt : ∀ nxt due attemptedAt errorMessage row,
    P.threads c.thread =
        .step (writeInvoice due.id (attemptedInvoice config due attemptedAt errorMessage)) nxt →
      (createManagedRetryStateAfterAttempt due.managedRetryCount attemptedAt
        config.billingManagedRetryDelaysMinutes errorMessage).managedNextRetryAt.isSome →
        P.state.invoices.find? due.id = some row → IsPastDueRenewal row

section Runs

variable {config : AppConfig} {calls : Nat → RetryProcess} {w w' w₀ : World} {P P' : RetryCalls}
  {c : Choice Nat Env Err}

/-- The kinds that the invoices have at the start. -/
def startKinds (w : World) (id : Id) : InvoiceKind :=
  match w.invoices.find? id with
  | some row => row.kind
  | none => .subscription

/-- At the start every id has the kind of its row. -/
private theorem hasKinds_start (w : World) : HasKinds (startKinds w) w := by
  constructor
  · intro row hrow
    have hfind : w.invoices.find? row.id = some row := Table.find?_key hrow
    simp only [startKinds, hfind]
  · intro id hid
    simp only [startKinds, hid]

/-- Every statement of every run is one of the worker's or of the webhooks'. -/
private theorem retryStatements (hreach : Reach .free (RestsOnInvoice config)
    (startRetries config calls w₀) P) :
    HasKinds (startKinds w₀) P.state ∧ ∀ n, (P.threads n).EachAct (HasKinds (startKinds w₀))
      (RetryStatement config (startKinds w₀)) := by
  refine hreach.eachAct (fun _ _ hact env w hw => hw.step hact env) (fun _ _ h => h)
    (hasKinds_start w₀) fun n => ?_
  show ((calls n).op config).EachAct _ _
  cases calls n with
  | retries => exact eachAct_processDueRetries
  | webhook event => exact eachAct_handleWebhook event

/-- An update keeps the law if the row that it writes obeys it. -/
theorem SchedulesOnRenewals.updateInvoice (h : SchedulesOnRenewals w) {id : Id}
    {data : Invoice → Invoice} (hwrite : w.updateInvoice id data = .ok w')
    (hrow : ∀ row, w.invoices.find? id = some row → IsScheduledRightly (data row)) :
    SchedulesOnRenewals w' := by
  obtain ⟨t, ht, rfl⟩ := updateInvoice_eq_ok hwrite
  intro row hrow'
  obtain ⟨old, hold, rfl⟩ := (Table.mem_update? ht).mp hrow'
  split
  · rename_i hkey
    exact hrow old (hkey ▸ Table.find?_key hold)
  · exact h old hold

/-- One step of a run whose writes rest on the invoices keeps the law. -/
theorem SchedulesOnRenewals.next (h : SchedulesOnRenewals P.state)
    (hkinds : HasKinds (startKinds w₀) P.state)
    (hacts : ∀ n, (P.threads n).EachAct (HasKinds (startKinds w₀))
      (RetryStatement config (startKinds w₀)))
    (hok : RestsOnInvoice config P c) (hnext : P.next .free c = some P') :
    SchedulesOnRenewals P'.state := by
  cases c with
  | stop n e =>
    obtain ⟨-, rfl⟩ := next_stop_cases hnext
    exact h
  | run n env =>
    obtain ⟨act, nxt, hthread, hact, hstate⟩ := next_eachAct (hacts n) hnext
    rw [hstate]
    cases hact with
    | outcome read data hkind hdata =>
      rcases writeInvoice_cases read.id data env P.state with hsame | hwrite
      · rw [hsame]
        exact h
      refine h.updateInvoice hwrite fun row hrow => ?_
      cases hscheduled : row.managedNextRetryAt.isSome with
      | false =>
        -- the kind that was read is still the invoice's
        have hid : row.id = read.id := Table.key_of_find? hrow
        have hsame : read.kind = row.kind :=
          hkind.symm.trans (hid ▸ (hkinds.find? hrow).symm)
        exact hdata.scheduled (h row (Table.mem_of_find? hrow)) (fun _ => hsame)
          fun hsome => nomatch hscheduled.symm.trans hsome
      | true =>
        obtain ⟨current, hcurrent, hread⟩ :=
          hok.outcome nxt read data row hthread hdata hrow hscheduled
        exact hcurrent.scheduled (h row (Table.mem_of_find? hrow))
          (fun hnone => nomatch hscheduled.symm.trans hnone) fun _ => hread
    | attempt due attemptedAt errorMessage =>
      rcases writeInvoice_cases due.id (attemptedInvoice config due attemptedAt errorMessage) env
        P.state with hsame | hwrite
      · rw [hsame]
        exact h
      exact h.updateInvoice hwrite fun row hrow => attemptedInvoice_scheduled_iff.mpr fun hnext =>
        hok.attempt nxt due attemptedAt errorMessage row hthread hnext hrow
    | other act hkept =>
      cases hkept env P.state with
      | elsewhere hsame => exact fun row hrow => h row (hsame ▸ hrow)
      | relinked id data hdata hwrite =>
        refine h.updateInvoice hwrite fun row hrow hscheduled => ?_
        obtain ⟨-, hkind, hstatus, hprovider, hsame⟩ := hdata row
        obtain ⟨hpastDue, hrenewal, -⟩ := h row (Table.mem_of_find? hrow) (hsame ▸ hscheduled)
        exact ⟨hstatus.trans hpastDue, hkind.trans hrenewal, hprovider⟩
      | created row hkind hnone hcreate =>
        obtain ⟨t, ht, heq⟩ := createInvoice_eq_ok hcreate
        rw [heq]
        intro row' hrow'
        rcases (Table.mem_insert? ht).mp hrow' with hold | rfl
        · exact h row' hold
        · intro hsome
          rw [hnone] at hsome
          exact nomatch hsome

/-- As long as the writes rest on what the invoices are, every invoice with a retry schedule is
    a past-due renewal of Stripe, in every state that is reached. -/
theorem schedule_onPastDueRenewals (h₀ : SchedulesOnRenewals w₀)
    (hreach : Reach .free (RestsOnInvoice config) (startRetries config calls w₀) P) :
    SchedulesOnRenewals P.state := by
  induction hreach with
  | init => exact h₀
  | step hreach hok hnext ih =>
    obtain ⟨hkinds, hacts⟩ := retryStatements hreach
    exact ih.next hkinds hacts hok hnext

end Runs

/-! ### A payment that is taken and scheduled again -/

/-- Another retry an hour after each of the first two attempts. -/
def retryConfig : AppConfig := { sampleConfig with billingManagedRetryDelaysMinutes := [60, 60] }

/-- Cycles of the worker, about one past-due renewal. -/
def retryCycles : RetryCalls :=
  startRetries retryConfig (fun _ => .retries)
    (sampleBilling (sampleSubscription .pastDue) (sampleInvoice .subscription .pastDue))

/-- The sample's one renewal has no next attempt yet. -/
private theorem schedulesOnRenewals_retryCycles : SchedulesOnRenewals retryCycles.state := by
  intro row hrow hnext
  obtain rfl : row = sampleInvoice .subscription .pastDue := List.mem_singleton.mp hrow
  exact nomatch hnext

/-- Stripe takes the payment of the invoice. -/
def paymentTaken : Env :=
  { Env.available 10 "u" with
    stripe :=
      { StripeApi.unavailable with payInvoice := fun _ => .ok (sampleStripeInvoice .paid) } }

/-- The invoice is paid and written, then the database refuses to write its subscription. -/
def payThenRefuse : List (Choice Nat Env Err) :=
  List.replicate 5 (.run 0 paymentTaken) ++
    [.run 0 { Env.available 10 "u" with dbError := some "" }, .run 0 (.available 10 "u")]

/-- The error handler of the worker schedules another retry of the invoice that is paid. -/
theorem not_schedule_onPastDueRenewals :
    ¬∀ P, Reach .free (fun _ _ => True) retryCycles P → SchedulesOnRenewals P.state := by
  intro h
  have hfacts : (runSchedule .free payThenRefuse retryCycles).map (fun P =>
      (P.state.invoices.find? "inv").map fun row => (row.status, row.managedNextRetryAt)) =
      some (some (.paid, some 3600010)) := by
    decide +kernel
  obtain ⟨P, hP, hfound⟩ := Option.map_eq_some_iff.mp hfacts
  obtain ⟨row, hrow, hrowFacts⟩ := Option.map_eq_some_iff.mp hfound
  obtain ⟨hpaid, hnext⟩ := Prod.mk.inj hrowFacts
  have hlaw := h P (reach_runSchedule _ .init hP) row (Table.mem_of_find? hrow) (by rw [hnext]; rfl)
  exact nomatch hpaid.symm.trans hlaw.1

/-- All invoices are past-due renewals without a schedule. -/
def allUnscheduled (P : RetryCalls) (_ : Choice Nat Env Err) : Bool :=
  P.state.invoices.rows.all fun row => IsPastDueRenewal row && row.managedNextRetryAt.isNone

/-- The condition can be checked on a schedule. -/
private theorem restsOnInvoice_of_allUnscheduled {P : RetryCalls} {c : Choice Nat Env Err}
    (h : allUnscheduled P c = true) : RestsOnInvoice retryConfig P c := by
  simp only [allUnscheduled, List.all_eq_true, Bool.and_eq_true, decide_eq_true_eq] at h
  constructor
  · intro nxt read data row _ _ hrow hnext
    rw [Option.isNone_iff_eq_none.mp (h row (Table.mem_of_find? hrow)).2] at hnext
    exact nomatch hnext
  · intro nxt due attemptedAt errorMessage row _ _ hrow
    exact (h row (Table.mem_of_find? hrow)).1

/-- A retry that Stripe refuses schedules the next one. -/
theorem schedule_onPastDueRenewals_refused :
    ∃ P row, runIf .free allUnscheduled (List.replicate 4 (.run 0 (.available 10 "u")))
      retryCycles =
        some P ∧ P.state.invoices.find? "inv" = some row ∧ row.managedNextRetryAt.isSome ∧
          IsPastDueRenewal row := by
  have hfacts : (runIf .free allUnscheduled (List.replicate 4 (.run 0 (.available 10 "u")))
      retryCycles).map (fun P =>
        (P.state.invoices.find? "inv").map (·.managedNextRetryAt)) =
      some (some (some 3600010)) := by
    decide +kernel
  obtain ⟨P, hP, hfound⟩ := Option.map_eq_some_iff.mp hfacts
  obtain ⟨row, hrow, hnext⟩ := Option.map_eq_some_iff.mp hfound
  have hsome : row.managedNextRetryAt.isSome := by rw [hnext]; rfl
  exact ⟨P, row, hP, hrow, hsome, schedule_onPastDueRenewals schedulesOnRenewals_retryCycles
    (reach_runIf _ (fun _ _ _ => restsOnInvoice_of_allUnscheduled) .init hP) row
    (Table.mem_of_find? hrow) hsome⟩

end HivePoint
