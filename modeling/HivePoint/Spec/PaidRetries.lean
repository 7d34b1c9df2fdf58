import HivePoint.Spec.RetrySchedule

/-!
# Retried payments that went through

`processInvoiceRetry` records a payment in two writes, to the invoice and to its subscription. A
statement that is refused leads to the error handler, which counts the attempt. The handling is run
alone under any list of answers.

## Key results

- `markInvoicePaid_end`, `recordFailedAttempt_end`: where each part may leave the rows
- `paidRetry_notStranded_iff`: when a payment that went through is recorded or retried
-/

namespace HivePoint

open Prog

/-! ### Where the retry may end -/

/-- What `processInvoiceRetry` reports for a payment that Stripe has taken. -/
def paidRetryParams (row : Invoice) (payment : StripeInvoice) : MarkInvoicePaidParams where
  invoiceId := row.id
  paymentProvider := .stripe
  externalInvoiceId := some payment.id
  externalSubscriptionId := extractExternalSubscriptionId payment
  attemptCount := some (payment.attemptCount.getD 0)

/-- The invoice is `PAID`, and its subscription `ACTIVE` for its period. -/
def PaymentSettled (id : Id) (w : World) : Prop :=
  ∃ invoice subscription, w.findInvoiceWithSubscription id = some (invoice, subscription) ∧
    invoice.status = .paid ∧ subscription.status = .active ∧
    subscription.currentPeriodStart = some invoice.periodStart ∧
    subscription.currentPeriodEnd = some invoice.periodEnd

/-- Some later cycle may select the invoice. -/
def EligibleForRetry (id : Id) (now : Int) (w : World) : Prop :=
  ∃ later, now ≤ later ∧ ∃ invoice ∈ w.dueRetries later, invoice.id = id

/-- The schedule has a retry after the one that the invoice waits for. -/
def RetryLeft (config : AppConfig) (row : Invoice) : Prop :=
  ∃ delay, config.billingManagedRetryDelaysMinutes[row.managedRetryCount + 1]? = some delay ∧
    delay ≠ 0

/-- Counting the attempt leaves a retry, or the statement that counts it is not executed. -/
def CountsSafely (config : AppConfig) (row : Invoice) (es : List Env) : Prop :=
  RetryLeft config row ∨ ∀ env rest, es = env :: rest → env.dbError.isSome

/-- The database can write the payment to the invoice: no other invoice has its external id. -/
def InvoiceWritable (row : Invoice) (payment : StripeInvoice) (w : World) : Prop :=
  (w.invoices.update? row.id (paidInvoice (paidRetryParams row payment) row)).isSome

def SubscriptionWritable (row : Invoice) (subscription : Subscription) (payment : StripeInvoice)
    (w : World) : Prop :=
  (w.subscriptions.update? subscription.id
    (activatedSubscription (paidRetryParams row payment) row subscription)).isSome

instance (row : Invoice) (payment : StripeInvoice) (w : World) :
    Decidable (InvoiceWritable row payment w) := inferInstanceAs (Decidable (_ = true))

instance (row : Invoice) (subscription : Subscription) (payment : StripeInvoice) (w : World) :
    Decidable (SubscriptionWritable row subscription payment w) :=
      inferInstanceAs (Decidable (_ = true))

/-- Both writes are executed, or the first statement that is not comes before the invoice is written
    and its attempt is counted safely. -/
inductive PaymentKept (config : AppConfig) (row : Invoice) (subscription : Subscription)
    (payment : StripeInvoice) (w : World) : List Env → Prop
  | stopped : PaymentKept config row subscription payment w []
  | readRefused (env : Env) (es : List Env) (hread : env.dbError.isSome)
      (hcounts : CountsSafely config row es) :
      PaymentKept config row subscription payment w (env :: es)
  | stoppedAfterRead (env : Env) : PaymentKept config row subscription payment w [env]
  | writeRefused (e₁ e₂ : Env) (es : List Env) (hread : e₁.dbError = none)
      (hwrite : e₂.dbError.isSome ∨ ¬InvoiceWritable row payment w)
      (hcounts : CountsSafely config row es) :
      PaymentKept config row subscription payment w (e₁ :: e₂ :: es)
  | recorded (e₁ e₂ e₃ : Env) (es : List Env) (hread : e₁.dbError = none)
    (hwrite : e₂.dbError = none)
      (hwritable : InvoiceWritable row payment w) (hactivate : e₃.dbError = none)
      (hactivatable : SubscriptionWritable row subscription payment w) :
      PaymentKept config row subscription payment w (e₁ :: e₂ :: e₃ :: es)

/-! ### Eligibility -/

section Eligibility

variable {w : World} {row : Invoice} {now : Int}

/-- An invoice is due at some time if nothing but the time keeps it back. -/
private theorem eligibleForRetry_iff (w : World) (row : Invoice)
    (hrow : w.invoices.find? row.id = some row) :
    EligibleForRetry row.id now w ↔
      row.paymentProvider = .stripe ∧ row.status = .pastDue ∧ row.externalInvoiceId.isSome ∧
      row.managedRetryExhaustedAt = none ∧
        (row.managedNextRetryAt.isSome ∨ row.managedRetryCount = 0) ∧
      (w.subscriptions.find? row.subscriptionId).any isRetryableSubscription := by
  constructor
  -- an invoice that is due at some instant has what the query asks of it
  · rintro ⟨later, -, invoice, hdue, hid⟩
    simp only [World.dueRetries, List.mem_filter, isDueForRetry, Bool.and_eq_true, Bool.or_eq_true,
      decide_eq_true_eq, Option.isNone_iff_eq_none] at hdue
    obtain ⟨hmem, ⟨⟨⟨⟨hprovider, hstatus⟩, hexternal⟩, hexhausted⟩, hnext⟩, hsubscription⟩ := hdue
    obtain rfl := Table.eq_of_key_eq hmem (Table.mem_of_find? hrow) hid
    refine ⟨hprovider, hstatus, hexternal, hexhausted, ?_, hsubscription⟩
    obtain hnext | ⟨-, hcount⟩ := hnext
    · obtain ⟨at_, hat, -⟩ := Option.any_eq_true _ _ |>.mp hnext
      exact .inl (hat ▸ rfl)
    · exact .inr hcount
  -- and an invoice that has it is due once its next attempt is
  · rintro ⟨hprovider, hstatus, hexternal, hexhausted, hnext, hsubscription⟩
    refine ⟨max now (row.managedNextRetryAt.getD now), Int.le_max_left _ _, row, ?_, rfl⟩
    have hdue : row.managedNextRetryAt.any (· ≤ max now (row.managedNextRetryAt.getD now)) = true ∨
        row.managedNextRetryAt = none ∧ row.managedRetryCount = 0 := by
      cases hat : row.managedNextRetryAt with
      | some t => exact .inl (by simp)
      | none =>
        rw [hat] at hnext
        exact .inr ⟨rfl, hnext.resolve_left (by simp)⟩
    simp only [World.dueRetries, List.mem_filter, isDueForRetry, Bool.and_eq_true, Bool.or_eq_true,
      decide_eq_true_eq, Option.isNone_iff_eq_none]
    exact ⟨Table.mem_of_find? hrow, ⟨⟨⟨⟨hprovider, hstatus⟩, hexternal⟩, hexhausted⟩, hdue⟩,
      hsubscription⟩

/-- A retry is left if the next attempt has a time. -/
private theorem retryLeft_iff {config : AppConfig} (attemptedAt : Int) :
    RetryLeft config row ↔ (resolveManagedRetryAt (row.managedRetryCount + 1) attemptedAt
      config.billingManagedRetryDelaysMinutes).isSome := by
  unfold RetryLeft resolveManagedRetryAt
  cases config.billingManagedRetryDelaysMinutes[row.managedRetryCount + 1]? with
  | none => simp
  | some delay => cases delay <;> simp

end Eligibility

/-! ### The statements -/

section Statements

variable {config : AppConfig} {w : World} {row : Invoice} {subscription : Subscription}
  {payment : StripeInvoice} {es : List Env} {now : Int}

/-- The state of the handling before it reports the payment. -/
structure AwaitsPayment (row : Invoice) (subscription : Subscription) (w : World) : Prop where
  invoiceRow : w.invoices.find? row.id = some row
  subscriptionRow : w.subscriptions.find? row.subscriptionId = some subscription
  kind : row.kind = .subscription
  provider : row.paymentProvider = .stripe
  status : row.status = .pastDue
  external : row.externalInvoiceId.isSome
  retryable : isRetryableSubscription subscription

/-- The subscription is the invoice's own. -/
theorem AwaitsPayment.id (h : AwaitsPayment row subscription w) :
    subscription.id = row.subscriptionId :=
  Table.key_of_find? h.subscriptionRow

/-- The invoice is found with its subscription. -/
theorem AwaitsPayment.found (h : AwaitsPayment row subscription w) :
    w.findInvoiceWithSubscription row.id = some (row, subscription) := by
  simp [World.findInvoiceWithSubscription, h.invoiceRow, h.subscriptionRow]

/-- How `markInvoicePaid` leaves the rows. -/
inductive PaidEnd (row : Invoice) (subscription : Subscription) (payment : StripeInvoice)
    (w : World) :
    List Env → Option (Except Err Bool) × List Env × World → Prop
  | stopped : PaidEnd row subscription payment w [] (none, [], w)
  | readRefused (env : Env) (es : List Env) (e : Err) (hread : env.dbError.isSome) :
      PaidEnd row subscription payment w (env :: es) (some (.error e), es, w)
  | stoppedAfterRead (env : Env) (hread : env.dbError = none) :
      PaidEnd row subscription payment w [env] (none, [], w)
  | writeRefused (e₁ e₂ : Env) (es : List Env) (e : Err) (hread : e₁.dbError = none)
      (hwrite : e₂.dbError.isSome ∨ ¬InvoiceWritable row payment w) :
      PaidEnd row subscription payment w (e₁ :: e₂ :: es) (some (.error e), es, w)
  /-- the invoice is paid, and its subscription as it was -/
  | halfway (e₁ e₂ : Env) (es : List Env) (r : Option (Except Err Bool)) (rest : List Env)
      (invoices : Table Invoice) (hread : e₁.dbError = none) (hwrite : e₂.dbError = none)
      (hinvoices : w.invoices.update? row.id (paidInvoice (paidRetryParams row payment) row) =
        some invoices)
      (hactivate : ∀ e₃ es', es = e₃ :: es' →
        e₃.dbError.isSome ∨ ¬SubscriptionWritable row subscription payment w) :
      PaidEnd row subscription payment w (e₁ :: e₂ :: es) (r, rest, { w with invoices })
  | recorded (e₁ e₂ e₃ : Env) (es : List Env) (invoices : Table Invoice)
      (subscriptions : Table Subscription) (hread : e₁.dbError = none) (hwrite : e₂.dbError = none)
      (hinvoices : w.invoices.update? row.id (paidInvoice (paidRetryParams row payment) row) =
        some invoices)
      (hactivate : e₃.dbError = none)
      (hsubscriptions : w.subscriptions.update? subscription.id
        (activatedSubscription (paidRetryParams row payment) row subscription) =
          some subscriptions) :
      PaidEnd row subscription payment w (e₁ :: e₂ :: e₃ :: es)
        (some (.ok false), es, { w with invoices, subscriptions })

/-- Where a payment ends, by how many of its statements were carried out. -/
theorem markInvoicePaid_end (hw : AwaitsPayment row subscription w) (payment : StripeInvoice)
    (es : List Env) :
    PaidEnd row subscription payment w es
      ((markInvoicePaid (paidRetryParams row payment)).feed es w) := by
  unfold markInvoicePaid
  rw [feed_bind]
  cases es with
  | nil => exact .stopped
  | cons e₁ es =>
    cases hread : e₁.dbError with
    | some m =>
      rw [feed_read_refused _ hread]
      exact .readRefused e₁ es _ (by simp [hread])
    | none =>
      rw [feed_read_ok _ hread]
      dsimp only
      rw [show (paidRetryParams row payment).invoiceId = row.id from rfl, hw.found]
      dsimp only
      rw [if_neg (by simp [isPaidUnderOtherId, hw.status]), feed_bind]
      cases es with
      | nil => exact .stoppedAfterRead e₁ hread
      | cons e₂ es =>
        cases hwrite : e₂.dbError with
        | some m =>
          rw [updateInvoice, feed_mutate_refused _ hwrite]
          exact .writeRefused e₁ e₂ es _ hread (.inl (by simp [hwrite]))
        | none =>
          cases hinvoices : w.invoices.update? row.id
            (paidInvoice (paidRetryParams row payment) row) with
          | none =>
            have hupdate : w.updateInvoice row.id (paidInvoice (paidRetryParams row payment) row) =
                .error (.uniqueConstraint []) := by
              simp [World.updateInvoice, hw.invoiceRow, hinvoices]
            rw [updateInvoice, feed_mutate_error hwrite (congrArg (Except.map ((), ·)) hupdate)]
            exact .writeRefused e₁ e₂ es _ hread (.inr (by simp [InvoiceWritable, hinvoices]))
          | some invoices =>
            have hupdate : w.updateInvoice row.id (paidInvoice (paidRetryParams row payment) row) =
                .ok { w with invoices } := by
              simp [World.updateInvoice, hw.invoiceRow, hinvoices]
            rw [updateInvoice, feed_mutate_ok hwrite (congrArg (Except.map ((), ·)) hupdate)]
            dsimp only
            rw [if_neg (by simp [hw.kind]), feed_bind]
            have hsubscription : w.subscriptions.find? subscription.id = some subscription :=
              hw.id ▸ hw.subscriptionRow
            -- the subscription is activated in a statement of its own
            cases es with
            | nil =>
              exact .halfway e₁ e₂ [] _ _ invoices hread hwrite hinvoices fun _ _ h => by cases h
            | cons e₃ es =>
              cases hactivate : e₃.dbError with
              | some m =>
                rw [updateSubscription, feed_mutate_refused _ hactivate]
                refine .halfway e₁ e₂ (e₃ :: es) _ _ invoices hread hwrite hinvoices
                  fun e es' heq => ?_
                obtain ⟨rfl, -⟩ := List.cons.inj heq
                exact .inl (by simp [hactivate])
              | none =>
                cases hsubscriptions : w.subscriptions.update? subscription.id
                    (activatedSubscription (paidRetryParams row payment) row subscription) with
                | none =>
                  have hupdate : ({ w with invoices } : World).updateSubscription subscription.id
                      (activatedSubscription (paidRetryParams row payment) row subscription) =
                      .error (.uniqueConstraint []) := by
                    simp [World.updateSubscription, hsubscription, hsubscriptions]
                  rw [updateSubscription,
                    feed_mutate_error hactivate (congrArg (Except.map ((), ·)) hupdate)]
                  exact .halfway e₁ e₂ (e₃ :: es) _ _ invoices hread hwrite hinvoices fun _ _ _ =>
                    .inr (by simp [SubscriptionWritable, hsubscriptions])
                | some subscriptions =>
                  have hupdate : ({ w with invoices } : World).updateSubscription subscription.id
                      (activatedSubscription (paidRetryParams row payment) row subscription) =
                      .ok { w with invoices, subscriptions } := by
                    simp [World.updateSubscription, hsubscription, hsubscriptions]
                  rw [updateSubscription,
                    feed_mutate_ok hactivate (congrArg (Except.map ((), ·)) hupdate)]
                  exact .recorded e₁ e₂ e₃ es invoices subscriptions hread hwrite hinvoices
                    hactivate
                    hsubscriptions

/-- The error handler counts the attempt, or does nothing. -/
theorem recordFailedAttempt_end (config : AppConfig) {current : Invoice} {due : DueRetry}
    (hrow : w.invoices.find? current.id = some current) (hid : current.id = due.id)
    (attemptedAt : Int) (error : Err) (es : List Env) :
    (∃ env rest invoices message, es = env :: rest ∧ env.dbError = none ∧
      w.invoices.update? current.id (attemptedInvoice config due attemptedAt message) =
        some invoices ∧
      ((recordFailedAttempt config due attemptedAt error).feed es w).2.2 = { w with invoices }) ∨
    (∀ env rest, es = env :: rest → env.dbError.isSome) ∧
      ((recordFailedAttempt config due attemptedAt error).feed es w).2.2 = w := by
  unfold recordFailedAttempt recordRetryAttempt
  rw [feed_bind, ← hid]
  -- the attempt is written, refused, or not reached
  cases es with
  | nil => exact .inr ⟨fun _ _ h => (nomatch h), rfl⟩
  | cons env es =>
    cases hdb : env.dbError with
    | some m =>
      rw [updateInvoice, feed_mutate_refused _ hdb]
      refine .inr ⟨fun e rest h => ?_, rfl⟩
      obtain ⟨rfl, -⟩ := List.cons.inj h
      simp [hdb]
    | none =>
      obtain ⟨invoices, hinvoices, hupdate⟩ := @updateInvoice_of_kept _ _
        (attemptedInvoice config due attemptedAt
          (some (describeError "Unknown renewal retry error" error))) hrow (fun _ => rfl)
            fun u hu => by
          simp only [Row.uniques, List.mem_cons, List.not_mem_nil, or_false] at hu
          obtain rfl | rfl | rfl := hu <;> rfl
      refine .inl ⟨env, es, invoices, _, rfl, hdb, hinvoices, ?_⟩
      rw [updateInvoice, feed_mutate_ok hdb (congrArg (Except.map ((), ·)) hupdate)]
      rfl

/-- The error handler before anything of the payment is written. -/
private theorem recordFailedAttempt_eligible_iff (hw : AwaitsPayment row subscription w)
    {due : DueRetry} (hid : row.id = due.id)
    (hcount : row.managedRetryCount = due.managedRetryCount)
    (heligible : EligibleForRetry row.id now w) (error : Err) (es : List Env) :
    PaymentSettled row.id ((recordFailedAttempt config due now error).feed es w).2.2 ∨
        EligibleForRetry row.id now ((recordFailedAttempt config due now error).feed es w).2.2 ↔
      CountsSafely config row es := by
  obtain ⟨env, rest, invoices, message, rfl, hdb, hinvoices, hend⟩ | ⟨hrefused, hend⟩ :=
    recordFailedAttempt_end config hw.invoiceRow hid now error es
  · have hrow : invoices.find? row.id = some (attemptedInvoice config due now message row) := by
      rw [Table.find?_update?_self hinvoices fun _ => rfl, hw.invoiceRow]
      rfl
    -- with the attempt counted the invoice is due again only if a retry is left
    have hretry : EligibleForRetry row.id now { w with invoices } ↔ RetryLeft config row := by
      rw [retryLeft_iff now, hcount]
      refine (eligibleForRetry_iff { w with invoices } (attemptedInvoice config due now message row)
        hrow).trans ⟨fun h => ?_, fun h => ?_⟩
      · obtain ⟨-, -, -, -, hnext | hzero, -⟩ := h
        · exact hnext
        · exact absurd hzero (Nat.succ_ne_zero _)
      · refine ⟨hw.provider, hw.status, hw.external, if_pos h, .inl h, ?_⟩
        show (w.subscriptions.find? row.subscriptionId).any _ = true
        rw [hw.subscriptionRow]
        exact hw.retryable
    rw [hend, hretry]
    refine ⟨fun h => .inl (h.resolve_left ?_), fun h => .inr (h.resolve_right fun hall => ?_)⟩
    · rintro ⟨invoice, _, hfound, hpaid, -⟩
      obtain ⟨hinvoice, -⟩ := findInvoiceWithSubscription_eq_some.mp hfound
      obtain rfl := Option.some.inj (hinvoice.symm.trans hrow)
      rw [attemptedInvoice, hw.status] at hpaid
      exact nomatch hpaid
    · have hsome := hall env rest rfl
      rw [hdb] at hsome
      exact nomatch hsome
  -- without it the invoice is due as before
  · rw [hend]
    exact iff_of_true (.inr heligible) (.inr hrefused)

/-- A paid invoice whose subscription is in arrears is neither settled nor due. -/
private theorem not_settled_or_eligible (w : World) (row : Invoice)
    (hrow : w.invoices.find? row.id = some row) (hpaid : row.status = .paid)
    (hsubscription : w.subscriptions.find? row.subscriptionId = some subscription)
    (hstatus : subscription.status = .pastDue) :
    ¬(PaymentSettled row.id w ∨ EligibleForRetry row.id now w) := by
  rintro (⟨invoice, owner, hfound, -, hactive, -⟩ | heligible)
  · obtain ⟨hinvoice, howner⟩ := findInvoiceWithSubscription_eq_some.mp hfound
    obtain rfl := Option.some.inj (hinvoice.symm.trans hrow)
    obtain rfl := Option.some.inj (howner.symm.trans hsubscription)
    rw [hstatus] at hactive
    exact nomatch hactive
  · obtain ⟨-, hpastDue, -⟩ := (eligibleForRetry_iff w row hrow).mp heligible
    rw [hpaid] at hpastDue
    exact nomatch hpastDue

/-- The error handler after the invoice was written `PAID`, and its subscription not `ACTIVE`. -/
private theorem recordFailedAttempt_stranded (row : Invoice) (due : DueRetry)
    (hrow : w.invoices.find? row.id = some row)
    (hpaid : row.status = .paid)
    (hsubscription : w.subscriptions.find? row.subscriptionId = some subscription)
    (hstatus : subscription.status = .pastDue) (hid : row.id = due.id) (error : Err)
    (es : List Env) :
    ¬(PaymentSettled row.id ((recordFailedAttempt config due now error).feed es w).2.2 ∨
      EligibleForRetry row.id now ((recordFailedAttempt config due now error).feed es w).2.2) := by
  obtain ⟨env, rest, invoices, message, -, -, hinvoices, hend⟩ | ⟨-, hend⟩ :=
    recordFailedAttempt_end config hrow hid now error es
  · have hrow' : invoices.find? row.id = some (attemptedInvoice config due now message row) := by
      rw [Table.find?_update?_self hinvoices fun _ => rfl, hrow]
      rfl
    rw [hend]
    exact not_settled_or_eligible { w with invoices } (attemptedInvoice config due now message row)
      hrow' hpaid hsubscription hstatus
  · rw [hend]
    exact not_settled_or_eligible w row hrow hpaid hsubscription hstatus

/-! ### The handling of one invoice -/

/-- A renewal that is due awaits its payment. -/
private theorem awaitsPayment_of_due (hdue : row ∈ w.dueRetries now)
    (hkind : row.kind = .subscription) :
    ∃ subscription, AwaitsPayment row subscription w := by
  simp only [World.dueRetries, List.mem_filter, isDueForRetry, Bool.and_eq_true,
    decide_eq_true_eq] at hdue
  obtain ⟨hmem, ⟨⟨⟨⟨hprovider, hstatus⟩, hexternal⟩, -⟩, -⟩, hsubscription⟩ := hdue
  obtain ⟨subscription, hfound, hretryable⟩ := (Option.any_eq_true _ _).mp hsubscription
  exact ⟨subscription, Table.find?_key hmem, hfound, hkind, hprovider, hstatus, hexternal,
    hretryable⟩

/-- For an invoice that is due for a retry, and a payment that Stripe has taken: what is afterwards
    recorded, or may be retried. -/
theorem paidRetry_notStranded_iff {externalInvoiceId : String} {e₀ e₁ : Env}
    (hdue : row ∈ w.dueRetries now) (hkind : row.kind = .subscription)
    (hpays : e₁.stripe.payInvoice externalInvoiceId = .ok payment)
    (hpaid : payment.status = some .paid)
    (hsubscription : w.subscriptions.find? row.subscriptionId = some subscription) (es : List Env) :
    PaymentSettled row.id ((processInvoiceRetry config
        ⟨row.id, externalInvoiceId, row.managedRetryCount⟩).feed (e₀ :: e₁ :: es) w).2.2 ∨
      EligibleForRetry row.id e₀.now ((processInvoiceRetry config
        ⟨row.id, externalInvoiceId, row.managedRetryCount⟩).feed (e₀ :: e₁ :: es) w).2.2 ↔
    PaymentKept config row subscription payment w es := by
  have hw : AwaitsPayment row subscription w := by
    obtain ⟨owner, hw⟩ := awaitsPayment_of_due hdue hkind
    obtain rfl := Option.some.inj (hw.subscriptionRow.symm.trans hsubscription)
    exact hw
  have heligible : EligibleForRetry row.id e₀.now w := by
    have hnow : EligibleForRetry row.id now w := ⟨now, Int.le_refl _, row, hdue, rfl⟩
    exact (eligibleForRetry_iff w row hw.invoiceRow).mpr
      ((eligibleForRetry_iff w row hw.invoiceRow).mp hnow)
  have hresult : (toInvoiceResult payment).status =
      .paid := by simp [toInvoiceResult, mapInvoiceStatus, hpaid]
  -- Stripe's answer leaves nothing but its log
  have hstart : (processInvoiceRetry config
      ⟨row.id, externalInvoiceId, row.managedRetryCount⟩).feed (e₀ :: e₁ :: es) w =
      (tryCatch (do let _ ← markInvoicePaid (paidRetryParams row payment))
        (recordFailedAttempt config ⟨row.id, externalInvoiceId, row.managedRetryCount⟩ e₀.now) :
        Op Unit).feed es { w with stripeLog :=
          (.payInvoice externalInvoiceId, true) :: w.stripeLog } := by
    rw [processInvoiceRetry, feed_bind, feed_clock]
    dsimp only
    rw [feed_tryCatch, feed_tryCatch, retryInvoicePayment, feed_bind, feed_bind, callStripe,
      feed_stmt_cons,
      hpays]
    dsimp only
    rw [feed_pure]
    dsimp only
    rw [applyRetryResult, if_pos hresult]
    rfl
  rw [hstart, feed_tryCatch, feed_bind]
  have hw₁ : AwaitsPayment row subscription
      { w with stripeLog := (.payInvoice externalInvoiceId, true) :: w.stripeLog } :=
    ⟨hw.invoiceRow, hw.subscriptionRow, hw.kind, hw.provider, hw.status, hw.external, hw.retryable⟩
  have heligible₁ : EligibleForRetry row.id e₀.now
      { w with stripeLog := (.payInvoice externalInvoiceId, true) :: w.stripeLog } := heligible
  have hend := markInvoicePaid_end hw₁ payment es
  generalize (markInvoicePaid (paidRetryParams row payment)).feed es _ = res at hend ⊢
  cases hend with
  | stopped => exact iff_of_true (.inr heligible₁) .stopped
  | stoppedAfterRead env => exact iff_of_true (.inr heligible₁) (.stoppedAfterRead env)
  | readRefused env es e hread =>
    refine (recordFailedAttempt_eligible_iff hw₁ rfl rfl heligible₁ e es).trans
      ⟨.readRefused env es hread, fun h => ?_⟩
    cases h with
    | readRefused _ _ _ hcounts => exact hcounts
    | stoppedAfterRead => exact .inr fun _ _ h => by cases h
    | writeRefused _ _ _ hnone => simp [hnone] at hread
    | recorded _ _ _ _ hnone => simp [hnone] at hread
  | writeRefused a b es e hread hwrite =>
    refine (recordFailedAttempt_eligible_iff hw₁ rfl rfl heligible₁ e es).trans
      ⟨.writeRefused a b es hread hwrite, fun h => ?_⟩
    cases h with
    | readRefused _ _ hsome => simp [hread] at hsome
    | writeRefused _ _ _ _ _ hcounts => exact hcounts
    | recorded _ _ _ _ _ hnone hwritable =>
      obtain hsome | hnot := hwrite
      · simp [hnone] at hsome
      · exact absurd hwritable hnot
  | halfway a b es r rest invoices hread hwrite hinvoices hactivate =>
    have hrow : invoices.find? row.id = some
        (paidInvoice (paidRetryParams row payment) row row) := by
      rw [Table.find?_update?_self hinvoices fun _ => rfl]
      exact congrArg (Option.map _) hw.invoiceRow
    have hstatus : subscription.status = .pastDue := by
      have hretryable := hw.retryable
      simp only [isRetryableSubscription, Bool.and_eq_true, decide_eq_true_eq] at hretryable
      exact hretryable.1
    refine iff_of_false ?_ fun h => ?_
    · -- whatever happens next, no cycle selects a paid invoice
      obtain _ | ⟨e | ignored⟩ := r
      · exact not_settled_or_eligible _ (paidInvoice (paidRetryParams row payment) row row) hrow rfl
          hw.subscriptionRow hstatus
      · dsimp only
        refine recordFailedAttempt_stranded (paidInvoice (paidRetryParams row payment) row row)
          ⟨row.id, externalInvoiceId, row.managedRetryCount⟩ ?_ rfl ?_ hstatus rfl e rest
        · exact hrow
        · exact hw.subscriptionRow
      · exact not_settled_or_eligible _ (paidInvoice (paidRetryParams row payment) row row) hrow rfl
          hw.subscriptionRow hstatus
    · cases h with
      | readRefused _ _ hsome => simp [hread] at hsome
      | writeRefused _ _ _ _ hrefused =>
        obtain hsome | hnot := hrefused
        · simp [hwrite] at hsome
        · exact hnot (by simpa [InvoiceWritable] using Option.isSome_of_eq_some hinvoices)
      | recorded _ _ e₃ es _ _ _ hnone hactivatable =>
        obtain hsome | hnot := hactivate e₃ es rfl
        · simp [hnone] at hsome
        · exact hnot hactivatable
  | recorded a b c es invoices subscriptions hread hwrite hinvoices hactivate hsubscriptions =>
    refine iff_of_true (.inl ⟨paidInvoice (paidRetryParams row payment) row row,
      activatedSubscription (paidRetryParams row payment) row subscription subscription, ?_,
        rfl, rfl,
      rfl, rfl⟩) (.recorded a b c es hread hwrite (Option.isSome_of_eq_some hinvoices) hactivate
        (Option.isSome_of_eq_some hsubscriptions))
    refine findInvoiceWithSubscription_eq_some.mpr ⟨?_, ?_⟩
    · show invoices.find? row.id = _
      rw [Table.find?_update?_self hinvoices fun _ => rfl]
      exact congrArg (Option.map _) hw.invoiceRow
    · show subscriptions.find? row.subscriptionId = _
      rw [← hw.id, Table.find?_update?_self hsubscriptions fun _ => rfl]
      exact congrArg (Option.map _) (hw.id ▸ hw.subscriptionRow)

end Statements

/-! ### The subscription is not activated -/

/-- A past-due renewal that no cycle has retried yet. -/
def dueRenewal : Invoice := sampleInvoice .subscription .pastDue

def renewalDue : World := sampleBilling (sampleSubscription .pastDue) dueRenewal

/-- The read and the write of the invoice are executed; the write of the subscription is refused,
    and the one that counts the attempt executed. -/
def activationRefused : List Env :=
  [.available 10 "x", .available 10 "x",
    { Env.available 10 "x" with dbError := some "connection lost" },
    .available 10 "x"]

/-- The sample's renewal is due. -/
private theorem renewalDue_due : dueRenewal ∈ renewalDue.dueRetries 10 := by decide +kernel

/-- A paid invoice whose subscription stays past due is not selected again. -/
theorem not_paidRetry_notStranded :
    ¬∀ (config : AppConfig) (row : Invoice) (payment : StripeInvoice) (e₀ e₁ : Env) (es : List Env)
      (w : World) (now : Int) (externalInvoiceId : String),
      row ∈ w.dueRetries now → row.kind = .subscription →
      e₁.stripe.payInvoice externalInvoiceId = .ok payment → payment.status = some .paid →
      (es.filter fun env => env.dbError.isSome).length ≤ 1 →
      PaymentSettled row.id ((processInvoiceRetry config
          ⟨row.id, externalInvoiceId, row.managedRetryCount⟩).feed (e₀ :: e₁ :: es) w).2.2 ∨
        EligibleForRetry row.id e₀.now ((processInvoiceRetry config
          ⟨row.id, externalInvoiceId, row.managedRetryCount⟩).feed (e₀ :: e₁ :: es) w).2.2 := by
  intro h
  have hstranded := h retryConfig dueRenewal (sampleStripeInvoice .paid) paymentTaken paymentTaken
    activationRefused renewalDue 10 "in_1" renewalDue_due rfl rfl rfl (by decide)
  -- the invoice is paid, and the database refused to activate its subscription
  have hrows :
      (((processInvoiceRetry retryConfig ⟨dueRenewal.id, "in_1", dueRenewal.managedRetryCount⟩).feed
      (paymentTaken :: paymentTaken :: activationRefused)
        renewalDue).2.2.findInvoiceWithSubscription
        dueRenewal.id).map (fun found => (found.1.id, found.1.status, found.2.status)) =
      some (dueRenewal.id, .paid, .pastDue) := by
    decide +kernel
  generalize (Prog.feed _ _ _).2.2 = w' at hstranded hrows
  obtain ⟨⟨invoice, subscription⟩, hfound, hfacts⟩ := Option.map_eq_some_iff.mp hrows
  simp only [Prod.mk.injEq] at hfacts
  obtain ⟨hid, hpaid, hpastDue⟩ := hfacts
  obtain ⟨hinvoice, hsubscription⟩ := findInvoiceWithSubscription_eq_some.mp hfound
  rw [← hid] at hstranded hinvoice
  exact not_settled_or_eligible w' invoice hinvoice hpaid hsubscription hpastDue hstranded

/-- With the activation executed, too. -/
theorem paidRetry_notStranded_recorded :
    PaymentSettled dueRenewal.id ((processInvoiceRetry retryConfig ⟨dueRenewal.id, "in_1",
        dueRenewal.managedRetryCount⟩).feed
          (paymentTaken :: paymentTaken :: List.replicate 3 (.available 10 "x")) renewalDue).2.2 ∨
      EligibleForRetry dueRenewal.id paymentTaken.now
        ((processInvoiceRetry retryConfig ⟨dueRenewal.id,
        "in_1", dueRenewal.managedRetryCount⟩).feed
          (paymentTaken :: paymentTaken :: List.replicate 3 (.available 10 "x")) renewalDue).2.2 :=
  (paidRetry_notStranded_iff renewalDue_due rfl rfl rfl rfl _).mpr
    (.recorded (.available 10 "x") (.available 10 "x") (.available 10 "x")
      [] rfl rfl (by decide +kernel) rfl
      (by decide +kernel))

end HivePoint
