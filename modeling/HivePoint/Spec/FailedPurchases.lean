import HivePoint.Spec.LiveSubscriptions

/-!
# Purchases that fail

`subscribe` commits a `PENDING` subscription and its invoice before it asks for the payment. When
that fails, a compensating path frees the buyer. The call is run alone under any list of answers;
the process stops where the list ends. It may also stop before its response is out, so what the
buyer holds is read off the rows and not off the response.

## Key results

- `paymentAttempt_end`, `compensation_end`: where each part of the call may leave the rows
- `buyer_notLockedOut_iff`: when the buyer holds a checkout or may subscribe again
-/

namespace HivePoint

open Prog

/-! ### The payment -/

section Purchase

variable (config : AppConfig) (user : AuthenticatedUser) (plan : Plan) (product : ApiProduct)
  (subscriptionId invoiceId : Id)

def paymentParams : CreatePaymentParams where
  invoiceId := invoiceId
  subscriptionId := subscriptionId
  userId := user.id
  userEmail := user.email
  planId := plan.id
  planName := plan.name
  productTitle := product.title
  amountCents := plan.priceCents
  currency := plan.currency
  setupOnly := config.paymentProvider = .stripe && plan.priceCents = 0

/-- The `try` block of `requestPayment`. -/
def paymentAttempt : Op SubscribeResult := do
  let payment ← createPayment config
    (paymentParams config user plan product subscriptionId invoiceId)
  if truthy payment.externalPaymentId then
    updateInvoice invoiceId fun row =>
      { row with externalCheckoutSessionId := payment.externalPaymentId }
  return { subscriptionId, invoiceId, paymentLink := payment.paymentLink }

/-- The `catch` clause. -/
def compensation (error : Err) : Op SubscribeResult := do
  let _ ← markInvoiceFailed config { invoiceId, paymentProvider := config.paymentProvider }
  throw error

/-- The request is an attempt and its compensation. -/
private theorem requestPayment_eq :
    requestPayment config user plan product subscriptionId invoiceId =
      tryCatch (paymentAttempt config user plan product subscriptionId invoiceId)
        (compensation config invoiceId) := rfl

/-- The provider answers with a session, and the database executes the statement that stores it.
    The mock provider has no sessions. -/
def CheckoutStored (es : List Env) (w : World) : Prop :=
  ∃ payment env rest w',
    (createPayment config (paymentParams config user plan product subscriptionId invoiceId)).feed
        es w = (some (.ok payment), env :: rest, w') ∧
    truthy payment.externalPaymentId ∧ env.dbError = none ∧
    (w'.updateInvoice invoiceId fun row =>
      { row with externalCheckoutSessionId := payment.externalPaymentId }).isOk

/-- The invoice can be paid by the checkout session that it records. -/
def HoldsCheckout (w : World) : Prop :=
  ∃ row, w.invoices.find? invoiceId = some row ∧ row.status = .draft ∧
    truthy row.externalCheckoutSessionId

end Purchase

/-- How the payment leaves the state `w`. -/
inductive PaymentEnd (config : AppConfig) (user : AuthenticatedUser) (plan : Plan)
    (product : ApiProduct) (subscriptionId invoiceId : Id) (es : List Env) (w : World) :
    Option (Except Err SubscribeResult) × List Env × World → Prop
  /-- it has returned, and the checkout is on record -/
  | stored (result : SubscribeResult) (rest : List Env) (w' : World)
      (hstored : CheckoutStored config user plan product subscriptionId invoiceId es w)
      (hholds : HoldsCheckout invoiceId w') :
      PaymentEnd config user plan product subscriptionId invoiceId es w
        (some (.ok result), rest, w')
  /-- nothing was recorded -/
  | unstored (r : Option (Except Err SubscribeResult)) (rest : List Env) (w' : World)
      (hstored : ¬CheckoutStored config user plan product subscriptionId invoiceId es w)
      (hrequests : OnlyRequests w w') :
      PaymentEnd config user plan product subscriptionId invoiceId es w (r, rest, w')

section Payment

variable {config : AppConfig} {user : AuthenticatedUser} {plan : Plan} {product : ApiProduct}
  {subscriptionId invoiceId : Id} {w : World} {row : Invoice}

/-- Where the attempt may end, whatever it is answered. -/
theorem paymentAttempt_end (es : List Env) (hrow : w.invoices.find? invoiceId = some row)
    (hdraft : row.status = .draft) :
    PaymentEnd config user plan product subscriptionId invoiceId es w
      ((paymentAttempt config user plan product subscriptionId invoiceId).feed es w) := by
  unfold paymentAttempt
  rw [feed_bind]
  have hrequests := (onlyRequests_createPayment config
    (paymentParams config user plan product subscriptionId invoiceId)).feed
    (I := OnlyRequests w) (fun _ _ hstep hw => OnlyRequests.trans hw hstep) es (.refl w)
  cases hpayment : (createPayment config
    (paymentParams config user plan product subscriptionId invoiceId)).feed es w with
  | mk res rest =>
    obtain ⟨es₁, w₁⟩ := rest
    rw [hpayment] at hrequests
    -- the session is stored only if the provider has answered with this one
    have hunstored (r : Option (Except Err SubscribeResult)) (es' : List Env)
        (hno : ∀ payment env es₂, res = some (.ok payment) → es₁ = env :: es₂ →
          truthy payment.externalPaymentId → env.dbError = none →
          (w₁.updateInvoice invoiceId fun row =>
            { row with externalCheckoutSessionId := payment.externalPaymentId }).isOk → False) :
        PaymentEnd config user plan product subscriptionId invoiceId es w (r, es', w₁) := by
      refine .unstored r es' w₁ ?_ hrequests
      rintro ⟨payment, env, es₂, w₂, hfeed, htruthy, hdb, hok⟩
      rw [hpayment] at hfeed
      simp only [Prod.mk.injEq] at hfeed
      obtain ⟨hres, hes, rfl⟩ := hfeed
      exact hno payment env es₂ hres hes htruthy hdb hok
    obtain _ | ⟨e | payment⟩ := res
    · exact hunstored _ _ fun _ _ _ h => by cases h
    · exact hunstored _ _ fun _ _ _ h => by cases Option.some.inj h
    · dsimp only at hrequests ⊢
      split
      · rename_i htruthy
        rw [feed_bind]
        cases es₁ with
        | nil => exact hunstored _ _ fun _ _ _ _ h => by cases h
        | cons env es₂ =>
          cases hdb : env.dbError with
          | some m =>
            rw [updateInvoice, feed_mutate_refused _ hdb]
            refine hunstored _ _ fun _ env' _ _ hes _ hdb' => ?_
            obtain ⟨rfl, -⟩ := List.cons.inj hes
            rw [hdb] at hdb'
            cases hdb'
          | none =>
            cases hupdate : w₁.updateInvoice invoiceId
                (fun row =>
                  { row with externalCheckoutSessionId := payment.externalPaymentId }) with
            | error e =>
              rw [updateInvoice, feed_mutate_error hdb (congrArg (Except.map ((), ·)) hupdate)]
              refine hunstored _ _ fun payment' _ _ hres _ _ _ hok => ?_
              obtain rfl : payment = payment' := by simpa using hres
              rw [hupdate] at hok
              cases hok
            | ok w₂ =>
              rw [updateInvoice, feed_mutate_ok hdb (congrArg (Except.map ((), ·)) hupdate)]
              refine .stored _ es₂ w₂ ⟨payment, env, es₂, w₁, hpayment, htruthy, hdb, ?_⟩ ?_
              · rw [hupdate]
                rfl
              · obtain ⟨invoices, hinvoices, rfl⟩ := updateInvoice_eq_ok hupdate
                obtain ⟨users, stripeLog, rfl⟩ := hrequests
                refine ⟨{ row with externalCheckoutSessionId := payment.externalPaymentId }, ?_,
                  hdraft, htruthy⟩
                rw [Table.find?_update?_self hinvoices fun _ => rfl, hrow]
                rfl
      · -- an answer without a session, as the mock provider gives it
        rename_i hfalsy
        refine hunstored _ _ fun payment' _ _ hres _ htruthy => ?_
        obtain rfl : payment = payment' := by simpa using hres
        exact absurd htruthy hfalsy

end Payment

/-! ### The compensating path -/

/-- The process goes on for five statements, and the database executes the three of them that it
    gets. The other two read the clock. -/
def Compensates (es : List Env) : Prop :=
  ∃ e₁ e₂ e₃ e₄ e₅ rest, es = e₁ :: e₂ :: e₃ :: e₄ :: e₅ :: rest ∧
    e₁.dbError = none ∧ e₃.dbError = none ∧ e₅.dbError = none

/-- The rows of a purchase that is not paid. -/
structure Unpaid (subscriptionId invoiceId : Id) (w : World) : Prop where
  invoice : ∃ invoice, w.invoices.find? invoiceId = some invoice ∧
    invoice.subscriptionId = subscriptionId ∧ invoice.kind = .subscription
  subscription : (w.subscriptions.find? subscriptionId).isSome

/-- How the compensating path leaves the state `w`. -/
inductive CompensationEnd {α : Type} (subscriptionId : Id) (es : List Env) (w : World) :
    Option (Except Err α) × List Env × World → Prop
  /-- the subscription is as it was -/
  | incomplete (r : Option (Except Err α)) (rest : List Env) (w' : World) (hstops : ¬Compensates es)
      (hsubscriptions : w'.subscriptions = w.subscriptions) (hplans : w'.plans = w.plans)
      (hsessions : ∀ id row', w'.invoices.find? id = some row' → ∃ row,
        w.invoices.find? id = some row ∧
          row'.externalCheckoutSessionId = row.externalCheckoutSessionId) :
      CompensationEnd subscriptionId es w (r, rest, w')
  | complete (r : Option (Except Err α)) (rest : List Env) (w' : World)
    (hcompensates : Compensates es)
      (row : Subscription) (hstatus : row.status = .pastDue)
      (hsubscriptions : ∀ id, w'.subscriptions.find? id =
        if id = subscriptionId then some row else w.subscriptions.find? id) :
      CompensationEnd subscriptionId es w (r, rest, w')

section Compensation

variable {config : AppConfig} {subscriptionId invoiceId : Id} {w : World}

/-- The parameters carry no id of the provider. -/
structure NoExternalIds (params : MarkInvoiceFailedParams) : Prop where
  session : params.externalCheckoutSessionId = none
  invoice : params.externalInvoiceId = none
  subscription : params.externalSubscriptionId = none

/-- The invoice of the purchase can be marked failed. -/
private theorem exists_updateInvoice_failed {params : MarkInvoiceFailedParams}
    (hparams : NoExternalIds params) {invoice : Invoice}
    (hfind : w.invoices.find? invoice.id = some invoice) (state : Option ManagedRetryState) :
    ∃ invoices, w.invoices.update? invoice.id (failedInvoice params state invoice) = some invoices ∧
      w.updateInvoice invoice.id (failedInvoice params state invoice) = .ok { w with invoices } :=
  updateInvoice_of_kept _ hfind (fun _ => rfl) fun u hu => by
    simp only [Row.uniques, List.mem_cons, List.not_mem_nil, or_false] at hu
    obtain rfl | rfl | rfl := hu <;> simp [failedInvoice, hparams.session, hparams.invoice]

/-- Its subscription can be set PAST_DUE. -/
private theorem exists_updateSubscription_pastDue (config : AppConfig)
    {params : MarkInvoiceFailedParams} (hparams : NoExternalIds params)
    {subscription : Subscription}
    (hfind : w.subscriptions.find? subscription.id = some subscription) (now : Int) :
    ∃ subscriptions, w.subscriptions.update? subscription.id
        (pastDueSubscription config now params subscription) = some subscriptions ∧
      w.updateSubscription subscription.id (pastDueSubscription config now params subscription) =
        .ok { w with subscriptions } :=
  updateSubscription_of_kept _ hfind (fun _ => rfl) fun u hu => by
    obtain rfl : u = Subscription.externalSubscriptionId := by simpa [Row.uniques] using hu
    simp [pastDueSubscription, hparams.subscription]

/-- Where the first part of the compensation may end. -/
private theorem markInvoiceFailed_end (config : AppConfig) (hw : Unpaid subscriptionId invoiceId w)
    (es : List Env) :
    CompensationEnd subscriptionId es w ((markInvoiceFailed config
      { invoiceId, paymentProvider := config.paymentProvider }).feed es w) := by
  obtain ⟨⟨invoice, hinvoice, rfl, hkind⟩, hsome⟩ := hw
  obtain ⟨subscription, hsubscription⟩ := Option.isSome_iff_exists.mp hsome
  obtain rfl : invoice.id = invoiceId := Table.key_of_find? hinvoice
  have hid : subscription.id = invoice.subscriptionId := Table.key_of_find? hsubscription
  have hfound : w.findInvoiceWithSubscription invoice.id = some (invoice, subscription) := by
    simp [World.findInvoiceWithSubscription, hinvoice, hsubscription]
  have hparams : NoExternalIds
      { invoiceId := invoice.id, paymentProvider := config.paymentProvider } := ⟨rfl, rfl, rfl⟩
  have hbefore (r : Option (Except Err Bool)) (rest : List Env) (hstops : ¬Compensates es) :
      CompensationEnd invoice.subscriptionId es w (r, rest, w) :=
    .incomplete r rest w hstops rfl rfl fun _ row hrow => ⟨row, hrow, rfl⟩
  unfold markInvoiceFailed
  rw [feed_bind]
  cases es with
  | nil => exact hbefore _ _ (by simp [Compensates])
  | cons e₁ es₁ =>
    cases hdb₁ : e₁.dbError with
    | some m =>
      rw [feed_read_refused _ hdb₁]
      exact hbefore _ _ (by simp [Compensates, hdb₁])
    | none =>
      rw [feed_read_ok _ hdb₁]
      dsimp only
      rw [hfound]
      dsimp only
      rw [if_neg (by simp [isPaidUnderOtherId, truthy]), feed_bind]
      cases es₁ with
      | nil => exact hbefore _ _ (by simp [Compensates])
      | cons e₂ es₂ =>
        rw [feed_clock]
        dsimp only
        rw [feed_bind]
        cases es₂ with
        | nil => exact hbefore _ _ (by simp [Compensates])
        | cons e₃ es₃ =>
          cases hdb₃ : e₃.dbError with
          | some m =>
            rw [updateInvoice, feed_mutate_refused _ hdb₃]
            exact hbefore _ _ (by simp [Compensates, hdb₃])
          | none =>
            generalize resolveManagedRetryState config e₂.now _ _ _ _ _ _ = state
            obtain ⟨invoices, hinvoices, hupdate⟩ :=
              exists_updateInvoice_failed hparams hinvoice state
            rw [updateInvoice, feed_mutate_ok hdb₃ (congrArg (Except.map ((), ·)) hupdate)]
            dsimp only
            rw [if_neg (by simp [hkind]), feed_bind]
            -- the invoice is void, and its subscription still pending
            have hbetween (r : Option (Except Err Bool)) (rest : List Env)
                (hstops : ¬Compensates (e₁ :: e₂ :: e₃ :: es₃)) :
                CompensationEnd invoice.subscriptionId (e₁ :: e₂ :: e₃ :: es₃) w
                  (r, rest, { w with invoices }) := by
              refine .incomplete r rest _ hstops rfl rfl fun id row' hrow' => ?_
              rw [Table.find?_update? hinvoices fun _ => rfl] at hrow'
              split at hrow'
              · rename_i heq
                rw [hinvoice] at hrow'
                obtain rfl := Option.some.inj hrow'
                exact ⟨invoice, heq ▸ hinvoice, rfl⟩
              · exact ⟨row', hrow', rfl⟩
            cases es₃ with
            | nil => exact hbetween _ _ (by simp [Compensates])
            | cons e₄ es₄ =>
              rw [feed_clock]
              dsimp only
              rw [feed_bind]
              cases es₄ with
              | nil => exact hbetween _ _ (by simp [Compensates])
              | cons e₅ es₅ =>
                cases hdb₅ : e₅.dbError with
                | some m =>
                  rw [updateSubscription, feed_mutate_refused _ hdb₅]
                  exact hbetween _ _ (by simp [Compensates, hdb₅])
                | none =>
                  have hfind : ({ w with invoices } : World).subscriptions.find? subscription.id =
                      some subscription := hid ▸ hsubscription
                  obtain ⟨subscriptions, hsubscriptions, hpastDue⟩ :=
                    exists_updateSubscription_pastDue config hparams hfind e₄.now
                  rw [updateSubscription,
                    feed_mutate_ok hdb₅ (congrArg (Except.map ((), ·)) hpastDue)]
                  refine .complete _ _ _ ⟨e₁, e₂, e₃, e₄, e₅, es₅, rfl, hdb₁, hdb₃, hdb₅⟩
                    (pastDueSubscription config e₄.now
                      { invoiceId := invoice.id, paymentProvider := config.paymentProvider }
                        subscription
                      subscription) rfl fun id => ?_
                  show subscriptions.find? id = _
                  rw [Table.find?_update? hsubscriptions fun _ => rfl, hfind, hid]
                  rfl

/-- Where the compensation may end, whatever it is answered. -/
theorem compensation_end (config : AppConfig) (hw : Unpaid subscriptionId invoiceId w) (e : Err)
    (es : List Env) :
    CompensationEnd subscriptionId es w ((compensation config invoiceId e).feed es w) := by
  unfold compensation
  rw [feed_bind]
  have hend := markInvoiceFailed_end config hw es
  generalize (markInvoiceFailed config _).feed es w = res at hend
  cases hend with
  | incomplete r rest w' hstops hsubscriptions hplans hsessions =>
    obtain _ | ⟨_ | _⟩ := r <;> exact .incomplete _ _ _ hstops hsubscriptions hplans hsessions
  | complete r rest w' hcompensates row hstatus hsubscriptions =>
    obtain _ | ⟨_ | _⟩ := r <;> exact .complete _ _ _ hcompensates row hstatus hsubscriptions

end Compensation

/-! ### The whole call -/

/-- The transaction of `subscribe` has committed, and left the state `w₁` and the answers `rest` to
    the payment. -/
structure CreatesPurchase (config : AppConfig) (user : AuthenticatedUser) (planId : Id)
    (es : List Env) (w : World) (plan : Plan) (product : ApiProduct) (subscriptionId invoiceId : Id)
    (rest : List Env) (w₁ : World) : Prop where
  found : w.findPlanWithProduct planId = some (plan, product)
  active : plan.isActive
  published : product.status = .published
  ready : (w.findPublishedVersion plan.productId).isSome
  committed : ∃ e₁ e₂ e₃ e₄ e₅, es = e₁ :: e₂ :: e₃ :: e₄ :: e₅ :: rest ∧
    e₁.dbError = none ∧ e₂.dbError = none ∧ e₄.dbError = none ∧ e₅.dbError = none ∧
    w.subscribe config e₅ w user.id plan (getInvoicePeriod e₃.now).1 (getInvoicePeriod e₃.now).2 =
      .ok ((subscriptionId, invoiceId), w₁)

/-- The subscription does not make `subscribe` refuse the user. -/
def FreeToSubscribe (userId productId subscriptionId : Id) (w : World) : Prop :=
  ∀ s, w.subscriptions.find? subscriptionId = some s → w.isLiveFor userId productId s = false

/-- The checkout is stored, or the payment throws and the compensating path goes through. -/
def PurchaseEnds (config : AppConfig) (user : AuthenticatedUser) (plan : Plan)
    (product : ApiProduct) (subscriptionId invoiceId : Id) (es : List Env) (w : World) : Prop :=
  CheckoutStored config user plan product subscriptionId invoiceId es w ∨
    ∃ e rest w', (paymentAttempt config user plan product subscriptionId invoiceId).feed es w =
      (some (.error e), rest, w') ∧ Compensates rest

section Subscribe

variable {config : AppConfig} {user : AuthenticatedUser} {planId : Id} {es rest : List Env}
  {w w₁ : World} {plan : Plan} {product : ApiProduct} {subscriptionId invoiceId : Id}

/-- The answers up to the commit are consumed, and the request gets the rest. -/
private theorem CreatesPurchase.feed_subscribe
    (h : CreatesPurchase config user planId es w plan product
    subscriptionId invoiceId rest w₁) :
    (subscribe config user planId).feed es w =
      (requestPayment config user plan product subscriptionId invoiceId).feed rest w₁ := by
  obtain ⟨e₁, e₂, e₃, e₄, e₅, rfl, hdb₁, hdb₂, hdb₄, hdb₅, hsubscribe⟩ := h.committed
  obtain ⟨version, hversion⟩ := Option.isSome_iff_exists.mp h.ready
  rw [subscribe, feed_bind, feed_read_ok _ hdb₁]
  dsimp only
  rw [h.found]
  dsimp only
  rw [if_neg (by simp [h.active]), if_neg (by simp [h.published]), feed_bind, feed_read_ok _ hdb₂]
  dsimp only
  rw [hversion]
  dsimp only
  rw [feed_bind, feed_clock]
  dsimp only
  -- nothing comes between the snapshot of the transaction and its commit
  rw [feed_bind, feed_read_ok _ hdb₄]
  dsimp only
  rw [feed_bind, feed_mutate_ok hdb₅ hsubscribe]

/-- The rows of the purchase before its payment. -/
theorem CreatesPurchase.rows (h : CreatesPurchase config user planId es w plan product
    subscriptionId invoiceId rest w₁) :
    ∃ subscription invoice, w₁.subscriptions.find? subscriptionId = some subscription ∧
      w₁.isLiveFor user.id plan.productId subscription ∧
      w₁.invoices.find? invoiceId = some invoice ∧ invoice.subscriptionId = subscriptionId ∧
      invoice.kind = .subscription ∧ invoice.status = .draft ∧
      invoice.externalCheckoutSessionId = none := by
  obtain ⟨-, -, e₃, -, e₅, -, -, -, -, -, hsubscribe⟩ := h.committed
  -- the plan that was read is a row of the table
  have hplan : w.plans.find? plan.id = some plan := by
    obtain ⟨row, hrow, hproduct⟩ := Option.bind_eq_some_iff.mp h.found
    obtain ⟨_, -, hpair⟩ := Option.bind_eq_some_iff.mp hproduct
    obtain ⟨rfl, -⟩ := Prod.mk.inj (Option.some.inj hpair)
    rwa [← Table.key_of_find? hrow] at hrow
  -- the ids of the new rows are the two that were answered
  obtain ⟨rfl, rfl⟩ : e₅.uuid = subscriptionId ∧ e₅.nextUuid = invoiceId := by
    rw [World.subscribe] at hsubscribe
    split at hsubscribe
    · cases hsubscribe
    · split at hsubscribe
      · cases hsubscribe
      · obtain ⟨w₂, -, hsubscribe⟩ := except_bind_eq_ok.mp hsubscribe
        obtain ⟨w₃, -, hsubscribe⟩ := except_bind_eq_ok.mp hsubscribe
        exact Prod.mk.inj (Prod.mk.inj (Except.ok.inj hsubscribe)).1
  obtain ⟨subscriptions, invoices, -, -, hsubscriptions, hinvoices, rfl⟩ :=
    subscribe_cases hsubscribe
  refine ⟨pendingSubscription config user.id plan e₅,
    firstInvoice config plan (getInvoicePeriod e₃.now).1 (getInvoicePeriod e₃.now).2 e₅,
    ?_, ?_, ?_, rfl, rfl, rfl, rfl⟩
  -- the new subscription, which is live
  · show subscriptions.find? _ = _
    rw [Table.find?_insert? hsubscriptions]
    exact if_pos rfl
  · simp [World.isLiveFor, pendingSubscription, isLive, hplan]
  -- its invoice, a draft without a checkout
  · show invoices.find? _ = _
    rw [Table.find?_insert? hinvoices]
    exact if_pos rfl

/-- A purchase that was created leaves the buyer with a checkout on record or free to subscribe,
    once its call is over or its process has stopped, exactly when it ends in one of these two
    ways. -/
theorem buyer_notLockedOut_iff (h : CreatesPurchase config user planId es w plan product
    subscriptionId invoiceId rest w₁) :
    HoldsCheckout invoiceId ((subscribe config user planId).feed es w).2.2 ∨
      FreeToSubscribe user.id plan.productId subscriptionId
        ((subscribe config user planId).feed es w).2.2 ↔
    PurchaseEnds config user plan product subscriptionId invoiceId rest w₁ := by
  obtain ⟨subscription, invoice, hsubscription, hlive, hinvoice, hof, hkind, hdraft, hsession⟩ :=
    h.rows
  rw [h.feed_subscribe, requestPayment_eq, feed_tryCatch]
  have hend : PaymentEnd config user plan product subscriptionId invoiceId rest w₁ _ :=
    paymentAttempt_end rest hinvoice hdraft
  -- the subscription still waits for a payment, and no checkout is recorded
  have hlocked (w' : World) (hsubscriptions : w'.subscriptions = w₁.subscriptions)
      (hplans : w'.plans = w₁.plans)
      (hsessions : ∀ row', w'.invoices.find? invoiceId = some row' →
        row'.externalCheckoutSessionId = none) :
      ¬(HoldsCheckout invoiceId w' ∨
        FreeToSubscribe user.id plan.productId subscriptionId w') := by
    rintro (⟨row, hrow, -, htruthy⟩ | hfree)
    · rw [hsessions row hrow] at htruthy
      exact absurd htruthy (by simp [truthy])
    · have hnot := hfree subscription (hsubscriptions ▸ hsubscription)
      rw [World.isLiveFor, hplans, ← World.isLiveFor, hlive] at hnot
      cases hnot
  cases hattempt : (paymentAttempt config user plan product subscriptionId invoiceId).feed rest
      w₁ with
  | mk r after =>
    obtain ⟨es', w'⟩ := after
    rw [hattempt] at hend
    cases hend with
    | stored result _ _ hstored hholds =>
      exact ⟨fun _ => .inl hstored, fun _ => .inl hholds⟩
    | unstored _ _ _ hstored hrequests =>
      obtain ⟨users, stripeLog, rfl⟩ := hrequests
      have hsessions (row' : Invoice) (hrow' : w₁.invoices.find? invoiceId = some row') :
          row'.externalCheckoutSessionId = none := by
        obtain rfl := Option.some.inj (hinvoice.symm.trans hrow')
        exact hsession
      obtain _ | ⟨e | result⟩ := r
      · -- the process has stopped
        refine iff_of_false (hlocked _ rfl rfl hsessions) ?_
        rintro (hstored' | ⟨_, _, _, herror, -⟩)
        · exact hstored hstored'
        · rw [hattempt] at herror
          cases herror
      · -- the payment has thrown
        dsimp only
        have hcompensates : PurchaseEnds config user plan product subscriptionId invoiceId rest
            w₁ ↔ Compensates es' := by
          constructor
          · rintro (hstored' | ⟨_, _, _, herror, hcompensates⟩)
            · exact absurd hstored' hstored
            · rw [hattempt] at herror
              simp only [Prod.mk.injEq] at herror
              exact herror.2.1 ▸ hcompensates
          · exact fun hcompensates => .inr ⟨e, es', _, hattempt, hcompensates⟩
        rw [hcompensates]
        have hpath := compensation_end config (w := { w₁ with users, stripeLog })
          ⟨⟨invoice, hinvoice, hof, hkind⟩, Option.isSome_iff_exists.mpr ⟨_, hsubscription⟩⟩ e es'
        generalize (compensation config invoiceId e).feed es' _ = res at hpath
        cases hpath with
        | incomplete r rest' w' hstops hsubscriptions hplans hkept =>
          refine iff_of_false (hlocked _ hsubscriptions hplans fun row' hrow' => ?_) hstops
          obtain ⟨row, hrow, hsame⟩ := hkept invoiceId row' hrow'
          exact hsame.trans (hsessions row hrow)
        | complete r rest' w' hgoes row hstatus hsubscriptions =>
          refine iff_of_true (.inr fun s hs => ?_) hgoes
          dsimp only at hs
          rw [hsubscriptions, if_pos rfl] at hs
          obtain rfl := Option.some.inj hs
          simp [World.isLiveFor, isLive, hstatus]
      · -- a link has been returned, but no session: the mock provider
        refine iff_of_false (hlocked _ rfl rfl hsessions) ?_
        rintro (hstored' | ⟨_, _, _, herror, -⟩)
        · exact hstored hstored'
        · rw [hattempt] at herror
          cases Option.some.inj (Prod.mk.inj herror).1

end Subscribe

/-! ### Stripe is down, and the database too -/

/-- The shop of `storefront` with a buyer in it. -/
def openShop : World :=
  { storefront with users := .singleton ⟨"buyer", "buyer@example.com", none⟩ }

/-- Subscribing reads the plan and the version, reads the clock, takes its snapshot and commits. -/
def subscribeAnswers : List Env := List.replicate 5 (.available 10 "first")

/-- The customer cannot be created at Stripe, and the database does not find the invoice that
    should fail. -/
def refusedCompensation : List Env :=
  [.available 10 "x", .available 10 "x",
    { Env.available 10 "x" with dbError := some "connection lost" }]

/-- The answers open a purchase in the shop. -/
private theorem createsPurchase_openShop (rest : List Env) : ∃ w₁,
    CreatesPurchase sampleConfig sampleBuyer "plan" (subscribeAnswers ++ rest) openShop samplePlan
      sampleProduct "first" "first'" rest w₁ := by
  have hids : (openShop.subscribe sampleConfig (.available 10 "first") openShop sampleBuyer.id
      samplePlan (getInvoicePeriod 10).1 (getInvoicePeriod 10).2).toOption.map (·.1) =
        some ("first", "first'") := by
    decide +kernel
  -- the transaction commits with these ids
  cases hsubscribe : openShop.subscribe sampleConfig (.available 10 "first") openShop
      sampleBuyer.id samplePlan (getInvoicePeriod 10).1 (getInvoicePeriod 10).2 with
  | error e =>
    rw [hsubscribe] at hids
    cases hids
  | ok res =>
    rw [hsubscribe] at hids
    obtain ⟨ids, w₁⟩ := res
    obtain rfl : ids = ("first", "first'") := Option.some.inj hids
    exact ⟨w₁, by decide, by decide, by decide, by decide, .available 10 "first",
      .available 10 "first", .available 10 "first", .available 10 "first", .available 10 "first",
      rfl, rfl, rfl, rfl, rfl, hsubscribe⟩

/-- The buyer has nothing to pay, and the pending subscription stays. -/
theorem not_buyer_notLockedOut :
    ¬∀ (config : AppConfig) (user : AuthenticatedUser) (planId : Id) (es rest : List Env)
      (w w₁ : World) (plan : Plan) (product : ApiProduct) (subscriptionId invoiceId : Id),
      CreatesPurchase config user planId es w plan product subscriptionId invoiceId rest w₁ →
      HoldsCheckout invoiceId ((subscribe config user planId).feed es w).2.2 ∨
        FreeToSubscribe user.id plan.productId subscriptionId
          ((subscribe config user planId).feed es w).2.2 := by
  intro h
  obtain ⟨w₁, hcreates⟩ := createsPurchase_openShop refusedCompensation
  -- the provider refuses, and so does the database at the compensation
  have hsession : (((subscribe sampleConfig sampleBuyer "plan").feed
      (subscribeAnswers ++ refusedCompensation) openShop).2.2.invoices.find? "first'").map
        (·.externalCheckoutSessionId) = some none := by
    decide +kernel
  -- the subscription is live and has no checkout
  have hpending : (((subscribe sampleConfig sampleBuyer "plan").feed
      (subscribeAnswers ++ refusedCompensation) openShop).2.2.subscriptions.find? "first").map
        (((subscribe sampleConfig sampleBuyer "plan").feed
          (subscribeAnswers ++ refusedCompensation) openShop).2.2.isLiveFor "buyer" "product") =
      some true := by
    decide +kernel
  obtain ⟨row, hrow, -, htruthy⟩ | hfree := h _ _ _ _ _ _ _ _ _ _ _ hcreates
  · rw [hrow] at hsession
    have hnone : row.externalCheckoutSessionId = none := Option.some.inj hsession
    rw [hnone] at htruthy
    cases htruthy
  · obtain ⟨s, hs, hlive⟩ := Option.map_eq_some_iff.mp hpending
    cases hlive.symm.trans (hfree s hs)

/-- Where the database fails the invoice, the buyer is free again. -/
theorem buyer_notLockedOut_compensated : ∃ w₁,
    CreatesPurchase sampleConfig sampleBuyer "plan"
      (subscribeAnswers ++ List.replicate 7 (.available 10 "x")) openShop samplePlan sampleProduct
      "first" "first'" (List.replicate 7 (.available 10 "x")) w₁ ∧
    (HoldsCheckout "first'"
        ((subscribe sampleConfig sampleBuyer "plan").feed
          (subscribeAnswers ++ List.replicate 7 (.available 10 "x")) openShop).2.2 ∨
      FreeToSubscribe "buyer" "product" "first"
        ((subscribe sampleConfig sampleBuyer "plan").feed
          (subscribeAnswers ++ List.replicate 7 (.available 10 "x")) openShop).2.2 ↔
      PurchaseEnds sampleConfig sampleBuyer samplePlan sampleProduct "first" "first'"
        (List.replicate 7 (.available 10 "x")) w₁) := by
  obtain ⟨w₁, hcreates⟩ := createsPurchase_openShop (List.replicate 7 (.available 10 "x"))
  exact ⟨w₁, hcreates, buyer_notLockedOut_iff hcreates⟩

end HivePoint
