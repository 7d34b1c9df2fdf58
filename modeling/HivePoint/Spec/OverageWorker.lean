import HivePoint.Spec.Materialization
import HivePoint.Spec.Interference
import HivePoint.Spec.EachStatement

/-!
# The statements of the overage worker

Everything that one statement of `processDueOverageCollection` does, in two strengths.
`CollectStep` holds whatever other programs do in between, and tells the snapshot of a
settlement. `WorkerStep` says more, that only
overage invoices are charged and no subscription changes with them, and relies on invoices
keeping their kind.
-/

namespace HivePoint

open Prog

/-! ### Requests -/

/-- Nothing but users and the log of Stripe requests has changed. -/
def OnlyRequests (w w' : World) : Prop := ∃ users stripeLog, w' = { w with users, stripeLog }

/-- A state differs from itself in no request. -/
theorem OnlyRequests.refl (w : World) : OnlyRequests w w := ⟨w.users, w.stripeLog, rfl⟩

/-- Two parts that only make requests. -/
theorem OnlyRequests.trans {w₁ w₂ w₃ : World} (h : OnlyRequests w₁ w₂) (h' : OnlyRequests w₂ w₃) :
    OnlyRequests w₁ w₃ := by
  obtain ⟨_, _, rfl⟩ := h
  obtain ⟨users, stripeLog, rfl⟩ := h'
  exact ⟨users, stripeLog, rfl⟩

section Requests

/-! A request other than `invoices.create` leaves nothing but its entry in the log. -/

variable {R : World → World → Prop} (husers : ∀ (w : World) users, R w { w with users })
  (hrequest : ∀ (w : World) request done, (∀ params, request ≠ .createInvoice params) →
    R w { w with stripeLog := (request, done) :: w.stripeLog })

include hrequest in
/-- A request to Stripe other than an invoice item writes its log. -/
theorem eachStep_request {α : Type} {request : StripeRequest}
    (hother : ∀ params, request ≠ .createInvoice params) (answer : StripeApi → Answer α) :
    (callStripe request answer).EachStep R :=
  eachStep_stmt fun env w => by
    split <;> exact hrequest w _ _ hother

include husers hrequest in
/-- The customer is looked up, or created and stored. -/
theorem eachStep_ensureCustomer (userId : Id) (userEmail : String) :
    (ensureCustomer userId userEmail).EachStep R := by
  have hrefl : ∀ w : World, R w w := fun w => husers w w.users
  refine eachStep_bind (eachStep_read hrefl _) fun found => ?_
  cases found with
  | none => trivial
  | some user =>
    dsimp only
    split
    · trivial
    -- the customer is created at Stripe first, and then stored
    · refine eachStep_bind (eachStep_request hrequest (by simp) _) fun customerId =>
        eachStep_bind (eachStep_mutate hrefl fun _ w _ w' _ h => ?_) fun _ => eachStep_pure _
      have hu := except_map_eq_ok h
      simp only [World.updateStripeCustomer] at hu
      split at hu
      · exact nomatch hu
      · split at hu
        · obtain rfl := Except.ok.inj hu
          exact husers w _
        · exact nomatch hu

include hrequest in
/-- The customer of a subscription is asked from Stripe. -/
theorem eachStep_resolveSubscriptionCustomer (externalSubscriptionId : String) :
    (resolveSubscriptionCustomer externalSubscriptionId).EachStep R := by
  refine eachStep_bind (eachStep_request hrequest (by simp) _) fun subscription => ?_
  split <;> trivial

include hrequest in
/-- An invoice is finalized and paid at Stripe. -/
theorem eachStep_finalizeAndPay (invoice : StripeInvoice) :
    (finalizeAndPay invoice).EachStep R := by
  have hpay : ∀ invoice, (payOrRetrieve invoice).EachStep R := by
    intro invoice
    rw [payOrRetrieve]
    split
    · exact eachStep_tryCatch (eachStep_request hrequest (by simp) _) fun _ =>
        eachStep_request hrequest (by simp) _
    · trivial
  rw [finalizeAndPay]
  split
  · refine eachStep_bind (eachStep_tryCatch (eachStep_bind
      (eachStep_request hrequest (by simp) _) fun _ => trivial) fun _ => trivial) fun finalized =>
        ?_
    cases finalized with
    | none => exact eachStep_request hrequest (by simp) _
    | some finalized => exact hpay finalized
  · exact hpay invoice

/-- A request writes the log only. -/
theorem onlyRequests_callStripe {α : Type} (request : StripeRequest)
    (answer : StripeApi → Answer α) : (callStripe request answer).EachStep OnlyRequests :=
  eachStep_callStripe (fun w _ => ⟨w.users, _, rfl⟩) request answer

/-- So does the lookup of a customer, apart from the users. -/
private theorem onlyRequests_ensureCustomer (userId : Id) (userEmail : String) :
    (ensureCustomer userId userEmail).EachStep OnlyRequests :=
  eachStep_ensureCustomer (fun w users => ⟨users, w.stripeLog, rfl⟩)
    (fun w _ _ _ => ⟨w.users, _, rfl⟩) userId userEmail

/-- So do the requests that charge an invoice. -/
private theorem onlyRequests_finalizeAndPay (invoice : StripeInvoice) :
    (finalizeAndPay invoice).EachStep OnlyRequests :=
  eachStep_finalizeAndPay (fun w _ _ _ => ⟨w.users, _, rfl⟩) invoice

/-- Charging through Stripe touches the customer's id and Stripe only. -/
theorem onlyRequests_createManagedInvoice (params : CreateManagedInvoiceParams) :
    (createManagedInvoice params).EachStep OnlyRequests := by
  rw [createManagedInvoice]
  split
  on_goal 1 =>
    refine eachStep_bind (eachStep_resolveSubscriptionCustomer (fun w _ _ _ => ⟨w.users, _, rfl⟩) _)
      fun customer => ?_
  on_goal 2 => refine eachStep_bind (onlyRequests_ensureCustomer _ _) fun customer => ?_
  -- the same requests follow, for either customer
  all_goals exact eachStep_bind (onlyRequests_callStripe _ _) fun _ =>
    eachStep_bind (onlyRequests_callStripe _ _) fun invoice =>
      eachStep_bind (onlyRequests_finalizeAndPay invoice) fun _ => trivial

/-- So does the request to cancel at the end of the period. -/
theorem onlyRequests_scheduleCancellation (subscription : Subscription) :
    (scheduleCancellation subscription).EachStep OnlyRequests := by
  rw [scheduleCancellation]
  split
  · refine eachStep_bind ?_ fun _ => eachStep_pure _
    exact eachStep_bind (onlyRequests_callStripe _ _) fun _ => eachStep_pure _
  · trivial

/-- So does the request for a checkout session. -/
private theorem onlyRequests_stripeCreatePayment (params : CreatePaymentParams) :
    (stripeCreatePayment params).EachStep OnlyRequests := by
  refine eachStep_bind (onlyRequests_ensureCustomer _ _) fun customerId => ?_
  refine eachStep_bind (eachStep_tryCatch (onlyRequests_callStripe _ _) fun _ => eachStep_throw _)
    fun session => ?_
  split <;> trivial

/-- So does the creation of a payment, whoever the provider is. -/
theorem onlyRequests_createPayment (config : AppConfig) (params : CreatePaymentParams) :
    (createPayment config params).EachStep OnlyRequests := by
  rw [createPayment]
  split
  · trivial
  · exact onlyRequests_stripeCreatePayment params

end Requests

/-! ### Whatever the others do -/

/-- The columns of an invoice that its settlement is about. -/
structure SameSettlement (row row' : Invoice) : Prop where
  id : row'.id = row.id
  subscriptionId : row'.subscriptionId = row.subscriptionId
  kind : row'.kind = row.kind
  overageSourceInvoiceId : row'.overageSourceInvoiceId = row.overageSourceInvoiceId
  overageProcessedAt : row'.overageProcessedAt = row.overageProcessedAt
  overageRequests : row'.overageRequests = row.overageRequests
  overageUnits : row'.overageUnits = row.overageUnits
  amountCents : row'.amountCents = row.amountCents
  periodStart : row'.periodStart = row.periodStart
  periodEnd : row'.periodEnd = row.periodEnd

/-- The columns of a subscription that say whose it is and to what. -/
structure SameOwner (row row' : Subscription) : Prop where
  id : row'.id = row.id
  userId : row'.userId = row.userId
  planId : row'.planId = row.planId

/-- A settlement whose snapshot meets `met`, the payment columns of an invoice, the status
    columns of a subscription, or nothing but users and the log of Stripe requests. -/
inductive CollectStep (met : World → Prop) (w w' : World) : Prop where
  | settled (env : Env) (hdb : env.dbError = none) (seen : World) (hseen : met seen)
      (sourceInvoiceId : Id) (processedAt : Int) (processed : Bool)
      (h : w.materializeSourceInvoice env seen sourceInvoiceId processedAt = .ok (processed, w'))
  | invoice (id : Id) (data : Invoice → Invoice) (hdata : ∀ row, SameSettlement row (data row))
      (h : w.updateInvoice id data = .ok w')
  | subscription (id : Id) (data : Subscription → Subscription)
      (hdata : ∀ row, (data row).id = row.id ∧ (data row).planId = row.planId)
      (h : w.updateSubscription id data = .ok w')
  | elsewhere (users : Table User) (stripeLog : List (StripeRequest × Bool))
      (h : w' = { w with users, stripeLog })

/-- The worker may do nothing. -/
theorem CollectStep.refl {met : World → Prop} (w : World) : CollectStep met w w :=
  .elsewhere w.users w.stripeLog rfl

/-- A settlement whose snapshot meets one condition meets a weaker one. -/
theorem CollectStep.mono {met met' : World → Prop} {w w' : World} (h : CollectStep met w w')
    (hmet : ∀ seen, met seen → met' seen) : CollectStep met' w w' := by
  cases h with
  | settled env hdb seen hseen sourceInvoiceId processedAt processed h =>
    exact .settled env hdb seen (hmet seen hseen) sourceInvoiceId processedAt processed h
  | invoice id data hdata h => exact .invoice id data hdata h
  | subscription id data hdata h => exact .subscription id data hdata h
  | elsewhere users stripeLog h => exact .elsewhere users stripeLog h

section Collect

variable {R : World → World → Prop} (hrefl : ∀ w, R w w)
  (hinvoice : ∀ id data w w', (∀ row, SameSettlement row (data row)) →
    w.updateInvoice id data = .ok w' → R w w')
  (hsubscription : ∀ id data w w', (∀ row, SameOwner row (data row)) →
    w.updateSubscription id data = .ok w' → R w w')
include hrefl hinvoice hsubscription

/-- The answer of Stripe is recorded on the invoice, and on its subscription. -/
private theorem eachStep_recordCollection (config : AppConfig) (invoiceId : Id)
    (result : RetryInvoicePaymentResult) :
    (recordCollection config invoiceId result).EachStep R := by
  rw [recordCollection]
  split
  · refine eachStep_bind (eachStep_markInvoicePaid hrefl _
      (fun _ _ _ h => hinvoice _ _ _ _ (fun row => ?_) h)
      fun _ _ _ _ h => hsubscription _ _ _ _ (fun row => ?_) h) fun _ => eachStep_pure _
    · exact ⟨rfl, rfl, rfl, rfl, rfl, rfl, rfl, rfl, rfl, rfl⟩
    · exact ⟨rfl, rfl, rfl⟩
  · refine eachStep_bind (eachStep_markInvoiceFailed hrefl _ _
      (fun _ _ _ _ h => hinvoice _ _ _ _ (fun row => ?_) h)
      fun _ _ _ _ h => hsubscription _ _ _ _ (fun row => ?_) h) fun _ => eachStep_pure _
    · exact ⟨rfl, rfl, rfl, rfl, rfl, rfl, rfl, rfl, rfl, rfl⟩
    · exact ⟨rfl, rfl, rfl⟩

omit hinvoice hsubscription in
/-- A settlement takes its snapshot, and commits. -/
theorem eachStep_materializeSourceInvoice {sourceInvoiceId : Id} {processedAt : Int}
    (hsettled : ∀ env seen w processed w', env.dbError = none →
      w.materializeSourceInvoice env seen sourceInvoiceId processedAt = .ok (processed, w') →
        R w w') :
    (materializeSourceInvoice sourceInvoiceId processedAt).EachStep R :=
  eachStep_bind (eachStep_read hrefl _) fun seen =>
    eachStep_mutate hrefl fun env w processed w' hdb h => hsettled env seen w processed w' hdb h

/-- What each statement of a cycle does: settlements, of which each commits after the statement
    that took its snapshot, requests, and the writes of a payment outcome. -/
theorem eachStepAfter_processDueOverageCollection {J : World → Prop}
    {T : World → World → World → Prop} (hR : ∀ m w w', R w w' → T m w w')
    (hsettled : ∀ env seen w sourceInvoiceId processedAt processed w', env.dbError = none →
      w.materializeSourceInvoice env seen sourceInvoiceId processedAt = .ok (processed, w') →
        T seen w w')
    (hrequests : ∀ w w', OnlyRequests w w' → R w w') (toISOString : Int → String)
    (config : AppConfig) (m : World) :
    (processDueOverageCollection toISOString config).EachStepAfter J T m := by
  refine BatchJob.eachStepAfter_cycle (fun m w => hR m w w (hrefl w)) (fun task m => ?_) m
  cases task with
  | materialize sourceInvoiceId processedAt =>
    refine eachStepAfter_bind ?_ fun _ _ => eachStepAfter_pure _
    refine eachStepAfter_stmt_bind (fun env w _ => ?_) fun env w seen _ hseen env' w' _ => ?_
    · split <;> exact hR m w w (hrefl w)
    · -- the snapshot is the state that the read has met
      have hmet : seen = w := by
        split at hseen
        · cases hseen
        · exact (Except.ok.inj hseen).symm
      subst hmet
      refine ⟨?_, trivial⟩
      dsimp only
      split
      · exact hR _ _ _ (hrefl w')
      · rename_i hdb
        split
        · rename_i hmade
          exact hsettled _ _ _ _ _ _ _ hdb hmade
        · exact hR _ _ _ (hrefl w')
  | collect invoiceId =>
    refine EachStep.after (eachStep_bind (eachStep_bind (eachStep_read hrefl _)
      fun found => ?_) fun _ => eachStep_pure _) fun _ w w' (h : R w w') => hR _ w w' h
    cases found with
    | none => trivial
    | some details =>
      dsimp only
      split
      · trivial
      · refine eachStep_bind ((onlyRequests_createManagedInvoice _).mono hrequests) fun result => ?_
        exact eachStep_bind (eachStep_recordCollection hrefl hinvoice hsubscription config _ result)
          fun _ => eachStep_pure _

omit hrefl hinvoice hsubscription in
/-- Every statement of the overage worker is a `CollectStep`, whose snapshot is the state that
    the statement before it has met. -/
theorem collectStep_processDueOverageCollection {J : World → Prop} (toISOString : Int → String)
    (config : AppConfig) (m : World) :
    (processDueOverageCollection toISOString config).EachStepAfter J
      (fun m => CollectStep (· = m)) m :=
  eachStepAfter_processDueOverageCollection (R := CollectStep fun _ => False)
    (T := fun m => CollectStep (· = m)) CollectStep.refl
    (fun _ _ _ _ hdata h => .invoice _ _ hdata h)
    (fun _ _ _ _ hdata h => .subscription _ _ (fun row => ⟨(hdata row).id, (hdata row).planId⟩) h)
    (fun _ _ _ h => h.mono fun _ h => h.elim)
    (fun _ _ _ _ _ _ _ hdb h => .settled _ hdb _ rfl _ _ _ h)
      (fun _ _ ⟨_, _, h⟩ => .elsewhere _ _ h)
    toISOString config m

end Collect

/-- The overage worker leaves the usage tables, the queue, the plans and the locks alone. -/
theorem CollectStep.rows {met : World → Prop} {w w' : World} (h : CollectStep met w w') :
    ∃ users subscriptions invoices stripeLog,
      w' = { w with users, subscriptions, invoices, stripeLog } := by
  cases h with
  | settled env hdb seen hseen sourceInvoiceId processedAt processed h =>
    obtain ⟨_, _, rfl⟩ := materialize_rows h
    exact ⟨_, _, _, _, rfl⟩
  | invoice id data _ h =>
    obtain ⟨t, -, rfl⟩ := updateInvoice_eq_ok h
    exact ⟨_, _, _, _, rfl⟩
  | subscription id data _ h =>
    obtain ⟨t, -, rfl⟩ := updateSubscription_eq_ok h
    exact ⟨_, _, _, _, rfl⟩
  | elsewhere users stripeLog h => exact ⟨_, _, _, _, h⟩

/-! ### While invoices keep their kind -/

/-- No invoice is removed or changes its kind. -/
def KindsKept (w w' : World) : Prop :=
  w.invoices.Evolves w'.invoices fun _ row row' => row'.kind = row.kind

/-- The kinds are read off the invoices. -/
theorem KindsKept.of_eq {w w' : World} (h : w'.invoices = w.invoices) : KindsKept w w' := by
  rw [KindsKept, h]
  exact .refl _

/-- Two steps keep the kinds if each does. -/
theorem KindsKept.trans {w₁ w₂ w₃ : World} (h₁ : KindsKept w₁ w₂) (h₂ : KindsKept w₂ w₃) :
    KindsKept w₁ w₃ :=
  Table.Evolves.trans h₁ h₂ fun _ _ _ _ h h' => h'.trans h

/-- A write that keeps the kind of its row keeps the kinds. -/
private theorem kindsKept_updateInvoice {w w' : World} {id : Id} {data : Invoice → Invoice}
    (h : w.updateInvoice id data = .ok w')
    (hdata : ∀ row, (data row).id = row.id ∧ (data row).kind = row.kind) : KindsKept w w' := by
  obtain ⟨t, ht, rfl⟩ := updateInvoice_eq_ok h
  refine Table.Evolves.mono (Table.evolves_update? ht fun row => (hdata row).1) ?_
  rintro k row _ - ⟨-, rfl⟩
  exact (hdata row).2

/-- A settlement adds invoices and marks one. -/
theorem evolves_materialize {w seen w' : World} {env : Env} {sourceInvoiceId : Id}
    {processedAt : Int} {processed : Bool}
    (h : w.materializeSourceInvoice env seen sourceInvoiceId processedAt = .ok (processed, w')) :
    w.invoices.Evolves w'.invoices fun _ row row' =>
      row' = { row with overageProcessedAt := some processedAt } := by
  rcases materialize_cases h with
    ⟨-, rfl⟩ | ⟨-, source, subscription, plan, usedRequests, w₁, w₂, hdone⟩
  · exact .refl _
  -- the three writes: a new invoice, a renewal, and the stamp
  have hcreated : ∀ {v v' : World} {row : Invoice}, v.createInvoice row = .ok v' →
      v.invoices.Evolves v'.invoices fun _ row row' =>
        row' = { row with overageProcessedAt := some processedAt } := fun h => by
    obtain ⟨t, ht, rfl⟩ := createInvoice_eq_ok h
    exact Table.evolves_insert? ht
  have hsame : ∀ {v v' : World}, v'.invoices = v.invoices →
      v.invoices.Evolves v'.invoices fun _ row row' =>
        row' = { row with overageProcessedAt := some processedAt } := fun h => by
    rw [h]
    exact .refl _
  -- two stamps in a row are one
  have htrans : ∀ (_ : Id) (r₁ r₂ r₃ : Invoice),
      r₂ = { r₁ with overageProcessedAt := some processedAt } →
      r₃ = { r₂ with overageProcessedAt := some processedAt } →
      r₃ = { r₁ with overageProcessedAt := some processedAt } := by
    rintro _ r₁ _ _ rfl rfl
    rfl
  have h₁ : w.invoices.Evolves w₁.invoices fun _ row row' =>
      row' = { row with overageProcessedAt := some processedAt } := by
    rcases settleOverage_cases hdone.settled with ⟨rfl, -⟩ | ⟨-, -, hcreate⟩
    · exact .refl _
    · exact hcreated hcreate
  have h₂ : w₁.invoices.Evolves w₂.invoices fun _ row row' =>
      row' = { row with overageProcessedAt := some processedAt } := by
    cases rollForward_cases hdone.rolled with
    | nothing h => exact hsame (congrArg World.invoices h)
    | canceled _ _ _ h => exact hsame (updateSubscription_invoices h)
    | renewed _ _ _ _ v hcreate h =>
      exact (hcreated hcreate).trans (hsame (updateSubscription_invoices h)) htrans
  obtain ⟨t, ht, rfl⟩ := updateInvoice_eq_ok hdone.marked
  exact (h₁.trans h₂ htrans).trans
    ((Table.evolves_update? ht fun _ => rfl).mono fun _ _ _ _ h => h.2) htrans

/-- A settlement keeps the kinds. -/
private theorem kindsKept_materialize {w seen w' : World} {env : Env} {sourceInvoiceId : Id}
    {processedAt : Int} {processed : Bool}
    (h : w.materializeSourceInvoice env seen sourceInvoiceId processedAt = .ok (processed, w')) :
    KindsKept w w' :=
  (evolves_materialize h).mono fun _ _ _ _ hrow => by rw [hrow]

/-- The invoice is there and charges an overage. -/
def IsOverage (id : Id) (w : World) : Prop :=
  ∃ row, w.invoices.find? id = some row ∧ row.kind = .overage

/-- An overage stays one. -/
theorem IsOverage.kept {id : Id} {w w' : World} (h : IsOverage id w) (hkept : KindsKept w w') :
    IsOverage id w' := by
  obtain ⟨row, hrow, hkind⟩ := h
  obtain ⟨row', hrow', hsame⟩ := hkept id row hrow
  refine ⟨row', hrow', ?_⟩
  rcases hsame with rfl | hsame
  · exact hkind
  · exact hsame.trans hkind

/-- A settlement whose snapshot meets `met`, the payment columns of an overage invoice, or
    requests. -/
inductive WorkerStep (met : World → Prop) (w w' : World) : Prop where
  | settled (env : Env) (hdb : env.dbError = none) (seen : World) (hseen : met seen)
      (sourceInvoiceId : Id) (processedAt : Int) (processed : Bool)
      (h : w.materializeSourceInvoice env seen sourceInvoiceId processedAt = .ok (processed, w'))
  | charged (id : Id) (hkind : IsOverage id w) (data : Invoice → Invoice)
      (hdata : ∀ row, SameSettlement row (data row)) (h : w.updateInvoice id data = .ok w')
  | requested (h : OnlyRequests w w')

variable {met : World → Prop}

/-- So does every step of the worker keep the kinds. -/
theorem WorkerStep.kindsKept {w w' : World} (h : WorkerStep met w w') : KindsKept w w' := by
  cases h with
  | settled env hdb seen hseen sourceInvoiceId processedAt processed h =>
    exact kindsKept_materialize h
  | charged id hkind data hdata h =>
    exact kindsKept_updateInvoice h fun row => ⟨(hdata row).id, (hdata row).kind⟩
  | requested h =>
    obtain ⟨_, _, rfl⟩ := h
    exact .of_eq rfl

section Worker

variable {C : Contract World Env} (hrely : ∀ w w', C.rely w w' → KindsKept w w')
  (hguar : ∀ w w', WorkerStep met w w' → C.guar w w')
include hrely hguar

/-- The other parties keep an overage an overage. -/
private theorem stable_isOverage (id : Id) : Stable C (IsOverage id) :=
  ⟨fun w w' hw h => hw.kept (hrely w w' h), fun w _ => hguar w w (.requested (.refl w))⟩

omit hrely in
/-- Nothing is assumed about the state. -/
private theorem stable_worker : Stable C fun _ => True :=
  ⟨fun _ _ _ _ => trivial, fun w _ => hguar w w (.requested (.refl w))⟩

/-- A paid overage invoice does not renew its subscription. -/
private theorem sat_markInvoicePaid_overage (params : MarkInvoicePaidParams) {w : World}
    (hw : IsOverage params.invoiceId w) :
    (markInvoicePaid params).Sat C (fun _ _ => True) w := by
  have hJ := stable_isOverage hrely hguar params.invoiceId
  refine (sat_bind _ _ _ w).mpr (sat_read hJ hw (fun w₁ hw₁ => ?_) fun _ _ _ => trivial)
  cases hfound : w₁.findInvoiceWithSubscription params.invoiceId with
  | none => trivial
  | some found =>
    obtain ⟨row, hrow, hbind⟩ := Option.bind_eq_some_iff.mp hfound
    obtain ⟨subscription, hsubscription, hpair⟩ := Option.bind_eq_some_iff.mp hbind
    obtain rfl := Option.some.inj hpair
    have hid : row.id = params.invoiceId := Table.key_of_find? hrow
    obtain ⟨row', hrow', hkind⟩ := hw₁
    obtain rfl := Option.some.inj (hrow.symm.trans hrow')
    dsimp only
    split
    · trivial
    · refine (sat_bind _ _ _ w₁).mpr ?_
      refine sat_updateInvoice hJ ⟨row, hrow, hkind⟩
        (fun w₂ v hw₂ h => ⟨?_, ?_⟩) fun _ _ _ => trivial
      · refine hguar _ _ (.charged _ (hid ▸ hw₂) _ (fun _ => ?_) h)
        exact ⟨rfl, rfl, rfl, rfl, rfl, rfl, rfl, rfl, rfl, rfl⟩
      · -- the kind that was read ends the call here
        trivial

/-- A failed overage invoice does not put its subscription past due. -/
private theorem sat_markInvoiceFailed_overage (config : AppConfig)
    (params : MarkInvoiceFailedParams) {w : World} (hw : IsOverage params.invoiceId w) :
    (markInvoiceFailed config params).Sat C (fun _ _ => True) w := by
  have hJ := stable_isOverage hrely hguar params.invoiceId
  refine (sat_bind _ _ _ w).mpr (sat_read hJ hw (fun w₁ hw₁ => ?_) fun _ _ _ => trivial)
  cases hfound : w₁.findInvoiceWithSubscription params.invoiceId with
  | none => trivial
  | some found =>
    obtain ⟨row, hrow, hbind⟩ := Option.bind_eq_some_iff.mp hfound
    obtain ⟨subscription, hsubscription, hpair⟩ := Option.bind_eq_some_iff.mp hbind
    obtain rfl := Option.some.inj hpair
    -- the invoice that is found is the overage
    have hid : row.id = params.invoiceId := Table.key_of_find? hrow
    obtain ⟨row', hrow', hkind⟩ := hw₁
    obtain rfl := Option.some.inj (hrow.symm.trans hrow')
    dsimp only
    split
    · trivial
    · refine (sat_bind _ _ _ w₁).mpr (sat_clock hJ ⟨row, hrow, hkind⟩ fun now w₂ hw₂ => ?_)
      refine (sat_bind _ _ _ w₂).mpr ?_
      refine sat_updateInvoice hJ hw₂ (fun w₃ v hw₃ h => ⟨?_, ?_⟩) fun _ _ _ => trivial
      -- the write is one that the worker may do to an overage
      · refine hguar _ _ (.charged _ (hid ▸ hw₃) _ (fun _ => ?_) h)
        exact ⟨rfl, rfl, rfl, rfl, rfl, rfl, rfl, rfl, rfl, rfl⟩
      · trivial

omit hrely in
/-- The snapshot of a settlement is a state that meets what all programs keep. -/
theorem sat_materializeSourceInvoice (hkept : ∀ w w', met w → C.rely w w' → met w')
    (sourceInvoiceId : Id) (processedAt : Int) {w : World} (hw : met w) :
    (materializeSourceInvoice sourceInvoiceId processedAt).Sat C (fun _ _ => True) w := by
  have hmet : Stable C met := ⟨hkept, fun w _ => hguar w w (.requested (.refl w))⟩
  refine (sat_bind _ _ _ w).mpr (sat_read hmet hw (fun seen hseen => ?_) fun _ _ _ => trivial)
  exact sat_mutate (stable_worker hguar) trivial
    (fun _ _ _ _ _ hdb h => ⟨hguar _ _ (.settled _ hdb _ hseen _ _ _ h), trivial⟩)
    fun _ _ _ => trivial

/-- The collection of one invoice. -/
theorem sat_collectOverageInvoice (toISOString : Int → String) (config : AppConfig)
    (invoiceId : Id) (w : World) :
    (collectOverageInvoice toISOString config invoiceId).Sat C (fun _ _ => True) w := by
  refine (sat_bind _ _ _ w).mpr ?_
  refine sat_read (stable_worker hguar) trivial (fun w₁ _ => ?_) fun _ _ _ => trivial
  cases hfound : w₁.findOverageInvoice invoiceId with
  | none => trivial
  | some details =>
    dsimp only
    split
    · trivial
    · rename_i hcollectable
      -- the guard has seen an overage invoice, and it stays one
      have hw₁ : IsOverage details.invoice.id w₁ := by
        simp only [isCollectable, Bool.not_eq_true, Bool.not_eq_false', Bool.and_eq_true,
          decide_eq_true_eq] at hcollectable
        obtain ⟨⟨invoice, subscription⟩, hpair, hrest⟩ := Option.bind_eq_some_iff.mp hfound
        obtain ⟨user, -, hrest⟩ := Option.bind_eq_some_iff.mp hrest
        obtain ⟨plan, -, hrest⟩ := Option.bind_eq_some_iff.mp hrest
        obtain ⟨product, -, hrest⟩ := Option.bind_eq_some_iff.mp hrest
        obtain rfl := Option.some.inj hrest
        obtain ⟨row, hrow, hbind⟩ := Option.bind_eq_some_iff.mp hpair
        obtain ⟨_, _, heq⟩ := Option.bind_eq_some_iff.mp hbind
        obtain ⟨rfl, rfl⟩ := Prod.mk.inj (Option.some.inj heq)
        exact ⟨_, Table.find?_key (Table.mem_of_find? hrow), hcollectable.1.1⟩
      have hJ := stable_isOverage hrely hguar details.invoice.id
      refine (sat_bind _ _ _ w₁).mpr (((onlyRequests_createManagedInvoice _).sat hJ.rely
        (fun w₂ w₃ _ hw₂ _ h => ⟨hguar _ _ (.requested h), hw₂.kept ?_⟩) hw₁).mono
          fun result w₂ hw₂ => ?_)
      · obtain ⟨_, _, rfl⟩ := h
        exact .of_eq rfl
      · cases result with
        | error e => trivial
        | ok result =>
          refine (sat_bind _ _ _ w₂).mpr ?_
          have hrecord : (recordCollection config details.invoice.id result).Sat C
              (fun _ _ => True) w₂ := by
            rw [recordCollection]
            split
            · refine (sat_bind _ _ _ w₂).mpr ?_
              refine (sat_markInvoicePaid_overage hrely hguar _ hw₂).mono fun r _ _ => ?_
              cases r <;> trivial
            · refine (sat_bind _ _ _ w₂).mpr ?_
              refine (sat_markInvoiceFailed_overage hrely hguar config _ hw₂).mono fun r _ _ => ?_
              cases r <;> trivial
          exact hrecord.mono fun r _ _ => by cases r <;> trivial

/-- Among programs that keep `met` and the kind of every invoice, each statement of a cycle is a
    `WorkerStep`. -/
theorem sat_processDueOverageCollection (hkept : ∀ w w', met w → C.rely w w' → met w')
    (hkeeps : ∀ w w', met w → C.guar w w' → met w') (toISOString : Int → String)
    (config : AppConfig) {w : World} (hw : met w) :
    (processDueOverageCollection toISOString config).Sat C (fun _ w' => met w') w := by
  refine BatchJob.sat_cycle (I := met) hkept
    (fun w _ => hguar w w (.requested (.refl w))) (fun task w hw => ?_) hw
  cases task with
  | materialize sourceInvoiceId processedAt =>
    refine (sat_bind _ _ _ w).mpr ?_
    refine ((sat_materializeSourceInvoice hguar hkept _ _ hw).keeping hkept hkeeps hw).mono
      fun r _ hr => ?_
    cases r <;> exact hr.2
  | collect invoiceId =>
    refine (sat_bind _ _ _ w).mpr ?_
    refine ((sat_collectOverageInvoice hrely hguar toISOString config _ w).keeping hkept hkeeps
      hw).mono fun r _ hr => ?_
    cases r <;> exact hr.2

end Worker

end HivePoint
