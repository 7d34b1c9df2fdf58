import HivePoint.Native.SubscriptionsService
import HivePoint.Spec.Statements

/-!
# What each statement of a service function does

`EachStep R` for the statements of `Native.World` and for the service functions that several
processes call. Doing nothing is in `R`, so what remains to be shown is that the writes are.
-/

namespace HivePoint

open Prog

variable {R : World → World → Prop} {α : Type}

/-! ### Single statements -/

section Statements

variable (hrefl : ∀ w, R w w)
include hrefl

/-- A read takes no step. -/
theorem eachStep_read (f : World → α) : (read f).EachStep R :=
  eachStep_stmt fun env w => by
    split <;> exact hrefl w

/-- The clock takes no step. -/
theorem eachStep_clock : clock.EachStep R := eachStep_stmt fun _ w => hrefl w

/-- A write is refused, or made by an available database. -/
theorem eachStep_mutate {f : Env → World → Except Err (α × World)}
    (h : ∀ env w a w', env.dbError = none → f env w = .ok (a, w') → R w w') :
    (mutate f).EachStep R :=
  eachStep_stmt fun env w => by
    split
    · exact hrefl w
    · rename_i hdb
      split
      · rename_i hf
        exact h env w _ _ hdb hf
      · exact hrefl w

/-- An update of an invoice is its one step. -/
theorem eachStep_updateInvoice {id : Id} {data : Invoice → Invoice}
    (h : ∀ w w', w.updateInvoice id data = .ok w' → R w w') : (updateInvoice id data).EachStep R :=
  eachStep_mutate hrefl fun _ w _ w' _ hf => h w w' (except_map_eq_ok hf)

/-- An update of a subscription is its one step. -/
theorem eachStep_updateSubscription {id : Id} {data : Subscription → Subscription}
    (h : ∀ w w', w.updateSubscription id data = .ok w' → R w w') :
    (updateSubscription id data).EachStep R :=
  eachStep_mutate hrefl fun _ w _ w' _ hf => h w w' (except_map_eq_ok hf)

omit hrefl in
/-- A request leaves nothing but an entry in the log. -/
theorem eachStep_callStripe (hlog : ∀ (w : World) entry,
    R w { w with stripeLog := entry :: w.stripeLog })
    (request : StripeRequest) (answer : StripeApi → Answer α) :
    (callStripe request answer).EachStep R :=
  eachStep_stmt fun env w => by
    split <;> exact hlog w _

end Statements

/-! ### Payment outcomes -/

section Outcomes

variable (hrefl : ∀ w, R w w)
include hrefl

/-- Marking an invoice paid updates it and its subscription. -/
theorem eachStep_markInvoicePaid (params : MarkInvoicePaidParams)
    (hinvoice : ∀ invoice w w',
      w.updateInvoice invoice.id (paidInvoice params invoice) = .ok w' → R w w')
    (hsubscription : ∀ invoice subscription w w',
      w.updateSubscription subscription.id (activatedSubscription params invoice subscription) =
        .ok w' → R w w') :
    (markInvoicePaid params).EachStep R := by
  refine eachStep_bind (eachStep_read hrefl _) fun found => ?_
  cases found with
  | none => trivial
  | some found =>
    dsimp only
    split
    · trivial
    · refine eachStep_bind (eachStep_updateInvoice hrefl (hinvoice _)) fun _ => ?_
      split
      · trivial
      · exact eachStep_bind (eachStep_updateSubscription hrefl (hsubscription _ _))
          fun _ => eachStep_pure _

/-- Marking an invoice failed updates it and its subscription. -/
theorem eachStep_markInvoiceFailed (config : AppConfig) (params : MarkInvoiceFailedParams)
    (hinvoice : ∀ state invoice w w',
      w.updateInvoice invoice.id (failedInvoice params state invoice) = .ok w' → R w w')
    (hsubscription : ∀ now subscription w w',
      w.updateSubscription subscription.id (pastDueSubscription config now params subscription) =
        .ok w' → R w w') :
    (markInvoiceFailed config params).EachStep R := by
  refine eachStep_bind (eachStep_read hrefl _) fun found => ?_
  cases found with
  | none => trivial
  | some found =>
    dsimp only
    split
    · trivial
    -- the invoice is updated first; the subscription only for a period of its own
    · refine eachStep_bind (eachStep_clock hrefl) fun _ => ?_
      refine eachStep_bind (eachStep_updateInvoice hrefl (hinvoice _ _)) fun _ => ?_
      split
      · trivial
      · refine eachStep_bind (eachStep_clock hrefl) fun _ => ?_
        exact eachStep_bind (eachStep_updateSubscription hrefl (hsubscription _ _))
          fun _ => eachStep_pure _

/-! ### Synchronisation with Stripe -/

/-- The row of a subscription that Stripe has deleted. -/
def canceledRow (row : Subscription) : Subscription :=
  { row with status := .canceled, gracePeriodEndsAt := none, cancelAtPeriodEnd := false }

/-- A cancellation updates the subscription. -/
theorem eachStep_markSubscriptionCanceled (externalSubscriptionId : String)
    (hsubscription : ∀ id w w', w.updateSubscription id canceledRow = .ok w' → R w w') :
    (markSubscriptionCanceledByExternalId externalSubscriptionId).EachStep R := by
  refine eachStep_bind (eachStep_read hrefl _) fun found => ?_
  cases found with
  | none => trivial
  | some subscription => exact eachStep_updateSubscription hrefl (hsubscription _)

/-- Syncing a subscription updates it. -/
theorem eachStep_syncSubscriptionFromExternal (config : AppConfig) (params : SyncSubscriptionParams)
    (hsubscription : ∀ now subscription w w',
      w.updateSubscription subscription.id (syncedSubscription config now params subscription) =
        .ok w' → R w w') :
    (syncSubscriptionFromExternal config params).EachStep R := by
  refine eachStep_bind (eachStep_read hrefl _) fun found => ?_
  cases found with
  | none => trivial
  | some subscription =>
    exact eachStep_bind (eachStep_clock hrefl) fun _ =>
      eachStep_updateSubscription hrefl (hsubscription _ _)

/-- Resolving an external invoice may create it. -/
theorem eachStep_resolveInvoiceForExternalSync (params : SyncInvoiceParams)
    (hcreate : ∀ subscriptionId env w w',
      w.createInvoice (externalInvoice params subscriptionId env) = .ok w' → R w w') :
    (resolveInvoiceForExternalSync params).EachStep R := by
  -- an invoice that is not known is created for its subscription
  have hlast : (createInvoiceForExternalSync params).EachStep R := by
    rw [createInvoiceForExternalSync]
    split
    · trivial
    · refine eachStep_bind (eachStep_read hrefl _) fun found => ?_
      cases found with
      | none => trivial
      | some subscription =>
        exact eachStep_mutate hrefl fun env w _ w' _ h => hcreate _ env w w' (except_map_eq_ok h)
  refine eachStep_bind (eachStep_read hrefl _) fun found => ?_
  cases found with
  | some invoice => trivial
  | none =>
    dsimp only
    split
    · refine eachStep_bind (eachStep_read hrefl _) fun found => ?_
      cases found with
      | none => exact hlast
      | some invoice =>
        dsimp only
        split
        · trivial
        · exact hlast
    · exact hlast

end Outcomes

end HivePoint
