import HivePoint.Spec.BillingSteps

/-!
# Live subscriptions

`subscribe` refuses a buyer who has an `ACTIVE` or `PENDING` subscription to the product.
Payment outcomes and snapshots that bring an existing subscription back make no such check, and
they are single statements of READ COMMITTED: the transaction of `subscribe` does not see those
that come in after its snapshot, and is not refused because of them.

## Key results

- `atMostOneLive_step_iff`: when one statement keeps a single live subscription per buyer and
  product.
- `atMostOneLive_run`: it stays single while subscriptions come back alone, and not behind the
  back of a `subscribe`.
- `not_atMostOneLive_run`: a late payment of the first of two attempts.
-/

namespace HivePoint

open Prog Pool

/-- The user's live subscriptions to plans of the product. -/
def World.liveSubscriptions (w : World) (userId productId : Id) : List Subscription :=
  w.subscriptions.rows.filter (w.isLiveFor userId productId)

def AtMostOneLive (w : World) : Prop :=
  ∀ userId productId, ∀ s₁ ∈ w.liveSubscriptions userId productId,
    ∀ s₂ ∈ w.liveSubscriptions userId productId, s₁ = s₂

/-- Where the step brings a subscription back to life, the check of `subscribe` would have
    passed before it. -/
def RevivesAlone (w w' : World) : Prop :=
  ∀ s ∈ w'.subscriptions.rows, isLive s.status →
    (w.subscriptions.find? s.id).any (fun old => !isLive old.status) →
      (w.plans.find? s.planId).all fun plan =>
        (w.findLiveSubscription s.userId plan.productId).isNone

/-- Has a subscription of the user to the product come back to life since the snapshot `seen`? -/
def World.revivedSince (w seen : World) (userId productId : Id) : Bool :=
  (w.liveSubscriptions userId productId).any fun s =>
    (seen.subscriptions.find? s.id).any fun old => !isLive old.status

/-- Where the step adds a subscription, none of the same buyer to the same product has come
    back to life since the snapshot `seen`. -/
def AddsUndisturbed (seen w w' : World) : Prop :=
  ∀ s ∈ w'.subscriptions.rows, w.subscriptions.find? s.id = none →
    (w.plans.find? s.planId).all fun plan => !w.revivedSince seen s.userId plan.productId

/-- What the two kinds of steps that make a subscription live have to meet. -/
structure KeepsSingle (seen w w' : World) : Prop where
  revives : RevivesAlone w w'
  adds : AddsUndisturbed seen w w'

instance (w w' : World) : Decidable (RevivesAlone w w') :=
  inferInstanceAs (Decidable (∀ _ ∈ _, _ → _ → _))

instance (seen w w' : World) : Decidable (AddsUndisturbed seen w w') :=
  inferInstanceAs (Decidable (∀ _ ∈ _, _ → _))

instance (seen w w' : World) : Decidable (KeepsSingle seen w w') :=
  decidable_of_iff (RevivesAlone w w' ∧ AddsUndisturbed seen w w')
    ⟨fun h => ⟨h.1, h.2⟩, fun h => ⟨h.1, h.2⟩⟩

/-! ### What a step does to subscriptions -/

/-- No row but `id` changes, and that one keeps its owner. -/
structure OnlyChanges (id : Id) (t t' : Table Subscription) : Prop where
  kept : ∀ s ∈ t.rows, s.id ≠ id → s ∈ t'.rows
  others : ∀ s ∈ t'.rows, s.id ≠ id → s ∈ t.rows
  owner : ∀ s ∈ t'.rows, ∃ old ∈ t.rows, SameOwner old s
  stays : t.Evolves t' fun _ => SameOwner

section Steps

variable {config : AppConfig} {met : World → Prop} {w w' : World} {id : Id}

/-- A table changes in no row from itself. -/
theorem OnlyChanges.refl (id : Id) (t : Table Subscription) : OnlyChanges id t t :=
  ⟨fun _ h _ => h, fun _ h _ => h, fun s h => ⟨s, h, rfl, rfl, rfl⟩, .refl t⟩

/-- A write to a subscription changes the row with its id. -/
private theorem onlyChanges_updateSubscription {data : Subscription → Subscription}
    (h : w.updateSubscription id data = .ok w') (hdata : ∀ row, SameOwner row (data row)) :
    OnlyChanges id w.subscriptions w'.subscriptions := by
  obtain ⟨t, ht, rfl⟩ := updateSubscription_eq_ok h
  -- the rows with another key, before and after, the owners, and the keys
  refine ⟨fun s hs hne => ?_, fun s hs hne => ?_, fun s hs => ?_, ?_⟩
  · exact (Table.mem_update? ht).mpr ⟨s, hs, (if_neg hne).symm⟩
  · obtain ⟨old, hold, rfl⟩ := (Table.mem_update? ht).mp hs
    split at hne
    · rename_i hkey
      exact absurd ((hdata old).id.trans hkey) hne
    · rename_i hkey
      rwa [if_neg hkey]
  · obtain ⟨old, hold, rfl⟩ := (Table.mem_update? ht).mp hs
    refine ⟨old, hold, ?_⟩
    split
    · exact hdata old
    · exact ⟨rfl, rfl, rfl⟩
  · refine (Table.evolves_update? ht fun row => (hdata row).id).mono ?_
    rintro _ row _ - ⟨-, rfl⟩
    exact hdata row

/-- A settlement renews or cancels one subscription. -/
theorem onlyChanges_materialize {env : Env} {seen : World} {sourceInvoiceId : Id}
    {processedAt : Int} {processed : Bool}
    (h : w.materializeSourceInvoice env seen sourceInvoiceId processedAt = .ok (processed, w')) :
    ∃ id, OnlyChanges id w.subscriptions w'.subscriptions := by
  -- a settlement that does nothing changes no row
  rcases materialize_cases h with
    ⟨-, rfl⟩ | ⟨-, source, subscription, plan, usedRequests, w₁, w₂, hdone⟩
  · exact ⟨sourceInvoiceId, .refl _ _⟩
  refine ⟨subscription.id, ?_⟩
  rw [updateInvoice_subscriptions hdone.marked, ← hdone.settled_subscriptions]
  -- a settlement writes the subscription only to cancel or to renew it
  cases rollForward_cases hdone.rolled with
  | nothing h =>
    rw [h]
    exact .refl _ _
  | canceled _ _ _ h => exact onlyChanges_updateSubscription h fun row => ⟨rfl, rfl, rfl⟩
  | renewed _ _ _ _ v hcreate h =>
    rw [← createInvoice_subscriptions hcreate]
    exact onlyChanges_updateSubscription h fun row => ⟨rfl, rfl, rfl⟩

/-- A step changes one subscription, or adds one whose user had no live subscription to the
    product in the snapshot and has got no other since. -/
private theorem BillingStep.subscriptions_cases (h : BillingStep config met w w') :
    (∃ id, OnlyChanges id w.subscriptions w'.subscriptions) ∨
      ∃ seen s plan, met seen ∧ w.subscriptions.insert? s = some w'.subscriptions ∧
        w.plans.find? s.planId = some plan ∧ isLive s.status = true ∧
        seen.findLiveSubscription s.userId plan.productId = none ∧
        w.boughtSince seen s.userId plan.productId = false := by
  have hsame : w'.subscriptions = w.subscriptions →
      ∃ id, OnlyChanges id w.subscriptions w'.subscriptions := fun h => by
    rw [h]
    exact ⟨"", .refl _ _⟩
  -- only a subscribe adds a row; every other step rewrites at most one
  cases h with
  | subscribed env seen hseen userId plan periodStart periodEnd ids hplan h =>
    obtain ⟨_, _, hnone, hbought, hinsert, -, rfl⟩ := subscribe_cases h
    exact .inr ⟨seen, _, plan, hseen, hinsert, hplan, rfl, hnone, hbought⟩
  | settled env hdb seen hseen sourceInvoiceId processedAt processed h =>
    exact .inl (onlyChanges_materialize h)
  | created params subscriptionId env h => exact .inl (hsame (createInvoice_subscriptions h))
  | invoice id data hdata h => exact .inl (hsame (updateInvoice_subscriptions h))
  | subscription id data hdata h => exact .inl ⟨id, onlyChanges_updateSubscription h hdata⟩
  | requested h =>
    obtain ⟨_, _, rfl⟩ := h
    exact .inl (hsame rfl)

/-- No subscription has been removed or has changed hands since. -/
structure Since (seen w : World) : Prop where
  plans : w.plans = seen.plans
  subscriptions : seen.subscriptions.Evolves w.subscriptions fun _ => SameOwner

/-- Nothing happens between a state and itself. -/
theorem Since.refl (w : World) : Since w w := ⟨rfl, .refl _⟩

/-- What happened up to a state and since. -/
theorem Since.trans {w₁ w₂ w₃ : World} (h₁ : Since w₁ w₂) (h₂ : Since w₂ w₃) : Since w₁ w₃ :=
  ⟨h₂.plans.trans h₁.plans, h₁.subscriptions.trans h₂.subscriptions fun _ _ _ _ h h' =>
    ⟨h'.id.trans h.id, h'.userId.trans h.userId, h'.planId.trans h.planId⟩⟩

/-- A step only adds subscriptions, and never turns to other plans. -/
theorem BillingStep.since (h : BillingStep config met w w') : Since w w' := by
  refine ⟨h.plans, ?_⟩
  rcases h.subscriptions_cases with ⟨id, hchanges⟩ | ⟨_, _, _, -, hinsert, -⟩
  · exact hchanges.stays
  · exact Table.evolves_insert? hinsert

/-! ### One step -/

/-- The live subscriptions of a buyer to a product. -/
private theorem mem_liveSubscriptions {userId productId : Id} {s : Subscription} :
    s ∈ w.liveSubscriptions userId productId ↔
      s ∈ w.subscriptions.rows ∧ s.userId = userId ∧ isLive s.status = true ∧
        ∃ plan, w.plans.find? s.planId = some plan ∧ plan.productId = productId := by
  simp [World.liveSubscriptions, World.isLiveFor, Option.any_eq_true, and_assoc]

/-- The check of `subscribe` passes if there is no live subscription. -/
private theorem findLiveSubscription_eq_none_iff {userId productId : Id} :
    w.findLiveSubscription userId productId = none ↔ w.liveSubscriptions userId productId = [] := by
  rw [World.findLiveSubscription, World.liveSubscriptions, List.find?_eq_none,
    List.filter_eq_nil_iff]

/-- `RevivesAlone` in terms of the live subscriptions. -/
private theorem RevivesAlone.no_other (h : RevivesAlone w w') {s old : Subscription}
    (hs : s ∈ w'.subscriptions.rows) (hlive : isLive s.status = true)
    (hold : w.subscriptions.find? s.id = some old) (hdead : isLive old.status = false) {plan : Plan}
    (hplan : w.plans.find? s.planId = some plan) :
    w.liveSubscriptions s.userId plan.productId = [] := by
  have hcheck := h s hs hlive (by simp [hold, hdead])
  rw [hplan, Option.all_some, Option.isNone_iff_eq_none] at hcheck
  exact findLiveSubscription_eq_none_iff.mp hcheck

/-- A live subscription after a change of `id` was live before, or came back as `id` while its
    user had no other. -/
theorem OnlyChanges.live (h : OnlyChanges id w.subscriptions w'.subscriptions)
    (hplans : w'.plans = w.plans) (hok : RevivesAlone w w') {userId productId : Id}
    {s : Subscription} (hs : s ∈ w'.liveSubscriptions userId productId) :
    (∃ old ∈ w.liveSubscriptions userId productId, old.id = s.id) ∨
      (s.id = id ∧ w.liveSubscriptions userId productId = []) := by
  obtain ⟨hmem, huser, hlive, plan, hplan, hproduct⟩ := mem_liveSubscriptions.mp hs
  obtain ⟨old, hold, howner⟩ := h.owner s hmem
  rw [hplans] at hplan
  by_cases hdead : isLive old.status = true
  · refine .inl ⟨old, mem_liveSubscriptions.mpr ⟨hold, howner.userId ▸ huser, hdead, plan, ?_,
      hproduct⟩, howner.id.symm⟩
    rwa [← howner.planId]
  · have hdead : isLive old.status = false := by simpa using hdead
    have hfound : w.subscriptions.find? s.id = some old := howner.id ▸ Table.find?_key hold
    refine .inr ⟨?_, huser ▸ hproduct ▸ hok.no_other hmem hlive hfound hdead hplan⟩
    by_contra hne
    -- only `id` can come back
    obtain rfl := Table.eq_of_key_eq (h.others s hmem hne) hold howner.id
    exact Bool.false_ne_true (hdead.symm.trans hlive)

/-- A live subscription of a buyer who had none in the snapshot, and has got no new one since, has
    come back to life. -/
private theorem Since.live_of_revivedSince {seen : World} (h : Since seen w) {userId productId : Id}
    (hnone : seen.findLiveSubscription userId productId = none)
    (hbought : w.boughtSince seen userId productId = false)
    (hrevived : w.revivedSince seen userId productId = false) :
    w.liveSubscriptions userId productId = [] := by
  rw [List.eq_nil_iff_forall_not_mem]
  intro s hs
  obtain ⟨hmem, huser, hlive, plan, hplan, hproduct⟩ := mem_liveSubscriptions.mp hs
  -- it is in the snapshot, since it is not a new one
  have hold : (seen.subscriptions.find? s.id).isSome = true := by
    by_contra hold
    rw [Bool.not_eq_true, Option.isSome_eq_false_iff] at hold
    rw [World.boughtSince, List.any_eq_false] at hbought
    exact hbought s hmem (by simp [huser, hplan, hproduct, hold])
  obtain ⟨old, hold⟩ := Option.isSome_iff_exists.mp hold
  have howner : SameOwner old s := by
    obtain ⟨s', hs', hsame⟩ := h.subscriptions s.id old hold
    obtain rfl := Option.some.inj (hs'.symm.trans (Table.find?_key hmem))
    rcases hsame with rfl | hsame
    · exact ⟨rfl, rfl, rfl⟩
    · exact hsame
  -- and it was not live there
  have hdead : isLive old.status = false := by
    by_contra hlive
    rw [Bool.not_eq_false] at hlive
    rw [findLiveSubscription_eq_none_iff, List.eq_nil_iff_forall_not_mem] at hnone
    refine hnone old (mem_liveSubscriptions.mpr ⟨Table.mem_of_find? hold, ?_, hlive, plan, ?_,
      hproduct⟩)
    · exact howner.userId.symm.trans huser
    · rw [← h.plans, ← howner.planId]
      exact hplan
  rw [World.revivedSince, List.any_eq_false] at hrevived
  exact hrevived s hs (by simp [hold, hdead])

/-- A change of one subscription keeps at most one live one exactly when what it brings back is
    alone. -/
private theorem OnlyChanges.atMostOneLive_iff
    (hchanges : OnlyChanges id w.subscriptions w'.subscriptions) (hplans : w'.plans = w.plans)
    (hw : AtMostOneLive w) : AtMostOneLive w' ↔ RevivesAlone w w' := by
  constructor
  · intro hw' s hs hlive hrevived
    obtain ⟨old, hold, hdead⟩ := (Option.any_eq_true ..).mp hrevived
    rw [Option.all_eq_true]
    intro plan hplan
    rw [Option.isNone_iff_eq_none, findLiveSubscription_eq_none_iff,
      List.eq_nil_iff_forall_not_mem]
    intro other hother
    obtain ⟨hmem, huser, hotherLive, otherPlan, hotherPlan, hproduct⟩ :=
      mem_liveSubscriptions.mp hother
    -- the other one is a different row, and the step leaves it alone
    have hne : other.id ≠ s.id := by
      intro heq
      have hkey : other.id = old.id := heq.trans (Table.key_of_find? hold).symm
      obtain rfl := Table.eq_of_key_eq hmem (Table.mem_of_find? hold) hkey
      rw [hotherLive] at hdead
      cases hdead
    have hid : s.id = id := by
      by_contra hsid
      obtain rfl := Option.some.inj (hold.symm.trans (Table.find?_key (hchanges.others s hs hsid)))
      rw [hlive] at hdead
      cases hdead
    have hother' : other ∈ w'.liveSubscriptions s.userId plan.productId :=
      mem_liveSubscriptions.mpr ⟨hchanges.kept other hmem (hid ▸ hne), huser, hotherLive,
        otherPlan, hplans ▸ hotherPlan, hproduct⟩
    have hs' : s ∈ w'.liveSubscriptions s.userId plan.productId :=
      mem_liveSubscriptions.mpr ⟨hs, rfl, hlive, plan, hplans ▸ hplan, rfl⟩
    exact hne (congrArg Subscription.id (hw' _ _ other hother' s hs'))
  · intro hok userId productId s₁ hs₁ s₂ hs₂
    refine Table.eq_of_key_eq (mem_liveSubscriptions.mp hs₁).1 (mem_liveSubscriptions.mp hs₂).1 ?_
    show s₁.id = s₂.id
    rcases hchanges.live hplans hok hs₁ with ⟨o₁, ho₁, hid₁⟩ | ⟨hid₁, hempty⟩
    · rcases hchanges.live hplans hok hs₂ with ⟨o₂, ho₂, hid₂⟩ | ⟨-, hempty⟩
      · rw [← hid₁, ← hid₂, hw _ _ o₁ ho₁ o₂ ho₂]
      · rw [hempty] at ho₁
        cases ho₁
    · rcases hchanges.live hplans hok hs₂ with ⟨o₂, ho₂, -⟩ | ⟨hid₂, -⟩
      · rw [hempty] at ho₂
        cases ho₂
      · rw [hid₁, hid₂]

/-- A new live subscription leaves at most one exactly when there is none before. -/
private theorem atMostOneLive_insert_iff {new : Subscription} {plan : Plan}
    (hinsert : w.subscriptions.insert? new = some w'.subscriptions) (hplans : w'.plans = w.plans)
    (hplan : w.plans.find? new.planId = some plan) (hlive : isLive new.status = true)
    (hw : AtMostOneLive w) :
    AtMostOneLive w' ↔ w.liveSubscriptions new.userId plan.productId = [] := by
  have hrows : ∀ {s}, s ∈ w'.subscriptions.rows ↔ s ∈ w.subscriptions.rows ∨ s = new :=
    Table.mem_insert? hinsert
  constructor
  · intro hw'
    rw [List.eq_nil_iff_forall_not_mem]
    intro s hs
    obtain ⟨hmem, huser, hslive, splan, hsplan, hproduct⟩ := mem_liveSubscriptions.mp hs
    have hs' : s ∈ w'.liveSubscriptions new.userId plan.productId :=
      mem_liveSubscriptions.mpr ⟨hrows.mpr (.inl hmem), huser, hslive, splan, hplans ▸ hsplan,
        hproduct⟩
    have hnew : new ∈ w'.liveSubscriptions new.userId plan.productId :=
      mem_liveSubscriptions.mpr ⟨hrows.mpr (.inr rfl), rfl, hlive, plan, hplans ▸ hplan, rfl⟩
    obtain rfl := hw' _ _ s hs' new hnew
    -- the id of the new one is fresh
    cases (Table.find?_of_insert? hinsert).symm.trans (Table.find?_key hmem)
  · intro hempty userId productId s₁ hs₁ s₂ hs₂
    have hold : ∀ s ∈ w'.liveSubscriptions userId productId,
        s ∈ w.liveSubscriptions userId productId ∨
          (s = new ∧ w.liveSubscriptions userId productId = []) := by
      intro s hs
      obtain ⟨hmem, huser, hlive, plan', hplan', hproduct⟩ := mem_liveSubscriptions.mp hs
      rw [hplans] at hplan'
      rcases hrows.mp hmem with hmem | rfl
      · exact .inl (mem_liveSubscriptions.mpr ⟨hmem, huser, hlive, plan', hplan', hproduct⟩)
      · obtain rfl := Option.some.inj (hplan.symm.trans hplan')
        rw [huser, hproduct] at hempty
        exact .inr ⟨rfl, hempty⟩
    rcases hold s₁ hs₁ with h₁ | ⟨rfl, hnone⟩
    · rcases hold s₂ hs₂ with h₂ | ⟨-, hnone⟩
      · exact hw _ _ s₁ h₁ s₂ h₂
      · rw [hnone] at h₁
        cases h₁
    · rcases hold s₂ hs₂ with h₂ | ⟨rfl, -⟩
      · rw [hnone] at h₂
        cases h₂
      · rfl

/-- A step keeps at most one live subscription exactly when what it brings back is alone, and
    nothing has come back since the snapshot of what it adds. -/
theorem atMostOneLive_step_iff {seen : World} (hsince : Since seen w) (hw : AtMostOneLive w)
    (h : BillingStep config (· = seen) w w') : AtMostOneLive w' ↔ KeepsSingle seen w w' := by
  have hplans := h.plans
  rcases h.subscriptions_cases with
    ⟨id, hchanges⟩ | ⟨_, new, plan, rfl, hinsert, hplan, hlive, hnone, hbought⟩
  · -- such a step adds nothing
    have hadds : AddsUndisturbed seen w w' := by
      intro s hs hfresh
      obtain ⟨old, hold, howner⟩ := hchanges.owner s hs
      rw [howner.id] at hfresh
      cases hfresh.symm.trans (Table.find?_key hold)
    rw [hchanges.atMostOneLive_iff hplans hw]
    exact ⟨fun h => ⟨h, hadds⟩, fun h => h.revives⟩
  · have hrows : ∀ {s}, s ∈ w'.subscriptions.rows → s ∈ w.subscriptions.rows ∨ s = new :=
      fun hs => (Table.mem_insert? hinsert).mp hs
    -- `subscribe` brings nothing back
    have hrevives : RevivesAlone w w' := by
      intro s hs hlive hrevived
      obtain ⟨old, hold, hdead⟩ := (Option.any_eq_true ..).mp hrevived
      rcases hrows hs with hs | rfl
      · obtain rfl := Option.some.inj (hold.symm.trans (Table.find?_key hs))
        rw [hlive] at hdead
        cases hdead
      · cases (Table.find?_of_insert? hinsert).symm.trans hold
    rw [atMostOneLive_insert_iff hinsert hplans hplan hlive hw]
    constructor
    · intro hempty
      refine ⟨hrevives, fun s hs hfresh => ?_⟩
      rcases hrows hs with hs | rfl
      · cases hfresh.symm.trans (Table.find?_key hs)
      · simp [hplan, World.revivedSince, hempty]
    · intro h
      have hadd := h.adds new ((Table.mem_insert? hinsert).mpr (.inr rfl))
        (Table.find?_of_insert? hinsert)
      rw [hplan, Option.all_some, Bool.not_eq_true'] at hadd
      exact hsince.live_of_revivedSince hnone hbought hadd

end Steps

/-! ### Every run -/

section Runs

variable {toISOString : Int → String} {config : AppConfig} {calls : Nat → BillingProcess}
  {w₀ : World} {P : BillingProcesses} {met : Nat → World}

/-- Between the state that a call has met and the present one, rows were only added. -/
private theorem since_of_recall {ok : BillingProcesses → (Nat → World) → Choice Nat Env Err → Prop}
    (hrun : Recall .free ok (startBilling toISOString config calls w₀) P met) (n : Nat) :
    Since (met n) P.state :=
  hrun.since Since.refl Since.trans
    (fun hreach hnext => (billingStep_of_next hreach hnext).since) n

/-- Whatever subscribes, pays, fails, retries or reconciles next to each other, a buyer has at
    most one live subscription to a product, as long as no step brings one back while another
    is live, and none comes back between the snapshot of a `subscribe` and its commit. -/
theorem atMostOneLive_run (hw₀ : AtMostOneLive w₀)
    (hrun : Recall .free (fun P met c => ∀ P', P.next .free c = some P' →
        KeepsSingle (met c.thread) P.state P'.state)
      (startBilling toISOString config calls w₀) P met) :
    AtMostOneLive P.state := by
  induction hrun with
  | init => exact hw₀
  | step hrun hok hnext ih =>
    exact (atMostOneLive_step_iff (since_of_recall hrun _) ih
      (billingStep_of_recall hrun hnext)).mpr (hok _ hnext)

end Runs

/-! ### A first attempt that is paid late -/

def mockConfig : AppConfig := { sampleConfig with paymentProvider := .mock }

def sampleBuyer : AuthenticatedUser := ⟨"buyer", "buyer@example.com", .buyer⟩

/-- A product on sale, and nobody subscribed to it. -/
def storefront : World :=
  { World.empty with
    products := .singleton sampleProduct
    apiVersions := .singleton ⟨"version", "product", "1.0.0", .published, [], none, none, 0⟩
    plans := .singleton samplePlan }

/-- Calls 0 and 1 subscribe; calls 2 and 3 are the failure and the success of the payment that
    call 0 has asked for. -/
def twoAttempts : Nat → BillingProcess
  | 0 | 1 => .subscribe sampleBuyer "plan"
  | 2 => .mockFail "first'"
  | _ => .mockSucceed "first'"

def storefrontCalls : BillingProcesses := startBilling toString mockConfig twoAttempts storefront

/-- Subscribe, and fail to pay. -/
def failedAttempt : List (Choice Nat Env Err) :=
  List.replicate 5 (.run 0 (.available 10 "first")) ++ List.replicate 5 (.run 2 (.available 20 "x"))

/-- The second attempt, and then the payment of the first. -/
def paidLate : List (Choice Nat Env Err) :=
  failedAttempt ++ List.replicate 5 (.run 1 (.available 30 "second")) ++
    List.replicate 3 (.run 3 (.available 40 "x"))

/-- The payment of the first attempt, and then the second. -/
def paidBeforeRetry : List (Choice Nat Env Err) :=
  failedAttempt ++ List.replicate 3 (.run 3 (.available 30 "x")) ++
    List.replicate 5 (.run 1 (.available 40 "second"))

/-- The storefront has no subscriptions. -/
private theorem atMostOneLive_storefront : AtMostOneLive storefront :=
  fun _ _ _ hs => nomatch (mem_liveSubscriptions.mp hs).1

/-- The payment brings the first subscription back next to the second. -/
theorem not_atMostOneLive_run :
    ¬∀ P, Reach .free (fun _ _ => True) storefrontCalls P → AtMostOneLive P.state := by
  intro h
  have hfacts : (runSchedule .free paidLate storefrontCalls).map (fun P =>
      (P.state.liveSubscriptions "buyer" "product").map fun s => (s.id, s.status)) =
      some [("first", .active), ("second", .pending)] := by
    decide +kernel
  obtain ⟨P, hP, hlive⟩ := Option.map_eq_some_iff.mp hfacts
  have hone := h P (reach_runSchedule _ .init hP) "buyer" "product"
  obtain ⟨s₁, _, hlist, hs₁, hrest⟩ := List.map_eq_cons_iff.mp hlive
  obtain ⟨s₂, _, rfl, hs₂, -⟩ := List.map_eq_cons_iff.mp hrest
  have heq := hone s₁ (hlist ▸ by simp) s₂ (hlist ▸ by simp)
  rw [heq, hs₂] at hs₁
  exact nomatch hs₁

/-- The second attempt takes its snapshot, the first is paid, and the second commits. -/
def paidMeanwhile : List (Choice Nat Env Err) :=
  failedAttempt ++ List.replicate 4 (.run 1 (.available 30 "second")) ++
    List.replicate 3 (.run 3 (.available 40 "x")) ++ [.run 1 (.available 50 "second")]

/-- Nothing refuses the transaction of the second attempt: it has looked too early. -/
example : (runSchedule .free paidMeanwhile storefrontCalls).map (fun P =>
    (P.state.liveSubscriptions "buyer" "product").map fun s => (s.id, s.status)) =
    some [("first", .active), ("second", .pending)] := by
  decide +kernel

/-- Paid before the second attempt, the first subscription is the only one, and the second
    attempt is refused. -/
theorem atMostOneLive_run_refused :
    ∃ H, recallWhile .free KeepsSingle paidBeforeRetry (storefrontCalls, fun _ => storefront) =
        some H ∧
      (H.1.state.subscriptions.rows.map fun s => (s.id, s.status)) = [("first", .active)] ∧
      AtMostOneLive H.1.state := by
  have hfacts : (recallWhile .free KeepsSingle paidBeforeRetry
      (storefrontCalls, fun _ => storefront)).map (fun H =>
        H.1.state.subscriptions.rows.map fun s => (s.id, s.status)) =
      some [("first", .active)] := by
    decide +kernel
  obtain ⟨H, hH, hrows⟩ := Option.map_eq_some_iff.mp hfacts
  have hrun := recall_recallWhile storefrontCalls _ .init hH
  exact ⟨H, hH, hrows, atMostOneLive_run atMostOneLive_storefront hrun⟩

end HivePoint
