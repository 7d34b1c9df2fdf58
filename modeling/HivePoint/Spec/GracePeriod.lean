import HivePoint.Spec.BillingCalls

/-!
# How long the grace period can grow

Every failure report computes the end of the grace period anew, from its own clock. While
the reports come no later than the end of the paid period, or the first of them, the end
they compute is the same; each later one moves it.

## Key results

- `resolveGracePeriodEndsAt_le`: one computation
- `gracePeriod_bounded`: a run of failure reports that come in time
- `not_gracePeriod_bounded`: a report after the end of the period prolongs the grace period
-/

namespace HivePoint

open Prog

variable {config : AppConfig} {E : Env → Prop} {id : Id} {w w' : World} {c : BillingCall}
  {r : Except Err Unit}

/-! ### One computation -/

/-- The later of `t₀` and the end of the paid period. -/
def graceStart (t₀ : Int) (currentPeriodEnd : Option Int) : Int := max t₀ (currentPeriodEnd.getD t₀)

/-- The instant that a report in time counts from. -/
private theorem graceBase_le (now t₀ : Int) (currentPeriodEnd : Option Int) :
    now ≤ graceStart t₀ currentPeriodEnd →
    (match currentPeriodEnd with
      | some periodEnd => if periodEnd > now then periodEnd else now
      | none => now) ≤ graceStart t₀ currentPeriodEnd := by
  intro hnow
  cases currentPeriodEnd with
  | none => exact hnow
  | some periodEnd =>
    dsimp only
    split
    · exact Int.le_max_right _ _
    · exact hnow

/-- The stored end wins over the computed one if it is later. -/
private theorem mergedGrace_le (computed limit : Int) (existing merged : Option Int) :
    (merged = match existing with
      | some stored => if stored > computed then some stored else some computed
      | none => some computed) → computed ≤ limit →
    (∀ stored, existing = some stored → stored ≤ limit) → ∀ g, merged = some g → g ≤ limit := by
  intro hmerged hcomputed hexisting g hg
  rw [hg] at hmerged
  cases existing with
  | none => exact Option.some.inj hmerged ▸ hcomputed
  | some stored =>
    dsimp only at hmerged
    split at hmerged
    · exact hexisting g hmerged.symm
    · exact Option.some.inj hmerged ▸ hcomputed

/-- The end of the grace period that a report computes in time is within the configured days
    of `graceStart`, if the stored one is. -/
theorem resolveGracePeriodEndsAt_le {now t₀ : Int} {status : SubscriptionStatus}
    {currentPeriodStart currentPeriodEnd existing : Option Int}
    (hnow : now ≤ graceStart t₀ currentPeriodEnd)
    (hexisting : ∀ g, existing = some g →
      g ≤ addUTCDays (graceStart t₀ currentPeriodEnd) config.billingGracePeriodDays) (g : Int)
    (hg : resolveGracePeriodEndsAt config now status currentPeriodStart currentPeriodEnd existing =
      some g) :
    g ≤ addUTCDays (graceStart t₀ currentPeriodEnd) config.billingGracePeriodDays := by
  -- adding days keeps the order
  have hdays : ∀ base, base ≤ graceStart t₀ currentPeriodEnd →
      addUTCDays base config.billingGracePeriodDays ≤
        addUTCDays (graceStart t₀ currentPeriodEnd) config.billingGracePeriodDays := by
    intro base h
    simp only [addUTCDays]
    omega
  simp only [resolveGracePeriodEndsAt] at hg
  -- only a subscription in arrears, with a positive grace period, gets an end
  split at hg
  · cases hg
  split at hg
  · cases hg
  split at hg
  · cases hg
  exact mergedGrace_le _ _ existing _ rfl (hdays _ (graceBase_le _ _ _ hnow)) hexisting g hg

/-! ### Everything a call does to the status and the grace period -/

/-- The changes of a subscription's row by the billing calls. -/
inductive SubscriptionChange (E : Env → Prop) (config : AppConfig) (row : Subscription) :
    Subscription → Prop where
  | failed (env : Env) (params : MarkInvoiceFailedParams) (henv : E env) :
      SubscriptionChange E config row (pastDueSubscription config env.now params row row)
  | relinked (row' : Subscription) (hlinked : RelinkedSubscription row row') :
      SubscriptionChange E config row row'
  | cleared (row' : Subscription) (hstatus : row'.status ≠ .pastDue)
      (hgrace : row'.gracePeriodEndsAt = none) : SubscriptionChange E config row row'

/-- An outcome of an invoice is one of these changes. -/
theorem SyncedSubscription.change {params : SyncInvoiceParams} {invoice : Invoice}
    {row row' : Subscription} (h : SyncedSubscription E config params invoice row row') :
    SubscriptionChange E config row row' := by
  cases h with
  | paid _ => exact .cleared _ (fun h => nomatch h) rfl
  | failed env _ henv => exact .failed env _ henv

/-- What a call makes of the row of a subscription: it writes a snapshot first, or not, and
    then changes the row as `SubscriptionChange` says, or not. -/
def Rewritten (E : Env → Prop) (config : AppConfig) (id : Id) (row : Subscription) (w' : World) :
    Prop :=
  ∃ row₁ row', w'.subscriptions.find? id = some row' ∧
    (row₁ = row ∨ ∃ env snapshot, E env ∧
      row₁ = syncedSubscription config env.now (snapshotSyncParams snapshot) row row) ∧
    (row' = row₁ ∨ SubscriptionChange E config row₁ row')

section Rewritten

variable {row : Subscription} {invoice : StripeInvoice} {status : InvoiceStatus}
  {log : List (StripeRequest × Bool)}

/-- A row that evolves by allowed changes was rewritten by one. -/
private theorem Rewritten.of_evolves {R : Id → Subscription → Subscription → Prop}
    (h : w.subscriptions.Evolves w'.subscriptions R)
    (hrow : w.subscriptions.find? id = some row)
    (hchange : ∀ row', R id row row' → SubscriptionChange E config row row') :
    Rewritten E config id row w' := by
  obtain ⟨row', hrow', h⟩ := h id row hrow
  exact ⟨row, row', hrow', .inl rfl, h.imp_right (hchange row')⟩

/-- After a snapshot has been written there may come one more change. -/
private theorem Rewritten.of_synced {w₁ : World} {R : Id → Subscription → Subscription → Prop}
    {r₁ : Except Err Unit} {snapshot : StripeSubscription}
    (hsync : Runs E (syncSubscriptionFromExternal config (snapshotSyncParams snapshot)) w r₁ w₁)
    (h : w₁.subscriptions.Evolves w'.subscriptions R)
    (hrow : w.subscriptions.find? id = some row)
    (hchange : ∀ row₁ row', R id row₁ row' → SubscriptionChange E config row₁ row') :
    Rewritten E config id row w' := by
  obtain ⟨row₁, hrow₁, hsynced⟩ := (syncSubscriptionFromExternal_subscriptions hsync).1 id row hrow
  obtain ⟨row', hrow', h⟩ := h id row₁ hrow₁
  refine ⟨row₁, row', hrow', hsynced.imp_right ?_, h.imp_right (hchange row₁ row')⟩
  rintro ⟨-, env, henv, h⟩
  exact ⟨env, snapshot, henv, h⟩

/-- A payment rewrites the row as allowed. -/
private theorem rewritten_markInvoicePaid {params : MarkInvoicePaidParams} {r : Except Err Bool}
    (h : Runs E (markInvoicePaid params) w r w') (hrow : w.subscriptions.find? id = some row) :
    Rewritten E config id row w' := by
  refine .of_evolves (markInvoicePaid_subscriptions h) hrow ?_
  rintro row' ⟨_, -, -, -, -, rfl⟩
  exact .cleared _ (fun h => nomatch h) rfl

/-- A failure rewrites the row as allowed. -/
private theorem rewritten_markInvoiceFailed {params : MarkInvoiceFailedParams} {r : Except Err Bool}
    (h : Runs E (markInvoiceFailed config params) w r w')
    (hrow : w.subscriptions.find? id = some row) : Rewritten E config id row w' := by
  refine .of_evolves (markInvoiceFailed_subscriptions h) hrow ?_
  rintro row' ⟨_, env, henv, -, -, -, -, rfl⟩
  exact .failed env params henv

/-- A synced invoice rewrites the row as allowed. -/
private theorem rewritten_syncInvoice (h : Runs E (syncInvoice config invoice status) w r w')
    (hrow : w.subscriptions.find? id = some row) : Rewritten E config id row w' := by
  refine .of_evolves (syncInvoice_subscriptions h) hrow ?_
  rintro row' ⟨_, _, -, -, -, -, hsynced⟩
  exact hsynced.change

/-- A cancellation rewrites the row as allowed. -/
private theorem rewritten_markSubscriptionCanceled {externalSubscriptionId : String}
    (h : Runs E (markSubscriptionCanceledByExternalId externalSubscriptionId) w r w')
    (hrow : w.subscriptions.find? id = some row) : Rewritten E config id row w' := by
  refine .of_evolves (markSubscriptionCanceled_subscriptions h).1 hrow ?_
  rintro row' rfl
  exact .cleared _ (fun h => nomatch h) rfl

/-- A completed checkout rewrites the row as allowed. -/
private theorem rewritten_handleCheckoutCompleted {session : CheckoutSession}
    (h : Runs E (handleCheckoutCompleted session) w r w')
    (hrow : w.subscriptions.find? id = some row) : Rewritten E config id row w' := by
  refine .of_evolves (handleCheckoutCompleted_subscriptions h) hrow ?_
  rintro row' ⟨row₁, hlinked, rfl | ⟨_, _, _, -, -, -, -, -, rfl⟩⟩
  · exact .relinked _ hlinked
  · exact .cleared _ (fun h => nomatch h) rfl

/-- A reconciliation rewrites the row as allowed. -/
private theorem rewritten_reconcileSubscription {externalSubscriptionId : String}
    (h : Runs E (reconcileSubscription config externalSubscriptionId) w r w')
    (hrow : w.subscriptions.find? id = some row) : Rewritten E config id row w' := by
  obtain ⟨log, rfl | ⟨r₁, hcancel⟩ | ⟨snapshot, r₁, hsnapshot⟩⟩ := runs_reconcileSubscription h
  · exact ⟨row, row, hrow, .inl rfl, .inl rfl⟩
  · exact rewritten_markSubscriptionCanceled hcancel hrow
  · obtain ⟨r₂, w₁, log', hsync, rfl | ⟨invoice, r₃, hinvoice⟩⟩ := runs_reconcileSnapshot hsnapshot
    · exact .of_synced (w := { w with stripeLog := log }) hsync
        (.refl (R := fun _ _ _ => False) _) hrow fun _ _ h => h.elim
    · have hsubscriptions := syncInvoiceFromExternal_subscriptions hinvoice
      refine .of_synced (w := { w with stripeLog := log }) hsync hsubscriptions hrow ?_
      rintro row₁ row' ⟨_, -, -, -, hsynced⟩
      exact hsynced.change

/-- A retry rewrites the row as allowed. -/
private theorem rewritten_processInvoiceRetry {invoice : DueRetry}
    (h : Runs E (processInvoiceRetry config invoice) w r w')
    (hrow : w.subscriptions.find? id = some row) : Rewritten E config id row w' := by
  obtain ⟨log, hafter | ⟨env, stripeInvoice, w₁, r₁, -, -, houtcome, hafter⟩⟩ :=
    runs_processInvoiceRetry h
  · exact ⟨row, row, hafter.2 ▸ hrow, .inl rfl, .inl rfl⟩
  · have hrewritten : Rewritten E config id row w₁ := by
      rcases houtcome with ⟨-, hpaid⟩ | ⟨-, hfailed⟩
      · exact rewritten_markInvoicePaid hpaid hrow
      · exact rewritten_markInvoiceFailed hfailed hrow
    rwa [Rewritten, ← hafter.2] at hrewritten

/-- Every call rewrites a subscription's row in this way. -/
private theorem call_rewritten (h : Runs E (c.op config) w r w')
    (hrow : w.subscriptions.find? id = some row) : Rewritten E config id row w' := by
  -- one case a call, and one an event of the webhook
  cases c with
  | webhook event =>
    cases event with
    | invoiceCreated _ => exact rewritten_syncInvoice h hrow
    | invoiceFinalized _ => exact rewritten_syncInvoice h hrow
    | invoicePaid _ => exact rewritten_syncInvoice h hrow
    | invoicePaymentFailed _ => exact rewritten_syncInvoice h hrow
    | checkoutSessionCompleted _ => exact rewritten_handleCheckoutCompleted h hrow
    | checkoutSessionExpired session =>
      rcases runs_handleCheckoutExpired h with rfl | ⟨_, _, -, hfailed⟩
      · exact ⟨row, row, hrow, .inl rfl, .inl rfl⟩
      · exact rewritten_markInvoiceFailed hfailed hrow
    | customerSubscriptionUpdated snapshot =>
      obtain ⟨r₁, hsync⟩ := runs_ignoringNotFound h
      exact .of_synced hsync (.refl (R := fun _ _ _ => False) _) hrow fun _ _ h => h.elim
    | customerSubscriptionDeleted _ =>
      obtain ⟨r₁, hcancel⟩ := runs_ignoringNotFound h
      exact rewritten_markSubscriptionCanceled hcancel hrow
    | other =>
      obtain ⟨-, rfl⟩ := runs_pure.mp h
      exact ⟨row, row, hrow, .inl rfl, .inl rfl⟩
  | reconcile _ => exact rewritten_reconcileSubscription h hrow
  | retry _ => exact rewritten_processInvoiceRetry h hrow
  | mockSucceed _ =>
    obtain ⟨_, hpaid⟩ := runs_mockSucceed h
    exact rewritten_markInvoicePaid hpaid hrow
  | mockFail _ =>
    obtain ⟨_, hfailed⟩ := runs_mockFail h
    exact rewritten_markInvoiceFailed hfailed hrow
  | materialize _ _ =>
    refine .of_evolves (materializeSourceInvoice_subscriptions h) hrow ?_
    rintro row' ⟨hgrace, hstatus⟩
    exact .cleared row' (by rcases hstatus with h | ⟨h, -⟩ <;> simp [h]) hgrace

end Rewritten

/-! ### Grace only while past due -/

/-- A subscription that is not past due has no grace period. -/
def GraceOnlyPastDue (s : Subscription) : Prop := s.status ≠ .pastDue → s.gracePeriodEndsAt = none

/-! ### Reports in time -/

/-- The grace period ends within the configured days of `graceStart`. -/
def WithinGrace (config : AppConfig) (t₀ : Int) (s : Subscription) : Prop :=
  ∀ g, s.gracePeriodEndsAt = some g →
    g ≤ addUTCDays (graceStart t₀ s.currentPeriodEnd) config.billingGracePeriodDays

section Step

variable {t₀ : Int} {finish : Option Int} {row row' : Subscription}
  (htime : ∀ env, E env → env.now ≤ graceStart t₀ finish)
include htime

/-- A snapshot that keeps the end of the period keeps the bound. -/
private theorem synced_withinGrace {env : Env} {snapshot : StripeSubscription} (henv : E env)
    (hrow : row.gracePeriodEndsAt = none ∨
      (row.currentPeriodEnd = finish ∧ WithinGrace config t₀ row))
    (hfinish : (syncedSubscription config env.now (snapshotSyncParams snapshot) row
      row).currentPeriodEnd
      = finish) :
    WithinGrace config t₀ (syncedSubscription config env.now (snapshotSyncParams snapshot) row
      row) := by
  have hexisting : ∀ g, row.gracePeriodEndsAt = some g →
      g ≤ addUTCDays (graceStart t₀ finish) config.billingGracePeriodDays := by
    rcases hrow with hnone | ⟨hsame, hwithin⟩
    · exact fun g hg => nomatch hnone.symm.trans hg
    · exact hsame ▸ hwithin
  intro g hg
  rw [hfinish]
  have hperiod : (extractStripeSubscriptionPeriod snapshot).currentPeriodEnd = finish := hfinish
  simp only [syncedSubscription, snapshotSyncParams, Option.getD_some, hperiod] at hg
  exact resolveGracePeriodEndsAt_le (htime env henv) hexisting g hg

/-- The other changes keep the bound. -/
private theorem change_withinGrace (h : SubscriptionChange E config row row')
    (hrow : row.currentPeriodEnd = finish → WithinGrace config t₀ row)
    (hfinish : row'.currentPeriodEnd = finish) : WithinGrace config t₀ row' := by
  cases h with
  | failed env params henv =>
    have hfinish : row.currentPeriodEnd = finish := hfinish
    subst hfinish
    intro g hg
    have hg : resolveGracePeriodEndsAt config env.now .pastDue row.currentPeriodStart
        row.currentPeriodEnd row.gracePeriodEndsAt = some g := hg
    exact resolveGracePeriodEndsAt_le (htime env henv) (hrow rfl) g hg
  | relinked _ hlinked =>
    obtain ⟨_, _, rfl⟩ := hlinked
    exact hrow hfinish
  | cleared _ _ hnone => exact fun g hg => nomatch hnone.symm.trans hg

/-- A call in time that ends with the period ending at `finish` keeps the grace period
    within the bound. -/
private theorem withinGrace_step (h : Runs E (c.op config) w r w')
    (hrow : w.subscriptions.find? id = some row)
    (hgrace : row.gracePeriodEndsAt = none ∨
      (row.currentPeriodEnd = finish ∧ WithinGrace config t₀ row))
    (hrow' : w'.subscriptions.find? id = some row') (hfinish : row'.currentPeriodEnd = finish) :
    WithinGrace config t₀ row' := by
  obtain ⟨row₁, row₂, hrow₂, hsynced, hchange⟩ := call_rewritten h hrow
  obtain rfl := Option.some.inj (hrow₂.symm.trans hrow')
  have hrow₁ : row₁.currentPeriodEnd = finish → WithinGrace config t₀ row₁ := by
    rcases hsynced with rfl | ⟨env, snapshot, henv, rfl⟩
    · intro _
      rcases hgrace with hnone | ⟨-, hwithin⟩
      · exact fun g hg => nomatch hnone.symm.trans hg
      · exact hwithin
    · exact synced_withinGrace htime henv hgrace
  rcases hchange with rfl | hchange
  · exact hrow₁ hfinish
  · exact change_withinGrace htime hchange hrow₁ hfinish

end Step

/-- The subscription `id` is past due in the period from `start` to `finish`. -/
abbrev PastDueIn (id : Id) (start finish : Option Int) (w : World) : Prop :=
  (w.subscriptions.find? id).map (fun s => (s.status, s.currentPeriodStart, s.currentPeriodEnd)) =
    some (.pastDue, start, finish)

/-- The row stands with the given end of its period. -/
theorem PastDueIn.row {start finish : Option Int} (h : PastDueIn id start finish w) :
    ∃ row, w.subscriptions.find? id = some row ∧ row.currentPeriodEnd = finish := by
  obtain ⟨row, hrow, heq⟩ := Option.map_eq_some_iff.mp h
  exact ⟨row, hrow, (Prod.mk.inj (Prod.mk.inj heq).2).2⟩

/-- A run of calls at non-decreasing times from `t₀` on, each of which leaves the subscription
    past due in the same period. The first call makes it past due; `ok` holds of the times
    of the others. -/
inductive PastDueRun (config : AppConfig) (id : Id) (t₀ : Int) (start finish : Option Int)
    (ok : Int → Prop) (w₀ : World) : Int → World → Prop where
  | first {w : World} {r : Except Err Unit} (c : BillingCall)
      (hrun : Runs (fun env => env.now = t₀) (c.op config) w₀ r w)
      (hpastDue : PastDueIn id start finish w) : PastDueRun config id t₀ start finish ok w₀ t₀ w
  | report {t t' : Int} {w w' : World} {r : Except Err Unit} (c : BillingCall)
      (hbefore : PastDueRun config id t₀ start finish ok w₀ t w) (hle : t ≤ t') (hok : ok t')
      (hrun : Runs (fun env => env.now = t') (c.op config) w r w')
      (hpastDue : PastDueIn id start finish w') : PastDueRun config id t₀ start finish ok w₀ t' w'

/-- The row is in arrears in every state of the run. -/
private theorem PastDueRun.pastDueIn {t₀ t : Int} {start finish : Option Int} {ok : Int → Prop}
    {w₀ : World} (h : PastDueRun config id t₀ start finish ok w₀ t w) :
    PastDueIn id start finish w := by
  cases h with
  | first _ _ hpastDue => exact hpastDue
  | report _ _ _ _ _ hpastDue => exact hpastDue

/-- Reports that come no later than `t₀` or the end of the period keep the grace period
    within the configured days of the later of the two. -/
theorem gracePeriod_bounded {t₀ t : Int} {start finish : Option Int} {w₀ : World}
    {row₀ : Subscription} (hrow₀ : w₀.subscriptions.find? id = some row₀)
    (hstatus : row₀.status ≠ .pastDue) (hgrace : GraceOnlyPastDue row₀)
    (h : PastDueRun config id t₀ start finish (fun t => t ≤ max t₀ (finish.getD t₀)) w₀ t w) :
    ∃ row, w.subscriptions.find? id = some row ∧ ∀ g, row.gracePeriodEndsAt = some g →
      g ≤ addUTCDays (max t₀ (finish.getD t₀)) config.billingGracePeriodDays := by
  -- by induction on the run: each report keeps the bound of the first
  have hwithin : ∀ row, w.subscriptions.find? id = some row → WithinGrace config t₀ row := by
    induction h with
    | first c hrun hpastDue =>
      obtain ⟨row, hrow, hfinish⟩ := hpastDue.row
      intro row' hrow'
      obtain rfl := Option.some.inj (hrow.symm.trans hrow')
      exact withinGrace_step (fun env henv => henv ▸ Int.le_max_left _ _) hrun hrow₀
        (.inl (hgrace hstatus)) hrow hfinish
    | report c hbefore _ hok hrun hpastDue ih =>
      obtain ⟨row, hrow, hfinish⟩ := hpastDue.row
      obtain ⟨row₁, hrow₁, hfinish₁⟩ := hbefore.pastDueIn.row
      intro row' hrow'
      obtain rfl := Option.some.inj (hrow.symm.trans hrow')
      -- the report arrives in time, and the end before it was within the bound
      exact withinGrace_step (fun env henv => henv ▸ hok) hrun hrow₁
        (.inr ⟨hfinish₁, ih row₁ hrow₁⟩) hrow hfinish
  obtain ⟨row, hrow, hfinish⟩ := h.pastDueIn.row
  exact ⟨row, hrow, fun g hg => hfinish ▸ hwithin row hrow g hg⟩

/-! ### A report after the end of the period -/

/-- The renewal that stays unpaid, in the period from 0 to 100. -/
def unpaidBilling : World :=
  sampleBilling (sampleSubscription .active) (sampleInvoice .subscription .pastDue)

/-- The report of its failure. -/
def failureReport : BillingCall := .webhook (.invoicePaymentFailed (sampleStripeInvoice .open))

def reportFailure (t : Int) (w : World) : World :=
  ((failureReport.op sampleConfig).exec (.available t "u") w).2

/-- A report's execution is a run of it. -/
private theorem runs_reportFailure (t : Int) (w : World) :
    Runs (fun env => env.now = t) (failureReport.op sampleConfig) w
      ((failureReport.op sampleConfig).exec (.available t "u") w).1 (reportFailure t w) :=
  runs_exec (E := fun env => env.now = t) (Env.available t "u") rfl _ _

/-- The grace period is not bounded: the same failure, reported again after the period has
    ended, moves its end. -/
theorem not_gracePeriod_bounded :
    ¬∀ t w, PastDueRun sampleConfig "sub" 50 (some 0) (some 100) (fun _ => True) unpaidBilling t w →
      ∀ row, w.subscriptions.find? "sub" = some row → ∀ g, row.gracePeriodEndsAt = some g →
        g ≤ addUTCDays (max 50 100) sampleConfig.billingGracePeriodDays := by
  intro h
  have hrun : PastDueRun sampleConfig "sub" 50 (some 0) (some 100) (fun _ => True) unpaidBilling 200
      (reportFailure 200 (reportFailure 50 unpaidBilling)) :=
    .report failureReport (.first failureReport (runs_reportFailure 50 _) (by decide +kernel))
      (by decide) trivial (runs_reportFailure 200 _) (by decide +kernel)
  have hgrace :
      ((reportFailure 200 (reportFailure 50 unpaidBilling)).subscriptions.find? "sub").bind
      (·.gracePeriodEndsAt) = some (addUTCDays 200 3) := by decide +kernel
  obtain ⟨row, hrow, hgrace⟩ := Option.bind_eq_some_iff.mp hgrace
  exact absurd (h 200 _ hrun row hrow _ hgrace) (by decide)

/-- Reported again before the period ends, it does not. -/
theorem gracePeriod_bounded_twice :
    ∃ row, (reportFailure 90 (reportFailure 50 unpaidBilling)).subscriptions.find? "sub" =
      some row ∧
      ∀ g, row.gracePeriodEndsAt = some g → g ≤ addUTCDays 100 3 := by
  have hrow : unpaidBilling.subscriptions.find? "sub" = some (sampleSubscription .active) := rfl
  have hfirst : PastDueIn "sub" (some 0) (some 100) (reportFailure 50 unpaidBilling) := by
    decide +kernel
  have hrun : PastDueRun sampleConfig "sub" 50 (some 0) (some 100) (fun t => t ≤ max 50 100)
      unpaidBilling 90 (reportFailure 90 (reportFailure 50 unpaidBilling)) :=
    .report failureReport (.first failureReport (runs_reportFailure 50 _) hfirst) (by decide)
      (by decide) (runs_reportFailure 90 _) (by decide +kernel)
  exact gracePeriod_bounded hrow (by decide) (fun _ => rfl) hrun

end HivePoint
