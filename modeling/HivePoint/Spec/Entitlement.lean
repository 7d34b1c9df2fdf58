import HivePoint.Native.UsageService
import HivePoint.Spec.UsageLedger

/-!
# Entitlement

What it means that a subscription is entitled to usage at an instant
(`Subscription.entitlement`), and which of the three doors of `UsageService` agree with
it: authorization and the summary do, ingestion does not look at the status of a
subscription that is not past due.
-/

namespace HivePoint

open Prog

/-! ### The meaning of entitlement -/

/-- The instants from the first end to before the second, if both ends are known. -/
def period : Option Int → Option Int → Set Int
  | some start, some finish => Set.Ico start finish
  | _, _ => ∅

/-- An instant in a period lies between its two ends. -/
private theorem mem_period {start finish : Option Int} {t : Int} :
    t ∈ period start finish ↔ ∃ a b, start = some a ∧ finish = some b ∧ a ≤ t ∧ t < b := by
  cases start <;> cases finish <;> simp [period]

/-- The instants at which a subscription is entitled to usage: an active one within its
    period, a past due one until its grace period ends. -/
def Subscription.entitlement (s : Subscription) : Set Int :=
  match s.status with
  | .active => period s.currentPeriodStart s.currentPeriodEnd
  | .pastDue => period s.currentPeriodStart s.gracePeriodEndsAt
  | .pending | .canceled => ∅

/-- The window that `getUsageWindow` builds once it knows the two ends. -/
private theorem window_eq_some_iff {start finish t : Int} {usageWindow : UsageWindow}
    (hstart : ¬start > t) :
    (if finish ≤ t then none else some ⟨start, finish⟩) = some usageWindow ↔
      some start = some usageWindow.gte ∧ some finish = some usageWindow.lt ∧
        usageWindow.gte ≤ t ∧ t < usageWindow.lt := by
  obtain ⟨gte, lt⟩ := usageWindow
  split
  · simp only [reduceCtorEq, Option.some.injEq, false_iff]
    omega
  · simp only [Option.some.injEq, UsageWindow.mk.injEq]
    omega

/-- The usage window starts with the period and ends with the grace period of a past due
    subscription, else with the period. The instant lies inside it. -/
theorem getUsageWindow_eq_some_iff {s : Subscription} {t : Int} {usageWindow : UsageWindow} :
    getUsageWindow s t = some usageWindow ↔
      s.currentPeriodStart = some usageWindow.gte ∧
        (if s.status = .pastDue then s.gracePeriodEndsAt else s.currentPeriodEnd) =
          some usageWindow.lt ∧
        usageWindow.gte ≤ t ∧ t < usageWindow.lt := by
  simp only [getUsageWindow]
  cases s.currentPeriodStart with
  | none => simp
  | some start =>
    dsimp only
    split
    · simp only [reduceCtorEq, Option.some.injEq, false_iff]
      omega
    · rename_i hstart
      -- the two branches differ in the end they look at
      by_cases hpast : s.status = .pastDue
      · simp only [hpast, if_true]
        cases s.gracePeriodEndsAt with
        | none => simp
        | some finish => exact window_eq_some_iff hstart
      · simp only [hpast, if_false]
        cases s.currentPeriodEnd with
        | none => simp
        | some finish => exact window_eq_some_iff hstart

/-- `getUsageWindow` finds the period of a subscription that is past due or not; it does
    not ask whether the subscription is active. -/
private theorem getUsageWindow_isSome_iff (s : Subscription) (t : Int) :
    (getUsageWindow s t).isSome ↔
      t ∈ period s.currentPeriodStart
        (if s.status = .pastDue then s.gracePeriodEndsAt else s.currentPeriodEnd) := by
  rw [Option.isSome_iff_exists, mem_period]
  constructor
  · rintro ⟨⟨gte, lt⟩, h⟩
    obtain ⟨hstart, hend, hge, hlt⟩ := getUsageWindow_eq_some_iff.mp h
    exact ⟨gte, lt, hstart, hend, hge, hlt⟩
  · rintro ⟨gte, lt, h⟩
    exact ⟨⟨gte, lt⟩, getUsageWindow_eq_some_iff.mpr h⟩

/-- A subscription has one usage window, whatever the instant. -/
theorem getUsageWindow_unique {s : Subscription} {t t' : Int}
    {usageWindow usageWindow' : UsageWindow} (h : getUsageWindow s t = some usageWindow)
    (h' : getUsageWindow s t' = some usageWindow') :
    usageWindow' = usageWindow := by
  obtain ⟨hstart, hend, -⟩ := getUsageWindow_eq_some_iff.mp h
  obtain ⟨hstart', hend', -⟩ := getUsageWindow_eq_some_iff.mp h'
  obtain ⟨gte, lt⟩ := usageWindow
  obtain ⟨gte', lt'⟩ := usageWindow'
  obtain rfl := Option.some.inj (hstart.symm.trans hstart')
  obtain rfl := Option.some.inj (hend.symm.trans hend')
  rfl

/-- The `where` of the authorization queries is entitlement. -/
theorem isAuthorizable_iff (s : Subscription) (t : Int) :
    isAuthorizable t s = true ↔ t ∈ s.entitlement := by
  have hdates : ∀ start finish : Option Int,
      (start.any (· ≤ t) = true ∧ finish.any (· > t) = true) ↔ t ∈ period start finish := by
    intro start finish
    cases start <;> cases finish <;> simp [period]
  cases hs : s.status <;>
    simp [isAuthorizable, Subscription.entitlement, hs, ← hdates]

/-- An entitled subscription has a usage window. -/
private theorem getUsageWindow_isSome_of_entitled {s : Subscription} {t : Int}
    (h : t ∈ s.entitlement) :
    (getUsageWindow s t).isSome := by
  rw [getUsageWindow_isSome_iff]
  cases hs : s.status <;> simp_all [Subscription.entitlement]

/-- A subscription with a usage window is entitled, unless it is pending or canceled. -/
theorem entitled_of_getUsageWindow_isSome {s : Subscription} {t : Int}
    (hs : s.status = .active ∨ s.status = .pastDue) (h : (getUsageWindow s t).isSome) :
    t ∈ s.entitlement := by
  rw [getUsageWindow_isSome_iff] at h
  rcases hs with hs | hs <;> simpa [Subscription.entitlement, hs] using h

/-! ### Ingestion -/

/-- The call ends without an exception. -/
def Accepts (op : Op Unit) (env : Env) (w : World) : Prop := (op.exec env w).1 = .ok ()

section Ingestion

variable {env : Env} {w : World} {row : Subscription} {input : RecordUsageInput}

/-- What an ingestion that arrives at `now` records for the subscription `id`: an event without
    an instant of its own is about the instant at which it arrives. -/
def RecordUsageInput.event (input : RecordUsageInput) (id : Id) (now : Int) :
    UsageRecordWriteInput :=
  ⟨id, input.occurredAt.getD now, input.endpoint, input.requestCount, none⟩

/-- Validation passes exactly when the row has a usage window at the event's instant. -/
private theorem exec_validateUsageRecordInput (hdb : env.dbError = none)
    (hrow : w.subscriptions.find? input.subscriptionId = some row) :
    (validateUsageRecordInput input).exec env w =
      if (getUsageWindow row (input.occurredAt.getD env.now)).isSome then
        (.ok (input.event row.id env.now), w)
      else (.error (.app ⟨.subscriptionNotActive, "SUBSCRIPTION_NOT_ACTIVE", 400, []⟩), w) := by
  simp only [validateUsageRecordInput, exec_bind, exec_read hdb, hrow, RecordUsageInput.event]
  cases hoccurred : input.occurredAt with
  | none =>
    simp only [Option.getD_none, exec_bind, exec_clock]
    cases getUsageWindow row env.now <;> rfl
  | some t =>
    simp only [Option.getD_some, pure_bind]
    cases getUsageWindow row t <;> rfl

/-- Nothing but a missing window, or a count that does not fit, stands in the way of an event. -/
private theorem accepts_createUsageRecord_iff (hdb : env.dbError = none)
    (hrow : w.subscriptions.find? input.subscriptionId = some row)
    (huuid : w.usageRecords.find? env.uuid = none) (tx : TxId) :
    Accepts (createUsageRecord tx input) env w ↔
      (getUsageWindow row (input.occurredAt.getD env.now)).isSome ∧
        w.CanCount (input.event row.id env.now) := by
  simp only [Accepts, createUsageRecord, exec_bind, exec_validateUsageRecordInput hdb hrow]
  -- outside the window the event is refused before anything is written
  cases (getUsageWindow row (input.occurredAt.getD env.now)).isSome with
  | false => simp
  | true =>
    simp only [if_true, true_and]
    constructor
    -- what is accepted has been counted
    · intro haccepts
      cases hrecord : w.recordUsage (input.event row.id env.now) env.now env.uuid with
      | error e =>
        rw [exec_recordUsage_error hdb hrecord] at haccepts
        cases haccepts
      | ok w' => exact canCount_of_recordUsage hrecord
    -- what can be counted is accepted, under a new id
    · intro hcount
      obtain ⟨w', hrecord⟩ := recordUsage_of_fresh (input.event row.id env.now) rfl huuid
        hcount env.now
      simp [exec_recordUsage hdb hrecord]

/-- A new job is refused only if its count does not fit. -/
private theorem createUsageIngestJob_of_fresh (row : UsageIngestJob)
    (h : w.usageIngestJobs.find? row.id = none) (hfits : FitsInt4 row.requestCount) :
    ∃ w', w.createUsageIngestJob row = .ok w' := by
  obtain ⟨jobs, hjobs⟩ := Table.insert?_of_fresh (r := row) h fun _ hmem => nomatch hmem
  refine ⟨{ w with usageIngestJobs := jobs }, ?_⟩
  simp only [World.createUsageIngestJob, hfits, not_true_eq_false, if_false, hjobs]

/-- The queue accepts an event inside the window whose count fits the column. -/
private theorem accepts_enqueueUsageRecord_iff (hdb : env.dbError = none)
    (hrow : w.subscriptions.find? input.subscriptionId = some row)
    (huuid : w.usageIngestJobs.find? env.uuid = none) :
    Accepts (enqueueUsageRecord input) env w ↔
      (getUsageWindow row (input.occurredAt.getD env.now)).isSome ∧
        FitsInt4 input.requestCount := by
  simp only [Accepts, enqueueUsageRecord, exec_bind, exec_validateUsageRecordInput hdb hrow]
  cases (getUsageWindow row (input.occurredAt.getD env.now)).isSome with
  | false => simp
  | true =>
    simp only [if_true, exec_clock, true_and]
    by_cases hfits : FitsInt4 input.requestCount
    -- a count that fits is enqueued, under a new id
    · refine iff_of_true ?_ hfits
      obtain ⟨w', hcreate⟩ := createUsageIngestJob_of_fresh
        ⟨env.uuid, row.id, input.occurredAt.getD env.now, input.endpoint, input.requestCount,
          .pending,
          0, env.now, none, none, env.now⟩ huuid hfits
      rw [exec_command_ok hdb hcreate]
    -- another count is refused by the database
    · refine iff_of_false (fun haccepts => ?_) hfits
      have hrefused : w.createUsageIngestJob
          ⟨env.uuid, row.id, input.occurredAt.getD env.now, input.endpoint, input.requestCount,
            .pending, 0, env.now, none, none, env.now⟩ = .error integerOutOfRange := by
        rw [World.createUsageIngestJob, if_pos hfits]
      rw [exec_command_error hdb hrefused] at haccepts
      cases haccepts

/-- Can the counts of the event be stored? The queue stores its own count only; those of the
    buckets follow when it is drained. -/
def AppConfig.CanStore (config : AppConfig) (w : World) (event : UsageRecordWriteInput) : Prop :=
  if config.usageIngestQueueEnabled then FitsInt4 event.requestCount else w.CanCount event

/-- With the right secret, `ingestUsage` accepts what one of its two ways in accepts. -/
private theorem accepts_ingestUsage_iff (config : AppConfig)
    (hsecret : config.usageIngestSecret ≠ "") (hdb : env.dbError = none)
    (hrow : w.subscriptions.find? input.subscriptionId = some row)
    (hrecord : w.usageRecords.find? env.uuid = none)
    (hjob : w.usageIngestJobs.find? env.uuid = none) (tx : TxId) :
    Accepts (ingestUsage config tx input (some config.usageIngestSecret)) env w ↔
      (getUsageWindow row (input.occurredAt.getD env.now)).isSome ∧
        config.CanStore w (input.event row.id env.now) := by
  have hassert : assertUsageSecret config (some config.usageIngestSecret) = pure () := by
    simp [assertUsageSecret, truthy, hsecret]
  rw [ingestUsage, hassert, pure_bind, AppConfig.CanStore]
  cases config.usageIngestQueueEnabled with
  | false => exact accepts_createUsageRecord_iff hdb hrow hrecord tx
  | true => exact accepts_enqueueUsageRecord_iff hdb hrow hjob

end Ingestion

/-! ### The summary -/

section Summary

variable {α : Type} {env : Env} (hdb : env.dbError = none)
include hdb

/-- A program that only reads returns, and leaves the state as it is. -/
def ReadsOnly (env : Env) (p : Op α) : Prop := ∀ w, ∃ a, p.exec env w = (.ok a, w)

/-- A read does not write. -/
private theorem readsOnly_read (f : World → α) : ReadsOnly env (read f) := fun w =>
  ⟨_, exec_read hdb f w⟩

omit hdb in
/-- Neither does a value. -/
private theorem readsOnly_pure (a : α) : ReadsOnly env (pure a : Op α) := fun _ => ⟨a, rfl⟩

omit hdb in
/-- Two parts that do not write. -/
private theorem readsOnly_bind {β : Type} {p : Op α} {g : α → Op β} (hp : ReadsOnly env p)
    (hg : ∀ a, ReadsOnly env (g a)) : ReadsOnly env (p >>= g) := by
  intro w
  obtain ⟨a, ha⟩ := hp w
  obtain ⟨b, hb⟩ := hg a w
  exact ⟨b, by simp only [exec_bind, ha, hb]⟩

omit hdb in
/-- A slice of a query does not write. -/
private theorem readsOnly_querySlice {query : Int → Int → Op α} {empty : α} {gte lt : Int}
    (hquery : ReadsOnly env (query gte lt)) : ReadsOnly env (querySlice query empty gte lt) := by
  rw [querySlice]
  split
  · exact hquery
  · exact readsOnly_pure empty

/-- The breakdown by endpoint does not write. -/
private theorem readsOnly_listEndpointUsageForWindow (localeCompare : String → String → Ordering)
    (subscriptionId : Id) (s e : Int) (limit : Nat) :
    ReadsOnly env (listEndpointUsageForWindow localeCompare subscriptionId s e limit :
      Op (List UsageEndpointBreakdownItem)) := by
  -- the three slices are queries
  have hraw : ∀ a b, ReadsOnly env (groupRawUsageByEndpoint subscriptionId a b :
      Op (List UsageEndpointBreakdownItem)) := fun a b => readsOnly_read hdb _
  have hfull : ∀ a b, ReadsOnly env (groupFullDaysByEndpoint subscriptionId a b :
      Op (List UsageEndpointBreakdownItem)) := fun a b =>
    readsOnly_bind (readsOnly_read hdb _) fun _ =>
      readsOnly_bind (readsOnly_read hdb _) fun _ => readsOnly_pure _
  rw [listEndpointUsageForWindow]
  split
  · exact readsOnly_pure _
  · exact readsOnly_bind (readsOnly_querySlice (hraw _ _)) fun _ =>
      readsOnly_bind (readsOnly_querySlice (hfull _ _)) fun _ =>
        readsOnly_bind (readsOnly_querySlice (hraw _ _)) fun _ => readsOnly_pure _

/-- An item is about a listed subscription, with its usage in its window. -/
structure IsSummaryOf (w : World) (listed : SubscriptionWithPlan × UsageWindow)
    (item : UsageSummaryItem) : Prop where
  subscriptionId : item.subscriptionId = listed.1.subscription.id
  usedRequests : item.usedRequests =
    w.windowUsage listed.1.subscription.id listed.2.gte listed.2.lt
  overageState : item.overageState = getOverageState listed.1.plan item.usedRequests

/-- An item of the summary is computed. -/
private theorem exec_summaryItem (localeCompare : String → String → Ordering)
    (listed : SubscriptionWithPlan × UsageWindow) (w : World) :
    ∃ item, (summaryItem localeCompare listed.1 listed.2).exec env w = (.ok item, w) ∧
      IsSummaryOf w listed item := by
  have hused := exec_windowUsage hdb w listed.1.subscription.id listed.2.gte listed.2.lt
  obtain ⟨top, htop⟩ := readsOnly_listEndpointUsageForWindow hdb localeCompare
    listed.1.subscription.id listed.2.gte listed.2.lt 5 w
  exact ⟨_, by simp only [summaryItem, exec_bind, hused, htop, exec_pure]; rfl, rfl, rfl, rfl⟩

/-- So are the items of a list. -/
private theorem exec_summaryItems (localeCompare : String → String → Ordering)
    (listed : List (SubscriptionWithPlan × UsageWindow)) (w : World) :
    ∃ items, (listed.mapM fun x => summaryItem localeCompare x.1 x.2).exec env w = (.ok items, w) ∧
      List.Forall₂ (IsSummaryOf w) listed items := by
  induction listed with
  | nil => exact ⟨[], rfl, .nil⟩
  | cons x listed ih =>
    obtain ⟨item, hitem, hsummary⟩ := exec_summaryItem hdb localeCompare x w
    obtain ⟨items, hitems, hsummaries⟩ := ih
    refine ⟨item :: items, ?_, .cons hsummary hsummaries⟩
    simp only [List.mapM_cons, exec_bind, hitem, hitems, exec_pure]

/-- The summary lists the rows of the user that are active or past due and have a window. -/
theorem exec_getSummary (localeCompare : String → String → Ordering) (userId : Id) (w : World) :
    ∃ items, (getSummary localeCompare userId).exec env w = (.ok items, w) ∧
      List.Forall₂ (IsSummaryOf w) (w.summarySubscriptions userId env.now) items := by
  obtain ⟨items, hitems, hsummaries⟩ :=
    exec_summaryItems hdb localeCompare (w.summarySubscriptions userId env.now) w
  exact ⟨items, by simp only [getSummary, exec_bind, exec_clock, exec_read hdb, hitems], hsummaries⟩

end Summary

/-- The items are about the listed subscriptions, in their order. -/
private theorem ids_of_summaries {w : World} {listed : List (SubscriptionWithPlan × UsageWindow)}
    {items : List UsageSummaryItem} (h : List.Forall₂ (IsSummaryOf w) listed items) :
    items.map (·.subscriptionId) = listed.map (·.1.subscription.id) := by
  induction h with
  | nil => rfl
  | cons hitem _ ih => rw [List.map_cons, List.map_cons, hitem.subscriptionId, ih]

/-- The joined row is the row. -/
theorem subscription_of_withPlan {w : World} {s : Subscription} {found : SubscriptionWithPlan}
    (h : w.withPlan s = some found) : found.subscription = s := by
  obtain ⟨plan, -, h⟩ := Option.bind_eq_some_iff.mp h
  obtain ⟨product, -, h⟩ := Option.bind_eq_some_iff.mp h
  obtain rfl := Option.some.inj h
  rfl

/-- The subscription that the authorization query finds is a row, joined with its plan. -/
theorem findAuthorizableSubscription_eq_some {w : World} {userId productId : Id} {t : Int}
    {found : SubscriptionWithPlan}
    (h : w.findAuthorizableSubscription userId productId t = some found) :
    found.subscription ∈ w.authorizableSubscriptions userId productId t ∧
      w.plans.find? found.subscription.planId = some found.plan := by
  -- the first row in the order is a row of the list
  have hmem : ∀ {rows : List Subscription} {first : Subscription},
      findFirst authorizationOrder rows = some first → first ∈ rows := by
    intro rows
    induction rows with
    | nil => exact fun h => nomatch h
    | cons r rows ih =>
      intro first hfirst
      simp only [findFirst] at hfirst
      split at hfirst
      · simp [Option.some.inj hfirst]
      · rename_i hrest
        split at hfirst <;> obtain rfl := Option.some.inj hfirst
        · exact List.mem_cons_of_mem _ (ih hrest)
        · exact List.mem_cons_self
  -- the query joins the row with its plan and its product
  obtain ⟨first, hfirst, hjoin⟩ := Option.bind_eq_some_iff.mp h
  have hsub := subscription_of_withPlan hjoin
  obtain ⟨plan, hplan, hjoin⟩ := Option.bind_eq_some_iff.mp hjoin
  obtain ⟨product, -, hjoin⟩ := Option.bind_eq_some_iff.mp hjoin
  obtain rfl := Option.some.inj hjoin
  exact ⟨hmem hfirst, hplan⟩

/-- The rows listed at `t` are the user's rows entitled at `t`. -/
theorem mem_summarySubscriptions_iff {w : World} {userId : Id} {t : Int}
    {found : SubscriptionWithPlan} {usageWindow : UsageWindow} :
    (found, usageWindow) ∈ w.summarySubscriptions userId t ↔
      found.subscription ∈ w.subscriptions.rows ∧ found.subscription.userId = userId ∧
        t ∈ found.subscription.entitlement ∧ w.withPlan found.subscription = some found ∧
          getUsageWindow found.subscription t = some usageWindow := by
  simp only [World.summarySubscriptions, List.mem_filterMap, List.mem_filter, Bool.and_eq_true,
    Bool.or_eq_true, decide_eq_true_eq]
  constructor
  -- a row that is listed is live, and its window covers the instant
  · rintro ⟨s, ⟨hmem, huser, hstatus⟩, h⟩
    obtain ⟨window, hwindow, h⟩ := Option.bind_eq_some_iff.mp h
    obtain ⟨joined, hjoined, h⟩ := Option.bind_eq_some_iff.mp h
    obtain ⟨rfl, rfl⟩ := Prod.mk.inj (Option.some.inj h)
    rw [subscription_of_withPlan hjoined]
    exact ⟨hmem, huser, entitled_of_getUsageWindow_isSome hstatus (by simp [hwindow]),
      hjoined, hwindow⟩
  -- a row that is entitled is live, so the query selects it
  · rintro ⟨hmem, huser, hentitled, hjoined, hwindow⟩
    have hstatus : found.subscription.status = .active ∨ found.subscription.status = .pastDue := by
      cases hs : found.subscription.status <;> simp_all [Subscription.entitlement]
    exact ⟨found.subscription, ⟨hmem, huser, hstatus⟩,
      Option.bind_eq_some_iff.mpr ⟨usageWindow, hwindow,
        Option.bind_eq_some_iff.mpr ⟨found, hjoined, rfl⟩⟩⟩

/-- The summary of the subscription's buyer has an item for it. -/
def IsListed (localeCompare : String → String → Ordering) (row : Subscription) (env : Env)
    (w : World) : Prop :=
  ∃ items, ((getSummary localeCompare row.userId).exec env w).1 = .ok items ∧
    ∃ item ∈ items, item.subscriptionId = row.id

/-- The summary lists the row if and only if it is entitled. -/
private theorem isListed_iff {env : Env} (hdb : env.dbError = none) {w : World} {row : Subscription}
    {found : SubscriptionWithPlan} (hrow : row ∈ w.subscriptions.rows)
    (hplan : w.withPlan row = some found) (localeCompare : String → String → Ordering) :
    IsListed localeCompare row env w ↔ env.now ∈ row.entitlement := by
  obtain ⟨items, hitems, hsummaries⟩ := exec_getSummary hdb localeCompare row.userId w
  have hids := ids_of_summaries hsummaries
  have hlisted : IsListed localeCompare row env w ↔
      row.id ∈ (w.summarySubscriptions row.userId env.now).map (·.1.subscription.id) := by
    rw [IsListed, hitems, ← hids]
    simp [List.mem_map]
  have hsub := subscription_of_withPlan hplan
  rw [hlisted, List.mem_map]
  constructor
  · rintro ⟨⟨other, usageWindow⟩, hmem, hid⟩
    obtain ⟨hother, -, hentitled, -⟩ := mem_summarySubscriptions_iff.mp hmem
    -- rows with the same id are the same row
    rwa [Table.eq_of_key_eq hother hrow hid] at hentitled
  · intro hentitled
    obtain ⟨usageWindow, hwindow⟩ :=
      Option.isSome_iff_exists.mp (getUsageWindow_isSome_of_entitled hentitled)
    refine ⟨(found, usageWindow), mem_summarySubscriptions_iff.mpr ?_, by rw [hsub]⟩
    rw [hsub]
    exact ⟨hrow, rfl, hentitled, hplan, hwindow⟩

/-! ### The three doors -/

/-- The row is among those the authorization query chooses from, and has a window. -/
def IsAuthorized (productId : Id) (t : Int) (row : Subscription) (w : World) : Prop :=
  row ∈ w.authorizableSubscriptions row.userId productId t ∧ (getUsageWindow row t).isSome

/-- The query of the authorization returns the row if and only if it is entitled. -/
private theorem isAuthorized_iff {w : World} {row : Subscription} {found : SubscriptionWithPlan}
    (hrow : row ∈ w.subscriptions.rows) (hplan : w.withPlan row = some found) (t : Int) :
    IsAuthorized found.plan.productId t row w ↔ t ∈ row.entitlement := by
  have hproduct : (w.plans.find? row.planId).any (·.productId = found.plan.productId) = true := by
    obtain ⟨plan, hfind, h⟩ := Option.bind_eq_some_iff.mp hplan
    obtain ⟨product, -, h⟩ := Option.bind_eq_some_iff.mp h
    obtain rfl := Option.some.inj h
    simp [hfind]
  simp only [IsAuthorized, World.authorizableSubscriptions, List.mem_filter, hrow, hproduct,
    decide_true, Bool.true_and, Bool.and_true, isAuthorizable_iff, true_and]
  exact ⟨fun h => h.1, fun h => ⟨h, getUsageWindow_isSome_of_entitled h⟩⟩

/-- The doors and entitlement at `t` agree about the row. The event arrives under `env`, the
    summary is asked for under `listing`. -/
structure DoorsAgree (config : AppConfig) (localeCompare : String → String → Ordering) (tx : TxId)
    (input : RecordUsageInput) (productId : Id) (row : Subscription) (t : Int) (env listing : Env)
    (w : World) : Prop where
  ingestUsage : Accepts (ingestUsage config tx input (some config.usageIngestSecret)) env w ↔
    t ∈ row.entitlement
  createUsageRecord : Accepts (createUsageRecord tx input) env w ↔ t ∈ row.entitlement
  authorizeUsage : IsAuthorized productId t row w ↔ t ∈ row.entitlement
  getSummary : IsListed localeCompare row listing w ↔ t ∈ row.entitlement

/-- A pending or canceled subscription whose period covers the instant: it has a usage window,
    and is not entitled. -/
def Subscription.LeftOpen (s : Subscription) (t : Int) : Prop :=
  (s.status = .pending ∨ s.status = .canceled) ∧ t ∈ period s.currentPeriodStart s.currentPeriodEnd

/-- The window is there for an entitled row, and for one that is left open. -/
private theorem getUsageWindow_isSome_iff_entitled_or (s : Subscription) (t : Int) :
    (getUsageWindow s t).isSome ↔ t ∈ s.entitlement ∨ s.LeftOpen t := by
  rw [getUsageWindow_isSome_iff]
  cases hs : s.status <;> simp [Subscription.entitlement, Subscription.LeftOpen, hs]

/-- A row that is left open is not entitled. -/
private theorem not_entitled_of_leftOpen {s : Subscription} {t : Int} (h : s.LeftOpen t) :
    t ∉ s.entitlement := by
  rcases h.1 with hs | hs <;> simp [Subscription.entitlement, hs]

/-- What can be recorded at once can be queued. -/
private theorem canStore_of_canCount {config : AppConfig} {w : World}
    {event : UsageRecordWriteInput} (h : w.CanCount event) : config.CanStore w event := by
  rw [AppConfig.CanStore]
  split
  · exact h.record
  · exact h

/-- A request at instant 50 for the sample subscription. -/
def sampleUsage : RecordUsageInput := ⟨"sub", "/v1", 1, some 50⟩

end HivePoint
