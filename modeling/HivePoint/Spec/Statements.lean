import HivePoint.Native.Config
import HivePoint.Native.ManagedRetryPolicy
import HivePoint.Native.Transaction

/-!
# What a single statement does

Each kind of statement of `Native.World` in its two readings: what it returns when the
database is available (`exec_*`), and everything that a run of it can end in (`runs_*`).
The writes of rows follow, with what they leave alone.
-/

namespace HivePoint

open Prog

variable {α : Type}

/-- Stripe refuses every request. -/
def StripeApi.unavailable : StripeApi where
  retrieveSubscription _ := .failed ⟨"StripeAPIError", none, ""⟩
  retrieveInvoice _ := .failed ⟨"StripeAPIError", none, ""⟩
  payInvoice _ := .failed ⟨"StripeAPIError", none, ""⟩
  finalizeInvoice _ := .failed ⟨"StripeAPIError", none, ""⟩
  createInvoiceItem _ := .failed ⟨"StripeAPIError", none, ""⟩
  createInvoice _ := .failed ⟨"StripeAPIError", none, ""⟩
  createCustomer _ _ := .failed ⟨"StripeAPIError", none, ""⟩
  cancelSubscriptionAtPeriodEnd _ := .failed ⟨"StripeAPIError", none, ""⟩
  createCheckoutSession _ := .failed ⟨"StripeAPIError", none, ""⟩
  createPortalSession _ := .failed ⟨"StripeAPIError", none, ""⟩

/-- An available database at `now`, and no Stripe. -/
def Env.available (now : Int) (uuid : Id) : Env where
  now := now
  uuid := uuid
  nextUuid := uuid ++ "'"
  dbError := none
  stripe := .unavailable

/-- A sequence of fallible steps succeeds when each of them does. -/
theorem except_bind_eq_ok {ε α β : Type} {x : Except ε α} {f : α → Except ε β} {b : β} :
    x >>= f = .ok b ↔ ∃ a, x = .ok a ∧ f a = .ok b := by
  cases x with
  | error e => exact ⟨fun h => (nomatch h), fun ⟨_, h, _⟩ => nomatch h⟩
  | ok a => exact ⟨fun h => ⟨a, rfl, h⟩, fun ⟨_, ha, h⟩ => Except.ok.inj ha ▸ h⟩

/-- A write with a fixed result succeeds when it makes its new state. -/
theorem except_map_eq_ok {ε β : Type} {x : Except ε World} {a b : β} {w : World}
    (h : x.map (a, ·) = .ok (b, w)) : x = .ok w := by
  cases x with
  | error e => exact nomatch h
  | ok v => exact congrArg Except.ok (Prod.mk.inj (Except.ok.inj h)).2

/-! ### Statements that the database executes -/

section Available

variable {env : Env} (hdb : env.dbError = none)
include hdb

/-- A read gives what it finds and changes nothing. -/
@[simp] theorem exec_read (f : World → α) (w : World) : (read f).exec env w = (.ok (f w), w) := by
  simp [read, hdb]

/-- A statement that is carried out stores its tables. -/
theorem exec_mutate_ok {f : Env → World → Except Err (α × World)} {w w' : World} {a : α}
    (h : f env w = .ok (a, w')) : (mutate f).exec env w = (.ok a, w') := by
  simp [mutate, hdb, h]

/-- A refused statement changes nothing. -/
theorem exec_mutate_error {f : Env → World → Except Err (α × World)} {w : World} {e : Err}
    (h : f env w = .error e) : (mutate f).exec env w = (.error e, w) := by
  simp [mutate, hdb, h]

end Available

/-- The clock gives the present and changes nothing. -/
@[simp] theorem exec_clock (env : Env) (w : World) : clock.exec env w = (.ok env.now, w) := rfl

/-! ### Everything a statement can do -/

section Runs

variable {E : Env → Prop} {w w' : World}

/-- A read changes nothing, and what it returns is true of the state. -/
theorem runs_read {f : World → α} {r : Except Err α} (h : Runs E (read f) w r w') :
    w' = w ∧ ∀ a, r = .ok a → a = f w := by
  obtain ⟨env, -, heq⟩ := runs_stmt.mp h
  split at heq
  · obtain ⟨rfl, rfl⟩ := Prod.mk.inj heq
    exact ⟨rfl, fun a ha => nomatch ha⟩
  · obtain ⟨rfl, rfl⟩ := Prod.mk.inj heq
    exact ⟨rfl, fun a ha => (Except.ok.inj ha).symm⟩

/-- A run of the clock gives the instant of some environment. -/
theorem runs_clock {r : Except Err Int} (h : Runs E clock w r w') :
    w' = w ∧ ∃ env, E env ∧ r = .ok env.now := by
  obtain ⟨env, henv, heq⟩ := runs_stmt.mp h
  obtain ⟨rfl, rfl⟩ := Prod.mk.inj heq
  exact ⟨rfl, env, henv, rfl⟩

/-- A write is refused without effect, or made. -/
theorem runs_mutate {f : Env → World → Except Err (α × World)} {r : Except Err α}
    (h : Runs E (mutate f) w r w') :
    (w' = w ∧ ∃ e, r = .error e) ∨ ∃ env a, E env ∧ f env w = .ok (a, w') ∧ r = .ok a := by
  obtain ⟨env, henv, heq⟩ := runs_stmt.mp h
  split at heq
  · obtain ⟨rfl, rfl⟩ := Prod.mk.inj heq
    exact .inl ⟨rfl, _, rfl⟩
  · split at heq
    · rename_i hf
      obtain ⟨rfl, rfl⟩ := Prod.mk.inj heq
      exact .inr ⟨env, _, henv, hf, rfl⟩
    · obtain ⟨rfl, rfl⟩ := Prod.mk.inj heq
      exact .inl ⟨rfl, _, rfl⟩

/-- A request to Stripe changes the log only, and returns what Stripe answered. -/
theorem runs_callStripe {request : StripeRequest} {answer : StripeApi → Answer α}
    {r : Except Err α} (h : Runs E (callStripe request answer) w r w') :
    (∃ done, w' = { w with stripeLog := (request, done) :: w.stripeLog }) ∧
      ∃ env, E env ∧ ∀ a, r = .ok a → answer env.stripe = .ok a := by
  obtain ⟨env, henv, heq⟩ := runs_stmt.mp h
  split at heq
  · rename_i a ha
    obtain ⟨rfl, rfl⟩ := Prod.mk.inj heq
    exact ⟨⟨true, rfl⟩, env, henv, fun a' ha' => Except.ok.inj ha' ▸ ha⟩
  · obtain ⟨rfl, rfl⟩ := Prod.mk.inj heq
    exact ⟨⟨true, rfl⟩, env, henv, fun _ ha => nomatch ha⟩
  · obtain ⟨rfl, rfl⟩ := Prod.mk.inj heq
    exact ⟨⟨false, rfl⟩, env, henv, fun _ ha => nomatch ha⟩

/-- A request that Stripe always answers with `a` returns `a`. -/
theorem runs_callStripe_ok {request : StripeRequest} {answer : StripeApi → Answer α}
    {r : Except Err α} {a : α} (hanswer : ∀ env, E env → answer env.stripe = .ok a)
    (h : Runs E (callStripe request answer) w r w') :
    r = .ok a ∧ w' = { w with stripeLog := (request, true) :: w.stripeLog } := by
  obtain ⟨env, henv, heq⟩ := runs_stmt.mp h
  simp only [hanswer env henv] at heq
  obtain ⟨rfl, rfl⟩ := Prod.mk.inj heq
  exact ⟨rfl, rfl⟩

end Runs

/-! ### Writing a row -/

section Rows

variable {w w' : World} {id : Id}

/-- `subscription.update` rewrites one row of one table. -/
theorem updateSubscription_eq_ok {data : Subscription → Subscription}
    (h : w.updateSubscription id data = .ok w') :
    ∃ t, w.subscriptions.update? id data = some t ∧ w' = { w with subscriptions := t } := by
  simp only [World.updateSubscription] at h
  split at h
  · exact nomatch h
  · split at h
    · rename_i t ht
      exact ⟨t, ht, (Except.ok.inj h).symm⟩
    · exact nomatch h

/-- `invoice.update` rewrites one row of one table. -/
theorem updateInvoice_eq_ok {data : Invoice → Invoice} (h : w.updateInvoice id data = .ok w') :
    ∃ t, w.invoices.update? id data = some t ∧ w' = { w with invoices := t } := by
  simp only [World.updateInvoice] at h
  split at h
  · exact nomatch h
  · split at h
    · rename_i t ht
      exact ⟨t, ht, (Except.ok.inj h).symm⟩
    · exact nomatch h

/-- `invoice.create` adds a row to one table. -/
theorem createInvoice_eq_ok {row : Invoice} (h : w.createInvoice row = .ok w') :
    ∃ t, w.invoices.insert? row = some t ∧ w' = { w with invoices := t } := by
  simp only [World.createInvoice] at h
  split at h
  · exact nomatch h
  · split at h
    · rename_i t ht
      exact ⟨t, ht, (Except.ok.inj h).symm⟩
    · exact nomatch h

/-- A row that fits its columns and meets the constraints of the table is added. -/
theorem createInvoice_of_fits {row : Invoice} {t : Table Invoice} (hfits : row.FitsColumns)
    (ht : w.invoices.insert? row = some t) :
    w.createInvoice row = .ok { w with invoices := t } := by
  simp only [World.createInvoice, hfits, not_true_eq_false, if_false, ht]

/-- `subscription.create` adds a row to one table. -/
theorem createSubscription_eq_ok {row : Subscription} (h : w.createSubscription row = .ok w') :
    ∃ t, w.subscriptions.insert? row = some t ∧ w' = { w with subscriptions := t } := by
  simp only [World.createSubscription] at h
  split at h
  · rename_i t ht
    exact ⟨t, ht, (Except.ok.inj h).symm⟩
  · exact nomatch h

/-- The subscriptions after an update, under every id. -/
theorem find?_updateSubscription {data : Subscription → Subscription}
    (h : w.updateSubscription id data = .ok w') (hid : ∀ s, (data s).id = s.id) (k : Id) :
    w'.subscriptions.find? k =
      if k = id then (w.subscriptions.find? id).map data else w.subscriptions.find? k := by
  obtain ⟨t, ht, rfl⟩ := updateSubscription_eq_ok h
  exact Table.find?_update? ht hid k

/-- The invoices after an update, under every id. -/
theorem find?_updateInvoice {data : Invoice → Invoice} (h : w.updateInvoice id data = .ok w')
    (hid : ∀ i, (data i).id = i.id) (k : Id) :
    w'.invoices.find? k =
      if k = id then (w.invoices.find? id).map data else w.invoices.find? k := by
  obtain ⟨t, ht, rfl⟩ := updateInvoice_eq_ok h
  exact Table.find?_update? ht hid k

/-- The invoices after an insert, under every id. -/
theorem find?_createInvoice {row : Invoice} (h : w.createInvoice row = .ok w') (k : Id) :
    w'.invoices.find? k = if k = row.id then some row else w.invoices.find? k := by
  obtain ⟨t, ht, rfl⟩ := createInvoice_eq_ok h
  exact Table.find?_insert? ht k

/-- A rewrite that keeps the unique columns is executed. -/
theorem updateInvoice_of_kept {invoice : Invoice} (data : Invoice → Invoice)
    (hfind : w.invoices.find? invoice.id = some invoice) (hid : ∀ row, (data row).id = row.id)
    (hkept : ∀ u ∈ Row.uniques (ρ := Invoice), u (data invoice) = u invoice) :
    ∃ invoices, w.invoices.update? invoice.id data = some invoices ∧
      w.updateInvoice invoice.id data = .ok { w with invoices } := by
  obtain ⟨invoices, hinvoices⟩ : ∃ t, w.invoices.update? invoice.id data = some t := by
    refine Table.update?_of_preserves hid fun u hu row hrow hkey => ?_
    obtain rfl := Table.eq_of_key_eq hrow (Table.mem_of_find? hfind) hkey
    exact hkept u hu
  exact ⟨invoices, hinvoices, by simp [World.updateInvoice, hfind, hinvoices]⟩

/-- An update that keeps the unique fields is carried out. -/
theorem updateSubscription_of_kept {subscription : Subscription}
    (data : Subscription → Subscription)
    (hfind : w.subscriptions.find? subscription.id = some subscription)
    (hid : ∀ row, (data row).id = row.id)
    (hkept : ∀ u ∈ Row.uniques (ρ := Subscription), u (data subscription) = u subscription) :
    ∃ subscriptions, w.subscriptions.update? subscription.id data = some subscriptions ∧
      w.updateSubscription subscription.id data = .ok { w with subscriptions } := by
  obtain ⟨subscriptions, hsubscriptions⟩ : ∃ t, w.subscriptions.update? subscription.id data =
    some t := by
    refine Table.update?_of_preserves hid fun u hu row hrow hkey => ?_
    obtain rfl := Table.eq_of_key_eq hrow (Table.mem_of_find? hfind) hkey
    exact hkept u hu
  exact ⟨subscriptions, hsubscriptions, by simp [World.updateSubscription, hfind, hsubscriptions]⟩

/-- An update of a subscription leaves the invoices alone. -/
theorem updateSubscription_invoices {data : Subscription → Subscription}
    (h : w.updateSubscription id data = .ok w') : w'.invoices = w.invoices := by
  obtain ⟨t, -, rfl⟩ := updateSubscription_eq_ok h
  rfl

/-- An update of an invoice leaves the subscriptions alone. -/
theorem updateInvoice_subscriptions {data : Invoice → Invoice}
    (h : w.updateInvoice id data = .ok w') : w'.subscriptions = w.subscriptions := by
  obtain ⟨t, -, rfl⟩ := updateInvoice_eq_ok h
  rfl

/-- A new invoice leaves the subscriptions alone. -/
theorem createInvoice_subscriptions {row : Invoice} (h : w.createInvoice row = .ok w') :
    w'.subscriptions = w.subscriptions := by
  obtain ⟨t, -, rfl⟩ := createInvoice_eq_ok h
  rfl

end Rows

/-! ### Statements under the next answer -/

section Feed

variable {α : Type} {env : Env} {es : List Env} {w w' : World}

/-- The clock takes one environment. -/
theorem feed_clock (env : Env) (es : List Env) (w : World) :
    clock.feed (env :: es) w = (some (.ok env.now), es, w) := rfl

/-- A read that the database answers takes one environment. -/
theorem feed_read_ok (f : World → α) (hdb : env.dbError = none) :
    (read f).feed (env :: es) w = (some (.ok (f w)), es, w) := by
  simp [read, hdb]

/-- A read that the database refuses takes one environment too. -/
theorem feed_read_refused (f : World → α) {m : String} (hdb : env.dbError = some m) :
    (read f).feed (env :: es) w = (some (.error (.database m)), es, w) := by
  simp [read, hdb]

/-- A statement that is carried out takes one environment. -/
theorem feed_mutate_ok {f : Env → World → Except Err (α × World)} {a : α} (hdb : env.dbError = none)
    (hf : f env w = .ok (a, w')) : (mutate f).feed (env :: es) w = (some (.ok a), es, w') := by
  simp [mutate, hdb, hf]

/-- A statement that fails takes one environment. -/
theorem feed_mutate_error {f : Env → World → Except Err (α × World)} {e : Err}
    (hdb : env.dbError = none) (hf : f env w = .error e) :
    (mutate f).feed (env :: es) w = (some (.error e), es, w) := by
  simp [mutate, hdb, hf]

/-- A statement that the database refuses takes one environment. -/
theorem feed_mutate_refused (f : Env → World → Except Err (α × World)) {m : String}
    (hdb : env.dbError = some m) :
    (mutate f).feed (env :: es) w = (some (.error (.database m)), es, w) := by
  simp [mutate, hdb]

end Feed

/-! ### Sample rows and Stripe objects -/

/-- A subscription to the plan `sampleWorld` sells, with the period from 0 to 100. -/
def sampleSubscription (status : SubscriptionStatus) : Subscription where
  id := "sub"
  userId := "buyer"
  planId := "plan"
  paymentProvider := .stripe
  externalSubscriptionId := some "sub_1"
  status := status
  currentPeriodStart := some 0
  currentPeriodEnd := some 100
  gracePeriodEndsAt := none
  cancelAtPeriodEnd := false
  createdAt := 0

def samplePlan : Plan where
  id := "plan"
  productId := "product"
  name := "Basic"
  priceCents := 1000
  currency := "USD"
  period := .month
  quotaRequests := 10
  rateLimitRpm := none
  allowOverage := false
  overageUnitRequests := none
  overagePriceCents := none
  isActive := true
  createdAt := 0

def sampleProduct : ApiProduct where
  id := "product"
  ownerId := "seller"
  title := "Search"
  description := "Full-text search"
  category := "data"
  tags := ["search"]
  status := .published
  createdAt := 0
  updatedAt := 0

/-- The database with one product, one plan and one subscription. -/
def sampleWorld (subscription : Subscription) : World :=
  { World.empty with
    products := .singleton sampleProduct
    plans := .singleton samplePlan
    subscriptions := .singleton subscription }

def sampleConfig : AppConfig where
  port := 3000
  paymentProvider := .stripe
  billingGracePeriodDays := 3
  billingReconciliationEnabled := true
  billingManagedRetryEnabled := true
  billingManagedRetryBatchSize := 20
  billingManagedRetryDelaysMinutes := [60]
  billingOverageCollectionEnabled := true
  billingOverageCollectionBatchSize := 20
  usageIngestSecret := "secret"
  usageIngestQueueEnabled := false
  usageIngestQueueBatchSize := 100
  apiKeySalt := "salt"

/-- An invoice of the sample subscription, known to Stripe as `in_1`. -/
def sampleInvoice (kind : InvoiceKind) (status : InvoiceStatus) : Invoice where
  id := "inv"
  subscriptionId := "sub"
  paymentProvider := .stripe
  kind := kind
  externalCheckoutSessionId := none
  externalInvoiceId := some "in_1"
  overageSourceInvoiceId := none
  overageProcessedAt := none
  overageRequests := none
  overageUnits := none
  amountCents := 1000
  currency := "USD"
  status := status
  attemptCount := 1
  nextPaymentAttemptAt := none
  toManagedRetryState := clearManagedRetryState
  periodStart := 0
  periodEnd := 100
  createdAt := 0

def sampleBilling (subscription : Subscription) (invoice : Invoice) : World :=
  { sampleWorld subscription with invoices := .singleton invoice }

/-- `in_1` as Stripe knows it: an invoice of `sub_1`. -/
def sampleStripeInvoice (status : StripeInvoiceStatus) : StripeInvoice where
  id := "in_1"
  status := some status
  billingReason := some .subscriptionCycle
  total := ⟨1000, by decide⟩
  currency := "usd"
  attemptCount := some 1
  nextPaymentAttempt := none
  periodStart := 0
  periodEnd := 1
  metadataInvoiceId := none
  subscriptionDetails := some ⟨none, some "sub_1"⟩
  subscription := none

/-- `sub_1` as Stripe knows it. -/
def sampleSnapshot (status : StripeSubscriptionStatus) (latestInvoice : LatestInvoice) :
    StripeSubscription where
  id := "sub_1"
  status := status
  cancelAtPeriodEnd := false
  items := [⟨some 0, some 1⟩]
  metadataInvoiceId := none
  latestInvoice := latestInvoice
  customer := some "cus_1"

/-- Stripe takes the items of an overage, and answers like this about its invoice. -/
def overageEnv (now : Int) (invoice : Answer StripeInvoice) : Env :=
  { Env.available now "overage" with
    stripe :=
      { StripeApi.unavailable with
        retrieveSubscription := fun _ => .ok (sampleSnapshot .active .null)
        createInvoiceItem := fun _ => .ok ()
        createInvoice := fun _ => invoice } }

end HivePoint
