import HivePoint.Native.AnalyticsService
import HivePoint.Spec.Statements

/-!
# The seller's overview

`getSellerOverview` goes over the rows that its queries select and fills one map after another.
What it shows is what the tables say: numbers of rows, sums and numbers of different users, product
by product.
-/

namespace HivePoint

open OrderedMap Prog

/-! ### Sets of clients -/

/-- The new set has one element more. -/
private theorem mem_addToSet {set : List Id} {value a : Id} :
    a ∈ addToSet set value ↔ a ∈ set ∨ a = value := by
  unfold addToSet
  by_cases hmem : value ∈ set
  · rw [if_pos hmem]
    constructor
    · exact .inl
    · intro h
      cases h with
      | inl h => exact h
      | inr h => exact h ▸ hmem
  · rw [if_neg hmem, List.mem_append, List.mem_singleton]

/-- No element is in it twice. -/
private theorem nodup_addToSet {set : List Id} (h : set.Nodup) (value : Id) :
    (addToSet set value).Nodup := by
  unfold addToSet
  by_cases hmem : value ∈ set
  · rwa [if_pos hmem]
  · rw [if_neg hmem]
    exact List.nodup_append.mpr ⟨h, List.nodup_singleton value, fun a ha b hb =>
      fun heq => hmem (List.mem_singleton.mp hb ▸ heq ▸ ha)⟩

/-- The elements of a set to which many were added. -/
private theorem mem_foldl_addToSet (values set : List Id) (a : Id) :
    a ∈ values.foldl addToSet set ↔ a ∈ set ∨ a ∈ values := by
  induction values generalizing set with
  | nil => simp
  | cons value values ih =>
    rw [List.foldl_cons, ih, mem_addToSet, List.mem_cons, or_assoc]

/-- No element is in it twice. -/
private theorem nodup_foldl_addToSet (values : List Id) {set : List Id} (h : set.Nodup) :
    (values.foldl addToSet set).Nodup := by
  induction values generalizing set with
  | nil => exact h
  | cons value values ih => exact ih (nodup_addToSet h value)

/-- A set that is filled value by value has as many members as there are different values. -/
private theorem length_foldl_addToSet (values : List Id) :
    (values.foldl addToSet []).length = values.dedup.length := by
  have hperm : (values.foldl addToSet []).Perm values.dedup := by
    refine (List.perm_ext_iff_of_nodup (nodup_foldl_addToSet values List.nodup_nil)
      values.nodup_dedup).mpr fun a => ?_
    rw [mem_foldl_addToSet, List.mem_dedup]
    simp
  exact hperm.length_eq

/-! ### The loops -/

section Loops

variable (windowStart : Int) (productOf : OrderedMap Id Id)

/-- The subscriptions whose plan is one of a product, with that product. -/
def subscriptionsByProduct (subscriptions : List AnalyticsSubscription) :
    List (Id × AnalyticsSubscription) :=
  subscriptions.filterMap fun s => (productOf.get? s.planId).map (·, s)

/-- The loop over the subscriptions fills each map from those that count for it. -/
private theorem tallySubscriptions_eq (subscriptions : List AnalyticsSubscription) :
    tallySubscriptions windowStart productOf subscriptions =
      { subscriptions30dByProductId :=
          collect (·.1) (fun old _ => old.getD 0 + 1)
            ((subscriptionsByProduct productOf subscriptions).filter (windowStart ≤ ·.2.createdAt))
        activeClientsByProductId :=
          collect (·.1) (fun old s => addToSet (old.getD []) s.2.userId)
            ((subscriptionsByProduct productOf subscriptions).filter fun s =>
              s.2.status = .active ∨ s.2.status = .pastDue)
        pastDueClientsByProductId :=
          collect (·.1) (fun old s => addToSet (old.getD []) s.2.userId)
            ((subscriptionsByProduct productOf subscriptions).filter (·.2.status = .pastDue))
        activeMrrCents :=
          ((subscriptionsByProduct productOf subscriptions).filter (·.2.status = .active)).map
            (·.2.priceCents) |>.sum } := by
  -- from any tally, as the loop is run on
  have hgeneral : ∀ (l : List AnalyticsSubscription) (tally : SubscriptionTally),
      l.foldl (·.add windowStart productOf ·) tally =
        { subscriptions30dByProductId :=
            collectFrom tally.subscriptions30dByProductId (·.1) (fun old _ => old.getD 0 + 1)
              ((subscriptionsByProduct productOf l).filter (windowStart ≤ ·.2.createdAt))
          activeClientsByProductId :=
            collectFrom tally.activeClientsByProductId (·.1)
              (fun old s => addToSet (old.getD []) s.2.userId)
              ((subscriptionsByProduct productOf l).filter fun s =>
                s.2.status = .active ∨ s.2.status = .pastDue)
          pastDueClientsByProductId :=
            collectFrom tally.pastDueClientsByProductId (·.1)
              (fun old s => addToSet (old.getD []) s.2.userId)
              ((subscriptionsByProduct productOf l).filter (·.2.status = .pastDue))
          activeMrrCents := tally.activeMrrCents +
            (((subscriptionsByProduct productOf l).filter (·.2.status = .active)).map
              (·.2.priceCents)).sum } := by
    intro l
    induction l with
    | nil =>
      intro tally
      simp [subscriptionsByProduct, collectFrom]
    | cons s l ih =>
      intro tally
      rw [List.foldl_cons, ih]
      -- a subscription of an unknown plan is skipped
      cases hproduct : productOf.get? s.planId with
      | none =>
        have hskip : tally.add windowStart productOf s = tally := by
          simp only [SubscriptionTally.add, hproduct]
        have hrest : subscriptionsByProduct productOf (s :: l) =
            subscriptionsByProduct productOf l := by
          simp [subscriptionsByProduct, hproduct]
        rw [hskip, hrest]
      | some productId =>
        have hrest : subscriptionsByProduct productOf (s :: l) =
            (productId, s) :: subscriptionsByProduct productOf l := by
          simp [subscriptionsByProduct, hproduct]
        rw [hrest]
        simp only [SubscriptionTally.add, hproduct, List.filter_cons]
        -- the four figures of one subscription
        congr 1
        · by_cases h : windowStart ≤ s.createdAt <;> simp [h, addAmount, collectFrom]
        · by_cases h : s.status = .active ∨ s.status = .pastDue <;>
            simp [h, addClient, collectFrom]
        · by_cases h : s.status = .pastDue <;> simp [h, addClient, collectFrom]
        · by_cases h : s.status = .active <;> simp [h, add_assoc]
  have hstart := hgeneral subscriptions ⟨.empty, .empty, .empty, 0⟩
  simp only [zero_add] at hstart
  exact hstart

/-- The failed payments are counted by product. -/
private theorem tallyFailedPayments_eq (failedInvoices : List Id) :
    tallyFailedPayments productOf failedInvoices =
      collect id (fun old _ => old.getD 0 + 1) (failedInvoices.filterMap productOf.get?) := by
  -- from any map, as the loop is run on
  have hgeneral : ∀ (l : List Id) (m : OrderedMap Id Nat),
      l.foldl (addFailedPayment productOf) m =
        collectFrom m id (fun old _ => old.getD 0 + 1) (l.filterMap productOf.get?) := by
    intro l
    induction l with
    | nil => exact fun m => rfl
    | cons planId l ih =>
      intro m
      rw [List.foldl_cons, ih]
      cases hproduct : productOf.get? planId with
      | none =>
        have hskip : addFailedPayment productOf m planId =
            m := by simp only [addFailedPayment, hproduct]
        rw [hskip, List.filterMap_cons_none hproduct]
      | some productId =>
        rw [List.filterMap_cons_some hproduct]
        simp only [addFailedPayment, hproduct]
        rfl
  exact hgeneral failedInvoices .empty

/-- The usage of the plans of a product, with that product. -/
def usageByProduct (usageRecords : List AnalyticsUsage) : List (Id × AnalyticsUsage) :=
  usageRecords.filterMap fun r => (productOf.get? r.planId).map (·, r)

/-- The usage is added up by product, and by endpoint within it. -/
private theorem tallyUsage_eq (usageRecords : List AnalyticsUsage) :
    tallyUsage productOf usageRecords =
      { requestsByProductId :=
          collect (·.1) (fun old r => old.getD 0 + r.2.requestCount)
            (usageByProduct productOf usageRecords)
        topEndpointsByProductId :=
          collect (·.1) (fun old r => addAmount (old.getD .empty) r.2.endpoint r.2.requestCount)
            (usageByProduct productOf usageRecords) } := by
  -- from any tally, as the loop is run on
  have hgeneral : ∀ (l : List AnalyticsUsage) (tally : UsageTally),
      l.foldl (·.add productOf ·) tally =
        { requestsByProductId :=
            collectFrom tally.requestsByProductId (·.1)
              (fun old r => old.getD 0 + r.2.requestCount) (usageByProduct productOf l)
          topEndpointsByProductId :=
            collectFrom tally.topEndpointsByProductId (·.1)
              (fun old r => addAmount (old.getD .empty) r.2.endpoint r.2.requestCount)
              (usageByProduct productOf l) } := by
    intro l
    induction l with
    | nil => exact fun tally => rfl
    | cons r l ih =>
      intro tally
      rw [List.foldl_cons, ih]
      -- a record of an unknown plan is skipped
      cases hproduct : productOf.get? r.planId with
      | none =>
        have hskip : tally.add productOf r = tally := by simp only [UsageTally.add, hproduct]
        have hrest : usageByProduct productOf (r :: l) = usageByProduct productOf l := by
          simp [usageByProduct, hproduct]
        rw [hskip, hrest]
      | some productId =>
        have hrest : usageByProduct productOf (r :: l) =
            (productId, r) :: usageByProduct productOf l := by
          simp [usageByProduct, hproduct]
        rw [hrest]
        simp only [UsageTally.add, hproduct]
        rfl
  exact hgeneral usageRecords ⟨.empty, .empty⟩

end Loops

/-! ### What the tables say -/

section Tables

variable (w : World)

/-- The product that a plan is one of. -/
def World.productOfPlan (planId : Id) : Option Id := (w.plans.find? planId).map (·.productId)

def World.productOfSubscription (subscriptionId : Id) : Option Id :=
  (w.subscriptions.find? subscriptionId).bind fun s => w.productOfPlan s.planId

/-- The products whose figures a user sees. -/
def World.managedProducts (user : AuthenticatedUser) : List ApiProduct :=
  w.products.rows.filter fun product => user.role = .admin || product.ownerId = user.id

def World.subscribersOf (productId : Id) : List Subscription :=
  w.subscriptions.rows.filter fun s => w.productOfPlan s.planId = some productId

def World.failedInvoicesOf (windowStart : Int) (productId : Id) : List Invoice :=
  w.invoices.rows.filter fun i =>
    windowStart ≤ i.createdAt && (i.status = .pastDue || i.status = .void) &&
      w.productOfSubscription i.subscriptionId = some productId

def World.productUsage (windowStart : Int) (productId : Id) : List UsageRecord :=
  w.usageRecords.rows.filter fun r =>
    windowStart ≤ r.occurredAt && w.productOfSubscription r.subscriptionId = some productId

/-- The price of a plan. -/
def World.priceOf (planId : Id) : Int := ((w.plans.find? planId).map (·.priceCents)).getD 0

end Tables

/-! ### The plans of the products -/

section Plans

variable {w : World} {user : AuthenticatedUser}

/-- The plans of the products, each with its product. -/
def plansWithProduct (products : List AnalyticsProduct) : List (Id × Id) :=
  products.flatMap fun product => product.plans.map fun plan => (plan, product.id)

/-- The map of the plans takes the product of each plan's last entry. -/
private theorem planIdToProductId_eq (products : List AnalyticsProduct) :
    planIdToProductId products = collect (·.1) (fun _ e => e.2) (plansWithProduct products) := by
  unfold planIdToProductId plansWithProduct collect collectFrom
  rw [List.foldl_flatMap]
  simp only [List.foldl_map]

/-- The pairs are the plans of the products that the user manages. -/
private theorem mem_plansWithProduct {planId productId : Id} :
    (planId, productId) ∈ plansWithProduct (w.analyticsProducts user) ↔
      (∃ product ∈ w.managedProducts user, product.id = productId) ∧
        w.productOfPlan planId = some productId := by
  unfold plansWithProduct World.analyticsProducts
  rw [List.mem_flatMap]
  constructor
  -- a plan of a selected product
  · rintro ⟨selected, hselected, hpair⟩
    obtain ⟨product, hproduct, rfl⟩ := List.mem_map.mp hselected
    obtain ⟨plan, hplan, heq⟩ := List.mem_map.mp hpair
    obtain ⟨rfl, rfl⟩ := Prod.mk.inj heq
    replace hplan : plan ∈ (w.plans.rows.filter (·.productId = product.id)).map (·.id) := hplan
    obtain ⟨row, hrow, rfl⟩ := List.mem_map.mp hplan
    obtain ⟨hmem, hrowProduct⟩ := List.mem_filter.mp hrow
    refine ⟨⟨product, List.mem_mergeSort.mp hproduct, rfl⟩, ?_⟩
    have hfind : w.plans.find? row.id = some row := Table.find?_key hmem
    rw [World.productOfPlan, hfind, Option.map_some, of_decide_eq_true hrowProduct]
  -- and every plan of such a product is selected
  · rintro ⟨⟨product, hproduct, rfl⟩, hplan⟩
    obtain ⟨row, hfind, hrowProduct⟩ := Option.map_eq_some_iff.mp hplan
    refine ⟨_, List.mem_map.mpr ⟨product, List.mem_mergeSort.mpr hproduct, rfl⟩, ?_⟩
    refine List.mem_map.mpr ⟨planId, List.mem_map.mpr ⟨row, ?_, Table.key_of_find? hfind⟩, rfl⟩
    exact List.mem_filter.mpr ⟨Table.mem_of_find? hfind, decide_eq_true hrowProduct⟩

/-- The map finds the product of a plan, if it is one of the user's. -/
private theorem get?_planIdToProductId {planId productId : Id} :
    (planIdToProductId (w.analyticsProducts user)).get? planId = some productId ↔
      (∃ product ∈ w.managedProducts user, product.id = productId) ∧
        w.productOfPlan planId = some productId := by
  rw [planIdToProductId_eq, get?_collect, foldStep_last, Option.or_none]
  have hmem : ∀ e ∈ (plansWithProduct (w.analyticsProducts user)).filter (·.1 = planId),
      (∃ product ∈ w.managedProducts user, product.id = e.2) ∧ w.productOfPlan planId =
        some e.2 := by
    intro e he
    obtain ⟨he, hplan⟩ := List.mem_filter.mp he
    have hplan : e.1 = planId := of_decide_eq_true hplan
    exact mem_plansWithProduct.mp (hplan ▸ he)
  constructor
  · intro h
    obtain ⟨e, he, rfl⟩ := Option.map_eq_some_iff.mp h
    exact hmem e (List.mem_of_getLast? he)
  · intro h
    have hfound : (planId, productId) ∈
        (plansWithProduct (w.analyticsProducts user)).filter (·.1 = planId) :=
      List.mem_filter.mpr ⟨mem_plansWithProduct.mpr h, by simp⟩
    cases hlast :
      ((plansWithProduct (w.analyticsProducts user)).filter (·.1 = planId)).getLast? with
    | none =>
      rw [List.getLast?_eq_none_iff.mp hlast] at hfound
      exact absurd hfound List.not_mem_nil
    | some e =>
      -- a plan is one of one product
      have he := (hmem e (List.mem_of_getLast? hlast)).2
      rw [h.2] at he
      rw [Option.map_some, Option.some.inj he]

/-- The plans of the map. -/
private theorem mem_keys_planIdToProductId {planId : Id} :
    planId ∈ (planIdToProductId (w.analyticsProducts user)).keys ↔
      ∃ product ∈ w.managedProducts user, w.productOfPlan planId = some product.id := by
  rw [mem_keys_iff, Option.isSome_iff_exists]
  constructor
  · rintro ⟨productId, h⟩
    obtain ⟨⟨product, hproduct, rfl⟩, hplan⟩ := get?_planIdToProductId.mp h
    exact ⟨product, hproduct, hplan⟩
  · rintro ⟨product, hproduct, hplan⟩
    exact ⟨product.id, get?_planIdToProductId.mpr ⟨⟨product, hproduct, rfl⟩, hplan⟩⟩

end Plans

/-! ### What the queries select for a product -/

section Selected

variable {w : World} {user : AuthenticatedUser} {product : ApiProduct}

/-- A query with a join, the lookup of the product, and the selection of one product, row by row. -/
private theorem filter_filterMap_eq_map {α β γ : Type} {p r : α → Bool} {f : α → Option β}
    {k : β → Option γ} {q : γ → Bool} {g : α → γ}
    (h : ∀ a, (if p a then (f a).bind fun b => (k b).filter q else none) =
      if r a then some (g a) else none) (l : List α) :
    (((l.filter p).filterMap f).filterMap k).filter q = (l.filter r).map g := by
  -- induction on the rows: both sides take the first row or leave it
  induction l with
  | nil => rfl
  | cons a l ih =>
    have ha := h a
    have hright : ((a :: l).filter r).map g =
        (if r a then some (g a) else none).toList ++ (l.filter r).map g := by
      rw [List.filter_cons]
      split <;> rfl
    rw [hright, ← ha, ← ih, List.filter_cons]
    by_cases hp : p a
    · rw [if_pos hp, if_pos hp]
      cases hf : f a with
      | none =>
        rw [List.filterMap_cons_none hf]
        rfl
      | some b =>
        rw [List.filterMap_cons_some hf]
        cases hk : k b with
        | none =>
          rw [List.filterMap_cons_none hk, Option.bind_some, hk]
          rfl
        | some c =>
          rw [List.filterMap_cons_some hk, List.filter_cons, Option.bind_some, hk]
          by_cases hq : q c
          · rw [if_pos hq, Option.filter_some_pos hq]
            rfl
          · rw [if_neg hq, Option.filter_some_neg (Bool.eq_false_iff.mpr hq)]
            rfl
    · rw [if_neg hp, if_neg hp]
      rfl

/-- What the map and the tables say about the plan of a row. -/
private theorem plan_cases (hproduct : product ∈ w.managedProducts user) (planId : Id) :
    (planId ∈ (planIdToProductId (w.analyticsProducts user)).keys ∧
      (∃ plan, w.plans.find? planId = some plan) ∧
      (planIdToProductId (w.analyticsProducts user)).get? planId = w.productOfPlan planId) ∨
    (planId ∉ (planIdToProductId (w.analyticsProducts user)).keys ∧
      w.productOfPlan planId ≠ some product.id) := by
  by_cases hkey : planId ∈ (planIdToProductId (w.analyticsProducts user)).keys
  · obtain ⟨other, hother, hplan⟩ := mem_keys_planIdToProductId.mp hkey
    obtain ⟨plan, hfind, -⟩ := Option.map_eq_some_iff.mp hplan
    refine .inl ⟨hkey, ⟨plan, hfind⟩, ?_⟩
    rw [get?_planIdToProductId.mpr ⟨⟨other, hother, rfl⟩, hplan⟩, hplan]
  · refine .inr ⟨hkey, fun hplan => hkey ?_⟩
    exact mem_keys_planIdToProductId.mpr ⟨product, hproduct, hplan⟩

/-- A subscription as it is selected. -/
def World.toAnalytics (w : World) (s : Subscription) : AnalyticsSubscription :=
  ⟨s.userId, s.status, s.createdAt, s.planId, w.priceOf s.planId⟩

/-- The subscriptions to a product, as the tally sees them. -/
private theorem filter_subscriptionsByProduct (hproduct : product ∈ w.managedProducts user) :
    (subscriptionsByProduct (planIdToProductId (w.analyticsProducts user))
      (w.analyticsSubscriptions (planIdToProductId (w.analyticsProducts user)).keys)).filter
        (·.1 = product.id) =
      (w.subscribersOf product.id).map fun s => (product.id, w.toAnalytics s) := by
  refine filter_filterMap_eq_map (fun s => ?_) w.subscriptions.rows
  -- a plan of the user's products, or another one
  rcases plan_cases hproduct s.planId with ⟨hkey, ⟨plan, hfind⟩, hget⟩ | ⟨hkey, hplan⟩
  · rw [if_pos (decide_eq_true hkey), hfind, Option.map_some, Option.bind_some, hget]
    by_cases hplan : w.productOfPlan s.planId = some product.id
    · simp [hplan, World.toAnalytics, World.priceOf, hfind]
    · cases hother : w.productOfPlan s.planId with
      | none => simp
      | some other =>
        rw [hother] at hplan
        have hne : other ≠ product.id := fun h => hplan (congrArg some h)
        simp [hne]
  · simp [hkey, hplan]

/-- Usage as it is selected. -/
def toAnalyticsUsage (w : World) (r : UsageRecord) : AnalyticsUsage :=
  ⟨r.endpoint, r.requestCount, ((w.subscriptions.find? r.subscriptionId).map (·.planId)).getD ""⟩

/-- The usage of a product, as the tally sees it. -/
private theorem filter_usageByProduct (hproduct : product ∈ w.managedProducts user)
    (windowStart : Int) :
    (usageByProduct (planIdToProductId (w.analyticsProducts user))
      (w.analyticsUsageRecords windowStart
        (planIdToProductId (w.analyticsProducts user)).keys)).filter (·.1 = product.id) =
      (w.productUsage windowStart product.id).map fun r => (product.id, toAnalyticsUsage w r) := by
  refine filter_filterMap_eq_map (fun r => ?_) w.usageRecords.rows
  by_cases hwindow : windowStart ≤ r.occurredAt
  · cases hfind : w.subscriptions.find? r.subscriptionId with
    | none => simp [hwindow, World.productOfSubscription, hfind]
    | some s =>
      -- a plan of the user's products, or another one
      rcases plan_cases hproduct s.planId with ⟨hkey, -, hget⟩ | ⟨hkey, hplan⟩
      · have hselected : (some s.planId).filter
            (· ∈ (planIdToProductId (w.analyticsProducts user)).keys) = some s.planId :=
          Option.filter_some_pos (decide_eq_true hkey)
        by_cases hplan : w.productOfPlan s.planId = some product.id
        · simp [hwindow, World.productOfSubscription, hfind, hselected, hget, hplan,
            toAnalyticsUsage]
        · cases hother : w.productOfPlan s.planId with
          | none => simp [hwindow, World.productOfSubscription, hfind, hselected, hget, hother]
          | some other =>
            rw [hother] at hplan
            have hne : other ≠ product.id := fun h => hplan (congrArg some h)
            simp [hwindow, World.productOfSubscription, hfind, hselected, hget, hother, hne]
      · simp [hwindow, World.productOfSubscription, hfind, hkey, hplan]
  · simp [hwindow]

/-- The failed invoices of a product, as the tally sees them. -/
private theorem filter_failedInvoices (hproduct : product ∈ w.managedProducts user)
    (windowStart : Int) :
    ((w.analyticsFailedInvoices windowStart
      (planIdToProductId (w.analyticsProducts user)).keys).filterMap
        (planIdToProductId (w.analyticsProducts user)).get?).filter (· = product.id) =
      (w.failedInvoicesOf windowStart product.id).map fun _ => product.id := by
  refine filter_filterMap_eq_map (fun i => ?_) w.invoices.rows
  by_cases hfailed : (windowStart ≤ i.createdAt && (i.status = .pastDue || i.status = .void)) = true
  · rw [if_pos hfailed, hfailed, Bool.true_and]
    cases hfind : w.subscriptions.find? i.subscriptionId with
    | none => simp [World.productOfSubscription, hfind]
    | some s =>
      -- a plan of the user's products, or another one
      rcases plan_cases hproduct s.planId with ⟨hkey, -, hget⟩ | ⟨hkey, hplan⟩
      · have hselected : (some s.planId).filter
            (· ∈ (planIdToProductId (w.analyticsProducts user)).keys) = some s.planId :=
          Option.filter_some_pos (decide_eq_true hkey)
        by_cases hplan : w.productOfPlan s.planId = some product.id
        · simp [World.productOfSubscription, hfind, hselected, hget, hplan]
        · cases hother : w.productOfPlan s.planId with
          | none => simp [World.productOfSubscription, hfind, hselected, hget, hother]
          | some other =>
            rw [hother] at hplan
            have hne : other ≠ product.id := fun h => hplan (congrArg some h)
            simp [World.productOfSubscription, hfind, hselected, hget, hother, hne]
      · simp [World.productOfSubscription, hfind, hkey, hplan]
  · have hfalse := Bool.eq_false_iff.mpr hfailed
    rw [if_neg hfailed, hfalse, Bool.false_and]
    rfl

end Selected

/-! ### The endpoints of a product -/

/-- `shown` are the endpoints with the most requests of `usage`, at most five. -/
structure TopEndpoints (usage : List UsageRecord) (shown : List (String × Int)) : Prop where
  totals : ∀ e ∈ shown, (∃ r ∈ usage, r.endpoint = e.1) ∧
    e.2 = ((usage.filter (·.endpoint = e.1)).map (·.requestCount)).sum
  distinct : (shown.map (·.1)).Nodup
  sorted : shown.Pairwise fun a b => b.2 ≤ a.2
  length_le : shown.length ≤ 5
  complete : ∀ r ∈ usage, r.endpoint ∉ shown.map (·.1) → shown.length = 5 ∧
    ∀ e ∈ shown, ((usage.filter (·.endpoint = r.endpoint)).map (·.requestCount)).sum ≤ e.2

section Endpoints

variable {α : Type} (amount : α → Int)

/-- The larger amounts come first. -/
private theorem pairwise_mergeSort_amount (l : List α) :
    (l.mergeSort fun a b => amount b - amount a ≤ 0).Pairwise fun a b => amount b ≤ amount a := by
  have hsorted := @List.pairwise_mergeSort α (fun a b => decide (amount b - amount a ≤ 0))
    (by intro a b c; simp only [decide_eq_true_eq]; omega)
    (by intro a b; simp only [Bool.or_eq_true, decide_eq_true_eq]; omega) l
  refine hsorted.imp fun h => ?_
  have h := of_decide_eq_true h
  omega

/-- In a sorted list, what is not among the first has no more than any of them. -/
private theorem le_of_notMem_take {l : List α} (hsorted : l.Pairwise fun a b => amount b ≤ amount a)
    {n : Nat} {a : α} (ha : a ∈ l) (hout : a ∉ l.take n) :
    (l.take n).length = n ∧ ∀ b ∈ l.take n, amount a ≤ amount b := by
  rw [← List.take_append_drop n l, List.mem_append] at ha
  have hdrop : a ∈ l.drop n := ha.resolve_left hout
  constructor
  · have hlength : 0 < (l.drop n).length := List.length_pos_of_mem hdrop
    rw [List.length_drop] at hlength
    rw [List.length_take]
    omega
  · rw [← List.take_append_drop n l, List.pairwise_append] at hsorted
    exact fun b hb => hsorted.2.2 b hb a hdrop

end Endpoints

/-- The requests per endpoint that `topEndpointsByProductId` keeps for a product. -/
def endpointTotals (usage : List UsageRecord) : OrderedMap String Int :=
  collect (·.endpoint) (fun old r => old.getD 0 + r.requestCount) usage

/-- The total of an endpoint, if it was called at all. -/
private theorem get?_endpointTotals {usage : List UsageRecord} {endpoint : String} {total : Int} :
    (endpointTotals usage).get? endpoint = some total ↔
      (∃ r ∈ usage, r.endpoint = endpoint) ∧
        total = ((usage.filter (·.endpoint = endpoint)).map (·.requestCount)).sum := by
  have htotal := getD_foldStep_add (·.requestCount) none (usage.filter (·.endpoint = endpoint))
  rw [← get?_collect (·.endpoint) (fun old r => old.getD 0 + r.requestCount) usage endpoint,
    Option.getD_none, zero_add] at htotal
  have hnone := get?_collect_eq_none_iff (·.endpoint)
    (fun old (r : UsageRecord) => old.getD 0 + r.requestCount) usage endpoint
  unfold endpointTotals
  -- an entry is there only for an endpoint of the usage
  constructor
  · intro h
    rw [h, Option.getD_some] at htotal
    refine ⟨?_, htotal⟩
    by_contra hother
    rw [hnone.mpr fun r hr heq => hother ⟨r, hr, heq⟩] at h
    cases h
  · intro h
    obtain ⟨⟨r, hr, heq⟩, rfl⟩ := h
    cases hget : (collect (·.endpoint) (fun old (r : UsageRecord) => old.getD 0 + r.requestCount)
        usage).get? endpoint with
    | none => exact absurd heq (hnone.mp hget r hr)
    | some total =>
      rw [hget, Option.getD_some] at htotal
      rw [htotal]

/-- The endpoints that are shown are those with the largest totals. -/
private theorem topEndpoints_endpointTotals (usage : List UsageRecord) :
    TopEndpoints usage (topEndpoints (endpointTotals usage)) := by
  have hsorted := pairwise_mergeSort_amount (fun e : String × Int => e.2)
    (endpointTotals usage).entries
  have hentry : ∀ e ∈ topEndpoints (endpointTotals usage), e ∈ (endpointTotals usage).entries :=
    fun e he => List.mem_mergeSort.mp (List.mem_of_mem_take he)
  -- totals, no endpoint twice, in order, at most five, and none larger is left out
  constructor
  · intro e he
    exact get?_endpointTotals.mp ((mem_entries_iff _ e.1 e.2).mp (hentry e he))
  · have hperm := (List.mergeSort_perm (endpointTotals usage).entries
      fun a b => decide (b.2 - a.2 ≤ 0)).map (·.1)
    have hkeys := hperm.nodup_iff.mpr (endpointTotals usage).nodup
    exact hkeys.sublist ((List.take_sublist 5 _).map _)
  · exact hsorted.sublist (List.take_sublist 5 _)
  · exact List.length_take_le 5 _
  · intro r hr hout
    have hfound := get?_endpointTotals.mpr ⟨⟨r, hr, rfl⟩, rfl⟩
    have hmem : _ ∈ (endpointTotals usage).entries.mergeSort fun a b => decide (b.2 - a.2 ≤ 0) :=
      List.mem_mergeSort.mpr ((mem_entries_iff _ _ _).mpr hfound)
    refine le_of_notMem_take (fun e : String × Int => e.2) hsorted hmem fun hin => hout ?_
    exact List.mem_map_of_mem (f := fun e : String × Int => e.1) hin

/-! ### The figures of a product -/

/-- The item of a product shows what the tables say about it. -/
structure Figures (w : World) (windowStart : Int) (item : SellerProductAnalytics)
    (product : ApiProduct) : Prop where
  productId : item.productId = product.id
  title : item.title = product.title
  status : item.status = product.status
  views : item.views30d = w.productViews.countP fun view =>
    view.productId = product.id && windowStart ≤ view.viewedAt
  subscriptions : item.subscriptions30d =
    (w.subscribersOf product.id).countP (windowStart ≤ ·.createdAt)
  rate : item.conversionRate30d = conversionRate item.subscriptions30d item.views30d
  activeClients : item.activeClients =
    (((w.subscribersOf product.id).filter fun s => s.status = .active ∨ s.status = .pastDue).map
      (·.userId)).dedup.length
  pastDueClients : item.pastDueClients =
    (((w.subscribersOf product.id).filter (·.status = .pastDue)).map (·.userId)).dedup.length
  failedPayments : item.failedPayments30d = (w.failedInvoicesOf windowStart product.id).length
  requests : item.requests30d = ((w.productUsage windowStart product.id).map (·.requestCount)).sum
  latest : item.latestPublishedVersion = w.latestPublishedVersionOf product.id
  endpoints : TopEndpoints (w.productUsage windowStart product.id) item.topEndpoints

/-- The rows that the queries select in one state. -/
def World.analyticsRows (w : World) (user : AuthenticatedUser) (windowStart : Int) :
    AnalyticsRows :=
  let products := w.analyticsProducts user
  let planIds := (planIdToProductId products).keys
  { products
    viewCounts := w.analyticsViewCounts windowStart (products.map (·.id))
    subscriptions := w.analyticsSubscriptions planIds
    failedInvoices := w.analyticsFailedInvoices windowStart planIds
    usageRecords := w.analyticsUsageRecords windowStart planIds }

/-- A product as it is selected. -/
def World.toAnalyticsProduct (w : World) (product : ApiProduct) : AnalyticsProduct :=
  { id := product.id
    title := product.title
    status := product.status
    plans := (w.plans.rows.filter (·.productId = product.id)).map (·.id)
    latestPublishedVersion := w.latestPublishedVersionOf product.id }

section Product

variable {w : World} {user : AuthenticatedUser} {product : ApiProduct} (windowStart : Int)

/-- The number of views of a product, by way of the groups. -/
private theorem get?_viewsByProductId (hproduct : product ∈ w.managedProducts user) :
    ((collect (·.1) (fun _ row => row.2) (w.analyticsRows user windowStart).viewCounts).get?
      product.id).getD 0 =
      w.productViews.countP fun view => view.productId = product.id && windowStart ≤
        view.viewedAt := by
  have hid : product.id ∈ (w.analyticsProducts user).map (·.id) := by
    rw [World.analyticsProducts, List.map_map]
    exact List.mem_map.mpr ⟨product, List.mem_mergeSort.mpr hproduct, rfl⟩
  show ((collect (·.1) (fun _ row => row.2) (w.analyticsViewCounts windowStart
    ((w.analyticsProducts user).map (·.id)))).get? product.id).getD 0 = _
  rw [get?_collect, foldStep_last, Option.or_none]
  unfold World.analyticsViewCounts
  -- the views of the product are counted in its group, and only there
  have hcount : (w.productViews.filter fun view =>
      view.productId ∈ (w.analyticsProducts user).map (·.id) && windowStart ≤ view.viewedAt).countP
        (·.productId = product.id) =
      w.productViews.countP fun view => view.productId = product.id && windowStart ≤
        view.viewedAt := by
    rw [List.countP_filter]
    refine List.countP_congr fun view _ => ?_
    by_cases hview : view.productId = product.id
    · simp [hview, hid]
    · simp [hview]
  rw [← hcount]
  generalize w.productViews.filter _ = views
  dsimp only
  rw [List.filter_map]
  by_cases hmem : product.id ∈ views.map (·.productId)
  · have hgroup : (views.map (·.productId)).dedup.filter
        ((fun row : Id × Nat => decide (row.1 = product.id)) ∘ fun productId =>
          (productId, views.countP (·.productId = productId))) = [product.id] := by
      show (views.map (·.productId)).dedup.filter (· = product.id) = [product.id]
      rw [List.filter_eq, List.count_eq_one_of_mem (List.nodup_dedup _) (List.mem_dedup.mpr hmem)]
      rfl
    rw [hgroup]
    rfl
  · have hzero : views.countP (·.productId = product.id) = 0 := by
      rw [List.countP_eq_zero]
      intro view hview h
      exact hmem (of_decide_eq_true h ▸ List.mem_map_of_mem hview)
    have hgroup : (views.map (·.productId)).dedup.filter
        ((fun row : Id × Nat => decide (row.1 = product.id)) ∘ fun productId =>
          (productId, views.countP (·.productId = productId))) = [] := by
      rw [List.filter_eq_nil_iff]
      intro productId hproductId h
      exact hmem (of_decide_eq_true h ▸ List.mem_dedup.mp hproductId)
    rw [hgroup, hzero]
    rfl

/-- Of the subscriptions that count for a figure, those of one product. -/
private theorem filter_filter_subscriptionsByProduct (hproduct : product ∈ w.managedProducts user)
    (p : Id × AnalyticsSubscription → Bool) :
    ((subscriptionsByProduct (planIdToProductId (w.analyticsProducts user))
      (w.analyticsRows user windowStart).subscriptions).filter p).filter (·.1 = product.id) =
      ((w.subscribersOf product.id).filter fun s => p (product.id, w.toAnalytics s)).map
        fun s => (product.id, w.toAnalytics s) := by
  rw [List.filter_comm]
  show ((subscriptionsByProduct (planIdToProductId (w.analyticsProducts user))
    (w.analyticsSubscriptions (planIdToProductId (w.analyticsProducts user)).keys)).filter
      (·.1 = product.id)).filter p = _
  rw [filter_subscriptionsByProduct hproduct, List.filter_map]
  rfl

/-- A map of sets of clients has as many clients of a product as subscribed to it. -/
private theorem length_clients (hproduct : product ∈ w.managedProducts user)
    (p : Id × AnalyticsSubscription → Bool) :
    (((collect (·.1) (fun old s => addToSet (old.getD []) s.2.userId)
      ((subscriptionsByProduct (planIdToProductId (w.analyticsProducts user))
        (w.analyticsRows user windowStart).subscriptions).filter p)).get? product.id).getD
          []).length =
      (((w.subscribersOf product.id).filter fun s => p (product.id, w.toAnalytics s)).map
        (·.userId)).dedup.length := by
  rw [get?_collect, filter_filter_subscriptionsByProduct windowStart hproduct,
    getD_foldStep (f := fun set (s : Id × AnalyticsSubscription) => addToSet set s.2.userId) [],
    List.foldl_map, ← length_foldl_addToSet, List.foldl_map]
  rfl

/-- The item of a product has its figures. -/
private theorem figures_productAnalytics
    (hproduct : product ∈ w.managedProducts user) :
    Figures w windowStart
      (productAnalytics windowStart (planIdToProductId (w.analyticsProducts user))
        (w.analyticsRows user windowStart) (w.toAnalyticsProduct product)) product := by
  have husage := filter_usageByProduct hproduct windowStart
  unfold productAnalytics
  rw [tallySubscriptions_eq, tallyFailedPayments_eq, tallyUsage_eq]
  -- each figure is the entry of one map under the product
  constructor
  case productId => rfl
  case title => rfl
  case status => rfl
  case rate => rfl
  case latest => rfl
  case views => exact get?_viewsByProductId windowStart hproduct
  case subscriptions =>
    dsimp only
    rw [World.toAnalyticsProduct, get?_collect,
      filter_filter_subscriptionsByProduct windowStart hproduct,
      getD_foldStep_count, List.length_map, List.countP_eq_length_filter]
    rfl
  case activeClients => exact length_clients windowStart hproduct _
  case pastDueClients => exact length_clients windowStart hproduct _
  case failedPayments =>
    dsimp only
    rw [get?_collect]
    show (foldStep _ none (((w.analyticsFailedInvoices windowStart
      (planIdToProductId (w.analyticsProducts user)).keys).filterMap
        (planIdToProductId (w.analyticsProducts user)).get?).filter (· = product.id))).getD 0 = _
    rw [filter_failedInvoices hproduct windowStart, getD_foldStep_count, List.length_map]
  case requests =>
    have hsum := getD_foldStep_add (fun r : Id × AnalyticsUsage => r.2.requestCount) none
      ((w.productUsage windowStart product.id).map fun r => (product.id, toAnalyticsUsage w r))
    dsimp only
    rw [get?_collect]
    show (foldStep _ none ((usageByProduct (planIdToProductId (w.analyticsProducts user))
      (w.analyticsUsageRecords windowStart
        (planIdToProductId (w.analyticsProducts user)).keys)).filter (·.1 = product.id))).getD 0 = _
    rw [husage]
    refine hsum.trans ?_
    rw [List.map_map, Option.getD_none, zero_add]
    rfl
  case endpoints =>
    dsimp only
    rw [get?_collect]
    show TopEndpoints _ (topEndpoints ((foldStep _ none ((usageByProduct
      (planIdToProductId (w.analyticsProducts user)) (w.analyticsUsageRecords windowStart
        (planIdToProductId (w.analyticsProducts user)).keys)).filter (·.1 = product.id))).getD
          .empty))
    rw [husage, getD_foldStep (f := fun m (r : Id × AnalyticsUsage) =>
      addAmount m r.2.endpoint r.2.requestCount) .empty, List.foldl_map]
    exact topEndpoints_endpointTotals (w.productUsage windowStart product.id)

end Product

/-! ### The overview -/

/-- The subscriptions to the plans of a user's products. -/
def World.managedSubscriptions (w : World) (user : AuthenticatedUser) : List Subscription :=
  w.subscriptions.rows.filter fun s =>
    ∃ product ∈ w.managedProducts user, w.productOfPlan s.planId = some product.id

/-- The totals of the items, and of the tables. -/
structure Totals (w : World) (user : AuthenticatedUser) (items : List SellerProductAnalytics)
    (totals : SellerAnalyticsTotals) : Prop where
  productCount : totals.productCount = (w.managedProducts user).length
  publishedProductCount : totals.publishedProductCount =
    (w.managedProducts user).countP (·.status = .published)
  views : totals.views30d = (items.map (·.views30d)).sum
  subscriptions : totals.subscriptions30d = (items.map (·.subscriptions30d)).sum
  activeClients : totals.activeClients = (items.map (·.activeClients)).sum
  pastDueClients : totals.pastDueClients = (items.map (·.pastDueClients)).sum
  failedPayments : totals.failedPayments30d = (items.map (·.failedPayments30d)).sum
  requests : totals.requests30d = (items.map (·.requests30d)).sum
  mrr : totals.mrrCents =
    (((w.managedSubscriptions user).filter (·.status = .active)).map fun s =>
      w.priceOf s.planId).sum

section Overview

variable {w : World} {user : AuthenticatedUser} {windowStart : Int}

/-- The sums over the items are added one item after another. -/
private theorem foldl_totals_add (items : List SellerProductAnalytics)
    (acc : SellerAnalyticsTotals) :
    items.foldl (·.add ·) acc =
      { acc with
        views30d := acc.views30d + (items.map (·.views30d)).sum
        subscriptions30d := acc.subscriptions30d + (items.map (·.subscriptions30d)).sum
        activeClients := acc.activeClients + (items.map (·.activeClients)).sum
        pastDueClients := acc.pastDueClients + (items.map (·.pastDueClients)).sum
        failedPayments30d := acc.failedPayments30d + (items.map (·.failedPayments30d)).sum
        requests30d := acc.requests30d + (items.map (·.requests30d)).sum } := by
  induction items generalizing acc with
  | nil => simp
  | cons item items ih =>
    rw [List.foldl_cons, ih]
    simp only [SellerAnalyticsTotals.add, List.map_cons, List.sum_cons, add_assoc]

/-- The subscriptions of all products together are those to the user's plans. -/
private theorem subscriptionsByProduct_eq :
    subscriptionsByProduct (planIdToProductId (w.analyticsProducts user))
      (w.analyticsSubscriptions (planIdToProductId (w.analyticsProducts user)).keys) =
      (w.managedSubscriptions user).map fun s =>
        ((w.productOfPlan s.planId).getD "", w.toAnalytics s) := by
  -- each subscription is kept and labelled by the same condition
  have hselected := filter_filterMap_eq_map (q := fun _ : Id × AnalyticsSubscription => true)
    (p := fun s : Subscription => s.planId ∈ (planIdToProductId (w.analyticsProducts user)).keys)
    (r := fun s => ∃ product ∈ w.managedProducts user, w.productOfPlan s.planId = some product.id)
    (f := fun s => (w.plans.find? s.planId).map fun plan =>
      (⟨s.userId, s.status, s.createdAt, s.planId, plan.priceCents⟩ : AnalyticsSubscription))
    (k := fun s => ((planIdToProductId (w.analyticsProducts user)).get? s.planId).map (·, s))
    (g := fun s => ((w.productOfPlan s.planId).getD "", w.toAnalytics s)) ?_ w.subscriptions.rows
  · rw [List.filter_true] at hselected
    exact hselected
  · intro s
    by_cases hkey : s.planId ∈ (planIdToProductId (w.analyticsProducts user)).keys
    · obtain ⟨product, hproduct, hplan⟩ := mem_keys_planIdToProductId.mp hkey
      obtain ⟨plan, hfind, -⟩ := Option.map_eq_some_iff.mp hplan
      have hget := get?_planIdToProductId.mpr ⟨⟨product, hproduct, rfl⟩, hplan⟩
      rw [if_pos (decide_eq_true hkey), if_pos (decide_eq_true ⟨product, hproduct, hplan⟩), hfind,
        Option.map_some, Option.bind_some, hget, hplan]
      simp [World.toAnalytics, World.priceOf, hfind]
    · rw [if_neg (by simpa using hkey), if_neg]
      exact fun h => hkey (mem_keys_planIdToProductId.mpr (of_decide_eq_true h))

/-- The totals are those of the products. -/
private theorem totals_buildOverview (windowStart : Int) :
    Totals w user
      (buildOverview windowStart (w.analyticsRows user windowStart)).products
      (buildOverview windowStart (w.analyticsRows user windowStart)).totals := by
  have hperm := List.mergeSort_perm ((w.analyticsRows user windowStart).products.map
    (productAnalytics windowStart (planIdToProductId (w.analyticsProducts user))
      (w.analyticsRows user windowStart))) fun a b => decide (b.requests30d - a.requests30d ≤ 0)
  have hrows : (w.analyticsRows user windowStart).products =
      ((w.managedProducts user).mergeSort fun a b => b.createdAt ≤ a.createdAt).map
        w.toAnalyticsProduct := rfl
  unfold buildOverview
  dsimp only
  rw [foldl_totals_add, tallySubscriptions_eq]
  -- three counts over the rows, and the rest as sums over the items
  constructor
  case productCount =>
    dsimp only
    rw [hrows, List.length_map, List.length_mergeSort]
  case publishedProductCount =>
    dsimp only
    rw [← List.countP_eq_length_filter, hrows, List.countP_map]
    exact (List.mergeSort_perm _ _).countP_eq _
  case mrr =>
    dsimp only
    show (((subscriptionsByProduct (planIdToProductId (w.analyticsProducts user))
      (w.analyticsSubscriptions (planIdToProductId (w.analyticsProducts user)).keys)).filter
        (·.2.status = .active)).map (·.2.priceCents)).sum = _
    rw [subscriptionsByProduct_eq, List.filter_map, List.map_map]
    rfl
  all_goals
    dsimp only
    rw [zero_add]
    exact ((hperm.map _).sum_eq).symm

/-- The items are those of the managed products, each with its figures. -/
private theorem forall₂_buildOverview (windowStart : Int) :
    ∃ products, products.Perm (w.managedProducts user) ∧
      List.Forall₂ (Figures w windowStart)
        (buildOverview windowStart (w.analyticsRows user windowStart)).products
        products := by
  have hitems : List.Forall₂ (Figures w windowStart)
      ((w.analyticsRows user windowStart).products.map (productAnalytics windowStart
        (planIdToProductId (w.analyticsProducts user))
        (w.analyticsRows user windowStart)))
      ((w.managedProducts user).mergeSort fun a b => b.createdAt ≤ a.createdAt) := by
    show List.Forall₂ _
        ((((w.managedProducts user).mergeSort fun a b => b.createdAt ≤ a.createdAt).map
      w.toAnalyticsProduct).map _) _
    rw [List.map_map, List.forall₂_map_left_iff, List.forall₂_same]
    intro product hproduct
    exact figures_productAnalytics windowStart (List.mem_mergeSort.mp hproduct)
  obtain ⟨products, hforall, hperm⟩ := List.perm_comp_forall₂ (List.mergeSort_perm _ _) hitems
  exact ⟨products, hperm.trans (List.mergeSort_perm _ _), hforall⟩

/-- An overview has one item for each product of the seller (for an administrator, for each
    product), with the figures that the tables give for it; the items are in descending order of
    their requests, and the totals are those of the items. -/
theorem getSellerOverview_figures {env : Env}
    {w w' : World} {user : AuthenticatedUser} {overview : SellerAnalyticsOverview}
    (h : (getSellerOverview user).exec env w = (.ok overview, w')) :
    w' = w ∧
    (∃ products, products.Perm (w.managedProducts user) ∧
      List.Forall₂ (Figures w (addUTCDays env.now (-30))) overview.products
        products) ∧
    overview.products.Pairwise (fun a b => b.requests30d ≤ a.requests30d) ∧
    Totals w user overview.products overview.totals := by
  have hlength : (w.analyticsProducts user).length = (w.managedProducts user).length := by
    rw [World.analyticsProducts, List.length_map, List.length_mergeSort]
    rfl
  cases hdb : env.dbError with
  | some m =>
    simp only [getSellerOverview, exec_bind, exec_clock, read, exec_stmt, hdb] at h
    cases h
  | none =>
    by_cases hproducts : (w.analyticsProducts user).length = 0
    · -- nothing is sold: no items, and every total is 0
      simp only [getSellerOverview, exec_bind, exec_clock, exec_read hdb, if_pos hproducts,
        exec_pure,
        Prod.mk.injEq, Except.ok.injEq] at h
      obtain ⟨rfl, rfl⟩ := h
      rw [hlength] at hproducts
      have hnone := List.eq_nil_of_length_eq_zero hproducts
      refine ⟨rfl, ⟨[], by rw [hnone], .nil⟩, .nil, ?_⟩
      have hmrr : w.managedSubscriptions user = [] := by
        simp [World.managedSubscriptions, hnone]
      constructor <;> simp [emptyOverview, hnone, hmrr]
    · simp only [getSellerOverview, exec_bind, exec_clock, exec_read hdb, if_neg hproducts,
        exec_pure,
        Prod.mk.injEq, Except.ok.injEq] at h
      obtain ⟨rfl, rfl⟩ := h
      exact ⟨rfl, forall₂_buildOverview _, pairwise_mergeSort_amount _ _,
        totals_buildOverview _⟩

end Overview

/-- The overview is there whenever the database answers. -/
private theorem exec_getSellerOverview {env : Env} (hdb : env.dbError = none) (w : World)
    (user : AuthenticatedUser) :
    ∃ overview, (getSellerOverview user).exec env w = (.ok overview, w) := by
  by_cases hproducts : (w.analyticsProducts user).length = 0
  · simp only [getSellerOverview, exec_bind, exec_clock, exec_read hdb, if_pos hproducts, exec_pure]
    exact ⟨_, rfl⟩
  · simp only [getSellerOverview, exec_bind, exec_clock, exec_read hdb, if_neg hproducts, exec_pure]
    exact ⟨_, rfl⟩

/-- The owner of the sample product. -/
def sampleOwner : AuthenticatedUser := ⟨"seller", "seller@example.com", .seller⟩

/-- Two products of that owner, each with one active subscriber. The second one is used more, the
    first one has been viewed. -/
def sampleSales : World :=
  { World.empty with
    products := ((Table.singleton sampleProduct).insert? { sampleProduct with
      id := "second", title := "Maps" }).getD .empty
    plans := ((Table.singleton samplePlan).insert?
      { samplePlan with id := "plan2", productId := "second", priceCents := 500 }).getD .empty
    subscriptions := ((Table.singleton (sampleSubscription .active)).insert?
      { sampleSubscription .active with
        id := "sub2", planId := "plan2", externalSubscriptionId := none }).getD .empty
    productViews := [⟨"view", "product", none, 50⟩]
    usageRecords :=
      ((Table.singleton (⟨"use", "sub", none, none, 60, "/search", 7⟩ : UsageRecord)).insert?
      ⟨"use2", "sub2", none, none, 70, "/tiles", 9⟩).getD .empty }

/-- Two products, their order and their totals. -/
theorem getSellerOverview_figures_two : ∃ overview,
    (getSellerOverview sampleOwner).exec (Env.available 100 "o") sampleSales =
      (.ok overview, sampleSales) ∧
    overview.products.map (fun item =>
      (item.productId, item.requests30d, item.conversionRate30d)) =
        [("second", 9, 0), ("product", 7, 100)] ∧
    overview.totals.requests30d = 16 ∧ overview.totals.mrrCents = 1500 := by
  obtain ⟨overview, hexec⟩ := exec_getSellerOverview
    (show (Env.available 100 "o").dbError = none from rfl) sampleSales sampleOwner
  obtain ⟨-, ⟨products, hperm, hfigures⟩, hsorted, htotals⟩ := getSellerOverview_figures hexec
  have hmanaged : sampleSales.managedProducts sampleOwner =
      [sampleProduct, { sampleProduct with id := "second", title := "Maps" }] := by decide +kernel
  have hshows : ∀ item product, Figures sampleSales (addUTCDays 100 (-30)) item product →
      (item.productId, item.requests30d, item.conversionRate30d) =
        (product.id, ((sampleSales.productUsage (addUTCDays 100 (-30)) product.id).map
          (·.requestCount)).sum, conversionRate
            ((sampleSales.subscribersOf product.id).countP (addUTCDays 100 (-30) ≤ ·.createdAt))
            (sampleSales.productViews.countP fun view =>
              view.productId = product.id && addUTCDays 100 (-30) ≤ view.viewedAt)) := by
    intro item product h
    rw [h.productId, h.requests, h.rate, h.subscriptions, h.views]
  have hfirst := fun item h => (hshows item sampleProduct h).trans
    (show _ = (("product", 7, 100) : Id × Int × ℚ) by decide +kernel)
  have hsecond := fun item h => (hshows item { sampleProduct with id := "second", title := "Maps" }
    h).trans (show _ = (("second", 9, 0) : Id × Int × ℚ) by decide +kernel)
  have hitems : overview.products.map (fun item =>
      (item.productId, item.requests30d, item.conversionRate30d)) =
        [("second", 9, 0), ("product", 7, 100)] := by
    rw [hmanaged, List.perm_pair] at hperm
    cases hperm with
    | inl hsame =>
      -- the other order is not a descending one
      subst hsame
      obtain ⟨a, rest, ha, hrest, heq⟩ := List.forall₂_cons_right_iff.mp hfigures
      obtain ⟨b, last, hb, hlast, rfl⟩ := List.forall₂_cons_right_iff.mp hrest
      obtain rfl := List.forall₂_nil_right_iff.mp hlast
      have hab : b.requests30d ≤ a.requests30d :=
        (List.pairwise_cons.mp (heq ▸ hsorted)).1 b List.mem_cons_self
      have ha7 : a.requests30d = 7 := congrArg (·.2.1) (hfirst a ha)
      have hb9 : b.requests30d = 9 := congrArg (·.2.1) (hsecond b hb)
      omega
    | inr hturned =>
      subst hturned
      obtain ⟨a, rest, ha, hrest, heq⟩ := List.forall₂_cons_right_iff.mp hfigures
      obtain ⟨b, last, hb, hlast, rfl⟩ := List.forall₂_cons_right_iff.mp hrest
      obtain rfl := List.forall₂_nil_right_iff.mp hlast
      rw [heq, List.map_cons, List.map_cons, hsecond a ha, hfirst b hb, List.map_nil]
  refine ⟨overview, hexec, hitems, ?_, ?_⟩
  · have hrequests := congrArg (List.map fun shown : Id × Int × ℚ => shown.2.1) hitems
    rw [List.map_map] at hrequests
    rw [htotals.requests]
    exact (congrArg List.sum hrequests).trans (by decide)
  · rw [htotals.mrr]
    decide +kernel

/-! ### What a seller cannot see -/

/-- The rows that belong to a seller's products. -/
structure SellerRows where
  products : List ApiProduct
  plans : List Plan
  versions : List ApiVersion
  views : List ProductView
  subscriptions : List Subscription
  invoices : List Invoice
  usageRecords : List UsageRecord
  deriving DecidableEq

def World.sellerRows (w : World) (user : AuthenticatedUser) : SellerRows where
  products := w.managedProducts user
  plans := w.plans.rows.filter fun plan => ∃ product ∈ w.managedProducts user,
    plan.productId = product.id
  versions := w.apiVersions.rows.filter fun version =>
    ∃ product ∈ w.managedProducts user, version.productId = product.id
  views := w.productViews.filter fun view => ∃ product ∈ w.managedProducts user,
    view.productId = product.id
  subscriptions := w.managedSubscriptions user
  invoices := w.invoices.rows.filter fun invoice =>
    ∃ s ∈ w.managedSubscriptions user, s.id = invoice.subscriptionId
  usageRecords := w.usageRecords.rows.filter fun record =>
    ∃ s ∈ w.managedSubscriptions user, s.id = record.subscriptionId

section Noninterference

variable {w v : World} {user : AuthenticatedUser}

/-- Rows of one product are found among those of all the products of the seller. -/
private theorem filter_productId_eq {α : Type} {productId : α → Id} {rows rows' : List α}
    {products : List ApiProduct} (h : (rows.filter fun a => ∃ p ∈ products, productId a = p.id) =
      rows'.filter fun a => ∃ p ∈ products, productId a = p.id)
    {product : ApiProduct} (hproduct : product ∈ products) :
    rows.filter (productId · = product.id) = rows'.filter (productId · = product.id) := by
  have hfilter : ∀ l : List α, (l.filter fun a => ∃ p ∈ products, productId a = p.id).filter
      (productId · = product.id) = l.filter (productId · = product.id) := by
    intro l
    rw [List.filter_filter]
    refine List.filter_congr fun a _ => ?_
    by_cases ha : productId a = product.id
    · simp only [ha, decide_true, Bool.true_and, decide_eq_true_eq]
      exact ⟨product, hproduct, rfl⟩
    · simp [ha]
  rw [← hfilter rows, h, hfilter]

/-- The products that are selected depend on the seller's rows only. -/
private theorem analyticsProducts_congr (h : w.sellerRows user = v.sellerRows user) :
    w.analyticsProducts user = v.analyticsProducts user := by
  have hproducts : w.managedProducts user = v.managedProducts user := congrArg SellerRows.products h
  have hplans := congrArg SellerRows.plans h
  have hversions := congrArg SellerRows.versions h
  simp only [World.sellerRows, hproducts] at hplans hversions
  show ((w.managedProducts user).mergeSort fun a b => b.createdAt ≤ a.createdAt).map _ =
    ((v.managedProducts user).mergeSort fun a b => b.createdAt ≤ a.createdAt).map _
  rw [hproducts]
  -- each product with its plans and its latest version
  refine List.map_congr_left fun product hproduct => ?_
  have hproduct := List.mem_mergeSort.mp hproduct
  have hversion : w.latestPublishedVersionOf product.id =
      v.latestPublishedVersionOf product.id := by
    have hpublished := congrArg (List.filter fun version => decide (version.status = .published))
      (filter_productId_eq hversions hproduct)
    simp only [List.filter_filter,
      Bool.and_comm (decide (_ = VersionStatus.published))] at hpublished
    unfold World.latestPublishedVersionOf
    rw [hpublished]
  rw [filter_productId_eq hplans hproduct, hversion]

/-- The views that are counted depend on the seller's rows only. -/
private theorem analyticsViewCounts_congr (h : w.sellerRows user = v.sellerRows user)
    (windowStart : Int) :
    w.analyticsViewCounts windowStart ((w.analyticsProducts user).map (·.id)) =
      v.analyticsViewCounts windowStart ((w.analyticsProducts user).map (·.id)) := by
  have hviews := congrArg SellerRows.views h
  have hproducts : w.managedProducts user = v.managedProducts user := congrArg SellerRows.products h
  simp only [World.sellerRows, ← hproducts] at hviews
  -- the ids that the query names are those of the managed products
  have hmem : ∀ productId, productId ∈ (w.analyticsProducts user).map (·.id) ↔
      ∃ product ∈ w.managedProducts user, productId = product.id := by
    intro productId
    rw [World.analyticsProducts, List.map_map, List.mem_map]
    constructor
    · intro hin
      obtain ⟨product, hproduct, rfl⟩ := hin
      exact ⟨product, List.mem_mergeSort.mp hproduct, rfl⟩
    · intro hin
      obtain ⟨product, hproduct, rfl⟩ := hin
      exact ⟨product, List.mem_mergeSort.mpr hproduct, rfl⟩
  have hselected := congrArg (List.filter fun view => decide (windowStart ≤ view.viewedAt)) hviews
  simp only [List.filter_filter, Bool.and_comm (decide (windowStart ≤ _))] at hselected
  unfold World.analyticsViewCounts
  simp only [hmem]
  rw [hselected]

/-- A plan of the seller's is the same row in both states. -/
private theorem find?_plan_congr (h : w.sellerRows user = v.sellerRows user) {product : ApiProduct}
    (hproduct : product ∈ w.managedProducts user) {planId : Id} {plan : Plan}
    (hfind : w.plans.find? planId = some plan) (hplan : plan.productId = product.id) :
    v.plans.find? planId = some plan := by
  have hplans := congrArg SellerRows.plans h
  have hmem : plan ∈ (w.sellerRows user).plans :=
    List.mem_filter.mpr ⟨Table.mem_of_find? hfind, decide_eq_true ⟨product, hproduct, hplan⟩⟩
  rw [hplans] at hmem
  rw [← Table.key_of_find? hfind]
  exact Table.find?_key (List.mem_filter.mp hmem).1

/-- For a plan of the seller's products both states have one product. -/
private theorem productOfPlan_congr (h : w.sellerRows user = v.sellerRows user)
    {product : ApiProduct} (hproduct : product ∈ w.managedProducts user) {planId : Id}
    (hplan : w.productOfPlan planId = some product.id) :
    w.plans.find? planId = v.plans.find? planId ∧ v.productOfPlan planId = some product.id := by
  obtain ⟨plan, hfind, hid⟩ := Option.map_eq_some_iff.mp hplan
  have hfind' := find?_plan_congr h hproduct hfind hid
  refine ⟨hfind.trans hfind'.symm, ?_⟩
  rw [World.productOfPlan, hfind', Option.map_some, hid]

/-- A managed subscription is to a plan of a managed product. -/
private theorem managedSubscription_plan {s : Subscription} (hs : s ∈ w.managedSubscriptions user) :
    ∃ product ∈ w.managedProducts user, w.productOfPlan s.planId = some product.id :=
  of_decide_eq_true (List.mem_filter.mp hs).2

/-- The subscriptions that are selected are the managed ones. -/
private theorem analyticsSubscriptions_eq :
    w.analyticsSubscriptions (planIdToProductId (w.analyticsProducts user)).keys =
      (w.managedSubscriptions user).map w.toAnalytics := by
  have hselected := filter_filterMap_eq_map (q := fun _ : AnalyticsSubscription => true)
    (p := fun s : Subscription => s.planId ∈ (planIdToProductId (w.analyticsProducts user)).keys)
    (r := fun s => ∃ product ∈ w.managedProducts user, w.productOfPlan s.planId = some product.id)
    (f := fun s => (w.plans.find? s.planId).map fun plan =>
      (⟨s.userId, s.status, s.createdAt, s.planId, plan.priceCents⟩ : AnalyticsSubscription))
    (k := some) (g := w.toAnalytics) ?_ w.subscriptions.rows
  · rw [List.filter_true, List.filterMap_some] at hselected
    exact hselected
  · intro s
    by_cases hkey : s.planId ∈ (planIdToProductId (w.analyticsProducts user)).keys
    · obtain ⟨product, hproduct, hplan⟩ := mem_keys_planIdToProductId.mp hkey
      obtain ⟨plan, hfind, -⟩ := Option.map_eq_some_iff.mp hplan
      rw [if_pos (decide_eq_true hkey), if_pos (decide_eq_true ⟨product, hproduct, hplan⟩), hfind]
      simp [World.toAnalytics, World.priceOf, hfind]
    · rw [if_neg (by simpa using hkey), if_neg]
      exact fun h => hkey (mem_keys_planIdToProductId.mpr (of_decide_eq_true h))

/-- The subscriptions that are selected depend on the seller's rows only. -/
private theorem analyticsSubscriptions_congr (h : w.sellerRows user = v.sellerRows user) :
    w.analyticsSubscriptions (planIdToProductId (w.analyticsProducts user)).keys =
      v.analyticsSubscriptions (planIdToProductId (v.analyticsProducts user)).keys := by
  rw [analyticsSubscriptions_eq, analyticsSubscriptions_eq]
  have hsubscriptions : w.managedSubscriptions user = v.managedSubscriptions user :=
    congrArg SellerRows.subscriptions h
  rw [← hsubscriptions]
  refine List.map_congr_left fun s hs => ?_
  obtain ⟨product, hproduct, hplan⟩ := managedSubscription_plan hs
  rw [World.toAnalytics, World.toAnalytics, World.priceOf, World.priceOf,
    (productOfPlan_congr h hproduct hplan).1]

/-- A key leads to the same row in a selection, if that row is selected. -/
private theorem find?_filter_rows {α κ : Type} [DecidableEq κ] [Row α κ] (t : Table α)
    (p : α → Bool) (k : κ) :
    (t.rows.filter p).find? (fun r => Row.key r = k) = (t.find? k).filter p := by
  cases hfound : (t.rows.filter p).find? fun r => Row.key r = k with
  | some r =>
    obtain ⟨hr, hp⟩ := List.mem_filter.mp (List.mem_of_find?_eq_some hfound)
    have hkey : Row.key r = k := by simpa using List.find?_some hfound
    rw [← hkey, Table.find?_key hr, Option.filter_some_pos hp]
  | none =>
    cases hfind : t.find? k with
    | none => rfl
    | some r =>
      have hp : p r = false := by
        by_contra hp
        have hr := List.mem_filter.mpr ⟨Table.mem_of_find? hfind, Bool.eq_true_of_not_eq_false hp⟩
        exact List.find?_eq_none.mp hfound r hr (decide_eq_true (Table.key_of_find? hfind))
      rw [Option.filter_some_neg hp]

/-- The plan of a subscription, if it is one of the seller's. -/
private theorem filter_planId_eq (subscriptionId : Id) :
    ((w.subscriptions.find? subscriptionId).map (·.planId)).filter
      (· ∈ (planIdToProductId (w.analyticsProducts user)).keys) =
      ((w.managedSubscriptions user).find? (·.id = subscriptionId)).map (·.planId) := by
  have hfind : (w.managedSubscriptions user).find? (·.id = subscriptionId) =
      (w.subscriptions.find? subscriptionId).filter fun s =>
        ∃ product ∈ w.managedProducts user, w.productOfPlan s.planId = some product.id :=
    find?_filter_rows w.subscriptions _ subscriptionId
  rw [hfind]
  cases w.subscriptions.find? subscriptionId with
  | none => rfl
  | some s =>
    simp only [Option.map_some, Option.filter_some, mem_keys_planIdToProductId]
    split <;> rfl

/-- Of the rows that belong to subscriptions, only those of the seller's are selected. -/
private theorem filterMap_filter_congr {α β : Type} {subscriptionId : α → Id} {rows rows' : List α}
    {subscriptions : List Subscription}
    (h : (rows.filter fun a => ∃ s ∈ subscriptions, s.id = subscriptionId a) =
      rows'.filter fun a => ∃ s ∈ subscriptions, s.id = subscriptionId a)
    (p : α → Bool) (f : α → Option β)
    (hf : ∀ a, (∃ s ∈ subscriptions, s.id = subscriptionId a) ∨ f a = none) :
    (rows.filter p).filterMap f = (rows'.filter p).filterMap f := by
  -- rows outside the selection contribute nothing
  have hfilter : ∀ l : List α,
      ((l.filter fun a => ∃ s ∈ subscriptions, s.id = subscriptionId a).filter p).filterMap f =
        (l.filter p).filterMap f := by
    intro l
    induction l with
    | nil => rfl
    | cons a l ih =>
      rw [List.filter_cons, List.filter_cons]
      by_cases hin : ∃ s ∈ subscriptions, s.id = subscriptionId a
      · rw [if_pos (decide_eq_true hin), List.filter_cons]
        by_cases hp : p a
        · rw [if_pos hp, if_pos hp, List.filterMap_cons, List.filterMap_cons, ih]
        · rw [if_neg hp, if_neg hp, ih]
      · rw [if_neg (by simpa using hin), ih]
        by_cases hp : p a
        · rw [if_pos hp, List.filterMap_cons_none ((hf a).resolve_left hin)]
        · rw [if_neg hp]
  rw [← hfilter rows, h, hfilter]

/-- All rows of the overview depend on the seller's rows only. -/
private theorem analyticsRows_congr (h : w.sellerRows user = v.sellerRows user)
    (windowStart : Int) :
    w.analyticsRows user windowStart = v.analyticsRows user windowStart := by
  have hproducts := analyticsProducts_congr h
  have hviews := analyticsViewCounts_congr h windowStart
  have hsubscriptions := analyticsSubscriptions_congr h
  have hmanaged : w.managedSubscriptions user = v.managedSubscriptions user :=
    congrArg SellerRows.subscriptions h
  have hplanId : ∀ subscriptionId,
      ((w.subscriptions.find? subscriptionId).map (·.planId)).filter
        (· ∈ (planIdToProductId (w.analyticsProducts user)).keys) =
      ((v.subscriptions.find? subscriptionId).map (·.planId)).filter
        (· ∈ (planIdToProductId (v.analyticsProducts user)).keys) := by
    intro subscriptionId
    rw [filter_planId_eq, filter_planId_eq, hmanaged]
  -- a row whose subscription is not the seller's has no plan among the keys
  have hother : ∀ subscriptionId,
      (∃ s ∈ v.managedSubscriptions user, s.id = subscriptionId) ∨
        ((v.subscriptions.find? subscriptionId).map (·.planId)).filter
          (· ∈ (planIdToProductId (v.analyticsProducts user)).keys) = none := by
    intro subscriptionId
    rw [filter_planId_eq]
    cases hfound : (v.managedSubscriptions user).find? (·.id = subscriptionId) with
    | none => exact .inr rfl
    | some s =>
      exact .inl ⟨s, List.mem_of_find?_eq_some hfound, by simpa using List.find?_some hfound⟩
  have hinvoices := congrArg SellerRows.invoices h
  have husage := congrArg SellerRows.usageRecords h
  simp only [World.sellerRows, hmanaged] at hinvoices husage
  have hfailed : w.analyticsFailedInvoices windowStart
        (planIdToProductId (w.analyticsProducts user)).keys =
      v.analyticsFailedInvoices windowStart
        (planIdToProductId (v.analyticsProducts user)).keys := by
    unfold World.analyticsFailedInvoices
    simp only [hplanId]
    exact filterMap_filter_congr hinvoices _ _ fun i => hother i.subscriptionId
  have hrecords : w.analyticsUsageRecords windowStart
        (planIdToProductId (w.analyticsProducts user)).keys =
      v.analyticsUsageRecords windowStart (planIdToProductId (v.analyticsProducts user)).keys := by
    unfold World.analyticsUsageRecords
    simp only [hplanId]
    refine filterMap_filter_congr husage _ _ fun r =>
      (hother r.subscriptionId).imp_right fun hnone => ?_
    rw [hnone]
    rfl
  unfold World.analyticsRows
  dsimp only
  rw [hviews, hsubscriptions, hfailed, hrecords, hproducts]

/-- What others own does not show: in two states that agree on the rows of a user's products, the
    user sees the same overview. -/
theorem getSellerOverview_noninterference {env : Env}
    (h : w.sellerRows user = v.sellerRows user) :
    ((getSellerOverview user).exec env w).1 =
      ((getSellerOverview user).exec env v).1 := by
  have hrows := analyticsRows_congr h (addUTCDays env.now (-analyticsWindowDays))
  have hproducts := analyticsProducts_congr h
  cases hdb : env.dbError with
  | some m => simp only [getSellerOverview, exec_bind, exec_clock, read, exec_stmt, hdb]
  | none =>
    by_cases hnone : (v.analyticsProducts user).length = 0
    · simp only [getSellerOverview, exec_bind, exec_clock, exec_read hdb, hproducts, if_pos hnone,
        exec_pure]
    · simp only [getSellerOverview, exec_bind, exec_clock, exec_read hdb, hproducts, if_neg hnone,
        exec_pure]
      unfold World.analyticsRows at hrows
      rw [hproducts] at hrows
      exact congrArg (fun rows => Except.ok (buildOverview _ rows)) hrows

end Noninterference

/-- The product, the plan and the subscriber of another seller. -/
def sampleRival : World :=
  { sampleSales with
    products := (sampleSales.products.insert? { sampleProduct with
      id := "rival", ownerId := "other" }).getD .empty
    plans := (sampleSales.plans.insert?
      { samplePlan with id := "plan'", productId := "rival" }).getD .empty
    subscriptions := (sampleSales.subscriptions.insert?
      { sampleSubscription .active with
        id := "sub'", planId := "plan'", externalSubscriptionId := none }).getD .empty
    productViews := sampleSales.productViews ++ [⟨"view'", "rival", none, 55⟩] }

/-- With a rival's product and subscription the overview is as before. -/
theorem getSellerOverview_noninterference_rival :
    sampleRival.products.rows.length = 3 ∧ sampleRival.subscriptions.rows.length = 3 ∧
    ((getSellerOverview sampleOwner).exec (Env.available 100 "o") sampleSales).1 =
      ((getSellerOverview sampleOwner).exec (Env.available 100 "o") sampleRival).1 :=
  ⟨by decide +kernel, by decide +kernel,
    @getSellerOverview_noninterference sampleSales sampleRival sampleOwner _ (by decide +kernel)⟩

end HivePoint
