import HivePoint.Spec.UsageRuns

/-!
# Settlement bills the usage of its period

A settlement is a snapshot: it charges what has been recorded when that is taken. What is
recorded afterwards, before it commits or later, is never billed: usage is recorded under READ
COMMITTED in tables that the settlement does not write, so neither is in the other's way.

## Key results

- `settledBut_materialize`: a settlement charges the usage of its period
- `settlement_billsUsage`: all usage is billed while none is recorded for periods that have been
  settled, or whose settlement has taken its snapshot
-/

namespace HivePoint

open Prog Pool GroupedSum

/-! ### What a settlement charges -/

/-- What plan schemas validate of the overage columns. -/
def PlansPriced (w : World) : Prop :=
  ∀ plan ∈ w.plans.rows, (∀ n, plan.overageUnitRequests = some n → 0 < n) ∧
    ∀ n, plan.overagePriceCents = some n → 0 < n

/-- Rounding up a positive quotient gives a positive number. -/
private theorem ceilDiv_pos {a b : Int} (ha : 0 < a) (hb : 0 < b) : 0 < ceilDiv a b := by
  have hneg : -a / b < 0 := Int.ediv_neg_of_neg_of_pos (by omega) hb
  rw [ceilDiv]
  omega

/-- With positive units and prices, a settlement without an amount is empty. -/
theorem buildSettlement_eq_zero {plan : Plan}
    (hunits : ∀ n, plan.overageUnitRequests = some n → 0 < n)
    (hprice : ∀ n, plan.overagePriceCents = some n → 0 < n) {usedRequests : Int}
    (h : ¬0 < (buildSettlement plan usedRequests).amountCents) :
    buildSettlement plan usedRequests = ⟨0, 0, 0⟩ := by
  rw [buildSettlement] at h ⊢
  split
  · rename_i n c hn hc
    -- the charge is the product of two positive numbers unless nothing is over the quota
    simp only [hn, hc] at h
    split
    · rfl
    · rename_i hguard
      rw [if_neg hguard] at h
      simp only [Bool.or_eq_true, decide_eq_true_eq, not_or, not_le] at hguard
      have hover : 0 < usedRequests - plan.quotaRequests := by omega
      have hpos := Int.mul_pos (ceilDiv_pos hover (hunits n hn)) (hprice c hc)
      exact absurd hpos h
  · rfl

/-- The charge of the invoice that was derived from a source, or nothing. -/
def World.derivedSettlement (w : World) (sourceInvoiceId : Id) : Settlement :=
  match w.invoices.findBy? (·.overageSourceInvoiceId) sourceInvoiceId with
  | some derived =>
    ⟨derived.overageRequests.getD 0, derived.overageUnits.getD 0, derived.amountCents⟩
  | none => ⟨0, 0, 0⟩

/-- The plan of a subscription. -/
def World.planOf (w : World) (subscriptionId : Id) : Option Plan :=
  (w.subscriptions.find? subscriptionId).bind fun subscription => w.plans.find? subscription.planId

/-- The charge of the source is that of all the usage of its period. -/
def World.BillsUsage (w : World) (source : Invoice) : Prop :=
  ∀ plan, w.planOf source.subscriptionId = some plan →
    w.derivedSettlement source.id = buildSettlement plan
      (w.usageIn source.subscriptionId source.periodStart source.periodEnd)

/-- Every settled source bills its usage; an invoice is derived from a settled source, or
    from one that `settling` allows. -/
structure SettledBut (settling : Id → Prop) (w : World) : Prop where
  aggregatesExact : w.AggregatesExact
  priced : PlansPriced w
  settled : ∀ source ∈ w.invoices.rows, source.overageProcessedAt.isSome → w.BillsUsage source
  derived : ∀ o ∈ w.invoices.rows, ∀ id, o.overageSourceInvoiceId = some id →
    ∃ source, w.invoices.find? id = some source ∧ (source.overageProcessedAt.isSome ∨ settling id)

/-- Between settlements. -/
abbrev Settled (w : World) : Prop := SettledBut (fun _ => False) w

/-! ### Usage that comes too late -/

/-- What is recorded in the step lies in no settled period of its subscription. -/
def RecordedInTime (w w' : World) : Prop :=
  ∀ r ∈ w'.usageRecords.rows, r ∉ w.usageRecords.rows → ∀ source ∈ w.invoices.rows,
    source.overageProcessedAt.isSome → source.subscriptionId = r.subscriptionId →
      ¬(source.periodStart ≤ r.occurredAt ∧ r.occurredAt < source.periodEnd)

/-- What has been recorded since the snapshot `seen` lies in no period of its subscription that
    is settled in the step. -/
def SettledInTime (seen w w' : World) : Prop :=
  ∀ source ∈ w.invoices.rows, source.overageProcessedAt = none →
    (w'.invoices.find? source.id).any (·.overageProcessedAt.isSome) →
      ∀ r ∈ w.usageRecords.rows, r ∉ seen.usageRecords.rows →
        source.subscriptionId = r.subscriptionId →
          ¬(source.periodStart ≤ r.occurredAt ∧ r.occurredAt < source.periodEnd)

/-- No usage comes too late for the settlement of its period. -/
structure BillsInTime (seen w w' : World) : Prop where
  recorded : RecordedInTime w w'
  settled : SettledInTime seen w w'

instance (w w' : World) : Decidable (RecordedInTime w w') :=
  inferInstanceAs (Decidable (∀ _ ∈ _, _ → ∀ _ ∈ _, _ → _ → _))

instance (seen w w' : World) : Decidable (SettledInTime seen w w') :=
  inferInstanceAs (Decidable (∀ _ ∈ _, _ → _ → ∀ _ ∈ _, _ → _ → _))

instance (seen w w' : World) : Decidable (BillsInTime seen w w') :=
  decidable_of_iff (RecordedInTime w w' ∧ SettledInTime seen w w')
    ⟨fun h => ⟨h.1, h.2⟩, fun h => ⟨h.1, h.2⟩⟩

section Writes

variable {settling : Id → Prop} {w w' : World}

/-- No row has the value in the column. -/
theorem findBy?_eq_none_iff {t : Table Invoice} {u : Invoice → Option String} {v : String} :
    t.findBy? u v = none ↔ ∀ r ∈ t.rows, u r ≠ some v := by
  simp only [Table.findBy?, List.find?_eq_none, decide_eq_true_eq, ne_eq]

/-! ### Writes of invoices -/

/-- Rewriting columns that no settlement is about. -/
theorem derivedSettlement_updateInvoice {id : Id} {data : Invoice → Invoice}
    (h : w.updateInvoice id data = .ok w')
    (hsource : ∀ row, (data row).overageSourceInvoiceId = row.overageSourceInvoiceId)
    (hcharge : ∀ row, (data row).overageRequests = row.overageRequests ∧
      (data row).overageUnits = row.overageUnits ∧ (data row).amountCents = row.amountCents)
    (sourceInvoiceId : Id) :
    w'.derivedSettlement sourceInvoiceId = w.derivedSettlement sourceInvoiceId := by
  obtain ⟨t, ht, rfl⟩ := updateInvoice_eq_ok h
  -- the derived invoice is found by the same source, and has the same charge
  simp only [World.derivedSettlement, Table.findBy?_update? ht hsource]
  cases w.invoices.findBy? (·.overageSourceInvoiceId) sourceInvoiceId with
  | none => rfl
  | some derived =>
    obtain ⟨hrequests, hunits, hamount⟩ := hcharge derived
    dsimp only [Option.map]
    split
    · rw [hrequests, hunits, hamount]
    · rfl

/-- A new invoice is the charge of the source it is derived from, and of no other. -/
theorem derivedSettlement_createInvoice {row : Invoice} (h : w.createInvoice row = .ok w')
    (sourceInvoiceId : Id) (hne : row.overageSourceInvoiceId ≠ some sourceInvoiceId) :
    w'.derivedSettlement sourceInvoiceId = w.derivedSettlement sourceInvoiceId := by
  obtain ⟨t, ht, rfl⟩ := createInvoice_eq_ok h
  simp only [World.derivedSettlement, Table.findBy?_insert? ht, if_neg hne, Option.or_none]

/-- A rewrite that keeps what a settlement reads keeps what is settled. -/
theorem SettledBut.updateInvoice (hw : SettledBut settling w) {id : Id} {data : Invoice → Invoice}
    (h : w.updateInvoice id data = .ok w') (hdata : ∀ row, SameSettlement row (data row)) :
    SettledBut settling w' := by
  have hderived := derivedSettlement_updateInvoice h (fun row => (hdata row).overageSourceInvoiceId)
    fun row => ⟨(hdata row).overageRequests, (hdata row).overageUnits, (hdata row).amountCents⟩
  have hfind := find?_updateInvoice h fun row => (hdata row).id
  obtain ⟨t, ht, rfl⟩ := updateInvoice_eq_ok h
  refine ⟨hw.aggregatesExact, hw.priced, fun source hsource hsettled => ?_, fun o ho sid hsid => ?_⟩
  -- a settled source, rewritten or not
  · obtain ⟨row, hrow, rfl⟩ := (Table.mem_update? ht).mp hsource
    split at hsettled
    · rename_i hkey
      have hold := hw.settled row hrow ((hdata row).overageProcessedAt ▸ hsettled)
      rw [if_pos hkey]
      intro plan hplan
      rw [hderived, (hdata row).id, (hdata row).subscriptionId, (hdata row).periodStart,
        (hdata row).periodEnd]
      exact hold plan ((hdata row).subscriptionId ▸ hplan)
    · rename_i hkey
      rw [if_neg hkey]
      intro plan hplan
      rw [hderived]
      exact hw.settled row hrow hsettled plan hplan
  -- the source of a derived invoice is still there
  · have hold : ∃ row ∈ w.invoices.rows, row.overageSourceInvoiceId = some sid := by
      obtain ⟨row, hrow, rfl⟩ := (Table.mem_update? ht).mp ho
      split at hsid
      · exact ⟨row, hrow, (hdata row).overageSourceInvoiceId ▸ hsid⟩
      · exact ⟨row, hrow, hsid⟩
    obtain ⟨row, hrow, hsid⟩ := hold
    obtain ⟨source, hsource, hsettled⟩ := hw.derived row hrow sid hsid
    rw [hfind]
    split
    · rename_i hkey
      refine ⟨data source, by rw [← hkey, hsource]; rfl, ?_⟩
      rwa [(hdata source).overageProcessedAt]
    · exact ⟨source, hsource, hsettled⟩

/-- A new invoice that is not settled itself, derived from nothing or from a source that is
    being settled. -/
theorem SettledBut.createInvoice (hw : SettledBut settling w) {row : Invoice}
    (h : w.createInvoice row = .ok w') (hunprocessed : row.overageProcessedAt = none)
    (hsource : ∀ id, row.overageSourceInvoiceId = some id → settling id ∧
      ∃ source, w.invoices.find? id = some source ∧ source.overageProcessedAt = none) :
    SettledBut settling w' := by
  have hfind := find?_createInvoice h
  have hderived := fun sourceInvoiceId =>
    derivedSettlement_createInvoice h sourceInvoiceId
  obtain ⟨t, ht, rfl⟩ := createInvoice_eq_ok h
  have hnew : w.invoices.find? row.id = none := Table.find?_of_insert? ht
  refine ⟨hw.aggregatesExact, hw.priced, fun source hmem hsettled => ?_, fun o ho sid hsid => ?_⟩
  · rcases (Table.mem_insert? ht).mp hmem with hold | rfl
    · intro plan hplan
      have hne : row.overageSourceInvoiceId ≠ some source.id := by
        -- the new invoice is derived from an unsettled source
        intro hid
        obtain ⟨-, unsettled, hfound, hnone⟩ := hsource source.id hid
        obtain rfl := Option.some.inj ((Table.find?_key hold).symm.trans hfound)
        rw [hnone] at hsettled
        exact nomatch hsettled
      rw [hderived source.id hne]
      exact hw.settled source hold hsettled plan hplan
    · rw [hunprocessed] at hsettled
      exact nomatch hsettled
  · have hfound : ∃ source, w.invoices.find? sid = some source ∧
        (source.overageProcessedAt.isSome ∨ settling sid) := by
      rcases (Table.mem_insert? ht).mp ho with hold | rfl
      · exact hw.derived o hold sid hsid
      · obtain ⟨hsettling, source, hfound, -⟩ := hsource sid hsid
        exact ⟨source, hfound, .inr hsettling⟩
    obtain ⟨source, hfound, hsettled⟩ := hfound
    refine ⟨source, ?_, hsettled⟩
    rw [hfind, if_neg, hfound]
    rintro rfl
    exact nomatch hnew.symm.trans hfound

/-! ### Writes of subscriptions -/

/-- A write to a subscription that keeps its plan keeps everybody's plan. -/
theorem planOf_updateSubscription {id : Id} {data : Subscription → Subscription}
    (h : w.updateSubscription id data = .ok w')
    (hdata : ∀ row, (data row).id = row.id ∧ (data row).planId = row.planId) (subscriptionId : Id) :
    w'.planOf subscriptionId = w.planOf subscriptionId := by
  have hfind := find?_updateSubscription h (fun row => (hdata row).1) subscriptionId
  obtain ⟨t, ht, rfl⟩ := updateSubscription_eq_ok h
  simp only [World.planOf, hfind]
  split
  · rename_i hid
    rw [hid]
    cases w.subscriptions.find? id with
    | none => rfl
    | some row =>
      show w.plans.find? (data row).planId = w.plans.find? row.planId
      rw [(hdata row).2]
  · rfl

/-- So is what is settled kept by a write to a subscription. -/
theorem SettledBut.updateSubscription (hw : SettledBut settling w) {id : Id}
    {data : Subscription → Subscription} (h : w.updateSubscription id data = .ok w')
    (hdata : ∀ row, (data row).id = row.id ∧ (data row).planId = row.planId) :
    SettledBut settling w' := by
  have hplanOf := planOf_updateSubscription h hdata
  obtain ⟨t, -, rfl⟩ := updateSubscription_eq_ok h
  refine ⟨hw.aggregatesExact, hw.priced, fun source hsource hsettled plan hplan => ?_, hw.derived⟩
  exact hw.settled source hsource hsettled plan ((hplanOf _).symm.trans hplan)

/-! ### A settlement -/

section Materialize

variable {env : Env} {seen : World} {source : Invoice} {plan : Plan}

/-- Nothing has been derived from a source that is not settled. -/
theorem Settled.underived (hw : Settled w) (hfound : w.invoices.find? source.id = some source)
    (hunprocessed : source.overageProcessedAt = none) :
    w.invoices.findBy? (·.overageSourceInvoiceId) source.id = none := by
  refine findBy?_eq_none_iff.mpr fun o ho hid => ?_
  obtain ⟨s, hs, hsettled⟩ := hw.derived o ho source.id hid
  obtain rfl := Option.some.inj (hfound.symm.trans hs)
  rw [hunprocessed] at hsettled
  exact hsettled.elim (fun h => (by cases h)) id

/-- A settlement does not change the plan of a subscription. -/
theorem planOf_materialize {sourceInvoiceId : Id} {processedAt : Int} {processed : Bool}
    (h : w.materializeSourceInvoice env seen sourceInvoiceId processedAt = .ok (processed, w'))
    (id : Id) : w'.planOf id = w.planOf id := by
  rcases materialize_cases h with
    ⟨-, rfl⟩ | ⟨-, source, subscription, plan, usedRequests, w₁, w₂, hdone⟩
  · rfl
  -- the plans of the subscriptions are not written by any of the three writes
  have hsettled : w₁.planOf id = w.planOf id := by
    obtain ⟨t, rfl⟩ := settleOverage_rows hdone.settled
    rfl
  have hmarked : w'.planOf id = w₂.planOf id := by
    obtain ⟨t, -, rfl⟩ := updateInvoice_eq_ok hdone.marked
    rfl
  rw [hmarked, ← hsettled]
  cases rollForward_cases hdone.rolled with
  | nothing h => rw [h]
  | canceled _ _ _ h => exact planOf_updateSubscription h (fun _ => ⟨rfl, rfl⟩) id
  | renewed _ _ _ _ v hcreate h =>
    rw [planOf_updateSubscription h (fun _ => ⟨rfl, rfl⟩) id]
    obtain ⟨t, -, rfl⟩ := createInvoice_eq_ok hcreate
    rfl

/-- The first part of a settlement charges the usage of the period. -/
private theorem settledBut_settleOverage (hw : Settled w)
    (hfound : w.invoices.find? source.id = some source)
    (hunprocessed : source.overageProcessedAt = none)
    (hseen : seen.invoices.findBy? (·.overageSourceInvoiceId) source.id = none)
    (hunits : ∀ n, plan.overageUnitRequests = some n → 0 < n)
    (hprice : ∀ n, plan.overagePriceCents = some n → 0 < n) {usedRequests : Int}
    (h : settleOverage env seen source plan usedRequests w = .ok w') :
    SettledBut (· = source.id) w' ∧
      w'.derivedSettlement source.id = buildSettlement plan usedRequests := by
  -- the source is allowed to be settled without a stamp for now
  have hweaken : SettledBut (· = source.id) w :=
    ⟨hw.aggregatesExact, hw.priced, hw.settled, fun o ho id hid => by
      obtain ⟨s, hs, hsettled⟩ := hw.derived o ho id hid
      exact ⟨s, hs, .inl (hsettled.resolve_right fun h => h)⟩⟩
  have hnone := hw.underived hfound hunprocessed
  rcases settleOverage_cases h with ⟨rfl, hfree⟩ | ⟨-, -, hcreate⟩
  -- nothing to charge, and nothing was charged before
  · have hfree : ¬0 < (buildSettlement plan usedRequests).amountCents := fun h => hfree ⟨h, hseen⟩
    refine ⟨hweaken, ?_⟩
    rw [buildSettlement_eq_zero hunits hprice hfree, World.derivedSettlement, hnone]
  -- the new invoice carries the charge
  · refine ⟨hweaken.createInvoice hcreate rfl fun id hid => ?_, ?_⟩
    · obtain rfl := Option.some.inj hid
      exact ⟨rfl, source, hfound, hunprocessed⟩
    · obtain ⟨t, ht, rfl⟩ := createInvoice_eq_ok hcreate
      simp only [World.derivedSettlement, Table.findBy?_insert? ht, hnone, Option.none_or,
        overageInvoice, if_true, Option.getD_some]

/-- The renewal and the cancellation are not about what has been charged. -/
private theorem settledBut_rollForward {settling : Id → Prop} {subscription : Subscription}
    (hw : SettledBut settling w) (h : rollForward env source subscription plan w = .ok w') :
    SettledBut settling w' ∧ (∀ id, w'.derivedSettlement id = w.derivedSettlement id) ∧
      (∀ id, w'.planOf id = w.planOf id) ∧ w'.usageRecords = w.usageRecords ∧
      ∀ id row, w.invoices.find? id = some row → w'.invoices.find? id = some row := by
  -- nothing, a cancellation or a renewal: no usage, no charge and no source is written
  cases rollForward_cases h with
  | nothing h =>
    subst h
    exact ⟨hw, fun _ => rfl, fun _ => rfl, rfl, fun _ _ h => h⟩
  | canceled _ _ _ h =>
    have hkept := hw.updateSubscription h fun row => ⟨rfl, rfl⟩
    have hplanOf := planOf_updateSubscription h fun row => ⟨rfl, rfl⟩
    obtain ⟨t, -, rfl⟩ := updateSubscription_eq_ok h
    exact ⟨hkept, fun _ => rfl, hplanOf, rfl, fun _ _ h => h⟩
  | renewed _ _ _ _ w₁ hcreate h =>
    have hw₁ := hw.createInvoice hcreate rfl fun id hid => nomatch hid
    have hderived := fun id => derivedSettlement_createInvoice hcreate id
      fun hid => nomatch hid
    have hfind := find?_createInvoice hcreate
    have hkept := hw₁.updateSubscription h fun row => ⟨rfl, rfl⟩
    have hplanOf := planOf_updateSubscription h fun row => ⟨rfl, rfl⟩
    obtain ⟨t₁, ht₁, rfl⟩ := createInvoice_eq_ok hcreate
    obtain ⟨t₂, -, rfl⟩ := updateSubscription_eq_ok h
    refine ⟨hkept, hderived, hplanOf, rfl, fun id row hrow => ?_⟩
    refine (hfind id).trans ?_
    rw [if_neg, hrow]
    -- the id of the renewal is new
    rintro rfl
    exact nomatch (Table.find?_of_insert? ht₁).symm.trans hrow

/-- The mark on a source that bills its usage. -/
private theorem settledBut_mark (hw : SettledBut (· = source.id) w) {row : Invoice}
    (hfound : w.invoices.find? source.id = some row) (hbills : w.BillsUsage row) {processedAt : Int}
    (h : w.updateInvoice source.id (fun row =>
      { row with overageProcessedAt := some processedAt }) =
      .ok w') : Settled w' := by
  have hderived := derivedSettlement_updateInvoice h (fun _ => rfl) fun _ => ⟨rfl, rfl, rfl⟩
  have hfind := find?_updateInvoice h fun _ => rfl
  obtain ⟨t, ht, rfl⟩ := updateInvoice_eq_ok h
  refine ⟨hw.aggregatesExact, hw.priced, fun s hs hsettled plan hplan => ?_,
    fun o ho sid hsid => ?_⟩
  -- the stamped source bills its usage by hypothesis, the others did before
  · rw [hderived]
    obtain ⟨r, hr, rfl⟩ := (Table.mem_update? ht).mp hs
    split at hsettled
    · rename_i hkey
      obtain rfl := Option.some.inj (hfound.symm.trans (hkey ▸ Table.find?_key hr))
      rw [if_pos hkey] at hplan ⊢
      exact hbills plan hplan
    · rename_i hkey
      rw [if_neg hkey] at hplan ⊢
      exact hw.settled r hr hsettled plan hplan
  -- the stamp leaves the derived invoices their sources
  · have hold : ∃ row ∈ w.invoices.rows, row.overageSourceInvoiceId = some sid := by
      obtain ⟨row, hrow, rfl⟩ := (Table.mem_update? ht).mp ho
      split at hsid
      · exact ⟨row, hrow, hsid⟩
      · exact ⟨row, hrow, hsid⟩
    obtain ⟨r, hr, hsid⟩ := hold
    obtain ⟨s, hs, hsettled⟩ := hw.derived r hr sid hsid
    rw [hfind]
    split
    · rename_i hkey
      rw [← hkey, hs]
      exact ⟨_, rfl, .inl rfl⟩
    · rename_i hkey
      exact ⟨s, hs, .inl (hsettled.resolve_right hkey)⟩

/-- Usage that has been recorded since the snapshot counts for other periods. -/
private theorem usageIn_eq_of_recordsGrow (hgrow : RecordsGrow seen w)
    (hother : ∀ r ∈ w.usageRecords.rows, r ∉ seen.usageRecords.rows →
      source.subscriptionId = r.subscriptionId →
        ¬(source.periodStart ≤ r.occurredAt ∧ r.occurredAt < source.periodEnd)) :
    w.usageIn source.subscriptionId source.periodStart source.periodEnd =
      seen.usageIn source.subscriptionId source.periodStart source.periodEnd := by
  obtain ⟨added, hrows⟩ := hgrow
  have hnodup : (seen.usageRecords.rows ++ added).Nodup := hrows ▸ w.usageRecords.valid.1.of_map
  simp only [World.usageIn, ← hrows, sumWhere_append]
  -- the records that the snapshot lacks lie outside the period
  rw [add_eq_left]
  refine sumWhere_eq_zero fun r hr => ?_
  have hnew : r ∉ seen.usageRecords.rows := fun hold => hnodup.disjoint hold hr
  have hout := hother r (hrows ▸ List.mem_append_right _ hr) hnew
  simp only [Bool.and_eq_true, decide_eq_true_eq]
  rintro ⟨hsub, hin⟩
  exact hout hsub.symm hin

/-- A settlement charges the usage of its period, if none has been recorded since its snapshot. -/
theorem settledBut_materialize (hw : Settled w) (hseen : Settled seen) (hgrow : RecordsGrow seen w)
    (hplanOf : ∀ id, w.planOf id = seen.planOf id) (hdb : env.dbError = none) {sourceInvoiceId : Id}
    {processedAt : Int} {processed : Bool}
    (h : w.materializeSourceInvoice env seen sourceInvoiceId processedAt = .ok (processed, w'))
    (hintime : SettledInTime seen w w') : Settled w' := by
  rcases materialize_cases h with
    ⟨-, rfl⟩ | ⟨-, source, subscription, plan, usedRequests, w₁, w₂, hdone⟩
  · exact hw
  have hfound := hdone.unwritten
  have hread : seen.invoices.find? source.id = some source := hdone.source_id ▸ hdone.source_seen
  have hpriced := hseen.priced plan (Table.mem_of_find? hdone.plan_seen)
  obtain ⟨hw₁, hcharged⟩ := settledBut_settleOverage hw hfound hdone.unprocessed
    (hseen.underived hread hdone.unprocessed) hpriced.1 hpriced.2 hdone.settled
  have hsettle : w₁.subscriptions = w.subscriptions ∧ w₁.plans = w.plans ∧
      w₁.usageRecords = w.usageRecords ∧ w₁.invoices.find? source.id = some source := by
    rcases settleOverage_cases hdone.settled with ⟨rfl, -⟩ | ⟨-, -, hcreate⟩
    · exact ⟨rfl, rfl, rfl, hfound⟩
    · have hfind := find?_createInvoice hcreate source.id
      obtain ⟨t, ht, rfl⟩ := createInvoice_eq_ok hcreate
      refine ⟨rfl, rfl, rfl, hfind.trans ?_⟩
      rw [if_neg, hfound]
      intro heq
      rw [heq] at hfound
      cases (Table.find?_of_insert? ht).symm.trans hfound
  obtain ⟨hsubscriptions₁, hplans₁, hrecords₁, hfound₁⟩ := hsettle
  obtain ⟨hw₂, hderived₂, hplanOf₂, hrecords₂, hfound₂⟩ := settledBut_rollForward hw₁ hdone.rolled
  -- the snapshot counts what has been recorded by now
  have husage : usedRequests =
      w.usageIn source.subscriptionId source.periodStart source.periodEnd := by
    have hused := hdone.usage
    rw [World.sumUsageForWindow, exec_sumUsageForWindow hdb hseen.aggregatesExact,
      hdone.subscription_id] at hused
    rw [← Except.ok.inj hused]
    have hmarked : (w'.invoices.find? source.id).any (·.overageProcessedAt.isSome) = true := by
      rw [find?_updateInvoice hdone.marked (fun _ => rfl), if_pos rfl, hfound₂ _ _ hfound₁]
      rfl
    exact (usageIn_eq_of_recordsGrow hgrow (hintime source (Table.mem_of_find? hfound)
      hdone.unprocessed hmarked)).symm
  refine settledBut_mark hw₂ (hfound₂ _ _ hfound₁) (fun plan' hplan' => ?_) hdone.marked
  have hplan : seen.planOf source.subscriptionId = some plan := by
    rw [World.planOf, hdone.subscription_seen]
    exact hdone.plan_seen
  have hplan₁ : w₁.planOf source.subscriptionId = w.planOf source.subscriptionId := by
    rw [World.planOf, World.planOf, hsubscriptions₁, hplans₁]
  obtain rfl : plan' = plan := Option.some.inj <|
    hplan'.symm.trans ((hplanOf₂ _).trans (hplan₁.trans ((hplanOf _).trans hplan)))
  rw [hderived₂, hcharged, husage, World.usageIn, World.usageIn, hrecords₂, hrecords₁]

end Materialize

end Writes

/-! ### One step -/

section Steps

variable {w w' : World}

/-- What other tables hold does not matter. -/
theorem SettledBut.congr {settling : Id → Prop} (hw : SettledBut settling w)
    (hinvoices : w'.invoices = w.invoices) (hsubscriptions : w'.subscriptions = w.subscriptions)
    (hplans : w'.plans = w.plans) (hrecords : w'.usageRecords = w.usageRecords)
    (hbuckets : w'.usageDailyAggregates = w.usageDailyAggregates) : SettledBut settling w' := by
  refine ⟨?_, ?_, ?_, ?_⟩
  · have hexact := hw.aggregatesExact
    rwa [World.AggregatesExact, ← hrecords, ← hbuckets] at hexact
  · rw [PlansPriced, hplans]
    exact hw.priced
  · rw [hinvoices]
    intro source hsource hsettled plan hplan
    rw [World.planOf, hsubscriptions, hplans] at hplan
    rw [World.derivedSettlement, World.usageIn, hinvoices, hrecords]
    exact hw.settled source hsource hsettled plan hplan
  · rw [hinvoices]
    exact hw.derived

/-- Recording usage outside settled periods. -/
theorem Settled.recordUsage (hw : Settled w) {input : UsageRecordWriteInput} {aggregatedAt : Int}
    {uuid : Id} (h : w.recordUsage input aggregatedAt uuid = .ok w')
    (hintime : RecordedInTime w w') : Settled w' := by
  have hexact := recordUsage_aggregatesExact hw.aggregatesExact h
  have husage := recordUsage_usageIn h
  obtain ⟨records, buckets, endpoints, hrecords, -, rfl⟩ := recordUsage_eq_ok h
  refine ⟨hexact, hw.priced, fun source hsource hsettled plan hplan => ?_, hw.derived⟩
  -- the new record is in no earlier state
  have hnew : newUsageRecord input aggregatedAt uuid ∉ w.usageRecords.rows := by
    intro hmem
    exact nomatch (Table.find?_of_insert? hrecords).symm.trans (Table.find?_key hmem)
  have hmem : newUsageRecord input aggregatedAt uuid ∈ records.rows :=
    (Table.mem_insert? hrecords).mpr (.inr rfl)
  -- it lies in no period that has been settled
  have hoff : ¬(input.subscriptionId = source.subscriptionId ∧
      source.periodStart ≤ input.occurredAt ∧
      input.occurredAt < source.periodEnd) := fun ⟨hsub, hin⟩ =>
    hintime _ hmem hnew source hsource hsettled hsub.symm hin
  rw [husage, if_neg hoff, add_zero]
  exact hw.settled source hsource hsettled plan hplan

/-- Every subscription has the plan that it had. -/
def SamePlans (w w' : World) : Prop := ∀ id, w'.planOf id = w.planOf id

/-- A state has its own plans. -/
theorem SamePlans.refl (w : World) : SamePlans w w := fun _ => rfl

/-- The plans stay over two steps. -/
theorem SamePlans.trans {w₁ w₂ w₃ : World} (h₁ : SamePlans w₁ w₂) (h₂ : SamePlans w₂ w₃) :
    SamePlans w₁ w₃ := fun id => (h₂ id).trans (h₁ id)

/-- No statement changes the plan of a subscription. -/
private theorem UsageStep.samePlans {met : World → Prop} (h : UsageStep met w w') :
    SamePlans w w' := by
  intro id
  -- only a settlement and a write of the overage worker touch a subscription
  cases h with
  | recorded tx input aggregatedAt uuid v h hw' =>
    obtain ⟨_, _, _, -, -, rfl⟩ := recordUsage_eq_ok h
    subst hw'
    rfl
  | processed tx job aggregatedAt uuid processedAt v₁ v₂ hrecord hjob hw' =>
    obtain ⟨_, _, _, -, -, rfl⟩ := recordUsage_eq_ok hrecord
    obtain ⟨t, -, rfl⟩ := updateUsageIngestJob_eq_ok hjob
    subst hw'
    rfl
  | enqueued row hstatus h =>
    obtain ⟨t, -, rfl⟩ := createUsageIngestJob_eq_ok h
    rfl
  | marked jobId processedAt hrecorded h =>
    obtain ⟨t, -, rfl⟩ := updateUsageIngestJob_eq_ok h
    rfl
  | failed jobId attempts availableAt error h =>
    obtain ⟨t, -, rfl⟩ := updateUsageIngestJob_eq_ok h
    rfl
  | released tx h =>
    subst h
    rfl
  | collected h =>
    cases h with
    | settled env hdb seen hseen sourceInvoiceId processedAt processed h =>
      exact planOf_materialize h id
    | invoice id data hdata h =>
      obtain ⟨t, -, rfl⟩ := updateInvoice_eq_ok h
      rfl
    | subscription id data hdata h => exact planOf_updateSubscription h hdata _
    | elsewhere users stripeLog h =>
      subst h
      rfl

/-- Every statement for which no usage comes too late keeps what settlements have charged. -/
theorem Settled.step {seen : World} (hw : Settled w) (hseen : Settled seen)
    (hgrow : RecordsGrow seen w) (hplanOf : SamePlans seen w)
    (h : UsageStep (· = seen) w w') (hintime : BillsInTime seen w w') : Settled w' := by
  -- a recording comes in time, by hypothesis
  cases h with
  | recorded tx input aggregatedAt uuid v h hw' =>
    subst hw'
    have hv : Settled v := hw.recordUsage h hintime.recorded
    exact hv.congr rfl rfl rfl rfl rfl
  | processed tx job aggregatedAt uuid processedAt v₁ v₂ hrecord hjob hw' =>
    obtain ⟨t, -, rfl⟩ := updateUsageIngestJob_eq_ok hjob
    subst hw'
    have hv : Settled v₁ := hw.recordUsage hrecord hintime.recorded
    exact hv.congr rfl rfl rfl rfl rfl
  | enqueued row hstatus h =>
    obtain ⟨t, -, rfl⟩ := createUsageIngestJob_eq_ok h
    exact hw.congr rfl rfl rfl rfl rfl
  | marked jobId processedAt hrecorded h =>
    obtain ⟨t, -, rfl⟩ := updateUsageIngestJob_eq_ok h
    exact hw.congr rfl rfl rfl rfl rfl
  | failed jobId attempts availableAt error h =>
    obtain ⟨t, -, rfl⟩ := updateUsageIngestJob_eq_ok h
    exact hw.congr rfl rfl rfl rfl rfl
  -- a settlement bills what its snapshot has, which is everything by then
  | collected h =>
    cases h with
    | settled env hdb _ hmet sourceInvoiceId processedAt processed h =>
      subst hmet
      exact settledBut_materialize hw hseen hgrow hplanOf hdb h hintime.settled
    | invoice id data hdata h => exact hw.updateInvoice h hdata
    | subscription id data hdata h => exact hw.updateSubscription h hdata
    | elsewhere users stripeLog h =>
      subst h
      exact hw.congr rfl rfl rfl rfl rfl
  | released tx h =>
    subst h
    exact hw.congr rfl rfl rfl rfl rfl

end Steps

/-! ### Every reachable state -/

section Runs

variable {toISOString : Int → String} {config : AppConfig} {calls : TxId → UsageCall} {w₀ : World}

/-- Whatever ingestions, workers and overage workers do next to each other, what was charged
    for a settled source is the settlement of all the usage of its period, as long as no step
    records usage for a period that has been settled, and none has been recorded for a period
    between the snapshot of its settlement and the commit. -/
theorem settlement_billsUsage (hw₀ : Settled w₀) {P : UsageCalls} {met : TxId → World}
    (hrun : Recall readCommitted (fun P met c => ∀ P', P.next readCommitted c = some P' →
        BillsInTime (met c.thread) P.state P'.state)
      (startCalls toISOString config calls w₀) P met) :
    ∀ source ∈ P.state.invoices.rows, source.overageProcessedAt.isSome →
      ∀ plan, P.state.planOf source.subscriptionId = some plan →
        P.state.derivedSettlement source.id = buildSettlement plan
          (P.state.usageIn source.subscriptionId source.periodStart source.periodEnd) := by
  -- induction on the run: the present state and every snapshot are settled
  suffices hP : Settled P.state ∧ ∀ tx, Settled (met tx) from hP.1.settled
  induction hrun with
  | init => exact ⟨hw₀, fun _ => hw₀⟩
  | @step P P' met c hrun hok hnext ih =>
    have hgrow : RecordsGrow (met c.thread) P.state :=
      hrun.since (K := RecordsGrow) (fun _ => List.prefix_rfl) List.IsPrefix.trans
        (fun hreach hnext => (usageStep_of_next hreach hnext).recordsGrow) c.thread
    have hplanOf : SamePlans (met c.thread) P.state :=
      hrun.since SamePlans.refl SamePlans.trans
        (fun hreach hnext => (usageStep_of_next hreach hnext).samePlans) c.thread
    refine ⟨ih.1.step (ih.2 c.thread) hgrow hplanOf (usageStep_of_recall hrun hnext)
      (hok _ hnext), fun tx => ?_⟩
    -- the snapshot of the thread is now the state before its step
    by_cases htx : tx = c.thread
    · subst htx
      rw [Function.update_self]
      exact ih.1
    · rw [Function.update_of_ne htx]
      exact ih.2 tx

end Runs

/-! ### Usage that is recorded after the settlement -/

/-- The sample plan with overage: 10 requests are included, each further one costs 5. -/
def overagePlan : Plan :=
  { samplePlan with
    allowOverage := true, overageUnitRequests := some 1, overagePriceCents := some 5 }

/-- The paid invoice of the sample period. -/
def sourceInvoice : Invoice := sampleInvoice .subscription .paid

/-- A queued usage of 15 requests in that period. -/
def lateJob : UsageIngestJob where
  id := "job"
  subscriptionId := "sub"
  occurredAt := 50
  endpoint := "/v1"
  requestCount := 15
  status := .pending
  attempts := 0
  availableAt := 50
  processedAt := none
  lastError := none
  createdAt := 50

def unsettledWorld : World :=
  { sampleBilling (sampleSubscription .active) sourceInvoice with
    plans := .singleton overagePlan
    usageIngestJobs := .singleton lateJob }

def meteringConfig : AppConfig := { sampleConfig with usageIngestQueueEnabled := true }

/-- Call 0 settles ended periods, call 1 records the queue. -/
def collectAndDrain (tx : TxId) : UsageCall := if tx = 0 then .collect else .drain

def metering : UsageCalls :=
  startCalls toString meteringConfig collectAndDrain unsettledWorld

/-- The period ends at 100; it is settled first, then the queue is recorded. -/
def settleThenRecord : List (Choice TxId Env Err) :=
  List.replicate 4 (.run 0 (.available 200 "o0")) ++ List.replicate 8 (.run 1 (.available 200 "r1"))

/-- The settlement takes its snapshot, the queue is recorded, and the settlement commits. -/
def recordMeanwhile : List (Choice TxId Env Err) :=
  List.replicate 3 (.run 0 (.available 200 "o0")) ++
    List.replicate 8 (.run 1 (.available 200 "r1")) ++ [.run 0 (.available 200 "o0")]

/-- The queue is recorded first. -/
def recordThenSettle : List (Choice TxId Env Err) :=
  List.replicate 8 (.run 1 (.available 200 "r1")) ++ List.replicate 3 (.run 0 (.available 200 "o0"))

/-- The usage of a job that is recorded after the settlement is not billed. -/
theorem not_settlement_billsUsage :
    ¬∀ P, Reach readCommitted (fun _ _ => True) metering P →
      (∀ job ∈ P.state.usageIngestJobs.rows, job.status = .processed) →
      ∀ source ∈ P.state.invoices.rows, source.overageProcessedAt.isSome →
        ∀ plan, P.state.planOf source.subscriptionId = some plan →
          P.state.derivedSettlement source.id = buildSettlement plan
            (P.state.usageIn source.subscriptionId source.periodStart source.periodEnd) := by
  intro h
  -- the queue is drained, the source is settled, and nothing is charged
  have hfacts : (runSchedule readCommitted settleThenRecord metering).map (fun P =>
      (P.state.usageIngestJobs.rows.all (·.status = .processed), P.state.invoices.rows,
        P.state.planOf "sub", P.state.derivedSettlement "inv", P.state.usageIn "sub" 0 100)) =
      some (true, [{ sourceInvoice with overageProcessedAt := some 200 }], some overagePlan,
        ⟨0, 0, 0⟩, 15) := by
    decide +kernel
  obtain ⟨P, hP, hfacts⟩ := Option.map_eq_some_iff.mp hfacts
  simp only [Prod.mk.injEq] at hfacts
  obtain ⟨hdrained, hrows, hplan, hcharge, husage⟩ := hfacts
  have hbilled := h P (reach_runSchedule _ .init hP)
    (fun job hjob => of_decide_eq_true (List.all_eq_true.mp hdrained job hjob))
    _ (hrows ▸ List.mem_singleton.mpr rfl) rfl overagePlan hplan
  have hzero : (⟨0, 0, 0⟩ : Settlement) = buildSettlement overagePlan 15 := by
    rw [← hcharge, ← husage]
    exact hbilled
  exact absurd hzero (by decide)

/-- Nor is that of a job that is recorded between the snapshot and the commit. -/
example : (runSchedule readCommitted recordMeanwhile metering).map (fun P =>
    ((P.state.invoices.find? "inv").map (·.overageProcessedAt), P.state.derivedSettlement "inv",
      P.state.usageIn "sub" 0 100)) = some (some (some 200), ⟨0, 0, 0⟩, 15) := by
  decide +kernel

/-- Recorded before, it is: 5 requests over the quota, at 5 each. -/
theorem settlement_billsUsage_drained :
    ∃ H, recallWhile readCommitted BillsInTime recordThenSettle (metering, fun _ =>
      unsettledWorld) =
        some H ∧
      H.1.state.derivedSettlement "inv" = ⟨5, 5, 25⟩ ∧
      H.1.state.derivedSettlement "inv" =
        buildSettlement overagePlan (H.1.state.usageIn "sub" 0 100) := by
  have hfacts : (recallWhile readCommitted BillsInTime recordThenSettle
      (metering, fun _ => unsettledWorld)).map (fun H =>
        (H.1.state.invoices.find? "inv", H.1.state.planOf "sub",
          H.1.state.derivedSettlement "inv")) =
      some (some { sourceInvoice with overageProcessedAt := some 200 }, some overagePlan,
        ⟨5, 5, 25⟩) := by
    decide +kernel
  obtain ⟨H, hH, hfacts⟩ := Option.map_eq_some_iff.mp hfacts
  simp only [Prod.mk.injEq] at hfacts
  obtain ⟨hfound, hplan, hcharge⟩ := hfacts
  -- the sample world has one plan, and no source is settled in it
  have hw₀ : Settled unsettledWorld := by
    refine ⟨fun _ => rfl, fun plan hmem => ?_, fun source hmem hsettled => ?_,
      fun o hmem id hid => ?_⟩
    · obtain rfl := List.mem_singleton.mp hmem
      exact ⟨fun n hn => Option.some.inj hn ▸ by decide,
        fun n hn => Option.some.inj hn ▸ by decide⟩
    · obtain rfl := List.mem_singleton.mp hmem
      cases hsettled
    · obtain rfl := List.mem_singleton.mp hmem
      cases hid
  have hrun := recall_recallWhile metering _ .init hH
  have hbilled := settlement_billsUsage hw₀ hrun _ (Table.mem_of_find? hfound) rfl overagePlan hplan
  exact ⟨H, hH, hcharge, hbilled⟩

end HivePoint
