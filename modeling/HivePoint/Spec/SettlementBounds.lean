import HivePoint.Native.PlansService
import HivePoint.Spec.ProjectedOverage

/-!
# The amount of an overage and its column

The schema of a plan bounds its numbers from below only, and the columns bound them from above
one by one. The amount of an overage is a product of two of them, which has a column of the same
type.

## Key results

- `resolveOverageConfig_of_accepted`: the service takes each plan that the schema accepts
- `ceilDiv_le_iff`: a number of units covers the excess or does not
- `settlement_fits_iff`: the usage for which the overage invoice fits its columns
- `not_settlement_fits`: a plan and a usage for which it does not
-/

namespace HivePoint

open Prog

/-! ### What the schema accepts -/

/-- An accepted body has no issues. -/
private theorem createPlanSchema_eq_ok {body : CreatePlanBody} {input : CreatePlanInput}
    (h : createPlanSchema body = .ok input) :
    body.fieldIssues = [] ∧ body.overageIssues = [] ∧ input = body.parsed := by
  unfold createPlanSchema at h
  split at h
  · rename_i hissues
    obtain rfl := Except.ok.inj h
    unfold CreatePlanBody.issues at hissues
    split at hissues
    · rename_i htype
      rw [hissues] at htype
      exact nomatch htype
    · obtain ⟨hfields, hoverage⟩ := List.append_eq_nil_iff.mp hissues
      exact ⟨hfields, hoverage, rfl⟩
  · exact nomatch h

/-- A number without issues is not less than the bound. -/
private theorem le_of_numberIssues {path : String} {least : Int} {value : Rat}
    (h : numberIssues path least value = []) : least ≤ value.num := by
  unfold numberIssues at h
  split at h
  · exact nomatch h
  · obtain ⟨-, hleast⟩ := List.append_eq_nil_iff.mp h
    by_contra hlt
    rw [if_pos (not_le.mp hlt)] at hleast
    exact nomatch hleast

/-- A value without issues is large enough. -/
private theorem le_of_optionalIssues {path : String} {least n : Int} {value : Option Rat}
    (h : optionalIssues (numberIssues path least) value = []) (hn : value.map (·.num) = some n) :
    least ≤ n := by
  cases value with
  | none => exact nomatch hn
  | some value =>
    obtain rfl := Option.some.inj hn
    exact le_of_numberIssues h

/-- The bounds of the schema. -/
structure AcceptedPlan (input : CreatePlanInput) : Prop where
  priceCents : 0 ≤ input.priceCents
  quotaRequests : 1 ≤ input.quotaRequests
  rateLimitRpm : ∀ n, input.rateLimitRpm = some n → 1 ≤ n
  overageUnitRequests : ∀ n, input.overageUnitRequests = some n → 1 ≤ n
  overagePriceCents : ∀ n, input.overagePriceCents = some n → 1 ≤ n
  /-- the two overage fields are there if overage is allowed, and only then -/
  overage : (input.allowOverage = some true ↔ input.overageUnitRequests.isSome) ∧
    (input.allowOverage = some true ↔ input.overagePriceCents.isSome)

/-- What the schema accepts is within its bounds. -/
private theorem createPlanSchema_accepted {body : CreatePlanBody} {input : CreatePlanInput}
    (h : createPlanSchema body = .ok input) : AcceptedPlan input := by
  obtain ⟨hfields, hoverage, rfl⟩ := createPlanSchema_eq_ok h
  simp only [CreatePlanBody.fieldIssues, List.append_eq_nil_iff] at hfields
  obtain ⟨⟨⟨⟨⟨⟨⟨-, -⟩, hpriceCents⟩, -⟩, hquota⟩, hrate⟩, hunit⟩, hprice⟩ := hfields
  refine ⟨le_of_numberIssues hpriceCents, le_of_numberIssues hquota,
    fun n => le_of_optionalIssues hrate, fun n => le_of_optionalIssues hunit,
    fun n => le_of_optionalIssues hprice, ?_⟩
  unfold CreatePlanBody.overageIssues at hoverage
  simp only [CreatePlanBody.parsed, Option.isSome_map]
  by_cases hallow : body.allowOverage = some true
  · cases hu : body.overageUnitRequests <;> cases hp : body.overagePriceCents <;>
      simp [hallow, hu, hp] at hoverage ⊢
  · cases hu : body.overageUnitRequests <;> cases hp : body.overagePriceCents <;>
      simp [hallow, hu, hp] at hoverage ⊢

/-- The service repeats the check of the schema, and refuses nothing that the schema accepts. -/
theorem resolveOverageConfig_of_accepted {input : CreatePlanInput} (h : AcceptedPlan input) :
    resolveOverageConfig input =
      .ok ⟨input.allowOverage = some true, input.overageUnitRequests, input.overagePriceCents⟩ := by
  obtain ⟨hunit, hprice⟩ := h.overage
  unfold resolveOverageConfig
  by_cases hallow : input.allowOverage = some true
  · obtain ⟨unit, hu⟩ := Option.isSome_iff_exists.mp (hunit.mp hallow)
    obtain ⟨price, hp⟩ := Option.isSome_iff_exists.mp (hprice.mp hallow)
    simp [hallow, hu, hp]
  · have hu : input.overageUnitRequests = none := by simpa [hallow] using hunit
    have hp : input.overagePriceCents = none := by simpa [hallow] using hprice
    simp [hallow, hu, hp]

/-! ### What the service stores -/

/-- The row that an accepted input describes. -/
def CreatePlanInput.row (input : CreatePlanInput) (id : Id) (createdAt : Int := 0) : Plan :=
  input.plan ⟨input.allowOverage = some true, input.overageUnitRequests, input.overagePriceCents⟩ id
    createdAt

section CreatePlan

variable {input : CreatePlanInput} {w w' : World} {plan : Plan}

/-- A stored plan fits its columns. -/
private theorem insertPlan_eq_ok {row : Plan} (h : w.insertPlan row = .ok (plan, w')) :
    plan = row ∧ row.fitsColumns = true := by
  unfold World.insertPlan at h
  split at h
  · exact nomatch h
  · rename_i hfits
    split at h
    · obtain ⟨rfl, rfl⟩ := Prod.mk.inj (Except.ok.inj h)
      exact ⟨rfl, by simpa using hfits⟩
    · exact nomatch h

/-- A plan that is created is the one of the input, whatever else happens in the meantime. -/
private theorem sat_createPlan {C : Contract World Env} (hguar : ∀ w w', C.guar w w')
    (haccepted : AcceptedPlan input) (user : AuthenticatedUser) (w : World) :
    (createPlan input user).Sat C (fun r _ => ∀ plan, r = .ok plan → plan.fitsColumns = true ∧
      ∃ id createdAt, plan = input.row id createdAt) w := by
  -- the checks before the insert do not depend on what the others do
  have hfree : Stable C fun _ => True := ⟨fun _ _ _ _ => trivial, fun w _ => hguar w w⟩
  unfold createPlan
  split
  · exact fun _ h => nomatch h
  · refine (sat_bind _ _ _ w).mpr (sat_read hfree trivial (fun w₁ _ => ?_) fun _ _ _ _ h =>
      nomatch h)
    dsimp only
    split
    · exact fun _ h => nomatch h
    · split
      · exact fun _ h => nomatch h
      · rw [resolveOverageConfig_of_accepted haccepted]
        refine sat_mutate hfree trivial (fun env w₂ plan v _ _ hinsert => ⟨hguar w₂ v, ?_⟩)
          fun _ _ _ _ h => nomatch h
        intro _ hplan
        obtain rfl := Except.ok.inj hplan
        obtain ⟨rfl, hfits⟩ := insertPlan_eq_ok hinsert
        exact ⟨hfits, env.uuid, env.now, rfl⟩

end CreatePlan

/-! ### The amount -/

section Settlement

variable {plan : Plan} {unit price : Int}

/-- The units charged are not more than the requests, and these not more than the usage. -/
private theorem settlement_units (hpos : ∀ unit, plan.overageUnitRequests = some unit → 1 ≤ unit)
    (hquota : 1 ≤ plan.quotaRequests) (usedRequests : Int) :
    0 ≤ (buildSettlement plan usedRequests).overageUnits ∧
      (buildSettlement plan usedRequests).overageUnits ≤
        (buildSettlement plan usedRequests).overageRequests ∧
      (buildSettlement plan usedRequests).overageRequests ≤ max 0 usedRequests := by
  unfold buildSettlement
  split
  · rename_i unit price hunit _
    split
    · exact ⟨le_refl 0, le_refl 0, le_max_left 0 _⟩
    · rename_i hover
      simp only [Bool.or_eq_true, decide_eq_true_eq, not_or, not_le] at hover
      have hexcess : 0 ≤ usedRequests - plan.quotaRequests := by omega
      refine ⟨ceilDiv_nonneg (hpos unit hunit) hexcess,
        ceilDiv_le_self (hpos unit hunit) hexcess, ?_⟩
      show usedRequests - plan.quotaRequests ≤ max 0 usedRequests
      omega
  · exact ⟨le_refl 0, le_refl 0, le_max_left 0 _⟩

/-- Without overage fields nothing is charged. -/
private theorem amountCents_of_none (h : plan.overageUnitRequests = none) (usedRequests : Int) :
    (buildSettlement plan usedRequests).amountCents = 0 := by
  simp [buildSettlement, h]

/-- The amount fits if the usage is within the quota and the units that the column can pay. -/
private theorem amountCents_le_iff (hallow : plan.allowOverage = true)
    (hunit : plan.overageUnitRequests = some unit) (hprice : plan.overagePriceCents = some price)
    (hpos : 0 < unit) (hpos' : 0 < price) (usedRequests : Int) {most : Int} (hmost : 0 ≤ most) :
    (buildSettlement plan usedRequests).amountCents ≤ most ↔
      usedRequests ≤ plan.quotaRequests + most / price * unit := by
  rw [← (getOverageState_eq_settlement plan usedRequests).2,
    overage_eq_price hallow hunit hprice hpos hpos', mul_comm, ← Int.le_ediv_iff_mul_le hpos',
    ceilDiv_le_iff hpos]
  have hpaid : 0 ≤ most / price * unit :=
    Int.mul_nonneg (Int.ediv_nonneg hmost hpos'.le) hpos.le
  omega

/-- A charge is never negative. -/
private theorem amountCents_nonneg (hunit : ∀ unit, plan.overageUnitRequests = some unit → 1 ≤ unit)
    (hprice : ∀ price, plan.overagePriceCents = some price → 1 ≤ price) (usedRequests : Int) :
    0 ≤ (buildSettlement plan usedRequests).amountCents := by
  unfold buildSettlement
  split
  · rename_i unit price hu hp
    split
    · exact le_refl 0
    · rename_i hover
      simp only [Bool.or_eq_true, decide_eq_true_eq, not_or, not_le] at hover
      have hunits := ceilDiv_nonneg (hunit unit hu) (Int.sub_nonneg_of_le hover.2.le)
      have hcents := hprice price hp
      exact Int.mul_nonneg hunits (by omega)
  · exact le_refl 0

end Settlement

/-- The usage for which the amount of an accepted plan fits. -/
private theorem amountCents_row_le_iff {input : CreatePlanInput} (h : AcceptedPlan input) (id : Id)
    (createdAt usedRequests : Int) :
    (buildSettlement (input.row id createdAt) usedRequests).amountCents ≤ maxInt ↔
      ∀ unit price, input.overageUnitRequests = some unit → input.overagePriceCents = some price →
        usedRequests ≤ input.quotaRequests + maxInt / price * unit := by
  -- without a unit nothing is charged; with one there is a price, and overage is allowed
  cases hu : input.overageUnitRequests with
  | none =>
    have hamount : (buildSettlement (input.row id createdAt) usedRequests).amountCents = 0 :=
      amountCents_of_none hu usedRequests
    exact iff_of_true (hamount.trans_le (by decide)) fun _ _ hunit => nomatch hunit
  | some unit =>
    have hallow : input.allowOverage = some true := h.overage.1.mpr (by rw [hu]; rfl)
    obtain ⟨price, hp⟩ := Option.isSome_iff_exists.mp (h.overage.2.mp hallow)
    have hallowed : (input.row id createdAt).allowOverage = true := decide_eq_true hallow
    have hfits := amountCents_le_iff hallowed hu hp
      (h.overageUnitRequests unit hu) (h.overagePriceCents price hp) usedRequests
      (show 0 ≤ maxInt by decide)
    refine hfits.trans ⟨fun hle unit' price' hu' hp' => ?_, fun hle => hle unit price rfl hp⟩
    obtain rfl := Option.some.inj hu'
    obtain rfl := Option.some.inj (hp.symm.trans hp')
    exact hle

/-- What fits the column. -/
private theorem fitsInt_iff {n : Int} : fitsInt n = true ↔ -2 ^ 31 ≤ n ∧ n ≤ maxInt := by
  simp [fitsInt]

/-- Of the numbers of an overage invoice only the amount can be too large. -/
private theorem fitsColumns_overageInvoice {input : CreatePlanInput} (h : AcceptedPlan input)
    (planId : Id) (createdAt : Int) {usedRequests : Int} (hused : usedRequests ≤ maxInt)
    (source : Invoice) (id : Id) (now : Int) :
    (overageInvoice source (input.row planId createdAt)
        (buildSettlement (input.row planId createdAt) usedRequests) id now).fitsColumns = true ↔
      (buildSettlement (input.row planId createdAt) usedRequests).amountCents ≤ maxInt := by
  have hamount : 0 ≤ (buildSettlement (input.row planId createdAt) usedRequests).amountCents :=
    amountCents_nonneg h.overageUnitRequests h.overagePriceCents usedRequests
  have hquota : 1 ≤ (input.row planId createdAt).quotaRequests := h.quotaRequests
  obtain ⟨hunits, hle, hrequests⟩ := settlement_units h.overageUnitRequests hquota usedRequests
  have hmax : max 0 usedRequests ≤ maxInt := max_le (by decide) hused
  generalize buildSettlement (input.row planId createdAt) usedRequests =
    settlement at hamount hunits hle hrequests
  have hzero : fitsInt 0 = true := rfl
  show (fitsInt settlement.overageRequests && fitsInt settlement.overageUnits &&
    fitsInt settlement.amountCents && fitsInt 0 && fitsInt 0) = true ↔ _
  simp only [hzero, Bool.and_eq_true, and_true, fitsInt_iff]
  omega

/-- The amount of a plan that was created, and the invoice with it, fit their columns if and only
    if the usage is within the quota and the units that `maxInt` cents pay. -/
theorem settlement_fits_iff {body : CreatePlanBody} {input : CreatePlanInput}
    {user : AuthenticatedUser} {E : Env → Prop} {w w' : World} {plan : Plan} {usedRequests : Int}
    (haccepted : createPlanSchema body = .ok input)
    (hcreated : (createPlan input user).Runs E w (.ok plan) w') (hused : usedRequests ≤ maxInt) :
    ((0 ≤ (buildSettlement plan usedRequests).amountCents ∧
        (buildSettlement plan usedRequests).amountCents ≤ maxInt) ↔
      ∀ unit price, input.overageUnitRequests = some unit → input.overagePriceCents = some price →
        usedRequests ≤ input.quotaRequests + maxInt / price * unit) ∧
    ∀ source id now,
      (overageInvoice source plan (buildSettlement plan usedRequests) id now).fitsColumns = true ↔
        ∀ unit price, input.overageUnitRequests = some unit → input.overagePriceCents = some price →
          usedRequests ≤ input.quotaRequests + maxInt / price * unit := by
  have hbounds := createPlanSchema_accepted haccepted
  -- the plan is a row of the accepted input, so its amounts have the schema's bounds
  obtain ⟨-, id, createdAt, rfl⟩ :=
    (sat_createPlan (C := Contract.alone E) (fun _ _ => trivial) hbounds user w).runs
      hcreated plan rfl
  have hfits := amountCents_row_le_iff hbounds id createdAt usedRequests
  have hnonneg : 0 ≤ (buildSettlement (input.row id createdAt) usedRequests).amountCents :=
    amountCents_nonneg hbounds.overageUnitRequests hbounds.overagePriceCents usedRequests
  refine ⟨(and_iff_right hnonneg).trans hfits, fun source invoiceId now => ?_⟩
  exact (fitsColumns_overageInvoice hbounds id createdAt hused source invoiceId now).trans hfits

/-- A plan of 1000 requests, with each further request at a dollar. -/
def dollarPlan : CreatePlanBody where
  productId := "product".toList
  name := "Basic".toList
  priceCents := 0
  currency := some "USD".toList
  period := none
  quotaRequests := 1000
  rateLimitRpm := none
  allowOverage := some true
  overageUnitRequests := some 1
  overagePriceCents := some 100
  isActive := none

def sampleSeller : AuthenticatedUser := ⟨"seller", "seller@example.com", .seller⟩

/-- The sample plan is accepted. -/
private theorem dollarPlan_accepted : createPlanSchema dollarPlan = .ok dollarPlan.parsed :=
  if_pos (by decide +kernel)

/-- The seller creates the plan. -/
private theorem dollarPlan_created :
    ∃ w', (createPlan dollarPlan.parsed sampleSeller).Runs (fun _ => True)
      { World.empty with products := .singleton sampleProduct }
      (.ok (dollarPlan.parsed.row "plan")) w' :=
  ⟨_, runs_exec (Env.available 0 "plan") trivial _ _⟩

/-- The sample plan's charge fits the column. -/
theorem settlement_fits_iff_sample :
    (buildSettlement (dollarPlan.parsed.row "plan") 5000).amountCents ≤ maxInt := by
  obtain ⟨w', hcreated⟩ := dollarPlan_created
  refine ((settlement_fits_iff dollarPlan_accepted hcreated (by decide)).1.mpr ?_).2
  intro unit price hunit hprice
  obtain rfl := Option.some.inj hunit
  obtain rfl := Option.some.inj hprice
  decide

/-- With 22 million requests the amount is too large. -/
theorem not_settlement_fits :
    ¬∀ (body : CreatePlanBody) (input : CreatePlanInput) (user : AuthenticatedUser)
        (w w' : World) (plan : Plan) (usedRequests : Int),
      createPlanSchema body = .ok input →
      (createPlan input user).Runs (fun _ => True) w (.ok plan) w' →
      0 ≤ usedRequests → usedRequests ≤ maxInt →
      0 ≤ (buildSettlement plan usedRequests).amountCents ∧
        (buildSettlement plan usedRequests).amountCents ≤ maxInt := by
  intro h
  obtain ⟨w', hcreated⟩ := dollarPlan_created
  have hfits := h _ _ _ _ w' _ 22000000 dollarPlan_accepted hcreated (by decide) (by decide)
  exact absurd hfits.2 (by decide +kernel)

end HivePoint
