import HivePoint.Native.SubscriptionsService

/-!
# PlansService and the schema of a plan

`createPlanSchema` of `billing.schemas.ts`, and `createPlan` and `listActivePlans` of
`plans.service.ts`. A body has fields of the declared types; its numbers may have a fraction.
-/

namespace HivePoint

/-- The largest value of a column of type `Int`. -/
def maxInt : Int := 2 ^ 31 - 1

/-- Is `n` a value of a column of type `Int`? -/
def fitsInt (n : Int) : Bool := -2 ^ 31 ≤ n && n ≤ maxInt

/-! ### createPlanSchema -/

inductive IssueCode where
  | invalidType | tooSmall | tooBig
  | custom (message : String)
  deriving DecidableEq

structure Issue where
  path : String
  code : IssueCode
  deriving DecidableEq

structure CreatePlanBody where
  productId : Text
  name : Text
  priceCents : Rat
  currency : Option Text
  period : Option PlanPeriod
  quotaRequests : Rat
  rateLimitRpm : Option Rat
  allowOverage : Option Bool
  overageUnitRequests : Option Rat
  overagePriceCents : Option Rat
  isActive : Option Bool

structure CreatePlanInput where
  productId : Id
  name : String
  priceCents : Int
  currency : Option String
  period : Option PlanPeriod
  quotaRequests : Int
  rateLimitRpm : Option Int
  allowOverage : Option Bool
  overageUnitRequests : Option Int
  overagePriceCents : Option Int
  isActive : Option Bool
  deriving DecidableEq

/-- `z.string().trim().min(least).max(most)` -/
def stringIssues (path : String) (least : Nat) (most : Option Nat) (value : Text) : List Issue :=
  let length := value.trim.utf16Length
  (if length < least then [⟨path, .tooSmall⟩] else []) ++
    (if most.any (· < length) then [⟨path, .tooBig⟩] else [])

/-- `z.number().int().min(least)`; the other checks are left out after a fraction. -/
def numberIssues (path : String) (least : Int) (value : Rat) : List Issue :=
  if value.den ≠ 1 then [⟨path, .invalidType⟩]
  else
    (if maxSafeInteger < value.num then [⟨path, .tooBig⟩] else []) ++
      (if value.num < -maxSafeInteger then [⟨path, .tooSmall⟩] else []) ++
      (if value.num < least then [⟨path, .tooSmall⟩] else [])

def optionalIssues {α : Type} (issues : α → List Issue) : Option α → List Issue
  | none => []
  | some value => issues value

/-- The issues of the fields, in the order of the schema. -/
def CreatePlanBody.fieldIssues (body : CreatePlanBody) : List Issue :=
  stringIssues "productId" 1 none body.productId ++
    stringIssues "name" 2 (some 60) body.name ++
    numberIssues "priceCents" 0 body.priceCents ++
    optionalIssues (stringIssues "currency" 1 (some 10)) body.currency ++
    numberIssues "quotaRequests" 1 body.quotaRequests ++
    optionalIssues (numberIssues "rateLimitRpm" 1) body.rateLimitRpm ++
    optionalIssues (numberIssues "overageUnitRequests" 1) body.overageUnitRequests ++
    optionalIssues (numberIssues "overagePriceCents" 1) body.overagePriceCents

/-- The `superRefine` of the schema. -/
def CreatePlanBody.overageIssues (body : CreatePlanBody) : List Issue :=
  let allowOverage := body.allowOverage = some true
  let hasOverageFields := body.overageUnitRequests.isSome || body.overagePriceCents.isSome
  if allowOverage then
    (if body.overageUnitRequests.isNone then
      [⟨"overageUnitRequests", .custom "OVERAGE_UNIT_REQUESTS_REQUIRED_WHEN_OVERAGE_ENABLED"⟩] else
        []) ++
    (if body.overagePriceCents.isNone then
      [⟨"overagePriceCents", .custom "OVERAGE_PRICE_CENTS_REQUIRED_WHEN_OVERAGE_ENABLED"⟩] else [])
  else if hasOverageFields then
    [⟨"allowOverage", .custom "OVERAGE_FIELDS_REQUIRE_ALLOW_OVERAGE"⟩]
  else []

/-- The refinement does not run on a body with a field of another type. -/
def CreatePlanBody.issues (body : CreatePlanBody) : List Issue :=
  if body.fieldIssues.any (·.code = .invalidType) then body.fieldIssues
  else body.fieldIssues ++ body.overageIssues

def CreatePlanBody.parsed (body : CreatePlanBody) : CreatePlanInput where
  productId := String.ofList body.productId.trim
  name := String.ofList body.name.trim
  priceCents := body.priceCents.num
  currency := body.currency.map fun value => String.ofList value.trim
  period := body.period
  quotaRequests := body.quotaRequests.num
  rateLimitRpm := body.rateLimitRpm.map (·.num)
  allowOverage := body.allowOverage
  overageUnitRequests := body.overageUnitRequests.map (·.num)
  overagePriceCents := body.overagePriceCents.map (·.num)
  isActive := body.isActive

/-- `createPlanSchema.safeParse(body)` -/
def createPlanSchema (body : CreatePlanBody) : Except (List Issue) CreatePlanInput :=
  if body.issues = [] then .ok body.parsed else .error body.issues

/-! ### createPlan -/

def forbiddenRole : Err := .app ⟨.forbiddenRole, "FORBIDDEN_ROLE", 403, []⟩
def planProductNotFound : Err := .app ⟨.productNotFound, "PRODUCT_NOT_FOUND", 404, []⟩
def notProductOwner : Err := .app ⟨.notOwner, "NOT_OWNER", 403, []⟩
def overageFieldsRequireAllowOverage : Err :=
  .app ⟨.badRequest, "OVERAGE_FIELDS_REQUIRE_ALLOW_OVERAGE", 400, []⟩
def overageFieldsRequired : Err :=
  .app ⟨.badRequest, "OVERAGE_UNIT_REQUESTS_AND_OVERAGE_PRICE_CENTS_REQUIRED", 400, []⟩

structure OverageConfig where
  allowOverage : Bool
  overageUnitRequests : Option Int
  overagePriceCents : Option Int
  deriving DecidableEq

def resolveOverageConfig (input : CreatePlanInput) : Except Err OverageConfig :=
  let allowOverage := input.allowOverage = some true
  let hasOverageFields := input.overageUnitRequests.isSome || input.overagePriceCents.isSome
  if ¬allowOverage then
    if hasOverageFields then .error overageFieldsRequireAllowOverage
    else .ok ⟨false, none, none⟩
  else
    match input.overageUnitRequests, input.overagePriceCents with
    | some overageUnitRequests, some overagePriceCents =>
      .ok ⟨true, some overageUnitRequests, some overagePriceCents⟩
    | _, _ => .error overageFieldsRequired

/-- The `data` of `plan.create`. -/
def CreatePlanInput.plan (input : CreatePlanInput) (overageConfig : OverageConfig) (id : Id)
    (createdAt : Int) : Plan where
  id := id
  productId := input.productId
  name := input.name
  priceCents := input.priceCents
  currency := input.currency.getD "EUR"
  period := input.period.getD .month
  quotaRequests := input.quotaRequests
  rateLimitRpm := input.rateLimitRpm
  allowOverage := overageConfig.allowOverage
  overageUnitRequests := overageConfig.overageUnitRequests
  overagePriceCents := overageConfig.overagePriceCents
  isActive := input.isActive.getD true
  createdAt := createdAt

/-- Do the numbers of the row fit their columns? -/
def Plan.fitsColumns (plan : Plan) : Bool :=
  fitsInt plan.priceCents && fitsInt plan.quotaRequests && plan.rateLimitRpm.all fitsInt &&
    plan.overageUnitRequests.all fitsInt && plan.overagePriceCents.all fitsInt

/-- The same of an invoice. -/
def Invoice.fitsColumns (invoice : Invoice) : Bool :=
  invoice.overageRequests.all fitsInt && invoice.overageUnits.all fitsInt &&
    fitsInt invoice.amountCents && fitsInt invoice.attemptCount && fitsInt invoice.managedRetryCount

/-- `plan.create`: a number that does not fit its column is refused. -/
def World.insertPlan (w : World) (plan : Plan) : Except Err (Plan × World) :=
  if !plan.fitsColumns then
    .error (.database "Unable to fit integer value into an INT4 (32-bit signed integer).")
  else
    match w.plans.insert? plan with
    | some plans => .ok (plan, { w with plans })
    | none => .error (.uniqueConstraint [])

def createPlan (input : CreatePlanInput) (user : AuthenticatedUser) : Op Plan :=
  if user.role ≠ .seller ∧ user.role ≠ .admin then throw forbiddenRole
  else do
    match ← read (·.products.find? input.productId) with
    | none => throw planProductNotFound
    | some product =>
      if user.role = .seller ∧ product.ownerId ≠ user.id then throw notProductOwner
      else
        match resolveOverageConfig input with
        | .error e => throw e
        | .ok overageConfig =>
          mutate fun env w => w.insertPlan (input.plan overageConfig env.uuid env.now)

/-! ### Who may see and change a product -/

/-- `isOwnerOrAdmin`, of the products, the versions and the plans. -/
def isOwnerOrAdmin (product : ApiProduct) : Option AuthenticatedUser → Bool
  | none => false
  | some user => user.role = .admin || user.id = product.ownerId

/-! ### listActivePlans -/

def listActivePlans (productId : Id) (user : Option AuthenticatedUser) : Op (List Plan) := do
  match ← read (·.products.find? productId) with
  | none => throw planProductNotFound
  | some product =>
    let isOwnerAdmin := isOwnerOrAdmin product user
    let findActive : Op (List Plan) := read fun w =>
      (w.plans.rows.filter fun plan => plan.productId = productId && plan.isActive).mergeSort
        fun a b => b.createdAt ≤ a.createdAt
    if !isOwnerAdmin && product.status ≠ .published then throw productNotPublic
    else if isOwnerAdmin then findActive
    else
      match ← read (·.findPublishedVersion productId) with
      | none => return []
      | some _ => findActive

end HivePoint
