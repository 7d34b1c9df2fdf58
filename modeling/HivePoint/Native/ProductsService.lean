import HivePoint.Native.PlansService

/-!
# ProductsService

`products.service.ts`: what the catalogue shows of the products, and the seller's changes of
them.
-/

namespace HivePoint

/-! ### The status of a product -/

def invalidStatusTransition : Err :=
  .app ⟨.validationError, "INVALID_STATUS_TRANSITION", 400, []⟩

def isProductStatusTransitionAllowed (current next : ProductStatus) : Bool :=
  current = next || (current = .draft && next = .published) ||
    (current = .published && next = .hidden) || (current = .hidden && next = .published)

/-! ### The public catalogue -/

structure ListProductsQuery where
  search : Option String
  category : Option String
  tag : Option String
  limit : Nat
  offset : Nat

/-- A filter that is set only `if` its value is truthy. -/
def optionalFilter (value : Option String) (filter : String → Bool) : Bool :=
  match value with
  | none => true
  | some value => value = "" || filter value

/-- The `where` of the list of published products. The database compares a column with the
    search text by `contains`, `mode: 'insensitive'`. -/
def ListProductsQuery.where (containsInsensitive : String → String → Bool)
    (query : ListProductsQuery) (product : ApiProduct) : Bool :=
  product.status = .published &&
    optionalFilter query.search (fun search =>
      containsInsensitive product.title search || containsInsensitive product.description search ||
        containsInsensitive product.category search || product.tags.contains search) &&
    optionalFilter query.category (fun category => product.category = category) &&
    optionalFilter query.tag fun tag => product.tags.contains tag

structure ProductListResponse where
  items : List ApiProduct
  total : Nat
  limit : Nat
  offset : Nat
  deriving DecidableEq

def listPublicProducts (containsInsensitive : String → String → Bool) (query : ListProductsQuery) :
    Op ProductListResponse := do
  let items ← read fun w =>
    (((w.products.rows.filter (query.where containsInsensitive)).mergeSort
      fun a b => b.createdAt ≤ a.createdAt).drop query.offset).take query.limit
  let total ← read fun w => w.products.rows.countP (query.where containsInsensitive)
  return ⟨items, total, query.limit, query.offset⟩

/-- The views by the owner and by admins do not count. -/
def recordProductView (product : ApiProduct) (user : Option AuthenticatedUser) : Op Unit :=
  if product.status ≠ .published then return ()
  else if isOwnerOrAdmin product user then return ()
  else mutate fun env w => .ok ((), { w with
    productViews := w.productViews ++ [⟨env.uuid, product.id, user.map (·.id), env.now⟩] })

def getProductById (id : Id) (user : Option AuthenticatedUser) : Op ApiProduct := do
  match ← read (·.products.find? id) with
  | none => throw planProductNotFound
  | some product =>
    if product.status ≠ .published && user.isNone then throw productNotPublic
    else if product.status ≠ .published && !isOwnerOrAdmin product user then throw notProductOwner
    else do
      recordProductView product user
      return product

/-! ### Changes by the seller -/

structure UpdateProductInput where
  title : Option String
  description : Option String
  category : Option String
  tags : Option (List String)
  status : Option ProductStatus

/-- The `data` of the update; a field that is `undefined` is not written. -/
def UpdateProductInput.data (input : UpdateProductInput) (now : Int) (row : ApiProduct) :
    ApiProduct :=
  { row with
    title := input.title.getD row.title
    description := input.description.getD row.description
    category := input.category.getD row.category
    tags := input.tags.getD row.tags
    status := input.status.getD row.status
    updatedAt := now }

/-- `prisma.apiProduct.update({ where: { id }, data })`, with the row that it returns -/
def World.updateProduct (w : World) (id : Id) (data : ApiProduct → ApiProduct) :
    Except Err (ApiProduct × World) :=
  match w.products.find? id with
  | none => .error .recordNotFound
  | some row =>
    match w.products.update? id data with
    | some products => .ok (data row, { w with products })
    | none => .error (.uniqueConstraint [])

def updateProduct (id : Id) (input : UpdateProductInput) (user : AuthenticatedUser) :
    Op ApiProduct := do
  match ← read (·.products.find? id) with
  | none => throw planProductNotFound
  | some product =>
    if !isOwnerOrAdmin product (some user) then throw notProductOwner
    else if input.status.any (!isProductStatusTransitionAllowed product.status ·) then
      throw invalidStatusTransition
    else mutate fun env w => w.updateProduct id (input.data env.now)

end HivePoint
