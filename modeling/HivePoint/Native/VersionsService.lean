import HivePoint.Native.ProductsService

/-!
# VersionsService

`versions.service.ts`: what the catalogue shows of the versions of a product, and the seller's
changes of them.
-/

namespace HivePoint

/-- `apiVersion.findUnique({ where: { id }, select: { ..., product } })` -/
def World.findVersionWithProduct (w : World) (versionId : Id) :
    Option (ApiVersion × ApiProduct) := do
  let version ← w.apiVersions.find? versionId
  let product ← w.products.find? version.productId
  return (version, product)

def versionNotFound : Err := .app ⟨.versionNotFound, "VERSION_NOT_FOUND", 404, []⟩

/-! ### The public catalogue -/

/-- What `versionSelect` selects. -/
structure VersionDto where
  id : Id
  productId : Id
  version : String
  status : VersionStatus
  openApiUrl : Text
  createdAt : Int
  deriving DecidableEq

def ApiVersion.toDto (row : ApiVersion) : VersionDto :=
  ⟨row.id, row.productId, row.version, row.status, row.openApiUrl, row.createdAt⟩

/-- What is thrown at a viewer who may not see what is not public. -/
def notVisible (user : Option AuthenticatedUser) : Err :=
  if user.isNone then productNotPublic else notProductOwner

def listProductVersions (productId : Id) (user : Option AuthenticatedUser) :
    Op (List VersionDto) := do
  match ← read (·.products.find? productId) with
  | none => throw planProductNotFound
  | some product =>
    let isOwnerAdmin := isOwnerOrAdmin product user
    if product.status ≠ .published && !isOwnerAdmin then throw (notVisible user)
    else
      let items ← read fun w =>
        (w.apiVersions.rows.filter fun version =>
          version.productId = productId && (isOwnerAdmin || version.status = .published)).mergeSort
            fun a b => b.createdAt ≤ a.createdAt
      return items.map (·.toDto)

structure VersionSchemaDto where
  versionId : Id
  productId : Id
  version : String
  openApiUrl : Text
  fetchedAt : Option Int
  schema : Text
  deriving DecidableEq

def schemaNotAvailable : Err := .app ⟨.notFound, "OPENAPI_SCHEMA_NOT_AVAILABLE", 404, []⟩

def getVersionSchema (versionId : Id) (user : Option AuthenticatedUser) : Op VersionSchemaDto := do
  match ← read (·.findVersionWithProduct versionId) with
  | none => throw versionNotFound
  | some (version, product) =>
    let isPublic := product.status = .published && version.status = .published
    if !isPublic && !isOwnerOrAdmin product user then throw (notVisible user)
    else
      -- the empty text is falsy
      match version.openApiSnapshot.filter (· ≠ []) with
      | none => throw schemaNotAvailable
      | some schema =>
        return ⟨version.id, version.productId, version.version, version.openApiUrl,
          version.openApiFetchedAt, schema⟩

/-! ### Changes by the seller -/

def isVersionStatusTransitionAllowed (current next : VersionStatus) : Bool :=
  current = next || (current = .draft && next = .published) ||
    (current = .published && next = .draft)

structure UpdateVersionInput where
  status : Option VersionStatus
  openApiUrl : Option Text

/-- `prisma.apiVersion.update({ where: { id }, data })`, with the row that it returns -/
def World.updateVersion (w : World) (id : Id) (data : ApiVersion → ApiVersion) :
    Except Err (ApiVersion × World) :=
  match w.apiVersions.find? id with
  | none => .error .recordNotFound
  | some row =>
    match w.apiVersions.update? id data with
    | some apiVersions => .ok (data row, { w with apiVersions })
    | none => .error (.uniqueConstraint [])

/-- The `data` of the update, with the URL and the snapshot that was fetched from it at an
    instant. -/
def UpdateVersionInput.data (input : UpdateVersionInput) (fetched : Option (Text × Text × Int))
    (row : ApiVersion) : ApiVersion :=
  { row with
    status := input.status.getD row.status
    openApiUrl := (fetched.map (·.1)).getD row.openApiUrl
    openApiSnapshot := (fetched.map (some ·.2.1)).getD row.openApiSnapshot
    openApiFetchedAt := (fetched.map (some ·.2.2)).getD row.openApiFetchedAt }

/-- `updateVersion`, with the download of the snapshot as a parameter. -/
def updateVersion (fetchOpenApiSnapshot : Text → Op Text) (versionId : Id)
    (input : UpdateVersionInput) (user : AuthenticatedUser) : Op ApiVersion := do
  match ← read (·.findVersionWithProduct versionId) with
  | none => throw versionNotFound
  | some (version, product) =>
    if !isOwnerOrAdmin product (some user) then throw notProductOwner
    else if input.status.any (!isVersionStatusTransitionAllowed version.status ·) then
      throw invalidStatusTransition
    else
      match input.openApiUrl with
      | none => mutate fun _ w => w.updateVersion versionId (input.data none)
      | some openApiUrl => do
        let openApiSnapshot ← fetchOpenApiSnapshot openApiUrl
        let openApiFetchedAt ← clock
        mutate fun _ w =>
          w.updateVersion versionId
            (input.data (some (openApiUrl, openApiSnapshot, openApiFetchedAt)))

end HivePoint
