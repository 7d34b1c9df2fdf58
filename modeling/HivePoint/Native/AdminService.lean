import HivePoint.Native.Transaction
import HivePoint.Native.VersionsService

/-!
# AdminService and the audit log

The moderation actions of `admin.service.ts`, `recordWithClient` of `audit-log.service.ts`,
and the revocation of a key by its owner (`keys.service.ts`).
-/

namespace HivePoint

/-! ### AuditLogService -/

structure RecordAuditLogInput where
  actor : Option AuthenticatedUser
  action : String
  resourceType : String
  resourceId : Id
  details : Option AuditDetails

/-- The `data` of `auditLog.create`. -/
def RecordAuditLogInput.row (input : RecordAuditLogInput) (requestId : Option String) (id : Id)
    (createdAt : Int) : AuditLog where
  id := id
  requestId := requestId
  actorUserId := input.actor.map (·.id)
  actorEmail := input.actor.map (·.email)
  actorRole := input.actor.map (·.role)
  action := input.action
  resourceType := input.resourceType
  resourceId := input.resourceId
  details := input.details
  createdAt := createdAt

def World.createAuditLog (w : World) (row : AuditLog) : Except Err World :=
  match w.auditLogs.insert? row with
  | some auditLogs => .ok { w with auditLogs }
  | none => .error (.uniqueConstraint [])

/-- `recordWithClient`; `requestId` is what `requestContextService.getRequestId()` answers. -/
def recordWithClient {m : Type → Type} [DbClient m] (requestId : Option String)
    (input : RecordAuditLogInput) : m Unit :=
  DbClient.command fun env w => w.createAuditLog (input.row requestId env.uuid env.now)

/-! ### What the moderation actions have in common -/

def AuditDetails.changed : AuditDetails → Bool
  | .hideProduct changed _ _ | .hideVersion changed _ _ | .revokeKey changed _ _ => changed

structure Moderation where
  action : String
  resourceType : String
  resourceId : Id
  notFound : Err
  /-- the details of the entry that follow from what `findUnique` selects -/
  describe : World → Option AuditDetails
  update : Env → World → Except Err World

structure ModerationResponse where
  ok : Bool
  resourceId : Id
  deriving DecidableEq

/-- The entry of an action. -/
def Moderation.entry (m : Moderation) (actor : AuthenticatedUser) (details : AuditDetails) :
    RecordAuditLogInput where
  actor := some actor
  action := m.action
  resourceType := m.resourceType
  resourceId := m.resourceId
  details := some details

/-- The body of the transaction. -/
def Moderation.body (m : Moderation) (requestId : Option String) (actor : AuthenticatedUser)
    (details : AuditDetails) : TxM Unit :=
  if details.changed then do
    DbClient.command m.update
    recordWithClient requestId (m.entry actor details)
  else recordWithClient requestId (m.entry actor details)

/-- The row is read before the transaction, and changed and logged in it. -/
def moderate (tx : TxId) (requestId : Option String) (actor : AuthenticatedUser) (m : Moderation) :
    Op ModerationResponse := do
  match ← read m.describe with
  | none => throw m.notFound
  | some details =>
    transaction tx (m.body requestId actor details)
    return ⟨true, m.resourceId⟩

/-! ### hideProduct, hideVersion and revokeKey -/

def keyNotFound : Err := .app ⟨.keyNotFound, "KEY_NOT_FOUND", 404, []⟩

/-- `prisma.apiKey.update({ where: { id }, data })` -/
def World.updateApiKey (w : World) (id : Id) (data : ApiKey → ApiKey) : Except Err World :=
  if (w.apiKeys.find? id).isNone then .error .recordNotFound
  else
    match w.apiKeys.update? id data with
    | some apiKeys => .ok { w with apiKeys }
    | none => .error (.uniqueConstraint [])

def hidingProduct (productId : Id) : Moderation where
  action := "ADMIN_HIDE_PRODUCT"
  resourceType := "API_PRODUCT"
  resourceId := productId
  notFound := planProductNotFound
  describe w := (w.products.find? productId).map fun product =>
    .hideProduct (product.status ≠ .hidden) product.status .hidden
  update env w :=
    (w.updateProduct productId fun row => { row with status := .hidden, updatedAt := env.now }).map
      (·.2)

def hidingVersion (versionId : Id) : Moderation where
  action := "ADMIN_HIDE_VERSION"
  resourceType := "API_VERSION"
  resourceId := versionId
  notFound := versionNotFound
  describe w := (w.apiVersions.find? versionId).map fun version =>
    .hideVersion (version.status ≠ .draft) version.status .draft
  update _ w := (w.updateVersion versionId fun row => { row with status := .draft }).map (·.2)

def revokingKey (keyId : Id) : Moderation where
  action := "ADMIN_REVOKE_KEY"
  resourceType := "API_KEY"
  resourceId := keyId
  notFound := keyNotFound
  describe w := (w.apiKeys.find? keyId).map fun apiKey =>
    .revokeKey (apiKey.isActive && apiKey.revokedAt.isNone) apiKey.isActive apiKey.revokedAt
  update env w :=
    w.updateApiKey keyId fun row => { row with isActive := false, revokedAt := some env.now }

namespace AdminService

section Actions

variable (tx : TxId) (requestId : Option String) (actor : AuthenticatedUser)

def hideProduct (productId : Id) : Op ModerationResponse :=
  moderate tx requestId actor (hidingProduct productId)

def hideVersion (versionId : Id) : Op ModerationResponse :=
  moderate tx requestId actor (hidingVersion versionId)

def revokeKey (keyId : Id) : Op ModerationResponse :=
  moderate tx requestId actor (revokingKey keyId)

end Actions

end AdminService

/-! ### Revocation by the owner -/

/-- `revokeKey` of `keys.service.ts` -/
def KeysService.revokeKey (keyId : Id) (user : AuthenticatedUser) : Op ModerationResponse := do
  match ← read (·.apiKeys.find? keyId) with
  | none => throw keyNotFound
  | some apiKey =>
    if user.role ≠ .admin ∧ apiKey.userId ≠ user.id then throw notProductOwner
    else if !apiKey.isActive || apiKey.revokedAt.isSome then return ⟨true, apiKey.id⟩
    else do
      let revokedAt ← clock
      mutate fun _ w => (w.updateApiKey keyId fun row =>
        { row with isActive := false, revokedAt := some revokedAt }).map ((), ·)
      return ⟨true, apiKey.id⟩

end HivePoint
