import HivePoint.ForStd.Base64
import HivePoint.Native.AdminService
import HivePoint.Native.UsageService

/-!
# KeysService

`createKey` of `keys.service.ts`, with the functions of `crypto.ts` that make a raw API key, and
the calls that concern API keys. The 32 random bytes of a key are an argument of its call, and
SHA-256 is a parameter.
-/

namespace HivePoint

open Base64

/-! ### Raw keys -/

/-- `/=+$/g` replaced by nothing. -/
def stripPadding (t : Text) : Text := (t.reverse.dropWhile (· = '=')).reverse

def toBase64Url (buffer : List UInt8) : Text :=
  stripPadding <| ((encode .standard buffer).map fun c => if c = '+' then '-' else c).map
    fun c => if c = '/' then '_' else c

/-- `generateRawApiKey` with the result of `randomBytes(32)`. -/
def generateRawApiKey (randomBytes : List UInt8) : Text := "hp_".toList ++ toBase64Url randomBytes

/-! ### createKey -/

structure CreateKeyResponse where
  id : Id
  label : String
  rawKey : Text
  createdAt : Int
  deriving DecidableEq

/-- `apiKey.create`, whose `userId` is a foreign key. -/
def World.createApiKey (w : World) (row : ApiKey) : Except Err World :=
  if (w.users.find? row.userId).isNone then
    .error (.database "Foreign key constraint violated on ApiKey.userId")
  else
    match w.apiKeys.insert? row with
    | some apiKeys => .ok { w with apiKeys }
    | none => .error (.uniqueConstraint ["id"])

section Service

variable (hashApiKey : String → String → String) (config : AppConfig)

def createKey (randomBytes : List UInt8) (label : String) (user : AuthenticatedUser) :
    Op CreateKeyResponse :=
  let rawKey := generateRawApiKey randomBytes
  let keyHash := hashApiKey (String.ofList rawKey) config.apiKeySalt
  mutate fun env w =>
    (w.createApiKey ⟨env.uuid, user.id, keyHash, true, none⟩).map
      (⟨env.uuid, label, rawKey, env.now⟩, ·)

/-! ### Calls -/

def SameApiKeys (w w' : World) : Prop := w'.apiKeys = w.apiKeys

/-- The calls that concern API keys, among calls that do not write any. -/
inductive ApiKeyCall where
  | create (randomBytes : List UInt8) (label : String) (user : AuthenticatedUser)
  | revoke (keyId : Id) (user : AuthenticatedUser)
  | adminRevoke (requestId : Option String) (actor : AuthenticatedUser) (keyId : Id)
  | authorize (input : AuthorizeUsageInput) (providedSecret : Option String)
  | other (op : Op Unit) (hop : op.EachStep SameApiKeys)

inductive ApiKeyAnswer where
  | created (response : CreateKeyResponse)
  | revoked (response : ModerationResponse)
  | authorized (response : AuthorizeUsageResponse)
  | other
  deriving DecidableEq

def ApiKeyCall.op (tx : TxId) : ApiKeyCall → Op ApiKeyAnswer
  | .create randomBytes label user => do
    return .created (← createKey hashApiKey config randomBytes label user)
  | .revoke keyId user => do return .revoked (← KeysService.revokeKey keyId user)
  | .adminRevoke requestId actor keyId => do
    return .revoked (← AdminService.revokeKey tx requestId actor keyId)
  | .authorize input providedSecret => do
    return .authorized (← authorizeUsage config hashApiKey tx input providedSecret)
  | .other op _ => do
    op
    return .other

end Service

end HivePoint
