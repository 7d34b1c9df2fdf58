import HivePoint.ForStd.Text
import HivePoint.Native.AuthService
import HivePoint.Native.SubscriptionsService

/-!
# UsersService, registration and the guards

`register` of `auth.service.ts`, `getMe` and `updateMyRole` of `users.service.ts`, and the guards
of the routes: `JwtGuard` and `RolesGuard`. The zod schema of a registration
and `jwt.verify` of an access token are parameters.
-/

namespace HivePoint

/-! ### Registration -/

/-- `registerRoleSchema` -/
inductive RegisterRole where
  | buyer | seller
  deriving DecidableEq

def RegisterRole.toRole : RegisterRole → Role
  | .buyer => .buyer
  | .seller => .seller

structure RegisterInput where
  email : String
  password : String
  role : Option String
  deriving DecidableEq

/-- What the schema returns: the email trimmed and in lower case, the role or its default. -/
structure RegisterParsedInput where
  email : String
  password : String
  role : RegisterRole
  deriving DecidableEq

/-- What the callers get of a user. -/
structure UserMe where
  id : Id
  email : String
  role : Role
  deriving DecidableEq

def AuthUser.toMe (user : AuthUser) : UserMe := ⟨user.id, user.email, user.role⟩

section Register

variable (api : AuthApi)
  (safeParseRegister : RegisterInput → Except (List (String × String)) RegisterParsedInput)

def parseRegister (input : RegisterInput) : Except Err RegisterParsedInput :=
  match safeParseRegister input with
  | .ok data => .ok data
  | .error details =>
    .error (.app
      { code := .validationError, message := "VALIDATION_ERROR", httpStatus := 400, details })

/-- `user.create` -/
def createUser (data : RegisterParsedInput) (passwordHash : String) : AuthOp AuthUser :=
  authStatement fun env w =>
    let row : AuthUser := ⟨env.uuid, data.email, passwordHash, data.role.toRole⟩
    match w.users.insert? row with
    | some users => .ok (row, { w with users })
    | none => .error (.uniqueConstraint ["email"])

def register (input : RegisterInput) : AuthOp UserMe :=
  match parseRegister safeParseRegister input with
  | .error e => throw e
  | .ok data => do
    let existingUser ← authStatement fun _ w =>
      .ok (w.users.findBy? (fun r => some r.email) data.email, w)
    match existingUser with
    | some _ =>
      throw (.app
        { code := .conflict, message := "EMAIL_ALREADY_EXISTS", httpStatus := 409, details := [] })
    | none => do
      let passwordHash ← bcryptHash api data.password
      let user ← createUser data passwordHash
      return user.toMe

end Register

/-! ### UsersService -/

def userNotFound : Err :=
  .app { code := .notFound, message := "USER_NOT_FOUND", httpStatus := 404, details := [] }

def forbiddenRoleError : Err :=
  .app { code := .forbiddenRole, message := "FORBIDDEN_ROLE", httpStatus := 403, details := [] }

def getMe (userId : Id) : AuthOp UserMe := do
  let user ← authStatement fun _ w => .ok (w.users.find? userId, w)
  match user with
  | none => throw userNotFound
  | some user => return user.toMe

/-- `user.update({ where: { id }, data: { role: Role.SELLER } })` -/
def promoteToSeller (userId : Id) : AuthOp UserMe :=
  authStatement fun _ w =>
    match w.users.find? userId, w.users.update? userId fun row => { row with role := .seller } with
    | some row, some users => .ok ({ row with role := Role.seller }.toMe, { w with users })
    | _, _ => .error .recordNotFound

def updateMyRole (userId : Id) (targetRole : Role) : AuthOp UserMe := do
  let user ← authStatement fun _ w => .ok (w.users.find? userId, w)
  match user with
  | none => throw userNotFound
  | some user =>
    if targetRole ≠ .seller then throw forbiddenRoleError
    else if user.role = .seller then return user.toMe
    else if user.role ≠ .buyer then throw forbiddenRoleError
    else promoteToSeller userId

/-! ### The guards -/

/-- The payload of an access token that verifies. -/
structure AccessTokenClaims where
  sub : Option String
  email : Option String
  role : Option Role
  deriving DecidableEq

/-- `'Bearer '` -/
def bearer : Text := "Bearer ".toList

section Guards

-- `jwt.verify(token, jwtAccessSecret)`: `none` where it throws or the payload is a string
variable (verifyAccess : Text → Option AccessTokenClaims)

/-- The claims that make a user; the empty text is falsy. -/
def AccessTokenClaims.user (payload : AccessTokenClaims) : Option AuthenticatedUser :=
  match payload.sub.filter (· ≠ ""), payload.email.filter (· ≠ ""), payload.role with
  | some id, some email, some role => some ⟨id, email, role⟩
  | _, _, _ => none

/-- The guards from the header on. The scheme is replaced once, where it is first found: at the
    beginning. -/
def authenticate (authHeader : Text) : Except Err AuthenticatedUser :=
  if Text.startsWith authHeader bearer then
    let token := Text.trim (authHeader.drop bearer.length)
    if token = [] then .error (unauthorizedError "UNAUTHORIZED")
    else
      match (verifyAccess token).bind AccessTokenClaims.user with
      | some user => .ok user
      | none => .error (unauthorizedError "UNAUTHORIZED")
  else .error (unauthorizedError "UNAUTHORIZED")

/-- `JwtGuard`: what `canActivate` puts into `request.user`. -/
def JwtGuard.canActivate (authorization : Option Text) : Except Err AuthenticatedUser :=
  match authorization.filter (· ≠ []) with
  | none => .error (unauthorizedError "UNAUTHORIZED")
  | some authHeader => authenticate verifyAccess authHeader

def RolesGuard.canActivate (requiredRoles : List Role) (user : Option AuthenticatedUser) :
    Except Err Unit :=
  if requiredRoles = [] then .ok ()
  else
    match user with
    | none => .error (unauthorizedError "UNAUTHORIZED")
    | some user =>
      if user.role ∈ requiredRoles then .ok ()
      else
        .error (.app
          { code := .forbidden, message := "FORBIDDEN", httpStatus := 403, details := [] })

/-- `@UseGuards(JwtGuard, RolesGuard)` with `@Roles(...requiredRoles)` -/
def guardedUser (requiredRoles : List Role) (authorization : Option Text) :
    Except Err AuthenticatedUser := do
  let user ← JwtGuard.canActivate verifyAccess authorization
  RolesGuard.canActivate requiredRoles (some user)
  return user

end Guards

/-! ### Calls -/

/-- The calls that read or change accounts. -/
inductive AccountCall where
  | register (input : RegisterInput)
  | login (input : LoginInput)
  | refresh (refreshToken : String)
  | logout (refreshToken : String)
  | changePassword (userId : Id) (input : ChangePasswordInput)
  | getMe (userId : Id)
  | updateMyRole (userId : Id) (targetRole : Role)

inductive AccountAnswer where
  | user (user : UserMe)
  | tokens (tokens : AuthTokens)
  | ok
  deriving DecidableEq

def AccountCall.op (api : AuthApi) (config : AuthConfig)
    (safeParseRegister : RegisterInput → Except (List (String × String)) RegisterParsedInput)
    (call : CallId) : AccountCall → AuthOp AccountAnswer
  | .register input => do return .user (← HivePoint.register api safeParseRegister input)
  | .login input => do return .tokens (← HivePoint.login api config call input)
  | .refresh refreshToken => do return .tokens (← HivePoint.refresh api config call refreshToken)
  | .logout refreshToken => do
    HivePoint.logout api config refreshToken
    return .ok
  | .changePassword userId input => do
    HivePoint.changePassword api userId input
    return .ok
  | .getMe userId => do return .user (← HivePoint.getMe userId)
  | .updateMyRole userId targetRole => do return .user (← HivePoint.updateMyRole userId targetRole)

end HivePoint
