import HivePoint.Native.World

/-!
# AuthService and the password of a user

`login`, `refresh` and `logout` of `auth.service.ts`, and `changePassword` of
`users.service.ts`, one database statement at a time. bcrypt, JSON web tokens and the zod
schema of a login are parameters.
-/

namespace HivePoint

structure AuthUser where
  id : Id
  email : String
  passwordHash : String
  role : Role
  deriving DecidableEq

structure RefreshToken where
  id : Id
  userId : Id
  tokenHash : String
  expiresAt : Int
  deriving DecidableEq

instance : Row AuthUser Id where
  key := (·.id)
  uniques := [fun r => some r.email]

instance : Row RefreshToken Id where
  key := (·.id)
  uniques := []

/-! ### State and environment -/

/-- A call of one of the services. -/
abbrev CallId := Nat

/-- That a call created a refresh token: in exchange for which one, and for which user, as the
    call has read it. -/
structure TokenIssue where
  call : CallId
  presented : Option Id
  user : AuthUser
  tokenId : Id
  deriving DecidableEq

/-- That a call changed a password, and the tokens its `deleteMany` has seen. -/
structure PasswordChange where
  userId : Id
  revoked : List Id
  deriving DecidableEq

/-- The tables, and what the calls have done, latest first. -/
structure AuthWorld where
  users : Table AuthUser
  refreshTokens : Table RefreshToken
  issued : List TokenIssue
  /-- the `refresh` calls that went on to delete the tokens of the user, each with the token it
      had read -/
  replaced : List (CallId × RefreshToken)
  passwordChanges : List PasswordChange

def AuthWorld.empty : AuthWorld := ⟨.empty, .empty, [], [], []⟩

structure AuthEnv where
  /-- `Date.now()` -/
  now : Int
  /-- `randomUUID()` -/
  uuid : Id
  /-- of a bcrypt hash that is computed now -/
  salt : String
  dbError : Option String

abbrev AuthOp := Prog AuthWorld AuthEnv Err

structure RefreshTokenPayload where
  rtid : Option String
  sub : Option String
  deriving DecidableEq

structure AccessTokenPayload where
  sub : Id
  email : String
  role : Role
  deriving DecidableEq

structure LoginInput where
  email : String
  password : String
  deriving DecidableEq

/-- The libraries. -/
structure AuthApi where
  /-- `loginSchema.safeParse`: the input with its email trimmed and in lower case, or the
      flattened errors -/
  parseLogin : LoginInput → Except (List (String × String)) LoginInput
  /-- `bcrypt.hash(data, SALT_ROUNDS)` with a salt -/
  bcryptHash : String → String → String
  /-- `bcrypt.compare(data, hash)` -/
  bcryptCompare : String → String → Bool
  /-- `jwt.sign` of a refresh token: secret, payload, `expiresIn`, time -/
  jwtSignRefresh : String → RefreshTokenPayload → Nat → Int → String
  jwtSignAccess : String → AccessTokenPayload → Nat → Int → String
  /-- `jwt.verify`: token, secret, time. `none` where it throws or the payload is a string. -/
  jwtVerify : String → String → Int → Option RefreshTokenPayload

structure AuthConfig where
  jwtAccessSecret : String
  jwtAccessTtlSeconds : Nat
  jwtRefreshSecret : String
  jwtRefreshTtlSeconds : Nat

/-! ### Statements -/

/-- A statement that the database executes, or refuses without effect. -/
def authStatement {α : Type} (f : AuthEnv → AuthWorld → Except Err (α × AuthWorld)) : AuthOp α :=
  Prog.stmt fun env w =>
    match env.dbError with
    | some m => (.error (.database m), w)
    | none =>
      match f env w with
      | .ok (a, w') => (.ok a, w')
      | .error e => (.error e, w)

/-- What the server computes from the clock, a uuid or a salt. -/
def authCompute {α : Type} (f : AuthEnv → Except Err α) : AuthOp α :=
  Prog.stmt fun env w => (f env, w)

/-- `refreshToken.findUnique` with `include: { user: true }`; the foreign key sees to it that
    the user is there. -/
def findRefreshToken (id : Id) : AuthOp (Option (RefreshToken × AuthUser)) :=
  authStatement fun _ w => .ok
    ((w.refreshTokens.find? id).bind fun row => (w.users.find? row.userId).map (row, ·), w)

/-- The state without the tokens that meet `where_`. -/
def AuthWorld.deleteTokens (w : AuthWorld) (where_ : RefreshToken → Bool) : AuthWorld :=
  { w with refreshTokens := w.refreshTokens.deleteWhere where_ }

/-- The state without the tokens of a user, for the stored token that was presented. -/
def AuthWorld.replaceTokens (w : AuthWorld) (call : CallId) (storedToken : Option RefreshToken)
    (userId : Id) : AuthWorld :=
  { w.deleteTokens (·.userId = userId) with
    replaced := (storedToken.map (call, ·)).toList ++ w.replaced }

/-- `refreshToken.deleteMany`, which answers with a count. -/
def deleteRefreshTokens (where_ : RefreshToken → Bool) : AuthOp Nat :=
  authStatement fun _ w => .ok ((w.refreshTokens.rows.filter where_).length, w.deleteTokens where_)

/-- The `deleteMany` before a new token is created. -/
def deleteReplacedTokens (call : CallId) (storedToken : Option RefreshToken) (userId : Id) :
    AuthOp Nat :=
  authStatement fun _ w => .ok ((w.refreshTokens.rows.filter (·.userId = userId)).length,
    w.replaceTokens call storedToken userId)

/-- `refreshToken.create` -/
def createRefreshTokenRow (issue : TokenIssue) (row : RefreshToken) : AuthOp Unit :=
  authStatement fun _ w =>
    match w.refreshTokens.insert? row with
    | some t => .ok ((), { w with refreshTokens := t, issued := issue :: w.issued })
    | none => .error (.uniqueConstraint ["id"])

/-! ### AuthService -/

def unauthorizedError (message : String) : Err :=
  .app { code := .unauthorized, message, httpStatus := 401, details := [] }

structure AuthTokens where
  accessToken : String
  refreshToken : String
  deriving DecidableEq

section Service

variable (api : AuthApi) (config : AuthConfig)

def parseLogin (input : LoginInput) : Except Err LoginInput :=
  match api.parseLogin input with
  | .ok data => .ok data
  | .error details =>
    .error (.app
      { code := .validationError, message := "VALIDATION_ERROR", httpStatus := 400, details })

def verifyRefreshToken (token : String) : AuthOp RefreshTokenPayload :=
  authCompute fun env =>
    match api.jwtVerify token config.jwtRefreshSecret env.now with
    | some payload => .ok payload
    | none => .error (unauthorizedError "UNAUTHORIZED")

/-- Its id, the token and when it expires. -/
def createRefreshToken (user : AuthUser) : AuthOp (Id × String × Int) :=
  authCompute fun env => .ok
    (env.uuid,
      api.jwtSignRefresh config.jwtRefreshSecret ⟨some env.uuid, some user.id⟩
        config.jwtRefreshTtlSeconds env.now,
      env.now + config.jwtRefreshTtlSeconds * 1000)

def createAccessToken (user : AuthUser) : AuthOp String :=
  authCompute fun env => .ok
    (api.jwtSignAccess config.jwtAccessSecret ⟨user.id, user.email, user.role⟩
      config.jwtAccessTtlSeconds env.now)

def bcryptHash (data : String) : AuthOp String :=
  authCompute fun env => .ok (api.bcryptHash data env.salt)

/-- The end of `login` and of `refresh`: the user's tokens are deleted and a new one is created. -/
def issueTokens (call : CallId) (storedToken : Option RefreshToken) (userId : Id)
    (user : AuthUser) :
    AuthOp AuthTokens := do
  let _ ← deleteReplacedTokens call storedToken userId
  let (tokenId, token, expiresAt) ← createRefreshToken api config user
  let tokenHash ← bcryptHash api token
  createRefreshTokenRow ⟨call, storedToken.map (·.id), user, tokenId⟩
    ⟨tokenId, userId, tokenHash, expiresAt⟩
  let accessToken ← createAccessToken api config user
  pure ⟨accessToken, token⟩

def login (call : CallId) (input : LoginInput) : AuthOp AuthTokens :=
  match parseLogin api input with
  | .error e => throw e
  | .ok data => do
    let user ← authStatement fun _ w => .ok (w.users.findBy? (fun r => some r.email) data.email, w)
    match user with
    | none => throw (unauthorizedError "INVALID_CREDENTIALS")
    | some user =>
      if api.bcryptCompare data.password user.passwordHash then
        issueTokens api config call none user.id user
      else throw (unauthorizedError "INVALID_CREDENTIALS")

/-- The rest of `refresh` once the stored token has been read. -/
def refreshStored (call : CallId) (refreshToken : String) (storedToken : RefreshToken)
    (user : AuthUser) : AuthOp AuthTokens := do
  let now ← authCompute fun env => .ok env.now
  if storedToken.expiresAt ≤ now then do
    let _ ← deleteRefreshTokens (·.id = storedToken.id)
    throw (unauthorizedError "UNAUTHORIZED")
  else if api.bcryptCompare refreshToken storedToken.tokenHash then
    issueTokens api config call (some storedToken) storedToken.userId user
  else do
    let _ ← deleteRefreshTokens (·.userId = storedToken.userId)
    throw (unauthorizedError "UNAUTHORIZED")

def refresh (call : CallId) (refreshToken : String) : AuthOp AuthTokens :=
  if refreshToken = "" then throw (unauthorizedError "UNAUTHORIZED")
  else do
    let payload ← verifyRefreshToken api config refreshToken
    match payload.rtid.filter (· ≠ "") with
    | none => throw (unauthorizedError "UNAUTHORIZED")
    | some rtid =>
      let stored ← findRefreshToken rtid
      match stored with
      | none => throw (unauthorizedError "UNAUTHORIZED")
      | some (storedToken, user) => refreshStored api config call refreshToken storedToken user

def logout (refreshToken : String) : AuthOp Unit :=
  if refreshToken = "" then pure ()
  else
    tryCatch
      (do
        let payload ← verifyRefreshToken api config refreshToken
        match payload.rtid.filter (· ≠ "") with
        | none => pure ()
        | some rtid => do
          let _ ← deleteRefreshTokens (·.id = rtid))
      fun _ => pure ()

/-! ### UsersService -/

structure ChangePasswordInput where
  currentPassword : String
  newPassword : String
  deriving DecidableEq

/-- The commit of `$transaction([user.update, refreshToken.deleteMany])`: the delete takes the
    tokens that it has seen. -/
def commitPassword (userId : Id) (passwordHash : String) (seen : List Id) : AuthOp Unit :=
  authStatement fun _ w =>
    match w.users.update? userId fun row => { row with passwordHash } with
    | some users => .ok ((), { w with
        users := users
        refreshTokens := w.refreshTokens.deleteWhere (seen.contains ·.id)
        passwordChanges := ⟨userId, seen⟩ :: w.passwordChanges })
    | none => .error .recordNotFound

def changePassword (userId : Id) (input : ChangePasswordInput) : AuthOp Unit := do
  let user ← authStatement fun _ w => .ok (w.users.find? userId, w)
  match user with
  | none =>
    throw (.app
      { code := .notFound, message := "USER_NOT_FOUND", httpStatus := 404, details := [] })
  | some user =>
    if api.bcryptCompare input.currentPassword user.passwordHash then do
      let nextPasswordHash ← bcryptHash api input.newPassword
      -- what the delete sees is what is committed when it is executed
      let seen ← authStatement fun _ w => .ok
        ((w.refreshTokens.rows.filter (·.userId = userId)).map (·.id), w)
      commitPassword userId nextPasswordHash seen
    else throw (unauthorizedError "INVALID_CURRENT_PASSWORD")

end Service

/-! ### Calls -/

inductive AuthCall where
  | login (input : LoginInput)
  | refresh (refreshToken : String)
  | logout (refreshToken : String)
  | changePassword (userId : Id) (input : ChangePasswordInput)

def AuthCall.op (api : AuthApi) (config : AuthConfig) (call : CallId) : AuthCall → AuthOp Unit
  | .login input => do let _ ← HivePoint.login api config call input
  | .refresh refreshToken => do let _ ← HivePoint.refresh api config call refreshToken
  | .logout refreshToken => HivePoint.logout api config refreshToken
  | .changePassword userId input => HivePoint.changePassword api userId input

end HivePoint
