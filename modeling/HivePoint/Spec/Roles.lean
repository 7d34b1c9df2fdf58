import HivePoint.ForStd.LaterCalls
import HivePoint.Native.UsersService
import HivePoint.Spec.AuthCalls
import HivePoint.Spec.Statements

/-!
# Roles and what access tokens grant

Any number of registrations, logins, refreshs, logouts, changes of the password and changes of the
role, interleaved statement by statement. `updateMyRole` reads the role and writes it later, and
an access token tells the role as it was when the token's user was read. Still nobody becomes an
administrator, and no token grants more than its user's role at any later time.

## Key results

- `sat_account`: what the answer of each call says, and what its statements do to the accounts
- `accounts_of_reach`: in every run a role stays, or goes from buyer to seller
- `guardedUser_entitled`: whom the guards let through, has a required role, or had it as a buyer
-/

namespace HivePoint

open Prog Pool

/-! ### What happens to the accounts -/

/-- A role stays, or a buyer becomes a seller. -/
def Role.MayBecome (r r' : Role) : Prop := r' = r ∨ (r = .buyer ∧ r' = .seller)

/-- A role may change twice. -/
theorem Role.MayBecome.trans {r₁ r₂ r₃ : Role} (h₁ : r₁.MayBecome r₂) (h₂ : r₂.MayBecome r₃) :
    r₁.MayBecome r₃ := by
  cases h₁ with
  | inl h₁ => exact h₁ ▸ h₂
  | inr h₁ =>
    cases h₂ with
    | inl h₂ => exact .inr ⟨h₁.1, h₂ ▸ h₁.2⟩
    | inr h₂ =>
      rw [h₁.2] at h₂
      cases h₂.1

/-- No change of role makes or unmakes an administrator. -/
private theorem Role.MayBecome.admin_iff {r r' : Role} (h : r.MayBecome r') : r' = .admin ↔
    r = .admin := by
  cases h with
  | inl h => rw [h]
  | inr h =>
    rw [h.1, h.2]
    simp

/-- Accounts keep their email, their roles change as they may, and no account of an administrator
    is added. -/
structure RolesKept (w w' : AuthWorld) : Prop where
  kept : ∀ id u, w.users.find? id = some u →
    ∃ u', w'.users.find? id = some u' ∧ u'.email = u.email ∧ u.role.MayBecome u'.role
  admins : ∀ id u', w'.users.find? id = some u' → u'.role = .admin →
    ∃ u, w.users.find? id = some u ∧ u.role = .admin

/-- With the users untouched the roles are kept. -/
private theorem RolesKept.of_users {w w' : AuthWorld} (h : w'.users = w.users) :
    RolesKept w w' where
  kept _ u hu := ⟨u, h ▸ hu, rfl, .inl rfl⟩
  admins _ u' hu' hrole := ⟨u', h ▸ hu', hrole⟩

/-- Doing nothing keeps the roles. -/
theorem RolesKept.refl (w : AuthWorld) : RolesKept w w := .of_users rfl

/-- Roles kept twice are kept. -/
theorem RolesKept.trans {w₁ w₂ w₃ : AuthWorld} (h₁ : RolesKept w₁ w₂) (h₂ : RolesKept w₂ w₃) :
    RolesKept w₁ w₃ where
  kept id u hu := by
    obtain ⟨u₂, hu₂, hemail₂, hrole₂⟩ := h₁.kept id u hu
    obtain ⟨u₃, hu₃, hemail₃, hrole₃⟩ := h₂.kept id u₂ hu₂
    exact ⟨u₃, hu₃, hemail₃.trans hemail₂, hrole₂.trans hrole₃⟩
  admins id u₃ hu₃ hrole := by
    obtain ⟨u₂, hu₂, hrole₂⟩ := h₂.admins id u₃ hu₃ hrole
    exact h₁.admins id u₂ hu₂ hrole₂

/-- A rewrite of one row whose role may become what it is rewritten to. -/
private theorem RolesKept.of_update {w : AuthWorld} {users : Table AuthUser} {id : Id}
    {data : AuthUser → AuthUser} (h : w.users.update? id data = some users)
    (hkey : ∀ r, (data r).id = r.id) (hemail : ∀ r, (data r).email = r.email)
    (hrole : ∀ r, w.users.find? id = some r → r.role.MayBecome (data r).role)
    {w' : AuthWorld} (hw' : w'.users = users) : RolesKept w w' := by
  -- the rows after the update, under every id
  have hfind : ∀ id', w'.users.find? id' =
      if id' = id then (w.users.find? id).map data else w.users.find? id' := by
    intro id'
    rw [hw']
    exact Table.find?_update? h hkey id'
  constructor
  -- a user stays, with a role its own may become
  · intro id' u hu
    rw [hfind]
    by_cases hid : id' = id
    · subst hid
      rw [if_pos rfl, hu]
      exact ⟨data u, rfl, hemail u, hrole u hu⟩
    · rw [if_neg hid]
      exact ⟨u, hu, rfl, .inl rfl⟩
  -- an administrator was one before
  · intro id' u' hu' hadmin
    rw [hfind] at hu'
    by_cases hid : id' = id
    · subst hid
      rw [if_pos rfl] at hu'
      obtain ⟨u, hu, rfl⟩ := Option.map_eq_some_iff.mp hu'
      exact ⟨u, hu, (hrole u hu).admin_iff.mp hadmin⟩
    · rw [if_neg hid] at hu'
      exact ⟨u', hu', hadmin⟩

/-- A new account that is not an administrator's. -/
theorem RolesKept.of_insert {w : AuthWorld} {users : Table AuthUser} {row : AuthUser}
    (h : w.users.insert? row = some users) (hrole : row.role ≠ .admin) {w' : AuthWorld}
    (hw' : w'.users = users) : RolesKept w w' := by
  -- the rows after the insert, under every id
  have hfind : ∀ id', w'.users.find? id' =
      if id' = row.id then some row else w.users.find? id' := by
    intro id'
    rw [hw']
    exact Table.find?_insert? h id'
  constructor
  -- a user stays, since the new row's id was free
  · intro id' u hu
    have hne : id' ≠ row.id := by
      intro heq
      rw [heq] at hu
      have hfresh := Table.find?_of_insert? h
      rw [show Row.key row = row.id from rfl, hu] at hfresh
      cases hfresh
    rw [hfind, if_neg hne]
    exact ⟨u, hu, rfl, .inl rfl⟩
  -- an administrator is no new row
  · intro id' u' hu' hadmin
    rw [hfind] at hu'
    by_cases hid : id' = row.id
    · rw [if_pos hid] at hu'
      obtain rfl := Option.some.inj hu'
      exact absurd hadmin hrole
    · rw [if_neg hid] at hu'
      exact ⟨u', hu', hadmin⟩

/-! ### What the calls do -/

/-- An account as a call has read it, and as it is now. -/
def KnownUser (user : AuthUser) (w : AuthWorld) : Prop :=
  ∃ u, w.users.find? user.id = some u ∧ u.email = user.email ∧ user.role.MayBecome u.role

/-- A known user stays known. -/
theorem KnownUser.mono {user : AuthUser} {w w' : AuthWorld} (hR : RolesKept w w')
    (h : KnownUser user w) : KnownUser user w' := by
  obtain ⟨u, hu, hemail, hrole⟩ := h
  obtain ⟨u', hu', hemail', hrole'⟩ := hR.kept user.id u hu
  exact ⟨u', hu', hemail'.trans hemail, hrole.trans hrole'⟩

/-- A user in the table is known. -/
private theorem KnownUser.of_mem {user : AuthUser} {w : AuthWorld} (h : user ∈ w.users.rows) :
    KnownUser user w := ⟨user, Table.find?_key h, rfl, .inl rfl⟩

def rolesContract : Contract AuthWorld AuthEnv := .mutual RolesKept RolesKept.refl RolesKept.trans

section Calls

variable (api : AuthApi) (config : AuthConfig)
  (safeParseRegister : RegisterInput → Except (List (String × String)) RegisterParsedInput)

/-- The access token says who its user is, and no more than the user's role. -/
def GrantsAtMost (token : String) (w : AuthWorld) : Prop :=
  ∃ user now, token = api.jwtSignAccess config.jwtAccessSecret ⟨user.id, user.email, user.role⟩
    config.jwtAccessTtlSeconds now ∧ KnownUser user w

/-- What the answer of a call says is so. -/
def AnswersRight : Except Err AccountAnswer → AuthWorld → Prop
  | .ok (.tokens tokens), w => GrantsAtMost api config tokens.accessToken w
  | _, _ => True

/-- An answer stays right as long as the roles are kept. -/
theorem AnswersRight.mono {r : Except Err AccountAnswer} {w w' : AuthWorld} (hR : RolesKept w w')
    (h : AnswersRight api config r w) : AnswersRight api config r w' := by
  cases r with
  | error e => trivial
  | ok answer =>
    cases answer with
    | user user => trivial
    | ok => trivial
    | tokens tokens =>
      obtain ⟨user, now, htoken, hknown⟩ := h
      exact ⟨user, now, htoken, hknown.mono hR⟩

variable {α : Type} {w : AuthWorld}

/-- A statement that leaves the accounts alone. -/
private theorem eachStep_authStatement {f : AuthEnv → AuthWorld → Except Err (α × AuthWorld)}
    (h : ∀ env w a w', f env w = .ok (a, w') → RolesKept w w') :
    (authStatement f).EachStep RolesKept := by
  refine eachStep_stmt fun env w => ?_
  cases env.dbError with
  | some m => exact .refl w
  | none =>
    dsimp only
    cases hf : f env w with
    | error e => exact .refl w
    | ok p => exact h env w p.1 p.2 hf

/-- A query keeps the roles. -/
private theorem eachStep_query (f : AuthWorld → α) :
    (authStatement fun _ w => .ok (f w, w)).EachStep RolesKept := by
  refine eachStep_authStatement fun env w a w' h => ?_
  obtain ⟨-, rfl⟩ := Prod.mk.inj (Except.ok.inj h)
  exact .refl w

/-- A computation keeps the roles. -/
private theorem eachStep_authCompute (f : AuthEnv → Except Err α) :
    (authCompute f).EachStep RolesKept :=
  eachStep_stmt fun _ w => .refl w

/-- Deleting refresh tokens keeps the roles. -/
private theorem eachStep_deleteRefreshTokens (where_ : RefreshToken → Bool) :
    (deleteRefreshTokens where_).EachStep RolesKept := by
  refine eachStep_authStatement fun env w a w' h => ?_
  obtain ⟨-, rfl⟩ := Prod.mk.inj (Except.ok.inj h)
  exact .of_users rfl

/-- Issuing tokens keeps the roles. -/
private theorem eachStep_issueTokens (call : CallId) (storedToken : Option RefreshToken)
    (userId : Id) (user : AuthUser) : (issueTokens api config call storedToken userId user).EachStep
      RolesKept := by
  refine eachStep_bind (eachStep_authStatement fun env w a w' h => ?_) fun _ =>
    eachStep_bind (eachStep_authCompute _) fun created => ?_
  · obtain ⟨-, rfl⟩ := Prod.mk.inj (Except.ok.inj h)
    exact .of_users rfl
  · obtain ⟨tokenId, token, expiresAt⟩ := created
    refine eachStep_bind (eachStep_authCompute _) fun tokenHash =>
      eachStep_bind (eachStep_authStatement fun env w a w' h => ?_) fun _ =>
        eachStep_bind (eachStep_authCompute _) fun _ => trivial
    split at h
    · obtain ⟨-, rfl⟩ := Prod.mk.inj (Except.ok.inj h)
      exact .of_users rfl
    · cases h

/-- The access token is made for the user that has been read. -/
private theorem returns_issueTokens (call : CallId) (storedToken : Option RefreshToken)
    (userId : Id) (user : AuthUser) : (issueTokens api config call storedToken userId user).Returns
      fun tokens =>
      ∃ now, tokens.accessToken = api.jwtSignAccess config.jwtAccessSecret
        ⟨user.id, user.email, user.role⟩ config.jwtAccessTtlSeconds now := by
  refine returns_bind (returns_true _) fun _ _ => returns_bind (returns_true _) fun created _ => ?_
  obtain ⟨tokenId, token, expiresAt⟩ := created
  refine returns_bind (returns_true _) fun tokenHash _ =>
    returns_bind (returns_true _) fun _ _ => ?_
  refine returns_bind (B := fun accessToken => ∃ now, accessToken =
    api.jwtSignAccess config.jwtAccessSecret ⟨user.id, user.email, user.role⟩
      config.jwtAccessTtlSeconds now) ?_ fun accessToken h => ?_
  · exact returns_stmt fun env _ a h => ⟨env.now, (Except.ok.inj h).symm⟩
  · exact h

/-- From the read of the user to the answer. -/
private theorem sat_issueTokens_known (call : CallId) (storedToken : Option RefreshToken)
    (userId : Id) {user : AuthUser} (hknown : KnownUser user w) :
    (issueTokens api config call storedToken userId user).Sat rolesContract
      (fun r w' => ∀ tokens, r = .ok tokens → GrantsAtMost api config tokens.accessToken w') w := by
  have hsat : (issueTokens api config call storedToken userId user).Sat rolesContract _ w :=
    (eachStep_issueTokens api config call storedToken userId user).sat_mutual
      (returns_issueTokens api config call storedToken userId user)
        (fun _ _ => KnownUser.mono) hknown
  refine hsat.mono fun r w' h tokens hr => ?_
  obtain ⟨now, htoken⟩ := h.2 tokens hr
  exact ⟨user, now, htoken, h.1⟩

/-- A query, and what follows with what it has found. -/
private theorem sat_query_bind {β : Type} {f : AuthWorld → α} {g : α → AuthOp β}
    {post : Except Err β → AuthWorld → Prop} (herror : ∀ e w', post (.error e) w')
    (h : ∀ w₁, RolesKept w w₁ → (g (f w₁)).Sat rolesContract post w₁) :
    ((authStatement fun _ w => .ok (f w, w)) >>= g).Sat rolesContract post w := by
  rw [sat_bind]
  refine sat_authStatement fun w₁ hrely => ⟨⟨.refl w₁, fun e => herror e w₁⟩, ?_⟩
  intro env a w₂ heq _
  obtain ⟨rfl, rfl⟩ := Prod.mk.inj (Except.ok.inj heq)
  exact ⟨.refl w₁, h w₁ hrely⟩

/-- A log-in grants at most what the user's row allows. -/
private theorem sat_login_answer (call : CallId) (input : LoginInput) :
    (login api config call input).Sat rolesContract
      (fun r w' => ∀ tokens, r = .ok tokens → GrantsAtMost api config tokens.accessToken w') w := by
  unfold login
  cases parseLogin api input with
  | error e =>
    intro tokens h
    cases h
  | ok data =>
    -- tokens are issued only for a row that the query found
    refine sat_query_bind (fun e w' tokens h => by cases h) fun w₁ _ => ?_
    cases huser : w₁.users.findBy? (fun r => some r.email) data.email with
    | none =>
      intro tokens h
      cases h
    | some user =>
      dsimp only
      split
      · exact sat_issueTokens_known api config call none user.id
          (.of_mem (Table.mem_of_findBy? huser))
      · intro tokens h
        cases h

/-- A refresh grants at most what the token's user's row allows. -/
private theorem sat_refresh_answer (call : CallId) (refreshToken : String) :
    (refresh api config call refreshToken).Sat rolesContract
      (fun r w' => ∀ tokens, r = .ok tokens → GrantsAtMost api config tokens.accessToken w') w := by
  -- a refresh that ends with an error hands out nothing
  have hthrow : ∀ (e : Err) (w' : AuthWorld) (tokens : AuthTokens),
      (Except.error e : Except Err AuthTokens) = .ok tokens →
        GrantsAtMost api config tokens.accessToken w' := by
    intro e w' tokens h
    cases h
  unfold refresh
  split
  · exact hthrow _ _
  unfold verifyRefreshToken
  rw [sat_bind]
  refine sat_authCompute fun w₁ hrely => ⟨.refl w₁, fun r => ?_⟩
  cases r with
  | error e => exact hthrow e w₁
  | ok payload =>
    dsimp only
    cases payload.rtid.filter (· ≠ "") with
    | none => exact hthrow _ _
    | some rtid =>
      -- the stored token's own user is the one the new tokens name
      refine sat_query_bind hthrow fun w₂ _ => ?_
      cases hstored : w₂.refreshTokens.find? rtid with
      | none => exact hthrow _ _
      | some storedToken =>
        rw [Option.bind_some]
        cases huser : w₂.users.find? storedToken.userId with
        | none => exact hthrow _ _
        | some user =>
          rw [Option.map_some]
          dsimp only
          have hknown := KnownUser.of_mem (Table.mem_of_find? huser)
          unfold refreshStored
          rw [sat_bind]
          refine sat_authCompute fun w₃ hrely₃ => ⟨.refl w₃, fun r => ?_⟩
          cases r with
          | error e => exact hthrow e w₃
          | ok now =>
            dsimp only
            -- a used or expired token is deleted and refused
            have hdelete : ∀ where_, ((deleteRefreshTokens where_) >>= fun _ =>
                (throw (unauthorizedError "UNAUTHORIZED") : AuthOp AuthTokens)).Sat rolesContract
                  (fun r w' => ∀ tokens, r = .ok tokens →
                    GrantsAtMost api config tokens.accessToken w') w₃ := by
              intro where_
              rw [sat_bind]
              have hsat : (deleteRefreshTokens where_).Sat rolesContract _ w₃ :=
                (eachStep_deleteRefreshTokens where_).sat_respects
              refine hsat.mono fun r w' _ => ?_
              cases r with
              | error e => exact hthrow e w'
              | ok count => exact hthrow _ w'
            split
            · exact hdelete _
            · split
              · exact sat_issueTokens_known api config call (some storedToken) storedToken.userId
                  (hknown.mono hrely₃)
              · exact hdelete _

/-- A registration keeps the roles. -/
private theorem eachStep_register (input : RegisterInput) :
    (register api safeParseRegister input).EachStep RolesKept := by
  unfold register
  cases parseRegister safeParseRegister input with
  | error e => trivial
  | ok data =>
    refine eachStep_bind (eachStep_query _) fun existingUser => ?_
    cases existingUser with
    | some user => trivial
    | none =>
      refine eachStep_bind (eachStep_authCompute _) fun passwordHash =>
        eachStep_bind (eachStep_authStatement fun env w a w' h => ?_) fun _ => trivial
      dsimp only at h
      split at h
      · rename_i users hinsert
        obtain ⟨-, rfl⟩ := Prod.mk.inj (Except.ok.inj h)
        refine .of_insert hinsert ?_ rfl
        -- the role of a registration is one of the two that its schema lists
        show data.role.toRole ≠ .admin
        cases data.role with
        | buyer => decide
        | seller => decide
      · cases h

/-- A log-out keeps the roles. -/
private theorem eachStep_logout (refreshToken : String) :
    (logout api config refreshToken).EachStep RolesKept := by
  unfold logout
  split
  · trivial
  · refine eachStep_tryCatch (eachStep_bind (eachStep_authCompute _) fun payload => ?_) fun _ =>
      trivial
    cases payload.rtid.filter (· ≠ "") with
    | none => trivial
    | some rtid => exact eachStep_bind (eachStep_deleteRefreshTokens _) fun _ => trivial

/-- A change of password keeps the roles. -/
private theorem eachStep_changePassword (userId : Id) (input : ChangePasswordInput) :
    (changePassword api userId input).EachStep RolesKept := by
  refine eachStep_bind (eachStep_query _) fun user => ?_
  cases user with
  | none => trivial
  | some user =>
    dsimp only
    split
    · refine eachStep_bind (eachStep_authCompute _) fun passwordHash =>
        eachStep_bind (eachStep_query _) fun seen => eachStep_authStatement fun env w a w' h => ?_
      split at h
      · rename_i users hupdate
        obtain ⟨-, rfl⟩ := Prod.mk.inj (Except.ok.inj h)
        exact .of_update hupdate (fun _ => rfl) (fun _ => rfl) (fun _ _ => .inl rfl) rfl
      · cases h
    · trivial

/-- The role is written after it has been read; in between it can only have become the same. -/
private theorem sat_updateMyRole (userId : Id) (targetRole : Role) :
    (updateMyRole userId targetRole).Sat rolesContract (fun _ _ => True) w := by
  refine sat_query_bind (fun _ _ => trivial) fun w₁ _ => ?_
  cases huser : w₁.users.find? userId with
  | none => trivial
  | some user =>
    dsimp only
    split
    · trivial
    · split
      · trivial
      · split
        · trivial
        · rename_i hbuyer
          have hbuyer : user.role = .buyer := not_not.mp hbuyer
          refine sat_authStatement fun w₂ hrely => ⟨⟨.refl w₂, fun _ => trivial⟩, ?_⟩
          intro env a w₃ heq _
          refine ⟨?_, trivial⟩
          obtain ⟨row, hrow, -, hrole⟩ := RolesKept.kept hrely userId user huser
          split at heq
          · rename_i users hupdate
            obtain ⟨-, rfl⟩ := Prod.mk.inj (Except.ok.inj heq)
            refine .of_update hupdate (fun _ => rfl) (fun _ => rfl) (fun r hr => ?_) rfl
            rw [hrow] at hr
            obtain rfl := Option.some.inj hr
            -- a buyer, or a seller in the meantime
            cases hrole with
            | inl hrole => exact .inr ⟨hrole.trans hbuyer, rfl⟩
            | inr hrole => exact .inl hrole.2.symm
          · cases heq

/-- What each call answers is right, and no statement of any call gives a role away. -/
theorem sat_account (call : CallId) (c : AccountCall) (w : AuthWorld) :
    (c.op api config safeParseRegister call).Sat rolesContract (AnswersRight api config) w := by
  -- calls that hand out no tokens, by the steps they take
  have hsteps : ∀ {β : Type} {p : AuthOp β} (f : β → AccountAnswer), p.EachStep RolesKept →
      (∀ a tokens, f a ≠ .tokens tokens) →
      (p >>= fun a => pure (f a)).Sat rolesContract (AnswersRight api config) w := by
    intro β p f hp hf
    have hsat : p.Sat rolesContract _ w := hp.sat_respects
    rw [sat_bind]
    refine hsat.mono fun r w' _ => ?_
    cases r with
    | error e => trivial
    | ok a =>
      show AnswersRight api config (.ok (f a)) w'
      cases hanswer : f a with
      | tokens tokens => exact absurd hanswer (hf a tokens)
      | user user => trivial
      | ok => trivial
  -- calls that hand out tokens, by what these grant
  have htokens : ∀ {p : AuthOp AuthTokens}, p.Sat rolesContract
      (fun r w' => ∀ tokens, r = .ok tokens → GrantsAtMost api config tokens.accessToken w') w →
      (p >>= fun tokens => pure (AccountAnswer.tokens tokens)).Sat rolesContract
        (AnswersRight api config) w := by
    intro p hp
    rw [sat_bind]
    refine hp.mono fun r w' h => ?_
    cases r with
    | error e => trivial
    | ok tokens => exact h tokens rfl
  cases c with
  | register input =>
    exact hsteps .user (eachStep_register api safeParseRegister input) (fun _ _ h => by cases h)
  | login input => exact htokens (sat_login_answer api config call input)
  | refresh refreshToken => exact htokens (sat_refresh_answer api config call refreshToken)
  | logout refreshToken =>
    exact hsteps (fun _ => .ok) (eachStep_logout api config refreshToken) (fun _ _ h => by cases h)
  | changePassword userId input =>
    exact hsteps (fun _ => .ok) (eachStep_changePassword api userId input) (fun _ _ h => by cases h)
  | getMe userId =>
    refine hsteps .user (eachStep_bind (eachStep_query _) fun user => ?_) (fun _ _ h => by cases h)
    cases user <;> trivial
  | updateMyRole userId targetRole =>
    show ((updateMyRole userId targetRole) >>= fun user => pure (AccountAnswer.user user)).Sat
      rolesContract (AnswersRight api config) w
    rw [sat_bind]
    refine (sat_updateMyRole userId targetRole).mono fun r w' _ => ?_
    cases r <;> trivial

end Calls

/-! ### Runs -/

abbrev Accounts := Pool CallId AuthWorld AuthEnv Err AccountAnswer

/-- The calls before their first statement. -/
def startAccounts (api : AuthApi) (config : AuthConfig)
    (safeParseRegister : RegisterInput → Except (List (String × String)) RegisterParsedInput)
    (calls : CallId → AccountCall) (w : AuthWorld) : Accounts :=
  ⟨fun call => (calls call).op api config safeParseRegister call, w⟩

section Runs

variable {api : AuthApi} {config : AuthConfig}
  {safeParseRegister : RegisterInput → Except (List (String × String)) RegisterParsedInput}
  {calls : CallId → AccountCall} {w₀ : AuthWorld} {P : Accounts}

/-- What holds of the accounts and of every answer, wherever a run is. -/
theorem accounts_of_reach
    (hreach : Reach .free (fun _ _ => True)
      (startAccounts api config safeParseRegister calls w₀) P) :
    RolesKept w₀ P.state ∧
      ∀ call, (P.threads call).Sat rolesContract (AnswersRight api config) P.state := by
  have hstart : ∀ call, ((startAccounts api config safeParseRegister calls w₀).threads call).Sat
      rolesContract (AnswersRight api config)
        (startAccounts api config safeParseRegister calls w₀).state :=
    fun call => sat_account api config safeParseRegister call (calls call) w₀
  obtain ⟨hroles, hsat⟩ := Reach.mutual (A := fun _ => True) (fun _ _ _ => trivial)
    (fun _ w => .refl w) (fun _ _ _ _ hR h => h.mono api config hR) (fun _ _ _ => trivial)
    (fun call _ => hstart call) hreach
  exact ⟨hroles, fun call => hsat call trivial⟩

/-- Once an access token has been answered, it says who its user is, and no more than the user's
    role is now. -/
private theorem grantsAtMost_of_answered
    (hreach : Reach .free (fun _ _ => True) (startAccounts api config safeParseRegister calls w₀) P)
    {call : CallId} {tokens : AuthTokens} (h : P.threads call = .done (.ok (.tokens tokens))) :
    GrantsAtMost api config tokens.accessToken P.state := by
  have hsat := (accounts_of_reach hreach).2 call
  rw [h] at hsat
  exact hsat

/-- Whom the guards let through is the user of a token that verifies. -/
private theorem guardedUser_eq_ok {verifyAccess : Text → Option AccessTokenClaims}
    {requiredRoles : List Role} {authorization : Option Text} {user : AuthenticatedUser}
    (h : guardedUser verifyAccess requiredRoles authorization = .ok user) :
    (requiredRoles = [] ∨ user.role ∈ requiredRoles) ∧
      ∃ token claims, verifyAccess token = some claims ∧ claims.user = some user := by
  obtain ⟨found, hfound, h⟩ := except_bind_eq_ok.mp h
  obtain ⟨_, hroles, h⟩ := except_bind_eq_ok.mp h
  obtain rfl := Except.ok.inj h
  constructor
  -- the roles' guard lets the user's own role pass
  · simp only [RolesGuard.canActivate] at hroles
    by_cases hnone : requiredRoles = []
    · exact .inl hnone
    · rw [if_neg hnone] at hroles
      by_cases hmem : found.role ∈ requiredRoles
      · exact .inr hmem
      · rw [if_neg hmem] at hroles
        cases hroles
  -- the user is the one of the verified claims
  · simp only [JwtGuard.canActivate] at hfound
    split at hfound
    · cases hfound
    · simp only [authenticate] at hfound
      split at hfound
      · split at hfound
        · cases hfound
        · split at hfound
          · rename_i user huser
            obtain rfl := Except.ok.inj hfound
            obtain ⟨claims, hclaims, huser⟩ := Option.bind_eq_some_iff.mp huser
            exact ⟨_, claims, hclaims, huser⟩
          · cases hfound
      · cases hfound

/-- In every interleaving of any calls: whom `JwtGuard` and `RolesGuard` let through has an account
    with that email, and a role that is required and that the account still has, or had before it
    was upgraded from buyer to seller. An administrator has been one from the start. -/
theorem guardedUser_entitled
    (hreach : Reach .free (fun _ _ => True) (startAccounts api config safeParseRegister calls w₀) P)
    {verifyAccess : Text → Option AccessTokenClaims}
    -- only what the service has signed verifies
    (hunforged : ∀ token claims, verifyAccess token = some claims →
      ∃ call tokens, P.threads call = .done (.ok (.tokens tokens)) ∧
        token = tokens.accessToken.toList)
    -- and it verifies to what has been signed
    (hverify : ∀ payload ttl now claims,
      verifyAccess (api.jwtSignAccess config.jwtAccessSecret payload ttl now).toList = some claims →
        claims = ⟨some payload.sub, some payload.email, some payload.role⟩)
    {requiredRoles : List Role} {authorization : Option Text} {user : AuthenticatedUser}
    (hguard : guardedUser verifyAccess requiredRoles authorization = .ok user) :
    (requiredRoles = [] ∨ user.role ∈ requiredRoles) ∧
    (∃ row, P.state.users.find? user.id = some row ∧ row.email = user.email ∧
      user.role.MayBecome row.role) ∧
    (user.role = .admin → ∃ row, w₀.users.find? user.id = some row ∧ row.role = .admin) := by
  obtain ⟨hroles, token, claims, hclaims, huser⟩ := guardedUser_eq_ok hguard
  obtain ⟨call, tokens, hanswered, htoken⟩ := hunforged token claims hclaims
  obtain ⟨issuedFor, now, haccess, row, hrow, hemail, hrole⟩ :=
    grantsAtMost_of_answered hreach hanswered
  rw [htoken, haccess] at hclaims
  have hissued := hverify _ _ _ claims hclaims
  -- the user of the request is the user of the token
  have hsame : user.id = issuedFor.id ∧ user.email = issuedFor.email ∧
      user.role = issuedFor.role := by
    rw [hissued] at huser
    simp only [AccessTokenClaims.user] at huser
    split at huser
    · rename_i id email role hid hemail hrole
      obtain rfl := Option.some.inj huser
      have hid := Option.eq_some_of_filter_eq_some hid
      have hemail := Option.eq_some_of_filter_eq_some hemail
      exact ⟨(Option.some.inj hid).symm, (Option.some.inj hemail).symm,
        (Option.some.inj hrole).symm⟩
    · cases huser
  obtain ⟨hid, hmail, hsameRole⟩ := hsame
  refine ⟨hroles, ⟨row, hid ▸ hrow, hemail.trans hmail.symm, hsameRole ▸ hrole⟩, fun hadmin => ?_⟩
  rw [hsameRole] at hadmin
  obtain ⟨row₀, hrow₀, hadmin₀⟩ :=
    (accounts_of_reach hreach).1.admins _ row hrow (hrole.admin_iff.mpr hadmin)
  exact ⟨row₀, hid ▸ hrow₀, hadmin₀⟩

end Runs

/-! ### An administrator logs in -/

def sampleClaims : AccessTokenPayload := ⟨"root", "root@example.com", .admin⟩

/-- Access tokens for one user; the others' verify to nothing. -/
def adminAuthApi : AuthApi where
  parseLogin input := .ok input
  bcryptHash data _ := data
  bcryptCompare data hash := data = hash
  jwtSignRefresh _ payload _ _ := payload.rtid.getD ""
  jwtSignAccess _ payload _ _ := if payload = sampleClaims then "signed" else ""
  jwtVerify _ _ _ := none

def adminVerify (token : Text) : Option AccessTokenClaims :=
  if token = "signed".toList then some ⟨some "root", some "root@example.com", some .admin⟩ else none

/-- Call 0 logs the administrator in, call 1 wants to become one. -/
def adminCalls : CallId → AccountCall
  | 0 => .login ⟨"root@example.com", "secret"⟩
  | 1 => .updateMyRole "root" .admin
  | _ => .getMe "root"

def adminWorld : AuthWorld :=
  { AuthWorld.empty with users := .singleton ⟨"root", "root@example.com", "secret", .admin⟩ }

def adminLogin : List (Choice CallId AuthEnv Err) := List.replicate 6 (.run 0 ⟨0, "r1", "", none⟩)

/-- The end of the login. -/
def adminLoggedIn : Option Accounts :=
  runSchedule .free adminLogin (startAccounts adminAuthApi ⟨"access", 900, "refresh", 2592000⟩
    (fun _ => .error []) adminCalls adminWorld)

/-- Tokens of an administrator's log-in open an endpoint for administrators. -/
theorem guardedUser_entitled_admin : ∃ P user, adminLoggedIn = some P ∧
    guardedUser adminVerify [.admin] (some "Bearer signed".toList) = .ok user ∧
    ∃ row, adminWorld.users.find? user.id = some row ∧ row.role = .admin := by
  obtain ⟨P, hP⟩ := Option.isSome_iff_exists.mp (show adminLoggedIn.isSome by decide +kernel)
  have hanswer : adminLoggedIn.bind (fun P => (P.threads 0).result?) =
      some (Except.ok (.tokens ⟨"signed", "r1"⟩)) := by
    decide +kernel
  rw [hP, Option.bind_some] at hanswer
  have hguard : guardedUser adminVerify [.admin] (some "Bearer signed".toList) =
      .ok ⟨"root", "root@example.com", .admin⟩ := by
    decide +kernel
  refine ⟨P, _, hP, hguard, ?_⟩
  refine (guardedUser_entitled (reach_runSchedule _ .init hP) (fun token claims h => ?_)
    (fun payload ttl now claims h => ?_) hguard).2.2 rfl
  · refine ⟨0, _, eq_done_of_result? hanswer, ?_⟩
    unfold adminVerify at h
    split at h
    · assumption
    · cases h
  · by_cases hpayload : payload = sampleClaims
    · have hsigned : adminVerify (adminAuthApi.jwtSignAccess "access" payload ttl now).toList =
          some ⟨some "root", some "root@example.com", some .admin⟩ := by
        simp only [adminAuthApi, if_pos hpayload]
        decide +kernel
      rw [hsigned] at h
      rw [hpayload]
      exact (Option.some.inj h).symm
    · have hnone : adminVerify (adminAuthApi.jwtSignAccess "access" payload ttl now).toList =
          none := by
        simp only [adminAuthApi, if_neg hpayload]
        decide +kernel
      rw [hnone] at h
      cases h

end HivePoint
