import HivePoint.ForStd.Pool
import HivePoint.Native.AuthService

/-!
# Overlapping calls of the authentication services

Any number of `login`, `refresh`, `logout` and `changePassword` calls, interleaved statement
by statement. `AuthRules` collects what a law about the tokens has to say about each kind of
statement. `AuthRules.sat_op` walks through the four programs once, for any law.
-/

namespace HivePoint

open Prog Pool

/-! ### The calls -/

/-- `randomUUID` never returns an id again that a token already has. -/
def authScheduler : Scheduler CallId AuthWorld AuthEnv where
  permits _ _ _ w' := (w'.issued.map (·.tokenId)).Nodup
  cleanup _ w := w

abbrev AuthCalls := Pool CallId AuthWorld AuthEnv Err Unit

/-- The calls before their first statement. -/
def startAuth (api : AuthApi) (config : AuthConfig) (calls : CallId → AuthCall) (w : AuthWorld) :
    AuthCalls :=
  ⟨fun call => (calls call).op api config call, w⟩

/-- The entries that a log, latest first, has gained. -/
def gained {α : Type} (before after : List α) : List α :=
  after.take (after.length - before.length)

/-- Nothing was gained. -/
@[simp] theorem gained_self {α : Type} (log : List α) : gained log log = [] := by
  simp [gained]

/-- One entry was gained. -/
@[simp] theorem gained_cons {α : Type} (entry : α) (log : List α) :
    gained log (entry :: log) = [entry] := by
  have hlength : (entry :: log).length - log.length = 1 := by
    rw [List.length_cons]
    omega
  rw [gained, hlength, List.take_succ_cons, List.take_zero]

/-! ### Statements -/

section Statements

variable {α : Type} {C : Contract AuthWorld AuthEnv} {post : Except Err α → AuthWorld → Prop}
  {w : AuthWorld}

/-- A statement is refused without effect, or executed. -/
theorem sat_authStatement {f : AuthEnv → AuthWorld → Except Err (α × AuthWorld)}
    (h : ∀ w₁, C.rely w w₁ → (C.guar w₁ w₁ ∧ ∀ e, post (.error e) w₁) ∧
      ∀ env a w₂, f env w₁ = .ok (a, w₂) → C.permits env w₁ w₂ →
        C.guar w₁ w₂ ∧ post (.ok a) w₂) :
    (authStatement f).Sat C post w := by
  unfold authStatement
  rw [sat_stmt]
  intro w₁ hrely env hpermits
  obtain ⟨⟨hskip, herror⟩, hdone⟩ := h w₁ hrely
  revert hpermits
  cases env.dbError with
  | some m => exact fun _ => ⟨hskip, herror _⟩
  | none =>
    dsimp only
    cases hf : f env w₁ with
    | ok p => exact fun hpermits => hdone env p.1 p.2 hf hpermits
    | error e => exact fun _ => ⟨hskip, herror e⟩

/-- A computation changes nothing. -/
theorem sat_authCompute {f : AuthEnv → Except Err α}
    (h : ∀ w₁, C.rely w w₁ → C.guar w₁ w₁ ∧ ∀ r, post r w₁) : (authCompute f).Sat C post w := by
  unfold authCompute
  rw [sat_stmt]
  intro w₁ hrely env _
  exact ⟨(h w₁ hrely).1, (h w₁ hrely).2 _⟩

end Statements

/-! ### What a law says about each statement -/

/-- `I` is the law. `Known` is what a call knows once it has read the user, and the stored
    token if it is a refresh; `Ready` what it knows once it has deleted the user's tokens. -/
structure AuthRules (C : Contract AuthWorld AuthEnv) (call : CallId) (I : AuthWorld → Prop)
    (Known Ready : Option RefreshToken → Id → AuthUser → AuthWorld → Prop) : Prop where
  inv_rely : ∀ {w w'}, I w → C.rely w w' → I w'
  inv_guar : ∀ {w w'}, I w → C.guar w w' → I w'
  known_rely : ∀ {storedToken userId user w w'}, Known storedToken userId user w → C.rely w w' →
    Known storedToken userId user w'
  ready_rely : ∀ {storedToken userId user w w'}, Ready storedToken userId user w → C.rely w w' →
    Ready storedToken userId user w'
  skip : ∀ w, C.guar w w
  delete : ∀ {w}, I w → ∀ where_, C.guar w (w.deleteTokens where_)
  readUser : ∀ {w user}, I w → user ∈ w.users.rows → Known none user.id user w
  readToken : ∀ {w id storedToken user}, I w → w.refreshTokens.find? id = some storedToken →
    w.users.find? storedToken.userId = some user →
    Known (some storedToken) storedToken.userId user w
  replace : ∀ {env storedToken userId user w}, I w → Known storedToken userId user w →
    C.permits env w (w.replaceTokens call storedToken userId) →
    C.guar w (w.replaceTokens call storedToken userId) ∧
      Ready storedToken userId user (w.replaceTokens call storedToken userId)
  create : ∀ {env storedToken userId user w row t}, I w → Ready storedToken userId user w →
    row.userId = userId → w.refreshTokens.insert? row = some t →
    C.permits env w { w with
      refreshTokens := t
      issued := ⟨call, storedToken.map (·.id), user, row.id⟩ :: w.issued } →
    C.guar w { w with
      refreshTokens := t
      issued := ⟨call, storedToken.map (·.id), user, row.id⟩ :: w.issued }
  commit : ∀ {env userId seen passwordHash w users}, I w →
    w.users.update? userId (fun row => { row with passwordHash }) = some users →
    C.permits env w { w with
      users := users
      refreshTokens := w.refreshTokens.deleteWhere (seen.contains ·.id)
      passwordChanges := ⟨userId, seen⟩ :: w.passwordChanges } →
    C.guar w { w with
      users := users
      refreshTokens := w.refreshTokens.deleteWhere (seen.contains ·.id)
      passwordChanges := ⟨userId, seen⟩ :: w.passwordChanges }

namespace AuthRules

variable {C : Contract AuthWorld AuthEnv} {call : CallId} {I : AuthWorld → Prop}
  {Known Ready : Option RefreshToken → Id → AuthUser → AuthWorld → Prop} {w : AuthWorld}
  (api : AuthApi) (config : AuthConfig)

/-- A read of the database finds something in a state of the law. -/
private theorem sat_query {α : Type} (hrules : AuthRules C call I Known Ready) (hw : I w)
    {f : AuthWorld → α} {post : Except Err α → AuthWorld → Prop}
    (herror : ∀ e w₁, post (.error e) w₁) (hok : ∀ w₁, C.rely w w₁ → I w₁ → post (.ok (f w₁)) w₁) :
    (authStatement fun _ w => .ok (f w, w)).Sat C post w := by
  refine sat_authStatement fun w₁ hrely => ⟨⟨hrules.skip w₁, fun e => herror e w₁⟩, ?_⟩
  intro env a w₂ heq _
  obtain ⟨rfl, rfl⟩ := Prod.mk.inj (Except.ok.inj heq)
  exact ⟨hrules.skip w₁, hok w₁ hrely (hrules.inv_rely hw hrely)⟩

/-- A `deleteMany` at the end of a call. -/
private theorem sat_deleteRefreshTokens (hrules : AuthRules C call I Known Ready) (hw : I w)
    (where_ : RefreshToken → Bool) {post : Except Err Nat → AuthWorld → Prop}
    (hpost : ∀ r w', post r w') : (deleteRefreshTokens where_).Sat C post w := by
  refine sat_authStatement fun w₁ hrely => ⟨⟨hrules.skip w₁, fun e => hpost _ w₁⟩, ?_⟩
  intro env a w₂ heq _
  obtain ⟨-, rfl⟩ := Prod.mk.inj (Except.ok.inj heq)
  exact ⟨hrules.delete (hrules.inv_rely hw hrely) where_, hpost _ _⟩

/-- From the read to the new token. -/
private theorem sat_issueTokens (hrules : AuthRules C call I Known Ready) (hw : I w)
    {storedToken : Option RefreshToken} {userId : Id} {user : AuthUser}
    (hknown : Known storedToken userId user w) :
    (issueTokens api config call storedToken userId user).Sat C (fun _ _ => True) w := by
  unfold issueTokens deleteReplacedTokens
  rw [sat_bind]
  refine sat_authStatement fun w₁ hrely => ⟨⟨hrules.skip w₁, fun _ => trivial⟩, ?_⟩
  intro env count w₂ heq hpermits
  obtain ⟨-, rfl⟩ := Prod.mk.inj (Except.ok.inj heq)
  have hw₁ := hrules.inv_rely hw hrely
  obtain ⟨hguar, hready⟩ := hrules.replace hw₁ (hrules.known_rely hknown hrely) hpermits
  refine ⟨hguar, ?_⟩
  have hw₂ := hrules.inv_guar hw₁ hguar
  -- the token and its hash take their time; the others may act
  unfold createRefreshToken bcryptHash createAccessToken
  rw [sat_bind]
  refine sat_authCompute fun w₃ hrely₃ => ⟨hrules.skip w₃, fun r => ?_⟩
  cases r with
  | error _ => trivial
  | ok created =>
    obtain ⟨tokenId, token, expiresAt⟩ := created
    dsimp only
    have hw₃ := hrules.inv_rely hw₂ hrely₃
    have hready₃ := hrules.ready_rely hready hrely₃
    rw [sat_bind]
    refine sat_authCompute fun w₄ hrely₄ => ⟨hrules.skip w₄, fun r => ?_⟩
    cases r with
    | error _ => trivial
    | ok tokenHash =>
      dsimp only
      have hw₄ := hrules.inv_rely hw₃ hrely₄
      have hready₄ := hrules.ready_rely hready₃ hrely₄
      unfold createRefreshTokenRow
      rw [sat_bind]
      refine sat_authStatement fun w₅ hrely₅ => ⟨⟨hrules.skip w₅, fun _ => trivial⟩, ?_⟩
      intro env _ w₆ heq hpermits
      split at heq
      · rename_i t ht
        obtain ⟨-, rfl⟩ := Prod.mk.inj (Except.ok.inj heq)
        refine ⟨hrules.create (hrules.inv_rely hw₄ hrely₅) (hrules.ready_rely hready₄ hrely₅) rfl ht
          hpermits, ?_⟩
        rw [sat_bind]
        exact sat_authCompute fun w₇ _ => ⟨hrules.skip w₇, fun r => by cases r <;> trivial⟩
      · exact nomatch heq

/-- A log-in keeps the invariant. -/
private theorem sat_login (hrules : AuthRules C call I Known Ready) (hw : I w)
    (input : LoginInput) :
    (login api config call input).Sat C (fun _ _ => True) w := by
  unfold login
  split
  · trivial
  · rename_i data _
    rw [sat_bind]
    refine hrules.sat_query hw (fun _ _ => trivial) fun w₁ _ hw₁ => ?_
    cases huser : w₁.users.findBy? (fun r => some r.email) data.email with
    | none => trivial
    | some user =>
      dsimp only
      split
      · exact hrules.sat_issueTokens api config hw₁
          (hrules.readUser hw₁ (Table.mem_of_findBy? huser))
      · trivial

/-- A refresh keeps the invariant. -/
private theorem sat_refresh (hrules : AuthRules C call I Known Ready) (hw : I w)
    (refreshToken : String) :
    (refresh api config call refreshToken).Sat C (fun _ _ => True) w := by
  unfold refresh verifyRefreshToken
  split
  · trivial
  rw [sat_bind]
  refine sat_authCompute fun w₁ hrely => ⟨hrules.skip w₁, fun r => ?_⟩
  have hw₁ := hrules.inv_rely hw hrely
  cases r with
  | error _ => trivial
  | ok payload =>
    dsimp only
    cases payload.rtid.filter (· ≠ "") with
    | none => trivial
    | some rtid =>
      unfold findRefreshToken
      dsimp only
      rw [sat_bind]
      refine hrules.sat_query hw₁ (fun _ _ => trivial) fun w₂ _ hw₂ => ?_
      cases hstored : w₂.refreshTokens.find? rtid with
      | none => trivial
      | some storedToken =>
        rw [Option.bind_some]
        cases huser : w₂.users.find? storedToken.userId with
        | none => trivial
        | some user =>
          rw [Option.map_some]
          dsimp only
          have hknown := hrules.readToken hw₂ hstored huser
          unfold refreshStored
          rw [sat_bind]
          refine sat_authCompute fun w₃ hrely₃ => ⟨hrules.skip w₃, fun r => ?_⟩
          have hw₃ := hrules.inv_rely hw₂ hrely₃
          cases r with
          | error _ => trivial
          | ok now =>
            dsimp only
            split
            · -- expired
              rw [sat_bind]
              exact hrules.sat_deleteRefreshTokens hw₃ _ fun r _ => by cases r <;> trivial
            · split
              · exact hrules.sat_issueTokens api config hw₃ (hrules.known_rely hknown hrely₃)
              · rw [sat_bind]
                exact hrules.sat_deleteRefreshTokens hw₃ _ fun r _ => by cases r <;> trivial

/-- A log-out keeps the invariant. -/
private theorem sat_logout (hrules : AuthRules C call I Known Ready) (hw : I w)
    (refreshToken : String) :
    (logout api config refreshToken).Sat C (fun _ _ => True) w := by
  unfold logout verifyRefreshToken
  split
  · trivial
  rw [sat_tryCatch, sat_bind]
  refine sat_authCompute fun w₁ hrely => ⟨hrules.skip w₁, fun r => ?_⟩
  cases r with
  | error _ => trivial
  | ok payload =>
    dsimp only
    cases payload.rtid.filter (· ≠ "") with
    | none => trivial
    | some rtid =>
      dsimp only
      rw [sat_bind]
      exact hrules.sat_deleteRefreshTokens (hrules.inv_rely hw hrely) _ fun r _ => by
        cases r <;> trivial

/-- A change of password keeps the invariant. -/
private theorem sat_changePassword (hrules : AuthRules C call I Known Ready) (hw : I w)
    (userId : Id) (input : ChangePasswordInput) :
    (changePassword api userId input).Sat C (fun _ _ => True) w := by
  unfold changePassword
  rw [sat_bind]
  refine hrules.sat_query hw (fun _ _ => trivial) fun w₁ _ hw₁ => ?_
  cases w₁.users.find? userId with
  | none => trivial
  | some user =>
    dsimp only
    -- the new hash is computed before the user's tokens are read again
    split
    · unfold bcryptHash
      rw [sat_bind]
      refine sat_authCompute fun w₂ hrely₂ => ⟨hrules.skip w₂, fun r => ?_⟩
      have hw₂ := hrules.inv_rely hw₁ hrely₂
      cases r with
      | error _ => trivial
      | ok nextPasswordHash =>
        dsimp only
        rw [sat_bind]
        refine hrules.sat_query hw₂ (fun _ _ => trivial) fun w₃ _ hw₃ => ?_
        dsimp only
        unfold commitPassword
        refine sat_authStatement fun w₄ hrely₄ => ⟨⟨hrules.skip w₄, fun _ => trivial⟩, ?_⟩
        -- the commit deletes the tokens that were read and writes the hash
        intro env _ w₅ heq hpermits
        split at heq
        · rename_i users husers
          obtain ⟨-, rfl⟩ := Prod.mk.inj (Except.ok.inj heq)
          exact ⟨hrules.commit (hrules.inv_rely hw₃ hrely₄) husers hpermits, trivial⟩
        · exact nomatch heq
    · trivial

/-- Every call keeps its contract. -/
theorem sat_op (hrules : AuthRules C call I Known Ready) (hw : I w) (authCall : AuthCall) :
    (authCall.op api config call).Sat C (fun _ _ => True) w := by
  cases authCall with
  | login input =>
    simp only [AuthCall.op]
    rw [sat_bind]
    exact (hrules.sat_login api config hw input).mono fun r _ _ => by cases r <;> trivial
  | refresh refreshToken =>
    simp only [AuthCall.op]
    rw [sat_bind]
    exact (hrules.sat_refresh api config hw refreshToken).mono fun r _ _ => by cases r <;> trivial
  | logout refreshToken => exact hrules.sat_logout api config hw refreshToken
  | changePassword userId input => exact hrules.sat_changePassword api hw userId input

end AuthRules

end HivePoint
