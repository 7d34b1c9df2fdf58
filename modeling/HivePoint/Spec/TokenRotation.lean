import HivePoint.Spec.AuthCalls

/-!
# A refresh token is redeemed once

A refresh reads its token, deletes the tokens of the user, and creates a new one. The count of
the delete is ignored. So two refreshes that have both read a token both exchange it, and two
calls that have both deleted both leave a token. If each delete still finds the token that was
read, and each new token is the only one of its user, neither happens.

## Key results

- `TokenLaw.replace`, `TokenLaw.create`: the two writes of a call keep the law
- `rotation_rules`: every call keeps it
- `refreshToken_redeemedOnce`: what that means in every run
-/

namespace HivePoint

open Prog Pool

/-! ### The law -/

/-- The tokens that have been exchanged for new ones. -/
def AuthWorld.exchanged (w : AuthWorld) : List Id := w.issued.filterMap (·.presented)

/-- A refresh that deletes the user's tokens finds the one it has read among them, and a call
    that creates a token finds no other one of the user. -/
def RotationUndisturbed (w w' : AuthWorld) : Prop :=
  (∀ entry ∈ gained w.replaced w'.replaced, entry.2 ∈ w.refreshTokens.rows) ∧
    ∀ issue ∈ gained w.issued w'.issued, ∀ row ∈ w.refreshTokens.rows, row.userId ≠ issue.user.id

instance : DecidableRel RotationUndisturbed := fun _ _ => inferInstanceAs (Decidable (_ ∧ _))

/-- A token that a refresh has deleted is gone for good, and was deleted by that one only; each
    exchange is its own; and each user has one token. -/
structure TokenLaw (w : AuthWorld) : Prop where
  known : ∀ row ∈ w.refreshTokens.rows, row.id ∈ w.issued.map (·.tokenId)
  gone : ∀ entry ∈ w.replaced, entry.2.id ∈ w.issued.map (·.tokenId) ∧
    ∀ row ∈ w.refreshTokens.rows, row.id ≠ entry.2.id
  replacedOnce : (w.replaced.map (·.2.id)).Nodup
  exchanged : ∀ issue ∈ w.issued, ∀ id, issue.presented = some id →
    ∃ entry ∈ w.replaced, entry.1 = issue.call ∧ entry.2.id = id
  exchangedOnce : w.exchanged.Nodup
  single : ∀ row ∈ w.refreshTokens.rows, ∀ row' ∈ w.refreshTokens.rows,
    row.userId = row'.userId → row = row'

/-- The law holds where nothing has happened. -/
theorem TokenLaw.empty : TokenLaw .empty := by
  constructor <;> simp [AuthWorld.empty, AuthWorld.exchanged, Table.empty]

section Law

variable {w : AuthWorld} {call : CallId} {storedToken : Option RefreshToken} {user : AuthUser}

/-- Deleting tokens keeps the law. -/
theorem TokenLaw.deleteTokens (h : TokenLaw w) (where_ : RefreshToken → Bool) :
    TokenLaw (w.deleteTokens where_) := by
  have hrows : ∀ row ∈ (w.deleteTokens where_).refreshTokens.rows, row ∈ w.refreshTokens.rows :=
    fun row hrow => (Table.mem_deleteWhere.mp hrow).1
  exact {
    known := fun row hrow => h.known row (hrows row hrow)
    gone := fun entry hentry => ⟨(h.gone entry hentry).1, fun row hrow =>
      (h.gone entry hentry).2 row (hrows row hrow)⟩
    replacedOnce := h.replacedOnce
    exchanged := h.exchanged
    exchangedOnce := h.exchangedOnce
    single := fun row hrow row' hrow' => h.single row (hrows row hrow) row' (hrows row' hrow') }

/-- A refresh that still finds its token deletes it for the first time. -/
theorem TokenLaw.replace (h : TokenLaw w) {token : RefreshToken}
    (hstored : token ∈ w.refreshTokens.rows) :
    TokenLaw (w.replaceTokens call (some token) token.userId) := by
  have hdeleted := h.deleteTokens (·.userId = token.userId)
  -- the token was there, so no refresh has deleted it before
  have hfresh : token.id ∉ w.replaced.map (·.2.id) := by
    intro hmem
    obtain ⟨entry, hentry, hid⟩ := List.mem_map.mp hmem
    exact (h.gone entry hentry).2 token hstored hid.symm
  constructor
  · exact hdeleted.known
  · intro entry hentry
    rcases List.mem_cons.mp hentry with rfl | hentry
    · refine ⟨h.known token hstored, fun row hrow hid => ?_⟩
      obtain ⟨hrow, hkept⟩ := Table.mem_deleteWhere.mp hrow
      obtain rfl := Table.eq_of_key_eq hrow hstored hid
      exact hkept (decide_eq_true rfl)
    · exact hdeleted.gone entry hentry
  · exact List.nodup_cons.mpr ⟨hfresh, h.replacedOnce⟩
  · intro issue hissue id hid
    obtain ⟨entry, hentry, hcall⟩ := h.exchanged issue hissue id hid
    exact ⟨entry, List.mem_cons_of_mem _ hentry, hcall⟩
  · exact h.exchangedOnce
  · exact hdeleted.single

/-- No issue presents a token that no refresh has deleted. -/
private theorem TokenLaw.not_presented (h : TokenLaw w) {token : RefreshToken}
    (hstored : token ∈ w.refreshTokens.rows) : ∀ issue ∈ w.issued,
      issue.presented ≠ some token.id := by
  intro issue hissue hpresented
  obtain ⟨entry, hentry, -, hid⟩ := h.exchanged issue hissue _ hpresented
  exact (h.gone entry hentry).2 token hstored hid.symm

/-- A new token with a new id, the only one of its user. -/
theorem TokenLaw.create (h : TokenLaw w) {row : RefreshToken} {t : Table RefreshToken}
    (ht : w.refreshTokens.insert? row = some t)
    (hfresh : row.id ∉ w.issued.map (·.tokenId))
    (hsingle : ∀ other ∈ w.refreshTokens.rows, other.userId ≠ row.userId)
    (hready : ∀ token, storedToken = some token → (call, token) ∈ w.replaced ∧
      ∀ issue ∈ w.issued, issue.call = call → issue.presented ≠ some token.id) :
    TokenLaw { w with
      refreshTokens := t
      issued := ⟨call, storedToken.map (·.id), user, row.id⟩ :: w.issued } := by
  have hmem : ∀ row', row' ∈ t.rows ↔ row' ∈ w.refreshTokens.rows ∨ row' = row := fun _ =>
    Table.mem_insert? ht
  constructor
  · intro row' hrow'
    rcases (hmem row').mp hrow' with hrow' | rfl
    · exact List.mem_cons_of_mem _ (h.known row' hrow')
    · exact List.mem_cons_self
  · intro entry hentry
    obtain ⟨hknown, hgone⟩ := h.gone entry hentry
    refine ⟨List.mem_cons_of_mem _ hknown, fun row' hrow' => ?_⟩
    rcases (hmem row').mp hrow' with hrow' | rfl
    · exact hgone row' hrow'
    · exact fun hid => hfresh (hid ▸ hknown)
  · exact h.replacedOnce
  · intro issue hissue id hid
    rcases List.mem_cons.mp hissue with rfl | hissue
    · obtain ⟨token, rfl, rfl⟩ := Option.map_eq_some_iff.mp hid
      exact ⟨(call, token), (hready token rfl).1, rfl, rfl⟩
    · exact h.exchanged issue hissue id hid
  · cases storedToken with
    | none => exact h.exchangedOnce
    | some token =>
      obtain ⟨hreplaced, hown⟩ := hready token rfl
      refine List.nodup_cons.mpr ⟨fun hpresented => ?_, h.exchangedOnce⟩
      -- whoever exchanged the token had deleted it, and that was this call
      obtain ⟨issue, hissue, hid⟩ := List.mem_filterMap.mp hpresented
      obtain ⟨entry, hentry, hcall, hentryId⟩ := h.exchanged issue hissue token.id hid
      obtain rfl := List.inj_on_of_nodup_map h.replacedOnce hentry hreplaced hentryId
      exact hown issue hissue hcall.symm hid
  · intro row₁ h₁ row₂ h₂ huser
    rcases (hmem row₁).mp h₁ with hold₁ | rfl <;> rcases (hmem row₂).mp h₂ with hold₂ | rfl
    · exact h.single row₁ hold₁ row₂ hold₂ huser
    · exact absurd huser (hsingle row₁ hold₁)
    · exact absurd huser.symm (hsingle row₂ hold₂)
    · rfl

end Law

/-! ### The contracts -/

/-- What a call has done. -/
def AuthWorld.actsOf (w : AuthWorld) (call : CallId) :
    List (CallId × RefreshToken) × List TokenIssue :=
  (w.replaced.filter (·.1 = call), w.issued.filter (·.call = call))

/-- A call's own replacements are among its acts. -/
private theorem mem_replaced_of_actsOf {w w' : AuthWorld} {call : CallId}
    (h : w'.actsOf call = w.actsOf call) {token : RefreshToken}
    (hmem : (call, token) ∈ w.replaced) : (call, token) ∈ w'.replaced := by
  have hfilter : (call, token) ∈ w.replaced.filter (·.1 = call) :=
    List.mem_filter.mpr ⟨hmem, decide_eq_true rfl⟩
  rw [← (Prod.mk.inj h).1] at hfilter
  exact (List.mem_filter.mp hfilter).1

/-- A call's own issues are among its acts. -/
private theorem mem_issued_of_actsOf {w w' : AuthWorld} {call : CallId}
    (h : w'.actsOf call = w.actsOf call) {issue : TokenIssue} (hmem : issue ∈ w'.issued)
    (hcall : issue.call = call) :
    issue ∈ w.issued := by
  have hfilter : issue ∈ w'.issued.filter (·.call = call) :=
    List.mem_filter.mpr ⟨hmem, decide_eq_true hcall⟩
  rw [(Prod.mk.inj h).2] at hfilter
  exact (List.mem_filter.mp hfilter).1

/-- While a call waits, the others keep the law, and only the call itself acts in its name. -/
def rotationContract (call : CallId) : Contract AuthWorld AuthEnv where
  permits _ w w' := (w'.issued.map (·.tokenId)).Nodup ∧ RotationUndisturbed w w'
  rely w w' := (TokenLaw w → TokenLaw w') ∧ w'.actsOf call = w.actsOf call
  guar w w' := (TokenLaw w → TokenLaw w') ∧ ∀ other, other ≠ call → w'.actsOf other = w.actsOf other
  rely_refl _ := ⟨id, rfl⟩
  rely_trans h₁ h₂ := ⟨h₂.1 ∘ h₁.1, h₂.2.trans h₁.2⟩

/-- Once it has deleted the user's tokens, a refresh is the one that has deleted the token it
    presents, and has not exchanged it yet. -/
def ReadyToIssue (call : CallId) (storedToken : Option RefreshToken) (userId : Id) (user : AuthUser)
    (w : AuthWorld) : Prop :=
  user.id = userId ∧ ∀ token, storedToken = some token → (call, token) ∈ w.replaced ∧
    ∀ issue ∈ w.issued, issue.call = call → issue.presented ≠ some token.id

/-- The statements of the calls keep the law of the tokens. -/
theorem rotation_rules (call : CallId) :
    AuthRules (rotationContract call) call TokenLaw
      (fun storedToken userId user _ => user.id = userId ∧
        ∀ token, storedToken = some token → token.userId = userId)
      (ReadyToIssue call) where
  inv_rely hw hrely := hrely.1 hw
  inv_guar hw hguar := hguar.1 hw
  known_rely h _ := h
  ready_rely h hrely := ⟨h.1, fun token htoken =>
    ⟨mem_replaced_of_actsOf hrely.2 (h.2 token htoken).1, fun issue hissue hcall =>
      (h.2 token htoken).2 issue (mem_issued_of_actsOf hrely.2 hissue hcall) hcall⟩⟩
  skip _ := ⟨id, fun _ _ => rfl⟩
  delete _ where_ := ⟨fun hw => hw.deleteTokens where_, fun _ _ => rfl⟩
  readUser _ _ := ⟨rfl, fun _ h => nomatch h⟩
  readToken _ _ huser := ⟨Table.key_of_find? huser, fun _ h => Option.some.inj h ▸ rfl⟩
  replace {env storedToken userId user w} hw hknown hpermits := by
    obtain ⟨huser, hstoredUser⟩ := hknown
    -- a log-in replaces nothing, a refresh the token that it presented
    cases storedToken with
    | none =>
      exact ⟨⟨fun _ => hw.deleteTokens _, fun _ _ => rfl⟩, huser, fun _ h => nomatch h⟩
    | some token =>
      obtain rfl := hstoredUser token rfl
      have hstored : token ∈ w.refreshTokens.rows :=
        hpermits.2.1 (call, token) (by simp [AuthWorld.replaceTokens])
      refine ⟨⟨fun _ => hw.replace hstored, fun other hother => ?_⟩, huser,
        fun token' htoken' => ?_⟩
      · have hreplaced : (w.replaceTokens call (some token) token.userId).replaced.filter
            (·.1 = other) = w.replaced.filter (·.1 = other) :=
          List.filter_cons_of_neg (by simpa using Ne.symm hother)
        exact Prod.ext hreplaced rfl
      · obtain rfl := Option.some.inj htoken'
        exact ⟨List.mem_cons_self, fun issue hissue _ => hw.not_presented hstored issue hissue⟩
  create {env storedToken userId user w row t} hw hready hrow ht hpermits := by
    obtain ⟨huser, hready⟩ := hready
    -- the scheduler gives the new row a fresh id, to a user without another token
    have hsingle : ∀ other ∈ w.refreshTokens.rows, other.userId ≠ row.userId := by
      intro other hother
      have hother := hpermits.2.2 ⟨call, storedToken.map (·.id), user, row.id⟩
        (by simp) other hother
      rwa [hrow, ← huser]
    have hfresh : row.id ∉ w.issued.map (·.tokenId) := (List.nodup_cons.mp hpermits.1).1
    refine ⟨fun _ => hw.create ht hfresh hsingle hready, fun other hother => ?_⟩
    have hissued : ((⟨call, storedToken.map (·.id), user, row.id⟩ : TokenIssue) :: w.issued).filter
        (·.call = other) = w.issued.filter (·.call = other) :=
      List.filter_cons_of_neg (by simpa using Ne.symm hother)
    exact Prod.ext rfl hissued
  commit {_ _ seen _ w _} hw _ _ :=
    have h := hw.deleteTokens (seen.contains ·.id)
    ⟨fun _ => ⟨h.known, h.gone, h.replacedOnce, h.exchanged, h.exchangedOnce, h.single⟩,
      fun _ _ => rfl⟩

/-! ### Every run -/

/-- Restricted to undisturbed steps, the calls fit together. -/
private theorem rotation_compatible (api : AuthApi) (config : AuthConfig)
    (calls : CallId → AuthCall) :
    Compatible (authScheduler.allowing RotationUndisturbed) (fun _ _ => True)
      (fun call => (calls call).op api config call) rotationContract (fun _ _ _ => True)
        TokenLaw where
  start_sat call _ hw := (rotation_rules call).sat_op api config hw (calls call)
  permits _ _ _ _ h := by
    obtain ⟨hfresh, hallowed⟩ := Bool.and_eq_true_iff.mp h
    exact ⟨of_decide_eq_true hfresh, of_decide_eq_true hallowed⟩
  guar_inv _ _ _ hw hguar := hguar.1 hw
  guar_rely _ _ _ _ _ _ _ hguar other hother _ := ⟨hguar.1, hguar.2 other hother⟩
  stop_inv _ _ hw := hw
  stop_rely _ _ _ _ _ _ _ _ := ⟨id, rfl⟩

/-- In every run whose steps are undisturbed, no token is exchanged twice, and no user has two
    tokens, whether calls are in progress or not. -/
theorem refreshToken_redeemedOnce (api : AuthApi) (config : AuthConfig)
    (calls : CallId → AuthCall) {w₀ : AuthWorld} (hw₀ : TokenLaw w₀) {P : AuthCalls}
    (hreach : Reach authScheduler
      (fun P c => ∀ P', P.next authScheduler c = some P' → RotationUndisturbed P.state P'.state)
      (startAuth api config calls w₀) P) :
    P.state.exchanged.Nodup ∧ ∀ row ∈ P.state.refreshTokens.rows,
      ∀ row' ∈ P.state.refreshTokens.rows, row.userId = row'.userId → row = row' := by
  have hlaw := ((rotation_compatible api config calls).sound hw₀ hreach.allowing).inv
  exact ⟨hlaw.exchangedOnce, hlaw.single⟩

/-! ### Two refreshes of one token -/

/-- Libraries for samples: a token is its id, and a hash is what it was computed from. -/
def sampleAuthApi : AuthApi where
  parseLogin input := .ok input
  bcryptHash data _ := data
  bcryptCompare data hash := data = hash
  jwtSignRefresh _ payload _ _ := payload.rtid.getD ""
  jwtSignAccess _ payload _ _ := payload.sub
  jwtVerify token _ _ := some ⟨some token, none⟩

def sampleAuthConfig : AuthConfig := ⟨"access", 900, "refresh", 2592000⟩

def sampleAuthUser : AuthUser := ⟨"user", "a@example.com", "password", .buyer⟩

/-- The user has logged in. -/
def sampleAuthWorld : AuthWorld where
  users := .singleton sampleAuthUser
  refreshTokens := .singleton ⟨"r0", "user", "r0", 1000⟩
  issued := [⟨9, none, sampleAuthUser, "r0"⟩]
  replaced := []
  passwordChanges := []

/-- The sample's tokens obey the law. -/
private theorem tokenLaw_sample : TokenLaw sampleAuthWorld := by
  constructor
  · decide
  · decide
  · decide
  · intro issue hissue id hid
    obtain rfl := List.mem_singleton.mp hissue
    exact nomatch hid
  · decide
  · decide

def refreshStep (call : CallId) (uuid : Id) : Choice CallId AuthEnv Err :=
  .run call ⟨0, uuid, "", none⟩

/-- Calls 0 and 1 are refreshes, of the tokens given. -/
def twoRefreshes (first second : String) : CallId → AuthCall
  | 0 => .refresh first
  | 1 => .refresh second
  | _ => .logout ""

/-- Both read the token, both delete the tokens of the user, and each creates a new one. -/
def overlappingRefreshes : List (Choice CallId AuthEnv Err) :=
  List.replicate 3 (refreshStep 0 "r1") ++ List.replicate 3 (refreshStep 1 "r2") ++
    [refreshStep 0 "r1", refreshStep 1 "r2"] ++
    List.replicate 4 (refreshStep 0 "r1") ++ List.replicate 4 (refreshStep 1 "r2")

/-- Two refreshes of one token may both redeem it. -/
theorem not_refreshToken_redeemedOnce :
    ¬∀ (api : AuthApi) (config : AuthConfig) (calls : CallId → AuthCall) (w₀ : AuthWorld),
      TokenLaw w₀ → ∀ P : AuthCalls,
        Reach authScheduler (fun _ _ => True) (startAuth api config calls w₀) P →
        P.state.exchanged.Nodup ∧ ((∀ call, ∃ r, P.threads call = .done r) →
          ∀ row ∈ P.state.refreshTokens.rows, ∀ row' ∈ P.state.refreshTokens.rows,
            row.userId = row'.userId → row = row') := by
  intro h
  obtain ⟨P, hP⟩ := Option.isSome_iff_exists.mp
    (show (runSchedule authScheduler overlappingRefreshes (startAuth sampleAuthApi sampleAuthConfig
      (twoRefreshes "r0" "r0") sampleAuthWorld)).isSome by decide +kernel)
  -- both calls read the token before either deletes it
  have hexchanged : (runSchedule authScheduler overlappingRefreshes (startAuth sampleAuthApi
      sampleAuthConfig (twoRefreshes "r0" "r0") sampleAuthWorld)).map (·.state.exchanged) =
      some ["r0", "r0"] := by
    decide +kernel
  rw [hP] at hexchanged
  have htwice : P.state.exchanged = ["r0", "r0"] := Option.some.inj hexchanged
  have honce := (h _ _ _ _ tokenLaw_sample P (reach_runSchedule _ .init hP)).1
  rw [htwice] at honce
  exact absurd honce (by decide)

/-- The second refresh presents the token that the first one has created. -/
theorem refreshToken_redeemedOnce_chain : ∃ P,
    runWhile authScheduler RotationUndisturbed
      (List.replicate 8 (refreshStep 0 "r1") ++ List.replicate 8 (refreshStep 1 "r2"))
      (startAuth sampleAuthApi sampleAuthConfig (twoRefreshes "r0" "r1") sampleAuthWorld) = some P ∧
    P.state.exchanged = ["r1", "r0"] ∧ P.state.exchanged.Nodup := by
  obtain ⟨P, hP⟩ := Option.isSome_iff_exists.mp
    (show (runWhile authScheduler RotationUndisturbed
      (List.replicate 8 (refreshStep 0 "r1") ++ List.replicate 8 (refreshStep 1 "r2"))
      (startAuth sampleAuthApi sampleAuthConfig (twoRefreshes "r0" "r1") sampleAuthWorld)).isSome by
        decide +kernel)
  have hexchanged : (runWhile authScheduler RotationUndisturbed
      (List.replicate 8 (refreshStep 0 "r1") ++ List.replicate 8 (refreshStep 1 "r2"))
      (startAuth sampleAuthApi sampleAuthConfig (twoRefreshes "r0" "r1") sampleAuthWorld)).map
        (·.state.exchanged) = some ["r1", "r0"] := by
    decide +kernel
  rw [hP] at hexchanged
  exact ⟨P, hP, Option.some.inj hexchanged,
    (refreshToken_redeemedOnce sampleAuthApi sampleAuthConfig
    (twoRefreshes "r0" "r1") tokenLaw_sample (reach_runWhile _ .init hP)).1⟩

end HivePoint
