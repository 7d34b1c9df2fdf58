import HivePoint.Native.AdminService
import HivePoint.Spec.EachStatement
import HivePoint.Spec.Transactions

/-!
# What the audit log tells

Operations of admins run statement by statement, next to each other and next to changes of the
same rows by their sellers. An operation reads its row before the transaction in which it
changes and logs it, so its entry is about the row as it was then.

## Key results

- `AdminAction.Writes.commit`: what the commit of an operation adds to the log and changes
- `auditLog_tells_iff`: the log tells what has happened if and only if each operation that has
  committed found its row as it had read it
-/

namespace HivePoint

open Prog Pool

/-! ### The actions -/

inductive AdminAction where
  | hideProduct (productId : Id)
  | hideVersion (versionId : Id)
  | revokeKey (keyId : Id)
  deriving DecidableEq

namespace AdminAction

def moderation : AdminAction → Moderation
  | .hideProduct productId => hidingProduct productId
  | .hideVersion versionId => hidingVersion versionId
  | .revokeKey keyId => revokingKey keyId

def op (tx : TxId) (requestId : Option String) (actor : AuthenticatedUser) :
    AdminAction → Op ModerationResponse
  | .hideProduct productId => AdminService.hideProduct tx requestId actor productId
  | .hideVersion versionId => AdminService.hideVersion tx requestId actor versionId
  | .revokeKey keyId => AdminService.revokeKey tx requestId actor keyId

/-- Every action runs the one moderating program. -/
private theorem op_eq (tx : TxId) (requestId : Option String) (actor : AuthenticatedUser)
    (action : AdminAction) :
    action.op tx requestId actor = moderate tx requestId actor action.moderation := by
  cases action <;> rfl

/-- What the columns of the row say that the action is about. -/
def describe (action : AdminAction) (w : World) : Option AuditDetails :=
  action.moderation.describe w

/-- An entry names the row of its action. -/
private theorem eq_of_resource {a b : AdminAction}
    (htype : a.moderation.resourceType = b.moderation.resourceType)
    (hid : a.moderation.resourceId = b.moderation.resourceId) : a = b := by
  cases a <;> cases b <;>
    simp_all [moderation, hidingProduct, hidingVersion, revokingKey]

end AdminAction

/-! ### What the writes of an action change -/

section Updates

variable {w w' : World} {id : Id}

/-- A result that was mapped to its world came with a row. -/
private theorem exists_of_map_snd_eq_ok {ρ : Type} {x : Except Err (ρ × World)}
    (h : x.map (·.2) = .ok w') : ∃ row, x = .ok (row, w') := by
  cases x with
  | error e => exact nomatch h
  | ok r =>
    obtain rfl := Except.ok.inj h
    exact ⟨r.1, rfl⟩

/-- A successful update of a product changes its row alone. -/
private theorem updateProduct_eq_ok {data : ApiProduct → ApiProduct} {row : ApiProduct}
    (h : w.updateProduct id data = .ok (row, w')) :
    ∃ t, w.products.update? id data = some t ∧ w' = { w with products := t } ∧
      ∃ row₀, w.products.find? id = some row₀ ∧ row = data row₀ := by
  simp only [World.updateProduct] at h
  split at h
  · exact nomatch h
  · rename_i row₀ hrow
    split at h
    · rename_i t ht
      obtain ⟨rfl, rfl⟩ := Prod.mk.inj (Except.ok.inj h)
      exact ⟨t, ht, rfl, row₀, hrow, rfl⟩
    · exact nomatch h

/-- A successful update of a version changes its row alone. -/
private theorem updateVersion_eq_ok {data : ApiVersion → ApiVersion} {row : ApiVersion}
    (h : w.updateVersion id data = .ok (row, w')) :
    ∃ t, w.apiVersions.update? id data = some t ∧ w' = { w with apiVersions := t } ∧
      ∃ row₀, w.apiVersions.find? id = some row₀ ∧ row = data row₀ := by
  simp only [World.updateVersion] at h
  split at h
  · exact nomatch h
  · rename_i row₀ hrow
    split at h
    · rename_i t ht
      obtain ⟨rfl, rfl⟩ := Prod.mk.inj (Except.ok.inj h)
      exact ⟨t, ht, rfl, row₀, hrow, rfl⟩
    · exact nomatch h

/-- A successful update of a key changes its row alone. -/
theorem updateApiKey_eq_ok {data : ApiKey → ApiKey} (h : w.updateApiKey id data = .ok w') :
    ∃ t, w.apiKeys.update? id data = some t ∧ w' = { w with apiKeys := t } ∧
      ∃ row₀, w.apiKeys.find? id = some row₀ := by
  simp only [World.updateApiKey] at h
  split at h
  · exact nomatch h
  · rename_i hfound
    split at h
    · rename_i t ht
      refine ⟨t, ht, (Except.ok.inj h).symm, Option.ne_none_iff_exists'.mp fun hnone => ?_⟩
      rw [hnone] at hfound
      exact hfound rfl
    · exact nomatch h

/-- A new entry is inserted under a new id. -/
theorem createAuditLog_eq_ok {row : AuditLog} (h : w.createAuditLog row = .ok w') :
    ∃ t, w.auditLogs.insert? row = some t ∧ w' = { w with auditLogs := t } := by
  simp only [World.createAuditLog] at h
  split at h
  · rename_i t ht
    exact ⟨t, ht, (Except.ok.inj h).symm⟩
  · exact nomatch h

end Updates

namespace AdminAction

variable {w w' : World} {env : Env}

/-- The rows that the actions are about are in three tables. -/
private theorem describe_congr (action : AdminAction) (hproducts : w'.products = w.products)
    (hversions : w'.apiVersions = w.apiVersions) (hkeys : w'.apiKeys = w.apiKeys) :
    action.describe w' = action.describe w := by
  cases action with
  | hideProduct productId => simp only [describe, moderation, hidingProduct, hproducts]
  | hideVersion versionId => simp only [describe, moderation, hidingVersion, hversions]
  | revokeKey keyId => simp only [describe, moderation, revokingKey, hkeys]

/-- The update of an action leaves the log and the rows of the other actions alone, and its own
    row with nothing to change. -/
structure Updates (action : AdminAction) (w w' : World) : Prop where
  auditLogs : w'.auditLogs = w.auditLogs
  own : ∃ details, action.describe w' = some details ∧ details.changed = false
  others : ∀ other, other ≠ action → other.describe w' = other.describe w

/-- An action's update changes the row it describes, and no other. -/
private theorem updates_of_update (action : AdminAction)
    (h : action.moderation.update env w = .ok w') :
    action.Updates w w' := by
  -- each action updates one row of its own table: that row reads as described, and no other
  cases action with
  | hideProduct productId =>
    obtain ⟨row, hupdate⟩ := exists_of_map_snd_eq_ok h
    obtain ⟨t, ht, rfl, row₀, hrow, rfl⟩ := updateProduct_eq_ok hupdate
    have hfind := Table.find?_update? ht fun _ => rfl
    refine ⟨rfl, ⟨.hideProduct false .hidden .hidden, ?_, rfl⟩, fun other hother => ?_⟩
    · show (t.find? productId).map _ = _
      rw [hfind, if_pos rfl, hrow]
      rfl
    · cases other with
      | hideProduct otherId =>
        have hne : otherId ≠ productId := fun heq => hother (heq ▸ rfl)
        exact congrArg (Option.map _) ((hfind otherId).trans (if_neg hne))
      | hideVersion versionId => rfl
      | revokeKey keyId => rfl
  | hideVersion versionId =>
    obtain ⟨row, hupdate⟩ := exists_of_map_snd_eq_ok h
    obtain ⟨t, ht, rfl, row₀, hrow, rfl⟩ := updateVersion_eq_ok hupdate
    have hfind := Table.find?_update? ht fun _ => rfl
    refine ⟨rfl, ⟨.hideVersion false .draft .draft, ?_, rfl⟩, fun other hother => ?_⟩
    · show (t.find? versionId).map _ = _
      rw [hfind, if_pos rfl, hrow]
      rfl
    · cases other with
      | hideProduct productId => rfl
      | hideVersion otherId =>
        have hne : otherId ≠ versionId := fun heq => hother (heq ▸ rfl)
        exact congrArg (Option.map _) ((hfind otherId).trans (if_neg hne))
      | revokeKey keyId => rfl
  | revokeKey keyId =>
    obtain ⟨t, ht, rfl, row₀, hrow⟩ := updateApiKey_eq_ok h
    have hfind := Table.find?_update? ht fun _ => rfl
    refine ⟨rfl, ⟨.revokeKey false false (some env.now), ?_, rfl⟩, fun other hother => ?_⟩
    · show (t.find? keyId).map _ = _
      rw [hfind, if_pos rfl, hrow]
      rfl
    · cases other with
      | hideProduct productId => rfl
      | hideVersion versionId => rfl
      | revokeKey otherId =>
        have hne : otherId ≠ keyId := fun heq => hother (heq ▸ rfl)
        exact congrArg (Option.map _) ((hfind otherId).trans (if_neg hne))

/-! ### The transaction of an action -/

/-- The pending writes of an action that has read `details`. -/
def Writes (action : AdminAction) (requestId : Option String) (actor : AuthenticatedUser)
    (details : AuditDetails) (p : Pending) : Prop :=
  ∃ updateEnv createEnv : Env, p = fun w =>
    (if details.changed then action.moderation.update updateEnv w else .ok w) >>= fun w =>
      w.createAuditLog
        ((action.moderation.entry actor details).row requestId createEnv.uuid createEnv.now)

/-- The body of an action prepares its update and its entry. -/
theorem txPrepares_body (action : AdminAction) (requestId : Option String)
    (actor : AuthenticatedUser) (details : AuditDetails) :
    TxPrepares (action.moderation.body requestId actor details) .ok
      fun _ p => action.Writes requestId actor details p := by
  unfold Moderation.body
  split
  · rename_i hchanged
    refine txPrepares_bind (Q := fun _ p => ∃ updateEnv, p = action.moderation.update updateEnv)
      (txPrepares_command fun env => ⟨env, rfl⟩) ?_
    rintro _ _ ⟨updateEnv, rfl⟩
    refine txPrepares_command fun env => ⟨updateEnv, env, ?_⟩
    simp only [hchanged, if_true]
  · rename_i hchanged
    refine txPrepares_command fun env => ⟨env, env, ?_⟩
    simp only [hchanged, Bool.false_eq_true, if_false]

/-- The commit adds one entry with the details that were read. If they still describe the row,
    the row changes as they say, and no other. -/
theorem Writes.commit {action : AdminAction} {requestId : Option String} {actor : AuthenticatedUser}
    {details : AuditDetails} {p : Pending} (h : action.Writes requestId actor details p)
    (hp : p w = .ok w') :
    (∃ id createdAt, w'.auditLogs.rows = w.auditLogs.rows ++
      [(action.moderation.entry actor details).row requestId id createdAt]) ∧
    (action.describe w = some details → ∀ other : AdminAction,
      other.describe w' ≠ other.describe w ↔ other = action ∧ details.changed = true) := by
  obtain ⟨updateEnv, createEnv, rfl⟩ := h
  obtain ⟨w₁, hupdate, hcreate⟩ := except_bind_eq_ok.mp hp
  obtain ⟨t, ht, rfl⟩ := createAuditLog_eq_ok hcreate
  have hdescribe : ∀ other : AdminAction,
      other.describe { w₁ with auditLogs := t } = other.describe w₁ :=
    fun other => other.describe_congr rfl rfl rfl
  split at hupdate
  · rename_i hchanged
    have hupdates := action.updates_of_update hupdate
    refine ⟨⟨_, _, (Table.insert?_rows ht).trans (by rw [hupdates.auditLogs])⟩,
      fun hbefore other => ?_⟩
    rw [hdescribe]
    by_cases hother : other = action
    · -- its own row has nothing to change afterwards
      subst hother
      obtain ⟨details', hown, hunchanged⟩ := hupdates.own
      refine iff_of_true (fun heq => ?_) ⟨rfl, hchanged⟩
      rw [hown, hbefore] at heq
      obtain rfl := Option.some.inj heq
      exact nomatch hunchanged.symm.trans hchanged
    · exact iff_of_false (fun hne => hne (hupdates.others other hother)) fun heq => hother heq.1
  · rename_i hchanged
    obtain rfl := Except.ok.inj hupdate
    refine ⟨⟨_, _, Table.insert?_rows ht⟩, fun _ other => ?_⟩
    rw [hdescribe]
    exact iff_of_false (fun hne => hne rfl) fun heq => hchanged heq.2

end AdminAction

/-! ### The parties -/

def SameAuditLogs (w w' : World) : Prop := w'.auditLogs = w.auditLogs

/-- Doing nothing keeps the log. -/
theorem SameAuditLogs.refl (w : World) : SameAuditLogs w w := rfl

/-- What runs next to each other: operations of admins, and operations that do not write the
    audit log, such as those of the sellers. -/
inductive Party where
  | admin (requestId : Option String) (actor : AuthenticatedUser) (action : AdminAction)
  | other (op : Op Unit) (hop : op.EachStep SameAuditLogs)

def Party.op (tx : TxId) : Party → Op (Option ModerationResponse)
  | .admin requestId actor action => do
    let response ← action.op tx requestId actor
    return some response
  | .other op _ => do
    op
    return none

section Sellers

/-- An owner's update of a product writes no entry. -/
private theorem eachStep_updateProduct (id : Id) (input : UpdateProductInput)
    (user : AuthenticatedUser) :
    (updateProduct id input user).EachStep SameAuditLogs := by
  refine eachStep_bind (eachStep_read SameAuditLogs.refl _) fun found => ?_
  cases found with
  | none => trivial
  | some product =>
    dsimp only
    split
    · trivial
    · split
      · trivial
      · refine eachStep_mutate SameAuditLogs.refl fun env w row w' _ h => ?_
        obtain ⟨t, -, rfl, -⟩ := updateProduct_eq_ok h
        rfl

/-- A download of a snapshot sends no statement to the database. -/
theorem eachStep_updateVersion {fetchOpenApiSnapshot : Text → Op Text}
    (hfetch : ∀ url, (fetchOpenApiSnapshot url).EachStep SameAuditLogs) (versionId : Id)
    (input : UpdateVersionInput) (user : AuthenticatedUser) :
    (updateVersion fetchOpenApiSnapshot versionId input user).EachStep SameAuditLogs := by
  have hupdate : ∀ data, (mutate fun _ w => w.updateVersion versionId data).EachStep
      SameAuditLogs := by
    refine fun data => eachStep_mutate SameAuditLogs.refl fun env w row w' _ h => ?_
    obtain ⟨t, -, rfl, -⟩ := updateVersion_eq_ok h
    rfl
  -- whether the version is found, owned and given a document, only its row is written
  refine eachStep_bind (eachStep_read SameAuditLogs.refl _) fun found => ?_
  cases found with
  | none => trivial
  | some found =>
    dsimp only
    split
    · trivial
    · split
      · trivial
      · cases input.openApiUrl with
        | none => exact hupdate _
        | some openApiUrl =>
          exact eachStep_bind (hfetch openApiUrl) fun _ =>
            eachStep_bind (eachStep_clock SameAuditLogs.refl) fun _ => hupdate _

/-- Revoking one's own key writes no entry. -/
theorem eachStep_revokeKey (keyId : Id) (user : AuthenticatedUser) :
    (KeysService.revokeKey keyId user).EachStep SameAuditLogs := by
  refine eachStep_bind (eachStep_read SameAuditLogs.refl _) fun found => ?_
  cases found with
  | none => trivial
  | some apiKey =>
    dsimp only
    split
    · trivial
    · split
      · trivial
      · refine eachStep_bind (eachStep_clock SameAuditLogs.refl) fun revokedAt =>
          eachStep_bind (eachStep_mutate SameAuditLogs.refl fun env w _ w' _ h => ?_) fun _ =>
            trivial
        obtain ⟨t, -, rfl, -⟩ := updateApiKey_eq_ok (except_map_eq_ok h)
        rfl

/-- The seller's update of a product, as a party. -/
def Party.updateProduct (id : Id) (input : UpdateProductInput) (user : AuthenticatedUser) : Party :=
  .other (do let _ ← HivePoint.updateProduct id input user) <|
    eachStep_bind (eachStep_updateProduct id input user) fun _ => trivial

end Sellers

/-! ### Annotated runs -/

abbrev Calls := Pool TxId World Env Err (Option ModerationResponse)

/-- A statement of an admin's operation. -/
structure AdminStep where
  call : TxId
  /-- what the operation has read with its first statement -/
  seen : World
  before : World
  after : World
  /-- was it the commit, with the answer after it? -/
  committed : Bool

/-- Has the operation answered? -/
def answered : Op (Option ModerationResponse) → Bool
  | .done (.ok _) => true
  | _ => false

structure History where
  pool : Calls
  /-- the state that each operation has read with its first statement -/
  seen : TxId → Option World
  /-- the statements of the admins, oldest first -/
  steps : List AdminStep

def History.start (parties : TxId → Party) (w : World) : History :=
  ⟨⟨fun tx => (parties tx).op tx, w⟩, fun _ => none, []⟩

def Party.isAdmin : Party → Bool
  | .admin .. => true
  | .other .. => false

/-- The history after a choice of the scheduler that leads to `pool`. -/
def History.record (parties : TxId → Party) (H : History) (pool : Calls) :
    Choice TxId Env Err → History
  | .run tx _ =>
    let seen := (H.seen tx).getD H.pool.state
    { pool
      seen := Function.update H.seen tx (some seen)
      steps :=
        if (parties tx).isAdmin then
          H.steps ++ [⟨tx, seen, H.pool.state, pool.state, answered (pool.threads tx)⟩]
        else H.steps }
  | .stop _ _ => { H with pool }

def History.next (parties : TxId → Party) (H : History) (c : Choice TxId Env Err) :
    Option History :=
  (H.pool.next readCommitted c).map fun pool => H.record parties pool c

/-- The histories of all interleavings. A statement can be refused, and an operation can stop
    between two statements. -/
inductive AuditRun (parties : TxId → Party) (w₀ : World) : History → Prop where
  | init : AuditRun parties w₀ (.start parties w₀)
  | step {H H' : History} {c : Choice TxId Env Err} (h : AuditRun parties w₀ H)
      (hnext : H.next parties c = some H') : AuditRun parties w₀ H'

/-! ### What the log is to tell -/

/-- The entry of a statement that has committed, about the row as it is in `look`. -/
def Records (parties : TxId → Party) (look : AdminStep → World) (s : AdminStep) (row : AuditLog) :
    Prop :=
  ∃ requestId actor action details id createdAt, parties s.call = .admin requestId actor action ∧
    action.describe (look s) = some details ∧
    row = (action.moderation.entry actor details).row requestId id createdAt

/-- Does the statement change the row of the action? -/
def AdminStep.changes (action : AdminAction) (s : AdminStep) : Bool :=
  action.describe s.after ≠ action.describe s.before

/-- Does the entry claim that the row of the action was changed? -/
def AuditLog.claimsChange (action : AdminAction) (row : AuditLog) : Bool :=
  row.resourceType = action.moderation.resourceType && row.resourceId =
    action.moderation.resourceId &&
    row.details.any (·.changed)

/-- The log tells what has happened since `w₀`. A transaction holds the row that it has updated
    until its commit, so what the row is immediately before the update is what is committed
    then. -/
structure AuditTells (parties : TxId → Party) (w₀ : World) (H : History) (entries : List AuditLog) :
    Prop where
  /-- `entries` are what the log has more than at the start -/
  rows : H.pool.state.auditLogs.rows = w₀.auditLogs.rows ++ entries
  /-- the operations that have answered are those that have committed -/
  answers : ∀ tx, (parties tx).isAdmin →
    (answered (H.pool.threads tx) ↔ ∃ s ∈ H.steps, s.call = tx ∧ s.committed)
  /-- they have committed once -/
  once : ((H.steps.filter (·.committed)).map (·.call)).Nodup
  /-- there is one entry for each commit, about the row as it was immediately before -/
  commits : List.Forall₂ (Records parties (·.before)) (H.steps.filter (·.committed)) entries
  /-- the entries of one row that claim a change are those of the changes -/
  changes : ∀ action, List.Forall₂ (Records parties (·.before))
    (H.steps.filter (AdminStep.changes action)) (entries.filter (AuditLog.claimsChange action))

/-- The row that the operation is about has the columns that the operation has read. -/
def StillAsRead (parties : TxId → Party) (s : AdminStep) : Prop :=
  ∀ requestId actor action, parties s.call = .admin requestId actor action →
    action.describe s.before = action.describe s.seen

/-! ### The phases of an operation -/

/-- An operation of which the transaction is still to be done, from `rest` on. -/
def moderating (tx : TxId) (action : AdminAction) (rest : Op (Unit × Pending)) :
    Op (Option ModerationResponse) :=
  runTransaction tx rest >>= fun _ => pure (some ⟨true, action.moderation.resourceId⟩)

/-- Where the operation `tx` stands, with what it has read. -/
inductive AdminPhase (tx : TxId) (requestId : Option String) (actor : AuthenticatedUser)
    (action : AdminAction) : Option World → Op (Option ModerationResponse) → Prop where
  | start : AdminPhase tx requestId actor action none
      ((Party.admin requestId actor action).op tx)
  | writing (seen : World) (details : AuditDetails) (rest : Op (Unit × Pending))
      (hseen : action.describe seen = some details)
      (hstill : rest.EachStep fun w w' => w' = w)
      (hwrites : rest.Returns fun result => action.Writes requestId actor details result.2) :
      AdminPhase tx requestId actor action (some seen) (moderating tx action rest)
  | ended (seen : Option World) (r : Except Err (Option ModerationResponse)) :
      AdminPhase tx requestId actor action seen (.done r)

/-- What a statement of an operation does to the log and to the rows. -/
inductive StepEffect (requestId : Option String) (actor : AuthenticatedUser) (action : AdminAction)
    (seen w w' : World) : Bool → Prop where
  | none (hlog : w'.auditLogs = w.auditLogs)
      (hrows : ∀ other : AdminAction, other.describe w' = other.describe w) :
      StepEffect requestId actor action seen w w' false
  | commit (details : AuditDetails) (hseen : action.describe seen = some details)
      (hlog : ∃ id createdAt, w'.auditLogs.rows = w.auditLogs.rows ++
        [(action.moderation.entry actor details).row requestId id createdAt])
      (hrows : action.describe w = some details → ∀ other : AdminAction,
        other.describe w' ≠ other.describe w ↔ other = action ∧ details.changed = true) :
      StepEffect requestId actor action seen w w' true

/-- Before its commit an operation has not answered. -/
private theorem answered_moderating (tx : TxId) (action : AdminAction)
    (rest : Op (Unit × Pending)) :
    answered (moderating tx action rest) = false := by
  obtain ⟨act, nxt, hrun⟩ := runTransaction_eq_step tx rest
  rw [moderating, hrun]
  rfl

section Step

variable {tx : TxId} {requestId : Option String} {actor : AuthenticatedUser} {action : AdminAction}
  {P P' : Calls} {env : Env}

/-- An operation that has read its row. -/
def moderatingFound (tx : TxId) (requestId : Option String) (actor : AuthenticatedUser)
    (action : AdminAction) : Option AuditDetails → Op (Option ModerationResponse)
  | none => throw action.moderation.notFound
  | some details => moderating tx action (action.moderation.body requestId actor details .ok)

/-- An administrator's program reads the row and then moderates what it found. -/
private theorem op_admin : (Party.admin requestId actor action).op tx =
    read action.moderation.describe >>= moderatingFound tx requestId actor action := by
  show (action.op tx requestId actor >>= fun response => pure (some response)) = _
  rw [AdminAction.op_eq, moderate, bind_assoc]
  refine bind_congr fun found => ?_
  cases found with
  | none => rfl
  | some details =>
    show ((transaction tx _ >>= fun _ => pure _) >>= fun response => pure (some response)) = _
    rw [bind_assoc]
    rfl

/-- The first statement reads the row. -/
private theorem AdminPhase.step_start (hthread : P.threads tx =
    (Party.admin requestId actor action).op tx)
    (hnext : P.next readCommitted (.run tx env) = some P') :
    AdminPhase tx requestId actor action (some P.state) (P'.threads tx) ∧
      StepEffect requestId actor action P.state P.state P'.state (answered (P'.threads tx)) := by
  obtain ⟨act, nxt, hstep, -, rfl⟩ := next_run_cases hnext
  rw [hthread, op_admin] at hstep
  obtain ⟨rfl, rfl⟩ := Prog.step.inj hstep
  simp only [Function.update_self]
  -- the first statement is refused, finds nothing, or finds the row to describe
  cases hdb : env.dbError with
  | some m => exact ⟨.ended _ _, .none rfl fun _ => rfl⟩
  | none =>
    show AdminPhase tx requestId actor action _
        (moderatingFound tx requestId actor action (action.describe P.state)) ∧
      StepEffect requestId actor action _ _ _
        (answered (moderatingFound tx requestId actor action (action.describe P.state)))
    cases hfound : action.describe P.state with
    | none => exact ⟨.ended _ _, .none rfl fun _ => rfl⟩
    | some details =>
      obtain ⟨hstill, hwrites⟩ := action.txPrepares_body requestId actor details
      have hunanswered : answered (moderatingFound tx requestId actor action (some details)) =
          false :=
        answered_moderating tx action _
      rw [hunanswered]
      exact ⟨.writing P.state details _ hfound hstill hwrites, .none rfl fun _ => rfl⟩

/-- A statement of the transaction. -/
private theorem AdminPhase.step_writing {seen : World} {details : AuditDetails}
    {rest : Op (Unit × Pending)} (hseen : action.describe seen = some details)
    (hstill : rest.EachStep fun w w' => w' = w)
    (hwrites : rest.Returns fun result => action.Writes requestId actor details result.2)
    (hthread : P.threads tx = moderating tx action rest)
    (hnext : P.next readCommitted (.run tx env) = some P') :
    AdminPhase tx requestId actor action (some seen) (P'.threads tx) ∧
      StepEffect requestId actor action seen P.state P'.state (answered (P'.threads tx)) := by
  obtain ⟨left, hstep, hleft⟩ := next_runTransaction hthread hnext
  rw [hleft]
  -- a statement of the body reads only; the commit writes the entry and the row together
  cases hstep with
  | statement act nxt hrest hstate =>
    subst hrest
    obtain ⟨hact, hstill'⟩ := hstill env P.state
    rw [hstate, hact]
    have hunanswered := answered_moderating tx action (nxt env P.state)
    exact ⟨.writing seen details _ hseen hstill' (hwrites env P.state),
      hunanswered ▸ .none rfl fun _ => rfl⟩
  | committed a p v hrest hcommit hstate =>
    subst hrest
    obtain ⟨hlog, hrows⟩ := AdminAction.Writes.commit (hwrites : action.Writes _ _ _ p) hcommit
    rw [hstate]
    refine ⟨.ended _ _, .commit details hseen hlog fun hbefore other => ?_⟩
    have hreleased : other.describe (v.releaseLocks tx) = other.describe v :=
      other.describe_congr rfl rfl rfl
    rw [hreleased]
    exact hrows hbefore other
  | rolledBack e hstate =>
    rw [hstate]
    exact ⟨.ended _ _, .none rfl fun other => other.describe_congr rfl rfl rfl⟩

/-- One statement of an operation. -/
theorem AdminPhase.step {seen : Option World}
    (h : AdminPhase tx requestId actor action seen (P.threads tx))
    (hnext : P.next readCommitted (.run tx env) = some P') :
    AdminPhase tx requestId actor action (some (seen.getD P.state)) (P'.threads tx) ∧
      StepEffect requestId actor action (seen.getD P.state) P.state P'.state
        (answered (P'.threads tx)) := by
  generalize hthread : P.threads tx = p at h
  cases h with
  | start => exact step_start hthread hnext
  | writing seen details rest hseen hstill hwrites =>
    exact step_writing hseen hstill hwrites hthread hnext
  | ended seen r =>
    obtain ⟨_, _, hstep, -⟩ := next_run_cases hnext
    exact nomatch hthread.symm.trans hstep

end Step

/-! ### What every run keeps -/

/-- The log and the rows follow the statements of the admins. -/
structure Follows (parties : TxId → Party) (w₀ : World) (H : History) : Prop where
  admins : ∀ tx requestId actor action, parties tx = .admin requestId actor action →
    AdminPhase tx requestId actor action (H.seen tx) (H.pool.threads tx)
  others : ∀ tx op hop, parties tx = .other op hop → (H.pool.threads tx).EachStep SameAuditLogs
  effects : ∀ s ∈ H.steps, ∃ requestId actor action,
    parties s.call = .admin requestId actor action ∧
    StepEffect requestId actor action s.seen s.before s.after s.committed
  answers : ∀ tx, (parties tx).isAdmin →
    (answered (H.pool.threads tx) ↔ ∃ s ∈ H.steps, s.call = tx ∧ s.committed)
  once : ((H.steps.filter (·.committed)).map (·.call)).Nodup
  log : ∃ entries, H.pool.state.auditLogs.rows = w₀.auditLogs.rows ++ entries ∧
    List.Forall₂ (Records parties (·.seen)) (H.steps.filter (·.committed)) entries

/-- A history that starts follows its parties. -/
private theorem follows_start (parties : TxId → Party) (w₀ : World) :
    Follows parties w₀ (.start parties w₀) where
  admins tx requestId actor action hparty := by
    show AdminPhase _ _ _ _ none ((parties tx).op tx)
    rw [hparty]
    exact .start
  others tx op hop hparty := by
    show ((parties tx).op tx).EachStep SameAuditLogs
    rw [hparty]
    exact eachStep_bind hop fun _ => trivial
  effects s hs := nomatch hs
  answers tx hadmin := by
    refine iff_of_false (fun hanswered => ?_) fun ⟨s, hs, _⟩ => nomatch hs
    change answered ((parties tx).op tx) = true at hanswered
    cases hparty : parties tx with
    | admin requestId actor action =>
      rw [hparty, op_admin] at hanswered
      exact nomatch hanswered
    | other op hop =>
      rw [hparty] at hadmin
      exact nomatch hadmin
  once := .nil
  log := ⟨[], (List.append_nil _).symm, .nil⟩

section Next

variable {parties : TxId → Party} {w₀ : World} {H : History} {P' : Calls} {tx : TxId} {env : Env}

/-- Only an operation that has not answered goes on. -/
private theorem not_answered_of_next {P : Calls} {c : Choice TxId Env Err}
    (hnext : P.next readCommitted c = some P') : answered (P.threads c.thread) = false := by
  cases c with
  | run tx env =>
    obtain ⟨act, nxt, hthread, -⟩ := next_run_cases hnext
    simp only [Choice.thread, hthread, answered]
  | stop tx e =>
    obtain ⟨⟨act, nxt, hthread⟩, -⟩ := next_stop_cases hnext
    simp only [Choice.thread, hthread, answered]

/-- A statement of an admin is recorded. -/
private theorem Follows.next_admin (h : Follows parties w₀ H) {requestId : Option String}
    {actor : AuthenticatedUser} {action : AdminAction}
    (hparty : parties tx = .admin requestId actor action)
    (hnext : H.pool.next readCommitted (.run tx env) = some P') :
    Follows parties w₀ (H.record parties P' (.run tx env)) := by
  obtain ⟨hphase, heffect⟩ := (h.admins tx requestId actor action hparty).step hnext
  have hrecord : H.record parties P' (.run tx env) =
      ⟨P', Function.update H.seen tx (some ((H.seen tx).getD H.pool.state)),
        H.steps ++ [⟨tx, (H.seen tx).getD H.pool.state, H.pool.state, P'.state,
          answered (P'.threads tx)⟩]⟩ := by
    simp only [History.record, hparty, Party.isAdmin, if_true]
  rw [hrecord]
  -- until now the operation has not committed
  have hbefore : ∀ s ∈ H.steps, s.call = tx → s.committed = false := by
    intro s hs hcall
    have hunanswered := not_answered_of_next hnext
    refine Bool.eq_false_iff.mpr fun hcommitted => ?_
    have hanswered := (h.answers tx (by rw [hparty]; rfl)).mpr ⟨s, hs, hcall, hcommitted⟩
    exact nomatch hunanswered.symm.trans hanswered
  generalize (H.seen tx).getD H.pool.state = seen at hphase heffect
  refine ⟨fun tx' requestId' actor' action' hparty' => ?_, fun tx' op hop hparty' => ?_,
    fun s hs => ?_, fun tx' hadmin => ?_, ?_, ?_⟩
  · by_cases htx : tx' = tx
    · subst htx
      obtain ⟨rfl, rfl, rfl⟩ := Party.admin.inj (hparty.symm.trans hparty')
      simpa only [Function.update_self] using hphase
    · simp only [Function.update_of_ne htx, next_threads_of_ne hnext htx]
      exact h.admins tx' _ _ _ hparty'
  · have htx : tx' ≠ tx := by
      rintro rfl
      exact nomatch hparty.symm.trans hparty'
    rw [next_threads_of_ne hnext htx]
    exact h.others tx' op hop hparty'
  · rcases List.mem_append.mp hs with hs | hs
    · exact h.effects s hs
    · obtain rfl := List.mem_singleton.mp hs
      exact ⟨requestId, actor, action, hparty, heffect⟩
  · by_cases htx : tx' = tx
    · subst htx
      constructor
      · exact fun hanswered => ⟨_, List.mem_append_right _ List.mem_cons_self, rfl, hanswered⟩
      · rintro ⟨s, hs, hcall, hcommitted⟩
        rcases List.mem_append.mp hs with hs | hs
        · exact nomatch (hbefore s hs hcall).symm.trans hcommitted
        · obtain rfl := List.mem_singleton.mp hs
          exact hcommitted
    · rw [next_threads_of_ne hnext htx, h.answers tx' hadmin]
      refine ⟨fun ⟨s, hs, hrest⟩ => ⟨s, List.mem_append_left _ hs, hrest⟩, ?_⟩
      rintro ⟨s, hs, rfl, hcommitted⟩
      rcases List.mem_append.mp hs with hs | hs
      · exact ⟨s, hs, rfl, hcommitted⟩
      · obtain rfl := List.mem_singleton.mp hs
        exact absurd rfl htx
  · rw [List.filter_append, List.map_append]
    refine List.nodup_append.mpr ⟨h.once, ?_, ?_⟩
    · exact (List.filter_sublist.map _).nodup (List.nodup_singleton tx)
    · rintro _ hcall₁ _ hcall₂ rfl
      obtain ⟨s₁, hs₁, rfl⟩ := List.mem_map.mp hcall₁
      obtain ⟨s₂, hs₂, hcall⟩ := List.mem_map.mp hcall₂
      obtain ⟨hmem₁, hcommitted₁⟩ := List.mem_filter.mp hs₁
      obtain rfl := List.mem_singleton.mp (List.mem_filter.mp hs₂).1
      exact nomatch (hbefore s₁ hmem₁ hcall.symm).symm.trans hcommitted₁
  · obtain ⟨entries, hrows, hentries⟩ := h.log
    rw [List.filter_append]
    generalize answered (P'.threads tx) = committed at heffect
    cases heffect with
    | none hlog =>
      refine ⟨entries, (congrArg Table.rows hlog).trans hrows, ?_⟩
      simpa using hentries
    | commit details hseen hlog =>
      obtain ⟨id, createdAt, hlog⟩ := hlog
      refine ⟨entries ++ [_], by rw [hlog, hrows, List.append_assoc], ?_⟩
      refine List.rel_append hentries ?_
      refine .cons ⟨requestId, actor, action, details, id, createdAt, hparty, hseen, rfl⟩ .nil

/-- A statement of another party is not recorded, and leaves the log alone. -/
private theorem Follows.next_other (h : Follows parties w₀ H) {op : Op Unit}
    {hop : op.EachStep SameAuditLogs} (hparty : parties tx = .other op hop)
    (hnext : H.pool.next readCommitted (.run tx env) = some P') :
    Follows parties w₀ (H.record parties P' (.run tx env)) := by
  -- a party that is no administrator adds no step to the history
  have hrecord : H.record parties P' (.run tx env) =
      ⟨P', Function.update H.seen tx (some ((H.seen tx).getD H.pool.state)), H.steps⟩ := by
    simp only [History.record, hparty, Party.isAdmin, Bool.false_eq_true, if_false]
  obtain ⟨act, nxt, hthread, -, hP'⟩ := next_run_cases hnext
  have hother := h.others tx op hop hparty
  rw [hthread] at hother
  obtain ⟨hlog, hrest⟩ := hother env H.pool.state
  -- so no administrator's program moves
  have hne : ∀ tx', (parties tx').isAdmin → tx' ≠ tx := by
    rintro _ hadmin rfl
    rw [hparty] at hadmin
    exact nomatch hadmin
  rw [hrecord]
  refine ⟨fun tx' requestId actor action hparty' => ?_, fun tx' op' hop' hparty' => ?_, h.effects,
    fun tx' hadmin => ?_, h.once, ?_⟩
  · have htx : tx' ≠ tx := hne tx' (by rw [hparty']; rfl)
    simp only [Function.update_of_ne htx, next_threads_of_ne hnext htx]
    exact h.admins tx' _ _ _ hparty'
  · by_cases htx : tx' = tx
    · subst htx
      simpa only [hP', Function.update_self] using hrest
    · rw [next_threads_of_ne hnext htx]
      exact h.others tx' op' hop' hparty'
  · rw [next_threads_of_ne hnext (hne tx' hadmin)]
    exact h.answers tx' hadmin
  · obtain ⟨entries, hrows, hentries⟩ := h.log
    refine ⟨entries, Eq.trans ?_ hrows, hentries⟩
    rw [hP']
    exact congrArg Table.rows hlog

/-- An operation that stops leaves its writes undone. -/
private theorem Follows.next_stop (h : Follows parties w₀ H) {e : Err}
    (hnext : H.pool.next readCommitted (.stop tx e) = some P') :
    Follows parties w₀ (H.record parties P' (.stop tx e)) := by
  -- a stopped call was not answered before
  have hunanswered := not_answered_of_next hnext
  obtain ⟨-, hP'⟩ := next_stop_cases hnext
  have hended : P'.threads tx = .done (.error e) := by
    rw [hP']
    exact Function.update_self ..
  refine ⟨fun tx' requestId actor action hparty => ?_, fun tx' op hop hparty => ?_, h.effects,
    fun tx' hadmin => ?_, h.once, ?_⟩
  · show AdminPhase tx' requestId actor action (H.seen tx') (P'.threads tx')
    by_cases htx : tx' = tx
    · rw [htx, hended]
      exact .ended _ _
    · rw [next_threads_of_ne hnext htx]
      exact h.admins tx' _ _ _ hparty
  · show (P'.threads tx').EachStep SameAuditLogs
    by_cases htx : tx' = tx
    · rw [htx, hended]
      trivial
    · rw [next_threads_of_ne hnext htx]
      exact h.others tx' op hop hparty
  · show answered (P'.threads tx') = true ↔ _
    by_cases htx : tx' = tx
    · subst htx
      -- and none of its steps had committed
      have hno : ¬∃ s ∈ H.steps, s.call = tx' ∧ s.committed = true := fun hcommitted =>
        nomatch hunanswered.symm.trans ((h.answers tx' hadmin).mpr hcommitted)
      refine iff_of_false (fun hanswered => ?_) hno
      rw [hended] at hanswered
      exact nomatch hanswered
    · rw [next_threads_of_ne hnext htx]
      exact h.answers tx' hadmin
  · obtain ⟨entries, hrows, hentries⟩ := h.log
    refine ⟨entries, Eq.trans ?_ hrows, hentries⟩
    show P'.state.auditLogs.rows = _
    rw [hP']
    rfl

end Next

/-- In every interleaving the log and the rows follow the statements of the admins. -/
theorem AuditRun.follows {parties : TxId → Party} {w₀ : World} {H : History}
    (h : AuditRun parties w₀ H) : Follows parties w₀ H := by
  induction h with
  | init => exact follows_start parties w₀
  | @step H H' c _ hnext ih =>
    obtain ⟨P', hpool, rfl⟩ := Option.map_eq_some_iff.mp hnext
    cases c with
    | stop tx e => exact ih.next_stop hpool
    | run tx env =>
      cases hparty : parties tx with
      | admin requestId actor action => exact ih.next_admin hparty hpool
      | other op hop => exact ih.next_other hparty hpool

/-! ### What the log tells -/

section AuditTells

variable {parties : TxId → Party} {w₀ : World} {H : History}

/-- A statement that changes a row is a commit. -/
private theorem StepEffect.committed_of_changes {requestId : Option String}
    {actor : AuthenticatedUser} {action other : AdminAction} {s : AdminStep}
    (h : StepEffect requestId actor action s.seen s.before s.after s.committed)
    (hchanges : s.changes other = true) : s.committed = true := by
  generalize s.committed = committed at h
  cases h with
  | none _ hrows => exact absurd (hrows other) (of_decide_eq_true hchanges)
  | commit => rfl

/-- If the row is as it was read, the statement changes it if and only if its entry says so, and
    changes no other row. -/
private theorem claimsChange_iff {s : AdminStep} {row : AuditLog} {requestId : Option String}
    {actor : AuthenticatedUser} {action : AdminAction}
    (hparty : parties s.call = .admin requestId actor action)
    (heffect : StepEffect requestId actor action s.seen s.before s.after s.committed)
    (hcommitted : s.committed = true) (hstill : StillAsRead parties s)
    (hrecords : Records parties (·.before) s row) (other : AdminAction) :
    s.changes other = true ↔ row.claimsChange other = true := by
  obtain ⟨requestId', actor', action', details, id, createdAt, hparty', hdetails, rfl⟩ := hrecords
  obtain ⟨rfl, rfl, rfl⟩ := Party.admin.inj (hparty.symm.trans hparty')
  rw [hcommitted] at heffect
  cases heffect with
  | commit details' hseen _ hrows =>
    -- the row at the commit is the row that the call read
    have hbefore := hstill _ _ _ hparty
    obtain rfl := Option.some.inj (hdetails.symm.trans (hbefore.trans hseen))
    -- so the step changes what the entry says, and the entry says what it changed
    have hchanges : s.changes other = true ↔ other = action ∧ details.changed = true :=
      decide_eq_true_iff.trans (hrows hdetails other)
    rw [hchanges]
    simp only [AuditLog.claimsChange, RecordAuditLogInput.row, Moderation.entry, Option.any_some,
      Bool.and_eq_true]
    constructor
    · rintro ⟨rfl, hchanged⟩
      exact ⟨⟨decide_eq_true rfl, decide_eq_true rfl⟩, hchanged⟩
    · rintro ⟨⟨htype, hid⟩, hchanged⟩
      exact ⟨(AdminAction.eq_of_resource (of_decide_eq_true htype) (of_decide_eq_true hid)).symm,
        hchanged⟩

/-- The entry of a statement describes the row that was read, so it describes another one only
    if that says the same. -/
private theorem stillAsRead_of_records {s : AdminStep} {row : AuditLog}
    (hseen : Records parties (·.seen) s row) (hbefore : Records parties (·.before) s row) :
    StillAsRead parties s := by
  obtain ⟨_, _, _, details₁, _, _, hparty₁, hdetails₁, rfl⟩ := hseen
  obtain ⟨_, _, _, details₂, _, _, hparty₂, hdetails₂, heq⟩ := hbefore
  obtain ⟨rfl, rfl, rfl⟩ := Party.admin.inj (hparty₁.symm.trans hparty₂)
  have hdetails : some details₁ = some details₂ := congrArg AuditLog.details heq
  intro _ _ _ hparty
  obtain ⟨rfl, rfl, rfl⟩ := Party.admin.inj (hparty₁.symm.trans hparty)
  rw [hdetails₁, hdetails₂, hdetails]

/-- What is told of the row as read is told of the row as met. -/
private theorem Records.of_stillAsRead {s : AdminStep} {row : AuditLog}
    (h : Records parties (·.seen) s row) (hstill : StillAsRead parties s) :
    Records parties (·.before) s row := by
  obtain ⟨_, _, _, _, _, _, hparty, hdetails, hrow⟩ := h
  exact ⟨_, _, _, _, _, _, hparty, (hstill _ _ _ hparty).trans hdetails, hrow⟩

/-- The log tells what has happened if and only if every operation that has committed found its
    row as it had read it. -/
theorem auditLog_tells_iff (h : AuditRun parties w₀ H) :
    (∃ entries, AuditTells parties w₀ H entries) ↔
      ∀ s ∈ H.steps, s.committed = true → StillAsRead parties s := by
  have hfollows := h.follows
  obtain ⟨entries, hrows, hseen⟩ := hfollows.log
  constructor
  · rintro ⟨entries', htells⟩ s hs hcommitted
    obtain rfl := List.append_cancel_left (hrows.symm.trans htells.rows)
    have hstill := hseen.mp (S := fun s _ => StillAsRead parties s ∧ True)
      (fun _ _ hseen hbefore => ⟨stillAsRead_of_records hseen hbefore, trivial⟩) htells.commits
    exact ((List.forall₂_and_left _ _).mp hstill).1 s (List.mem_filter.mpr ⟨hs, hcommitted⟩)
  · intro hstill
    have hkept : ∀ s ∈ H.steps.filter (·.committed), s ∈ H.steps ∧ s.committed = true := fun s hs =>
      List.mem_filter.mp hs
    have hcommits := ((List.forall₂_and_left _ _).mpr ⟨hkept, hseen⟩).imp
      (S := fun s row => (s ∈ H.steps ∧ s.committed = true) ∧ Records parties (·.before) s row)
      fun s row ⟨hs, hrecords⟩ => ⟨hs, hrecords.of_stillAsRead (hstill s hs.1 hs.2)⟩
    refine ⟨entries, hrows, hfollows.answers, hfollows.once, hcommits.imp fun _ _ h => h.2,
      fun action => ?_⟩
    -- the statements that change the row are among the commits
    have hchanges : H.steps.filter (AdminStep.changes action) =
        (H.steps.filter (·.committed)).filter (AdminStep.changes action) := by
      rw [List.filter_filter]
      refine List.filter_congr fun s hs => (Bool.and_eq_left_iff_imp.mpr fun hchanges => ?_).symm
      obtain ⟨_, _, _, _, heffect⟩ := hfollows.effects s hs
      exact heffect.committed_of_changes hchanges
    rw [hchanges]
    refine (List.rel_filter (fun s row hentry => ?_) hcommits).imp fun _ _ h => h.2
    obtain ⟨⟨hs, hcommitted⟩, hrecords⟩ := hentry
    obtain ⟨_, _, _, hparty, heffect⟩ := hfollows.effects s hs
    exact claimsChange_iff hparty heffect hcommitted (hstill s hs hcommitted) hrecords action

end AuditTells

/-! ### Two admins and one product -/

def sampleAdmin : AuthenticatedUser := ⟨"admin", "admin@example.com", .admin⟩

/-- Operations 0 and 1 hide the product, which its seller unpublishes in 2. -/
def hidings : TxId → Party
  | 0 | 1 => .admin none sampleAdmin (.hideProduct "product")
  | _ => .updateProduct "product" ⟨none, none, none, none, some .hidden⟩
      ⟨"seller", "seller@example.com", .seller⟩

def History.run (parties : TxId → Party) : List (Choice TxId Env Err) → History → Option History
  | [], H => some H
  | c :: cs, H => (H.next parties c).bind (History.run parties cs)

/-- A run of choices is followed from any history. -/
private theorem auditRun_run {parties : TxId → Party} {w₀ : World} {H H' : History}
    (cs : List (Choice TxId Env Err)) (h : AuditRun parties w₀ H)
    (hrun : H.run parties cs = some H') : AuditRun parties w₀ H' := by
  induction cs generalizing H with
  | nil =>
    obtain rfl := Option.some.inj hrun
    exact h
  | cons c cs ih =>
    obtain ⟨H₁, hnext, hrun⟩ := Option.bind_eq_some_iff.mp hrun
    exact ih (h.step hnext) hrun

def catalogue : World := { World.empty with products := .singleton sampleProduct }

private def inTurn : List (Choice TxId Env Err) :=
  List.replicate 4 (.run 0 (.available 10 "first")) ++
    List.replicate 3 (.run 1 (.available 20 "second"))

private def atOnce : List (Choice TxId Env Err) :=
  [.run 0 (.available 10 "first"), .run 1 (.available 10 "second")] ++
    List.replicate 3 (.run 0 (.available 20 "first")) ++
    List.replicate 3 (.run 1 (.available 30 "second"))

/-- The administrators among them all hide the one product. -/
private theorem action_hidings {tx : TxId} {requestId : Option String} {actor : AuthenticatedUser}
    {action : AdminAction} (h : hidings tx = .admin requestId actor action) :
    action = .hideProduct "product" := by
  unfold hidings at h
  split at h
  · exact (Party.admin.inj h).2.2.symm
  · exact (Party.admin.inj h).2.2.symm
  · exact nomatch h

/-- One operation after the other: the second one changes nothing, and says so. -/
theorem auditLog_tells_iff_inTurn : ∃ H entries,
    (History.start hidings catalogue).run hidings inTurn = some H ∧
      AuditTells hidings catalogue H entries := by
  have hfacts : ((History.start hidings catalogue).run hidings inTurn).any (fun H =>
      H.steps.all fun s => (AdminAction.hideProduct "product").describe s.before =
        (AdminAction.hideProduct "product").describe s.seen || !s.committed) = true := by
    decide +kernel
  obtain ⟨H, hrun, hsteps⟩ := (Option.any_eq_true ..).mp hfacts
  obtain ⟨entries, htells⟩ := (auditLog_tells_iff (auditRun_run inTurn .init hrun)).mpr
    fun s hs hcommitted requestId actor action hparty => by
      have hstep := List.all_eq_true.mp hsteps s hs
      obtain rfl := action_hidings hparty
      simpa [hcommitted] using hstep
  exact ⟨H, entries, hrun, htells⟩

/-- Both read before either commits: the second one claims a change that it has not made. -/
theorem not_auditLog_tells : ¬∀ (parties : TxId → Party) (w₀ : World) (H : History),
    AuditRun parties w₀ H → ∃ entries, AuditTells parties w₀ H entries := by
  intro h
  have hfacts : ((History.start hidings catalogue).run hidings atOnce).any (fun H =>
      H.pool.state.auditLogs.rows.map (·.details) ≠ (H.steps.filter (·.committed)).map fun s =>
        (AdminAction.hideProduct "product").describe s.before) = true := by
    decide +kernel
  obtain ⟨H, hrun, hne⟩ := (Option.any_eq_true ..).mp hfacts
  obtain ⟨entries, htells⟩ := h hidings catalogue H (auditRun_run atOnce .init hrun)
  refine of_decide_eq_true hne ?_
  have hrows : H.pool.state.auditLogs.rows = entries := htells.rows
  rw [hrows]
  have hdetails := htells.commits.imp (S := fun s row =>
      (AdminAction.hideProduct "product").describe s.before = row.details)
    fun s row ⟨_, _, _, _, _, _, hparty, hdescribe, hrow⟩ => by
      rw [hrow, ← action_hidings hparty]
      exact hdescribe
  rw [eq_comm, ← List.forall₂_eq_eq_eq]
  exact List.forall₂_map_left_iff.mpr (List.forall₂_map_right_iff.mpr hdetails)

end HivePoint
