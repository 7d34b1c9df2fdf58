import HivePoint.Spec.Interference

/-!
# What a transaction does

Until its commit a transaction changes nothing but the locks. The commit makes all of
its writes at once, on top of what is committed by then.
-/

namespace HivePoint

open Prog

variable {α β : Type} {E : Env → Prop} {w w' : World} {p : Pending}

/-! ### Statements of an open transaction -/

/-- Sequencing hands on the pending writes. -/
theorem tx_bind (x : TxM α) (g : α → TxM β) (pending : Pending) :
    (x >>= g) pending = x pending >>= fun a => g a.1 a.2 := rfl

/-- A transaction's `pure` keeps what it has pending. -/
theorem tx_pure (a : α) (pending : Pending) : (pure a : TxM α) pending = pure (a, pending) := rfl

/-- A command inside a transaction is refused, or added to what is pending. -/
theorem runs_txCommand {pending : Pending} {f : Env → World → Except Err World}
    {r : Except Err (Unit × Pending)}
    (h : Runs E ((DbClient.command f : TxM Unit) pending) w r w') :
    w' = w ∧ ∀ u p, r = .ok (u, p) → ∃ env, E env ∧ p = fun w => pending w >>= f env := by
  -- the statement is refused, or it is answered and added to what is pending
  rcases runs_bind.mp h with ⟨e, hstmt, rfl⟩ | ⟨env', w₁, hstmt, hret⟩
  · obtain ⟨env, -, heq⟩ := runs_stmt.mp hstmt
    refine ⟨?_, fun _ _ h => nomatch h⟩
    split at heq <;> exact (Prod.mk.inj heq).2.symm
  · obtain ⟨rfl, rfl⟩ := runs_pure.mp hret
    obtain ⟨env, henv, heq⟩ := runs_stmt.mp hstmt
    split at heq
    · exact nomatch (Prod.mk.inj heq).1
    · obtain ⟨hok, rfl⟩ := Prod.mk.inj heq
      refine ⟨rfl, fun u p hup => ?_⟩
      obtain ⟨-, rfl⟩ := Prod.mk.inj (Except.ok.inj hup)
      cases hp : pending w >>= f env with
      | error e =>
        rw [hp] at hok
        exact nomatch hok
      | ok v =>
        rw [hp] at hok
        exact ⟨env, henv, Except.ok.inj hok ▸ rfl⟩

/-- Lifting a statement into a transaction does not touch the pending writes. -/
theorem runs_txLift {pending : Pending} {op : Op α} {r : Except Err (α × Pending)}
    (h : Runs E ((liftM op : TxM α) pending) w r w') :
    ∃ r₁, Runs E op w r₁ w' ∧ ∀ a p, r = .ok (a, p) → r₁ = .ok a ∧ p = pending := by
  rcases runs_bind.mp h with ⟨e, hop, rfl⟩ | ⟨a, w₁, hop, hret⟩
  · exact ⟨_, hop, fun _ _ h => nomatch h⟩
  · obtain ⟨rfl, rfl⟩ := runs_pure.mp hret
    refine ⟨_, hop, fun a' p hap => ?_⟩
    obtain ⟨rfl, rfl⟩ := Prod.mk.inj (Except.ok.inj hap)
    exact ⟨rfl, rfl⟩

section Available

variable {env : Env} (hdb : env.dbError = none)
include hdb

/-- A query inside a transaction reads its own pending writes. -/
theorem exec_txQuery {f : World → α} {v : World} (hv : p w = .ok v) :
    ((DbClient.query f : TxM α) p).exec env w = (.ok (f v, p), w) := by
  have hstmt : (txStatement (fun _ w => .ok (f w)) p).exec env w = (.ok (f v), w) := by
    simp only [txStatement, exec_stmt, hdb, hv]
    rfl
  simp only [DbClient.query, exec_bind, hstmt, exec_pure]

/-- A command that succeeds stores its result. -/
theorem exec_command_ok {f : Env → World → Except Err World} {v : World} (hv : f env w = .ok v) :
    (DbClient.command f : Op Unit).exec env w = (.ok (), v) :=
  exec_mutate_ok hdb (congrArg (Except.map ((), ·)) hv)

/-- A refused command leaves the tables as they are. -/
theorem exec_command_error {f : Env → World → Except Err World} {e : Err}
    (he : f env w = .error e) :
    (DbClient.command f : Op Unit).exec env w = (.error e, w) :=
  exec_mutate_error hdb (congrArg (Except.map ((), ·)) he)

/-- A command inside a transaction is added to what is pending. -/
theorem exec_txCommand {f : Env → World → Except Err World} {v : World}
    (hv : p w >>= f env = .ok v) :
    ((DbClient.command f : TxM Unit) p).exec env w =
      (.ok ((), fun w => p w >>= f env), w) := by
  simp only [DbClient.command, exec_bind, exec_stmt, hdb, hv, Except.map, exec_pure]

/-- A command that fails on the pending tables fails, and the tables stay as they are. -/
theorem exec_txCommand_error {f : Env → World → Except Err World} {e : Err}
    (he : p w >>= f env = .error e) :
    ((DbClient.command f : TxM Unit) p).exec env w = (.error e, w) := by
  simp only [DbClient.command, exec_bind, exec_stmt, hdb, he, Except.map]

/-- A body that goes through and whose writes can be made commits them. -/
theorem exec_transaction_ok {tx : TxId} {body : TxM α} {a : α} {w₁ : World}
    (hbody : (body .ok).exec env w = (.ok (a, p), w₁)) (hcommit : p w₁ = .ok w') :
    (transaction tx body).exec env w = (.ok a, w'.releaseLocks tx) := by
  simp only [transaction, runTransaction, commit, exec_bind, exec_tryCatch, exec_stmt, hbody,
    hdb, hcommit,
    exec_pure]

end Available

/-- A body that throws is rolled back. -/
theorem exec_transaction_error {env : Env} {tx : TxId} {body : TxM α} {e : Err} {w₁ : World}
    (hbody : (body .ok).exec env w = (.error e, w₁)) :
    (transaction tx body).exec env w = (.error e, w₁.releaseLocks tx) := by
  simp only [transaction, runTransaction, rollback, exec_bind, exec_tryCatch, exec_stmt, hbody,
    exec_throw]

/-! ### Commit and rollback -/

/-- A transaction ends by releasing its locks: with all of its writes, or with none. -/
theorem runs_transaction {tx : TxId} {body : TxM α} {r : Except Err α}
    (h : Runs E (transaction tx body) w r w') :
    ∃ rb w₁, Runs E (body .ok) w rb w₁ ∧
      (((∃ e, r = .error e) ∧ w' = w₁.releaseLocks tx) ∨
        ∃ a p w₂, rb = .ok (a, p) ∧ r = .ok a ∧ p w₁ = .ok w₂ ∧ w' = w₂.releaseLocks tx) := by
  -- the body failed and is rolled back, or it ended and its commit is tried
  rcases runs_bind.mp h with ⟨e, htry, rfl⟩ | ⟨⟨a, p⟩, w₁, htry, hcommit⟩
  · rcases runs_tryCatch.mp htry with ⟨_, -, hok⟩ | ⟨e', w₁, hbody, hcatch⟩
    · exact nomatch hok
    · refine ⟨_, _, hbody, .inl ⟨⟨e, rfl⟩, ?_⟩⟩
      rcases runs_bind.mp hcatch with ⟨_, hroll, -⟩ | ⟨_, w₂, hroll, hthrow⟩
      · obtain ⟨_, -, heq⟩ := runs_stmt.mp hroll
        exact nomatch (Prod.mk.inj heq).1
      · obtain ⟨_, -, heq⟩ := runs_stmt.mp hroll
        obtain ⟨-, rfl⟩ := runs_throw.mp hthrow
        exact (Prod.mk.inj heq).2.symm
  · have hbody : Runs E (body .ok) w (.ok (a, p)) w₁ := by
      rcases runs_tryCatch.mp htry with ⟨ap, hbody, hap⟩ | ⟨_, w₂, -, hcatch⟩
      · exact Except.ok.inj hap ▸ hbody
      · rcases runs_bind.mp hcatch with ⟨_, -, hok⟩ | ⟨_, _, -, hthrow⟩
        · exact nomatch hok
        · exact nomatch (runs_throw.mp hthrow).1
    refine ⟨_, _, hbody, ?_⟩
    -- the commit itself may be refused, the pending writes may not apply, or they are stored
    rcases runs_bind.mp hcommit with ⟨e, hstmt, rfl⟩ | ⟨_, w₂, hstmt, hret⟩
    · refine .inl ⟨⟨e, rfl⟩, ?_⟩
      obtain ⟨env, -, heq⟩ := runs_stmt.mp hstmt
      split at heq
      · exact (Prod.mk.inj heq).2.symm
      · split at heq
        · exact nomatch (Prod.mk.inj heq).1
        · exact (Prod.mk.inj heq).2.symm
    · obtain ⟨rfl, rfl⟩ := runs_pure.mp hret
      obtain ⟨env, -, heq⟩ := runs_stmt.mp hstmt
      split at heq
      · exact nomatch (Prod.mk.inj heq).1
      · split at heq
        · rename_i w₃ hw₃
          exact .inr ⟨a, p, w₃, rfl, rfl, hw₃, (Prod.mk.inj heq).2.symm⟩
        · exact nomatch (Prod.mk.inj heq).1

/-! ### Transactions among others -/

section Interference

variable {C : Contract World Env} {J : World → Prop}

/-- The part `x` of a transaction, started in `J` with the pending writes `p`, stays in `J`.
    If it does not throw, it ends with a result and pending writes that meet `Q`; an error
    meets `X` where it is thrown. -/
def TxSatOr (C : Contract World Env) (J : World → Prop) (x : TxM α) (p : Pending)
    (Q : α → Pending → Prop) (X : Err → World → Prop) : Prop :=
  ∀ w, J w → Sat C (fun r w' => J w' ∧ (∀ a p', r = .ok (a, p') → Q a p') ∧
    ∀ e, r = .error e → X e w') (x p) w

/-- The same without a condition on errors. -/
def TxSat (C : Contract World Env) (J : World → Prop) (x : TxM α) (p : Pending)
    (Q : α → Pending → Prop) : Prop :=
  TxSatOr C J x p Q fun _ _ => True

section Rules

variable {X : Err → World → Prop}

/-- A transaction that returns at once ends with what it had pending. -/
private theorem txSatOr_pure {a : α} {Q : α → Pending → Prop} (h : Q a p) :
    TxSatOr C J (pure a) p Q X := by
  intro w hJ
  refine (sat_pure (a, p) w).mpr ⟨hJ, fun a' p' heq => ?_, fun _ h => nomatch h⟩
  obtain ⟨rfl, rfl⟩ := Prod.mk.inj (Except.ok.inj heq)
  exact h

/-- A transaction's parts in sequence. -/
theorem txSatOr_bind {x : TxM α} {g : α → TxM β} {Q : α → Pending → Prop}
    {R : β → Pending → Prop} (hx : TxSatOr C J x p Q X)
    (hg : ∀ a p', Q a p' → TxSatOr C J (g a) p' R X) : TxSatOr C J (x >>= g) p R X := by
  intro w hJ
  rw [tx_bind, sat_bind]
  refine (hx w hJ).mono fun r w' ⟨hJ', hQ, hX⟩ => ?_
  cases r with
  | error e => exact ⟨hJ', fun _ _ h => (nomatch h), fun e' h => hX e' (Except.error.inj h ▸ rfl)⟩
  | ok ap => exact hg ap.1 ap.2 (hQ _ _ rfl) w' hJ'

/-- What holds at the end may be weakened. -/
theorem TxSatOr.mono {x : TxM α} {Q Q' : α → Pending → Prop} (h : TxSatOr C J x p Q X)
    (hQ : ∀ a p', Q a p' → Q' a p') : TxSatOr C J x p Q' X := fun w hw =>
  (h w hw).mono fun _ _ hr => ⟨hr.1, fun a p' heq => hQ a p' (hr.2.1 a p' heq), hr.2.2⟩

/-- A query may be refused, fail on the pending tables, or answer from them. -/
private theorem txSatOr_query (hJ : Stable C J) {f : World → α} {Q : α → Pending → Prop}
    (hdb : ∀ m w, J w → X (.database m) w) (hX : ∀ w e, J w → p w = .error e → X e w)
    (h : ∀ w v, J w → p w = .ok v → Q (f v) p) : TxSatOr C J (DbClient.query f) p Q X := by
  intro w hw
  refine (sat_bind _ _ _ w).mpr ((sat_stmt _ w).mpr fun w' hrely env hperm => ?_)
  have hw' := hJ.rely w w' hw hrely
  split
  · exact ⟨hJ.guar w' hw', hw', fun _ _ h => (nomatch h), fun e h =>
      Except.error.inj h ▸ hdb _ w' hw'⟩
  · refine ⟨hJ.guar w' hw', ?_⟩
    cases hp : p w' with
    | error e =>
      exact ⟨hw', fun _ _ h => (nomatch h), fun e' h => Except.error.inj h ▸ hX w' e hw' hp⟩
    | ok v =>
      refine ⟨hw', fun a p' heq => ?_, fun _ h => nomatch h⟩
      obtain ⟨rfl, rfl⟩ := Prod.mk.inj (Except.ok.inj heq)
      exact h w' v hw' hp

/-- A command may be refused, fail on the pending tables, or be added to what is pending. -/
theorem txSatOr_command (hJ : Stable C J) {f : Env → World → Except Err World}
    {Q : Unit → Pending → Prop} (hdb : ∀ m w, J w → X (.database m) w)
    (hX : ∀ env w e, J w → p w >>= f env = .error e → X e w)
    (h : ∀ env, Q () fun w => p w >>= f env) : TxSatOr C J (DbClient.command f) p Q X := by
  intro w hw
  refine (sat_bind _ _ _ w).mpr ((sat_stmt _ w).mpr fun w' hrely env hperm => ?_)
  have hw' := hJ.rely w w' hw hrely
  split
  · exact ⟨hJ.guar w' hw', hw', fun _ _ h => (nomatch h), fun e h =>
      Except.error.inj h ▸ hdb _ w' hw'⟩
  · refine ⟨hJ.guar w' hw', ?_⟩
    cases hp : p w' >>= f env with
    | error e =>
      exact ⟨hw', fun _ _ h => (nomatch h), fun e' h => Except.error.inj h ▸ hX env w' e hw' hp⟩
    | ok v =>
      refine ⟨hw', fun a p' heq => ?_, fun _ h => nomatch h⟩
      obtain ⟨rfl, rfl⟩ := Prod.mk.inj (Except.ok.inj heq)
      exact h env

/-- Reading the clock changes nothing. -/
theorem txSatOr_clock (hJ : Stable C J) {Q : Int → Pending → Prop} (h : ∀ now, Q now p) :
    TxSatOr C J (liftM clock) p Q X := by
  intro w hw
  refine (sat_bind _ _ _ w).mpr ((sat_stmt _ w).mpr fun w' hrely env hperm => ?_)
  have hw' := hJ.rely w w' hw hrely
  refine ⟨hJ.guar w' hw', hw', fun a p' heq => ?_, fun _ h => nomatch h⟩
  obtain ⟨rfl, rfl⟩ := Prod.mk.inj (Except.ok.inj heq)
  exact h env.now

end Rules

/-- A transaction that returns at once ends with what it had pending. -/
theorem txSat_pure {a : α} {Q : α → Pending → Prop} (h : Q a p) : TxSat C J (pure a) p Q :=
  txSatOr_pure h

/-- A transaction's parts in sequence. -/
theorem txSat_bind {x : TxM α} {g : α → TxM β} {Q : α → Pending → Prop} {R : β → Pending → Prop}
    (hx : TxSat C J x p Q) (hg : ∀ a p', Q a p' → TxSat C J (g a) p' R) :
    TxSat C J (x >>= g) p R :=
  txSatOr_bind hx hg

/-- What holds at the end may be weakened. -/
theorem TxSat.mono {x : TxM α} {Q Q' : α → Pending → Prop} (h : TxSat C J x p Q)
    (hQ : ∀ a p', Q a p' → Q' a p') : TxSat C J x p Q' :=
  TxSatOr.mono h hQ

/-- A query answers from the pending tables. -/
theorem txSat_query (hJ : Stable C J) {f : World → α} {Q : α → Pending → Prop}
    (h : ∀ w v, J w → p w = .ok v → Q (f v) p) : TxSat C J (DbClient.query f) p Q :=
  txSatOr_query hJ (fun _ _ _ => trivial) (fun _ _ _ _ => trivial) h

/-- A command is added to what is pending. -/
theorem txSat_command (hJ : Stable C J) {f : Env → World → Except Err World}
    {Q : Unit → Pending → Prop} (h : ∀ env, Q () fun w => p w >>= f env) :
    TxSat C J (DbClient.command f) p Q :=
  txSatOr_command hJ (fun _ _ _ => trivial) (fun _ _ _ _ _ => trivial) h

/-- Reading the clock changes nothing. -/
theorem txSat_clock (hJ : Stable C J) {Q : Int → Pending → Prop} (h : ∀ now, Q now p) :
    TxSat C J (liftM clock) p Q :=
  txSatOr_clock hJ h

/-- Taking a row lock leads from `J` to `J'`. -/
theorem sat_selectForUpdate (tx : TxId) (id : Id) (J' : World → Prop) (hJ : Stable C J)
    (hlock : ∀ w env, J w → C.permits env w (w.lockSubscription tx id) →
      C.guar w (w.lockSubscription tx id) ∧ J' (w.lockSubscription tx id))
    {w : World} (hw : J w) :
    Sat C (fun r w' => match r with
      | .ok (_, p') => J' w' ∧ p' = p
      | .error _ => J w') (selectForUpdate tx id p) w := by
  refine (sat_bind _ _ _ w).mpr ((sat_stmt _ w).mpr fun w' hrely env hperm => ?_)
  have hw' := hJ.rely w w' hw hrely
  split
  · exact ⟨hJ.guar w' hw', hw'⟩
  · rename_i hdb
    simp only [hdb] at hperm
    obtain ⟨hguar, hJ'⟩ := hlock w' env hw' hperm
    exact ⟨hguar, hJ', rfl⟩

/-- The errors with which a transaction can end in `w` when its body has ended with `r`. -/
def FailsWith (r : Except Err (α × Pending)) (w : World) (e : Err) : Prop :=
  r = .error e ∨ (∃ m, e = .database m) ∨ ∃ a p, r = .ok (a, p) ∧ p w = .error e

/-- A transaction ends by its commit, or by releasing its locks. -/
theorem sat_runTransaction {tx : TxId} {rest : Op (α × Pending)}
    {post : Except Err α → World → Prop} {w : World}
    (hrest : Sat C (fun r w₁ => ∀ w₂, C.rely w₁ w₂ →
      C.guar w₂ (w₂.releaseLocks tx) ∧
        (∀ e, FailsWith r w₂ e → post (.error e) (w₂.releaseLocks tx)) ∧
        ∀ a p v, r = .ok (a, p) → p w₂ = .ok v →
          C.guar w₂ (v.releaseLocks tx) ∧ post (.ok a) (v.releaseLocks tx)) rest w) :
    Sat C post (runTransaction tx rest) w := by
  refine (sat_bind _ _ _ w).mpr ((sat_tryCatch _ _ w).mpr (hrest.mono fun r w₁ hend => ?_))
  -- a failed body is rolled back: only the locks are released
  cases r with
  | error e =>
    refine (sat_bind _ _ _ w₁).mpr ((sat_stmt _ w₁).mpr fun w₂ hrely env hperm => ?_)
    exact ⟨(hend w₂ hrely).1, (hend w₂ hrely).2.1 e (.inl rfl)⟩
  -- else the commit is one statement, refused, failing on the tables, or stored
  | ok ap =>
    refine (sat_bind _ _ _ w₁).mpr ((sat_stmt _ w₁).mpr fun w₂ hrely env hperm => ?_)
    obtain ⟨hguar, herror, hcommit⟩ := hend w₂ hrely
    split
    · exact ⟨hguar, herror _ (.inr (.inl ⟨_, rfl⟩))⟩
    · split
      · rename_i v hv
        exact hcommit ap.1 ap.2 v rfl hv
      · rename_i e he
        exact ⟨hguar, herror e (.inr (.inr ⟨_, _, rfl, he⟩))⟩

end Interference

/-! ### One step of a transaction -/

section Steps

variable {tx : TxId} {rest : Op (α × Pending)} {env : Env}

/-- What the next step of an unfinished transaction is: a statement of its body, its commit, or
    its rollback. The last argument is what is left of the transaction then. -/
inductive TxStep (tx : TxId) (env : Env) (rest : Op (α × Pending)) (w w' : World) :
    Op α → Prop where
  | statement (act : Env → World → World) (nxt : Env → World → Op (α × Pending))
      (hrest : rest = .step act nxt) (hstate : w' = act env w) :
      TxStep tx env rest w w' (runTransaction tx (nxt env w))
  | committed (a : α) (p : Pending) (v : World) (hrest : rest = .done (.ok (a, p)))
      (hwrites : p w = .ok v) (hstate : w' = v.releaseLocks tx) :
      TxStep tx env rest w w' (.done (.ok a))
  | rolledBack (e : Err) (hstate : w' = w.releaseLocks tx) :
      TxStep tx env rest w w' (.done (.error e))

/-- The step of the commit statement. -/
private theorem txStep_commit (a : α) (p : Pending) (w : World) {act : Env → World → World}
    {nxt : Env → World → Op α} (h : (commit tx p >>= fun _ => pure a) = .step act nxt) :
    TxStep tx env (.done (.ok (a, p))) w (act env w) (nxt env w) := by
  obtain ⟨rfl, rfl⟩ := Prog.step.inj h
  dsimp only
  split
  · exact .rolledBack _ rfl
  · split
    · rename_i v hv
      exact .committed a p v rfl hv rfl
    · exact .rolledBack _ rfl

/-- A step of a running transaction is a step of its body, a rollback or a commit. -/
private theorem runTransaction_step {act : Env → World → World} {nxt : Env → World → Op α}
    (h : runTransaction tx rest = .step act nxt) (env : Env) (w : World) :
    TxStep tx env rest w (act env w) (nxt env w) := by
  cases rest with
  | step act' nxt' =>
    obtain ⟨rfl, rfl⟩ := Prog.step.inj h
    exact .statement act' nxt' rfl rfl
  | done r =>
    cases r with
    | error e =>
      obtain ⟨rfl, rfl⟩ := Prog.step.inj h
      exact .rolledBack e rfl
    | ok ap => exact txStep_commit ap.1 ap.2 w h

/-- A transaction ends with a statement: it is never done before. -/
theorem runTransaction_eq_step (tx : TxId) (rest : Op (α × Pending)) :
    ∃ act nxt, runTransaction tx rest = .step act nxt := by
  rcases rest with ⟨_ | _⟩ | ⟨act, nxt⟩
  · exact ⟨_, _, rfl⟩
  · exact ⟨_, _, rfl⟩
  · exact ⟨_, _, rfl⟩

/-- The step of a program that is in a transaction. -/
theorem next_runTransaction {S : Scheduler TxId World Env} {P P' : Pool TxId World Env Err β}
    {g : α → Op β} (hthread : P.threads tx = runTransaction tx rest >>= g)
    (hnext : P.next S (.run tx env) = some P') :
    ∃ left, TxStep tx env rest P.state P'.state left ∧ P'.threads tx = left >>= g := by
  obtain ⟨act, nxt, hstep, -, rfl⟩ := Pool.next_run_cases hnext
  obtain ⟨act', nxt', hrun⟩ := runTransaction_eq_step tx rest
  rw [hthread, hrun] at hstep
  obtain ⟨rfl, rfl⟩ := Prog.step.inj hstep
  exact ⟨_, runTransaction_step hrun env P.state, Function.update_self ..⟩

end Steps

/-! ### Bodies that leave the state alone -/

/-- The part `x` of a transaction, on top of the writes `p`, leaves the state alone. If it does
    not throw, it ends with a result and pending writes that meet `Q`. -/
def TxPrepares (x : TxM α) (p : Pending) (Q : α → Pending → Prop) : Prop :=
  (x p).EachStep (fun w w' => w' = w) ∧ (x p).Returns fun result => Q result.1 result.2

/-- A transaction's preparations in sequence. -/
theorem txPrepares_bind {x : TxM α} {g : α → TxM β} {Q : α → Pending → Prop}
    {R : β → Pending → Prop} (hx : TxPrepares x p Q)
    (hg : ∀ a p', Q a p' → TxPrepares (g a) p' R) : TxPrepares (x >>= g) p R := by
  constructor
  · exact eachStep_bind_returns hx.1 hx.2 fun result hresult => (hg _ _ hresult).1
  · exact returns_bind hx.2 fun result hresult => (hg _ _ hresult).2

/-- A command prepares one more write. -/
theorem txPrepares_command {f : Env → World → Except Err World} {Q : Unit → Pending → Prop}
    (h : ∀ env, Q () fun w => p w >>= f env) : TxPrepares (DbClient.command f) p Q := by
  constructor
  · refine eachStep_bind (eachStep_stmt fun env w => ?_) fun _ => trivial
    split <;> rfl
  · exact returns_bind (returns_true _) fun env _ => h env

/-! ### What every statement of a transaction does -/

section Keeps

variable {R : World → World → Prop}

/-- The pending writes take any state as `R` says. -/
def PendingKeeps (R : World → World → Prop) (pending : Pending) : Prop :=
  ∀ w w', pending w = .ok w' → R w w'

/-- On top of pending writes that keep `R`, a part of a transaction keeps it with each of its
    statements and with the writes it adds. -/
def TxKeeps (R : World → World → Prop) (x : TxM α) : Prop :=
  ∀ pending, PendingKeeps R pending →
    (x pending).EachStep R ∧ (x pending).Returns fun result => PendingKeeps R result.2

/-- A transaction's parts each keep the relation. -/
theorem txKeeps_bind {x : TxM α} {g : α → TxM β} (hx : TxKeeps R x) (hg : ∀ a, TxKeeps R (g a)) :
    TxKeeps R (x >>= g) := by
  intro pending hpending
  obtain ⟨hsteps, hreturns⟩ := hx pending hpending
  constructor
  · exact eachStep_bind_returns hsteps hreturns fun result hresult => (hg _ _ hresult).1
  · exact returns_bind hreturns fun result hresult => (hg _ _ hresult).2

/-- An operation of the autocommit client keeps what its own steps keep. -/
theorem txKeeps_lift {op : Op α} (hop : op.EachStep R) : TxKeeps R (liftM op : TxM α) :=
  fun _ hpending => ⟨eachStep_bind hop fun _ => trivial,
    returns_bind (returns_true op) fun _ _ => hpending⟩

variable (hrefl : ∀ w, R w w) (htrans : ∀ w₁ w₂ w₃, R w₁ w₂ → R w₂ w₃ → R w₁ w₃)
include hrefl htrans

/-- A statement of a transaction is executed on what is pending, and changes nothing yet. -/
theorem txKeeps_command {f : Env → World → Except Err World}
    (hf : ∀ env w w', f env w = .ok w' → R w w') : TxKeeps R (DbClient.command f : TxM Unit) := by
  intro pending hpending
  constructor
  · refine eachStep_bind (eachStep_stmt fun env w => ?_) fun _ => trivial
    split <;> exact hrefl w
  · refine returns_bind (returns_true _) fun env _ => ?_
    intro w w' h
    obtain ⟨v, hv, hw'⟩ := except_bind_eq_ok.mp h
    exact htrans w v w' (hpending w v hv) (hf env v w' hw')

/-- A transaction whose writes keep `R` keeps it with each of its statements. -/
theorem eachStep_transaction {tx : TxId} {body : TxM α} (hbody : TxKeeps R body)
    (hrelease : ∀ w, R w (w.releaseLocks tx)) : (transaction tx body).EachStep R := by
  obtain ⟨hsteps, hreturns⟩ := hbody .ok fun w w' h => Except.ok.inj h ▸ hrefl w
  refine eachStep_bind_returns (B := fun result => PendingKeeps R result.2)
    (eachStep_tryCatch hsteps fun _ => ?_) (returns_tryCatch hreturns fun _ => ?_)
    fun result hresult => eachStep_bind (eachStep_stmt fun env w => ?_) fun _ => trivial
  · exact eachStep_bind (eachStep_stmt fun _ w => hrelease w) fun _ => trivial
  · exact returns_bind (returns_true _) fun _ _ => trivial
  · split
    · exact hrelease w
    · split
      · rename_i w' hw'
        exact htrans _ _ _ (hresult w w' hw') (hrelease w')
      · exact hrelease w

end Keeps

end HivePoint
