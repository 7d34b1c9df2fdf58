import HivePoint.Spec.AlertStatements
import HivePoint.Spec.Leases
import HivePoint.Spec.Statements
import HivePoint.Spec.UpstreamPath

/-!
# The rows of the active alerts

An alert has an open row while it is active, and the rows of its targets are open only with it. A
cycle opens the rows of the active alerts first and closes the others at its end, the row of an
alert before the rows of its targets.

## Key results

- `sat_syncWithLease`: what a cycle does to the open rows, however it ends
- `alertStates_mirror`: the open rows after a completed cycle
-/

namespace HivePoint

open Prog

/-! ### Open rows -/

/-- The alert `kind` has a row that is not resolved. -/
def AlertWorld.OpenKind (w : AlertWorld) (kind : AlertKind) : Prop :=
  ∃ row, w.alertStates.find? kind = some row ∧ row.resolvedAt = none

/-- The row of the alert `kind` and a target is not resolved. -/
def AlertWorld.OpenTarget (w : AlertWorld) (kind : AlertKind) (targetKey : String) : Prop :=
  ∃ row, w.targetStates.find? (kind, targetKey) = some row ∧ row.resolvedAt = none

/-- The open rows are those of the kinds `O`, and of targets under them; the leases are `ℓ`. -/
structure OpenRows (ℓ : LeaseWorld) (O : AlertKind → Prop) (w : AlertWorld) : Prop where
  leases : w.leases = ℓ
  kinds : ∀ kind, w.OpenKind kind ↔ O kind
  targets : ∀ kind targetKey, w.OpenTarget kind targetKey → O kind

/-- The targets' rows are open under open rows only. -/
def TargetsCovered (w : AlertWorld) : Prop :=
  ∀ kind targetKey, w.OpenTarget kind targetKey → w.OpenKind kind

/-- The open rows of a covered state. -/
theorem openRows_of_covered {w : AlertWorld} (h : TargetsCovered w) :
    OpenRows w.leases w.OpenKind w :=
  ⟨rfl, fun _ => Iff.rfl, h⟩

/-- Open rows have their alerts open. -/
theorem OpenRows.covered {ℓ : LeaseWorld} {O : AlertKind → Prop} {w : AlertWorld}
    (h : OpenRows ℓ O w) :
    TargetsCovered w := fun kind targetKey hopen =>
  (h.kinds kind).mpr (h.targets kind targetKey hopen)

variable {ℓ : LeaseWorld} {O O' : AlertKind → Prop} {w w' : AlertWorld} {kind : AlertKind}

/-- The set of the open kinds may be described otherwise. -/
theorem OpenRows.congr (h : OpenRows ℓ O w) (hO : ∀ k, O k ↔ O' k) : OpenRows ℓ O' w :=
  ⟨h.leases, fun k => (h.kinds k).trans (hO k), fun k key hopen =>
    (hO k).mp (h.targets k key hopen)⟩

/-- The rows are those of the alert tables. -/
theorem OpenRows.of_same (h : OpenRows ℓ O w) (hsame : SameAlerts w w') : OpenRows ℓ O w' := by
  refine ⟨hsame.leases.trans h.leases, ?_, ?_⟩
  · unfold AlertWorld.OpenKind
    rw [hsame.alertStates]
    exact h.kinds
  · unfold AlertWorld.OpenTarget
    rw [hsame.targetStates]
    exact h.targets

/-- The kinds with an open row after a write. -/
private theorem openKind_of_writes {row : OperationalAlertState}
    (hw : WritesState kind (some row) w w') (k : AlertKind) :
    w'.OpenKind k ↔ (k = kind ∧ row.resolvedAt = none) ∨ (k ≠ kind ∧ w.OpenKind k) := by
  obtain ⟨states, rfl, hfind⟩ := hw
  unfold AlertWorld.OpenKind
  rw [hfind]
  by_cases hk : k = kind
  · simp [hk]
  · simp [hk]

/-- A state row is written outside the leases. -/
theorem WritesState.leases {row : Option OperationalAlertState} (hw : WritesState kind row w w') :
    w'.leases = w.leases := by
  obtain ⟨states, rfl, -⟩ := hw
  rfl

/-- Writing a state row leaves the rows of the targets alone. -/
private theorem openTarget_of_writesState {row : Option OperationalAlertState}
    (hw : WritesState kind row w w') (k : AlertKind) (key : String) : w'.OpenTarget k key ↔
      w.OpenTarget k key := by
  obtain ⟨states, rfl, -⟩ := hw
  exact Iff.rfl

/-- Opening the row of a kind. -/
theorem OpenRows.opens {row : OperationalAlertState} (h : OpenRows ℓ O w)
    (hrow : row.resolvedAt = none) (hw : WritesState kind (some row) w w') :
    OpenRows ℓ (fun k => k = kind ∨ O k) w' := by
  refine ⟨hw.leases.trans h.leases, fun k => ?_, fun k key hopen => .inr (h.targets k key ?_)⟩
  · rw [openKind_of_writes hw, h.kinds]
    by_cases hk : k = kind <;> simp [hk, hrow]
  · exact (openTarget_of_writesState hw k key).mp hopen

/-- A write that leaves the row open or closed as it was. -/
theorem OpenRows.keeps {row row' : OperationalAlertState} (h : OpenRows ℓ O w)
    (hrow : w.alertStates.find? kind = some row) (hsame : row'.resolvedAt = row.resolvedAt)
    (hw : WritesState kind (some row') w w') : OpenRows ℓ O w' := by
  refine ⟨hw.leases.trans h.leases, fun k => ?_, fun k key hopen => h.targets k key ?_⟩
  · rw [openKind_of_writes hw, ← h.kinds]
    by_cases hk : k = kind
    · subst hk
      simp [AlertWorld.OpenKind, hrow, hsame]
    · simp [hk]
  · exact (openTarget_of_writesState hw k key).mp hopen

/-- Opening the row of a target under an open row. -/
private theorem OpenRows.opensTarget {targetKey : String}
    {row : OperationalAlertDeliveryTargetState} (h : OpenRows ℓ O w) (hkind : O kind)
    (hw : WritesTargetState kind targetKey row w w') :
    OpenRows ℓ O w' := by
  obtain ⟨states, rfl, hfind⟩ := hw
  refine ⟨h.leases, h.kinds, fun k key ⟨row', hrow', hopen⟩ => ?_⟩
  rw [hfind] at hrow'
  by_cases hk : (k, key) = (kind, targetKey)
  · obtain ⟨rfl, -⟩ := Prod.mk.inj hk
    exact hkind
  · rw [if_neg hk] at hrow'
    exact h.targets k key ⟨row', hrow', hopen⟩

/-! ### Deliveries leave the open rows alone -/

section Deliveries

variable {permits : AlertEnv → AlertWorld → Prop} {api : UrlApi} {sha256 : Text → String}
  {config : AlertDeliveryConfig}

/-- A statement on a state row that keeps it open or closed. -/
private theorem sat_updateState_openRows (h : OpenRows ℓ O w) (statement : AlertStatement)
    (kind : AlertKind) {data : OperationalAlertState → OperationalAlertState}
    (hkind : ∀ row, (data row).kind = row.kind)
    (hresolved : ∀ row, (data row).resolvedAt = row.resolvedAt) :
    (updateState statement kind data).Sat (alertContract permits) (fun _ w' => OpenRows ℓ O w') w :=
  sat_updateState hkind (fun row _ hrow hw => h.keeps hrow (hresolved row) hw) (fun _ => h)
    fun _ _ _ _ => h

/-- A success opens the row of the target, under an open alert. -/
private theorem sat_markTargetDeliverySuccess (h : OpenRows ℓ O w) (hkind : O kind)
    (target : AlertDeliveryTarget) (fingerprint : String) (now : Int) :
    (markTargetDeliverySuccess kind target fingerprint now).Sat (alertContract permits)
      (fun _ w' => OpenRows ℓ O w') w := by
  unfold markTargetDeliverySuccess
  refine sat_upsertTargetState ?_ (fun w' hw => ?_) fun _ _ _ _ => h
  · exact fun _ => rfl
  · exact h.opensTarget hkind hw

/-- So does a failure. -/
private theorem sat_markTargetDeliveryFailure (h : OpenRows ℓ O w) (hkind : O kind)
    (target : AlertDeliveryTarget) (fingerprint : String) (now : Int) (error : Err) :
    (markTargetDeliveryFailure kind target fingerprint now error).Sat (alertContract permits)
      (fun _ w' => OpenRows ℓ O w') w := by
  unfold markTargetDeliveryFailure
  refine sat_upsertTargetState ?_ (fun w' hw => ?_) fun _ _ _ _ => h
  · exact fun _ => rfl
  · exact h.opensTarget hkind hw

/-- Sending writes no row. -/
private theorem sat_sendAlert_openRows (h : OpenRows ℓ O w) (target : AlertDeliveryTarget)
    (alert : OperationalAlert) (firstObservedAt now : Int) (isReminder : Bool) :
    (sendAlert api config target alert firstObservedAt now isReminder).Sat (alertContract permits)
      (fun _ w' => OpenRows ℓ O w') w := by
  refine sat_bind_inv ((sat_attempt _ w).mpr ?_) fun result w₁ h₁ =>
    sat_bind_inv ?_ fun _ w₂ h₂ => ?_
  · exact (sat_zoom_sameAlerts _ (fun _ _ => ⟨rfl, rfl, rfl, rfl⟩) _ _ _).mono fun _ _ hsame =>
      h.of_same hsame
  · refine (sat_stmt _ w₁).mpr fun w₂ hw₂ _ _ => ⟨trivial, ?_⟩
    obtain rfl : w₁ = w₂ := hw₂
    exact ⟨h₁.leases, h₁.kinds, h₁.targets⟩
  · cases result <;> exact h₂

/-- One target of an open alert. -/
private theorem sat_deliverToTarget_openRows (h : OpenRows ℓ O w) (alert : OperationalAlert)
    (hkind : O alert.kind) (firstObservedAt now : Int)
    (targetState : Option OperationalAlertDeliveryTargetState) (target : AlertDeliveryTarget) :
    (deliverToTarget api sha256 config alert firstObservedAt now targetState target).Sat
      (alertContract permits) (fun _ w' => OpenRows ℓ O w') w := by
  refine sat_tryCatch_inv ?_ fun error w₁ h₁ => ?_
  · refine sat_bind_inv (sat_sendAlert_openRows h target alert firstObservedAt now _) fun _ w₁ h₁ =>
      ?_
    refine sat_bind_inv (sat_both_inv ?_ fun w₂ h₂ => ?_) fun _ _ h => h
    · exact sat_updateState_openRows h₁ _ _ (fun _ => rfl) fun _ => rfl
    · exact sat_markTargetDeliverySuccess h₂ hkind target _ now
  · refine sat_bind_inv (sat_both_inv ?_ fun w₂ h₂ => ?_) fun _ _ h => h
    · exact sat_updateState_openRows h₁ _ _ (fun _ => rfl) fun _ => rfl
    · exact sat_markTargetDeliveryFailure h₂ hkind target _ now error

/-- All targets of an open alert. -/
private theorem sat_deliverToTargets_openRows
    (existingTargetStates : List OperationalAlertDeliveryTargetState) (alert : OperationalAlert)
    (hkind : O alert.kind) (firstObservedAt now : Int) (targets : List AlertDeliveryTarget)
    (counts : DeliveryCounts) (h : OpenRows ℓ O w) :
    (deliverToTargets api sha256 config existingTargetStates alert firstObservedAt now targets
      counts).Sat (alertContract permits) (fun _ w' => OpenRows ℓ O w') w := by
  induction targets generalizing w counts with
  | nil => exact h
  | cons target targets ih =>
    unfold deliverToTargets
    dsimp only
    split
    · exact sat_bind_inv (sat_deliverToTarget_openRows h alert hkind firstObservedAt now _ target)
        fun delivered w' h' => ih (counts.count delivered) h'
    · exact ih counts h

end Deliveries

/-! ### A cycle -/

/-- A program that returns leaves the kinds `O` open; one that throws leaves a state in `A`. -/
def EndsOpen {α : Type} (A : AlertWorld → Prop) (ℓ : LeaseWorld) (O : AlertKind → Prop) :
    Except Err α → AlertWorld → Prop
  | .ok _, w => OpenRows ℓ O w
  | .error _, w => A w

/-- The set of the open kinds at the end may be described otherwise. -/
theorem EndsOpen.congr {α : Type} {A : AlertWorld → Prop} {r : Except Err α}
    (h : EndsOpen A ℓ O r w) (hO : ∀ k, O k ↔ O' k) : EndsOpen A ℓ O' r w := by
  cases r with
  | ok a => exact OpenRows.congr h hO
  | error e => exact h

/-- A statement that closes the rows of targets is refused only if there is none to close. -/
def ClosesTargets (env : AlertEnv) (w : AlertWorld) : Prop :=
  ∀ kind targetKey, w.OpenTarget kind targetKey → env.refuses (.resolveTargetStates kind) = none

/-- The states that a cycle may be aborted in. -/
structure AbortsIn (permits : AlertEnv → AlertWorld → Prop) (A : AlertWorld → Prop) : Prop where
  covered : ∀ w, TargetsCovered w → A w
  refused : ∀ env w, permits env w → ¬ClosesTargets env w → ∀ w', A w'

section Cycle

variable {permits : AlertEnv → AlertWorld → Prop} {A : AlertWorld → Prop} {api : UrlApi}
  {sha256 : Text → String} {config : AlertDeliveryConfig} {α β : Type}

/-- A part after which the rows are open, and another one. -/
private theorem sat_bind_open {p : AlertOp α} {g : α → AlertOp β}
    (hp : p.Sat (alertContract permits) (EndsOpen A ℓ O) w)
    (hg : ∀ a w', OpenRows ℓ O w' → (g a).Sat (alertContract permits) (EndsOpen A ℓ O') w') :
    (p >>= g).Sat (alertContract permits) (EndsOpen A ℓ O') w := by
  refine (sat_bind p g _ w).mpr (hp.mono fun r w' h => ?_)
  cases r with
  | ok a => exact hg a w' h
  | error e => exact h

/-- A part that never aborts with rows closed. -/
private theorem endsOpen_of_openRows (hA : AbortsIn permits A) {p : AlertOp α}
    (hp : p.Sat (alertContract permits) (fun _ w' => OpenRows ℓ O w') w) :
    p.Sat (alertContract permits) (EndsOpen A ℓ O) w := by
  refine hp.mono fun r w' h => ?_
  cases r with
  | ok a => exact h
  | error e => exact hA.covered w' h.covered

/-- The loop over the alerts opens their rows. -/
private theorem sat_deliverAlerts (hA : AbortsIn permits A)
    (existingStates : List OperationalAlertState)
    (existingTargetStates : List OperationalAlertDeliveryTargetState)
    (targets : List AlertDeliveryTarget) (now : Int) (alerts : List OperationalAlert)
    (counts : DeliveryCounts) (h : OpenRows ℓ O w) :
    (deliverAlerts api sha256 config existingStates existingTargetStates targets now alerts
      counts).Sat
      (alertContract permits) (EndsOpen A ℓ fun k => k ∈ alerts.map (·.kind) ∨ O k) w := by
  -- induction on the alerts: each one is opened before its targets are told
  induction alerts generalizing w O counts with
  | nil => exact h.congr fun k => by simp
  | cons alert alerts ih =>
    unfold deliverAlerts
    dsimp only
    refine sat_bind_open (O := fun k => k = alert.kind ∨ O k) ?_ fun _ w₁ h₁ => ?_
    · exact sat_upsertObservedState (fun _ _ hrow hw => h.opens hrow hw) fun _ _ _ _ =>
        hA.covered w h.covered
    · have hrest (counts' : DeliveryCounts) (w₂ : AlertWorld)
          (h₂ : OpenRows ℓ (fun k => k = alert.kind ∨ O k) w₂) :
          (deliverAlerts api sha256 config existingStates existingTargetStates targets now alerts
            counts').Sat (alertContract permits)
              (EndsOpen A ℓ fun k => k ∈ (alert :: alerts).map (·.kind) ∨ O k) w₂ :=
        (ih counts' h₂).mono fun r w₃ h₃ => h₃.congr fun k => by
          rw [List.map_cons, List.mem_cons, or_left_comm, or_assoc]
      -- no targets, or each one in turn
      split
      · exact hrest counts w₁ h₁
      · exact sat_bind_open (endsOpen_of_openRows hA
          (sat_deliverToTargets_openRows _ alert (.inl rfl) _ now targets counts h₁)) hrest

/-- An alert is resolved by closing its row and then the rows of its targets. -/
private theorem sat_resolveAlert (hA : AbortsIn permits A)
    (h : OpenRows ℓ O w) (kind : AlertKind) (now : Int) {g : AlertOp α}
    (hg : ∀ w', OpenRows ℓ (fun k => k ≠ kind ∧ O k) w' → g.Sat (alertContract permits)
      (EndsOpen A ℓ O') w') :
    (do
      updateState (.resolveState kind) kind fun row => { row with resolvedAt := some now }
      resolveTargetStates kind now
      g).Sat (alertContract permits) (EndsOpen A ℓ O') w := by
  refine (sat_bind _ _ _ w).mpr ?_
  refine sat_updateState ?_ (fun row w₁ _ hw => ?_) (fun _ => hA.covered w h.covered) fun _ _ _ _ =>
    hA.covered w h.covered
  · exact fun _ => rfl
  have hkinds : ∀ k, w₁.OpenKind k ↔ k ≠ kind ∧ O k := by
    intro k
    rw [openKind_of_writes hw, h.kinds]
    simp
  have htargets : ∀ k key, w₁.OpenTarget k key → O k := fun k key hopen =>
    h.targets k key ((openTarget_of_writesState hw k key).mp hopen)
  refine (sat_bind _ _ _ w₁).mpr (sat_resolveTargetStates (fun states hfind => ?_)
    fun env m hperm hm => ?_)
  · refine hg _ ⟨hw.leases.trans h.leases, hkinds, ?_⟩
    rintro k key ⟨row, hrow, hopen⟩
    rw [hfind] at hrow
    obtain ⟨row₁, hrow₁, rfl⟩ := Option.map_eq_some_iff.mp hrow
    by_cases hk : k = kind
    · -- no row of the kind is left open
      cases hresolved : row₁.resolvedAt <;>
        simp [hk, OperationalAlertDeliveryTargetState.closed, hresolved] at hopen
    · rw [if_neg hk] at hopen
      exact ⟨hk, htargets k key ⟨row₁, hrow₁, hopen⟩⟩
  · by_cases hcloses : ClosesTargets env w₁
    · refine hA.covered w₁ fun k key hopen => (hkinds k).mpr ⟨?_, htargets k key hopen⟩
      rintro rfl
      cases (hcloses k key hopen).symm.trans hm
    · exact hA.refused env w₁ hperm hcloses w₁

/-- The kinds of the rows that are open in a list. -/
def OpenIn (states : List OperationalAlertState) (kind : AlertKind) : Prop :=
  ∃ state ∈ states, state.kind = kind ∧ state.resolvedAt = none

/-- The loop at the end closes what is not active. -/
private theorem sat_resolveClearedAlerts (hA : AbortsIn permits A)
    (activeKinds : List AlertKind) (now : Int) (states : List OperationalAlertState)
    (resolved : Nat) (hnodup : (states.map (·.kind)).Nodup)
    (h : OpenRows ℓ (fun k => k ∈ activeKinds ∨ OpenIn states k) w) :
    (resolveClearedAlerts activeKinds now states resolved).Sat (alertContract permits)
      (EndsOpen A ℓ (· ∈ activeKinds)) w := by
  -- induction on the rows that were open
  induction states generalizing w resolved with
  | nil => exact h.congr fun k => or_iff_left fun ⟨_, hmem, _⟩ => nomatch hmem
  | cons state states ih =>
    obtain ⟨hfresh, hnodup⟩ := List.nodup_cons.mp hnodup
    have hcons : ∀ k, OpenIn (state :: states) k ↔
        (state.kind = k ∧ state.resolvedAt = none) ∨ OpenIn states k := fun k => by
      simp [OpenIn]
    unfold resolveClearedAlerts
    split
    -- the alert is active, or was resolved before: its row stays
    · rename_i hkept
      refine ih resolved hnodup (h.congr fun k => ?_)
      rw [hcons]
      simp only [Bool.or_eq_true, Option.isSome_iff_ne_none, List.contains_iff_mem] at hkept
      constructor
      · rintro (hactive | ⟨rfl, hopen⟩ | hin)
        · exact .inl hactive
        · exact .inl (hkept.resolve_left fun hresolved => hresolved hopen)
        · exact .inr hin
      · exact fun hor => hor.imp_right .inr
    -- the alert is cleared: its targets are closed, and then its state
    · rename_i hcleared
      simp only [Bool.or_eq_true, Option.isSome_iff_ne_none, List.contains_iff_mem, not_or, not_not]
        at hcleared
      refine sat_resolveAlert hA h state.kind now fun w' h' =>
        ih (resolved + 1) hnodup (h'.congr fun k => ?_)
      rw [hcons]
      constructor
      · rintro ⟨hne, hactive | ⟨heq, -⟩ | hin⟩
        · exact .inl hactive
        · exact absurd heq.symm hne
        · exact .inr hin
      · rintro (hactive | ⟨other, hmem, rfl, hopen⟩)
        · exact ⟨fun heq => hcleared.2 (heq ▸ hactive), .inl hactive⟩
        · have hother : other.kind ∈ states.map (·.kind) := List.mem_map_of_mem hmem
          exact ⟨fun heq => hfresh (show state.kind ∈ _ from heq ▸ hother),
            .inr (.inr ⟨other, hmem, rfl, hopen⟩)⟩

/-- A cycle with the lease leaves the active alerts open, and no others. -/
theorem sat_syncWithLease (hA : AbortsIn permits A)
    {source : AlertOp ActiveAlerts} {Q : ActiveAlerts → Prop}
    (hsource : source.Sat (alertContract permits)
      (fun r w' => SameAlerts w w' ∧ ∀ active, r = .ok active → Q active) w)
    (targets : List AlertDeliveryTarget) (now : Int) (h : TargetsCovered w) :
    (syncWithLease api sha256 config source targets now).Sat (alertContract permits)
      (fun r w' => (∀ e, r = .error e → A w') ∧ ∀ result, r = .ok result →
        ∃ active, Q active ∧ OpenRows w.leases (· ∈ active.kinds) w') w := by
  have hw := openRows_of_covered h
  refine (sat_bind _ _ _ w).mpr (hsource.mono fun r w₁ ⟨hsame, hQ⟩ => ?_)
  have h₁ := hw.of_same hsame
  cases r with
  | error e => exact ⟨fun _ _ => hA.covered w₁ h₁.covered, fun _ hr => nomatch hr⟩
  | ok active =>
    have hend {α : Type} {r : Except Err α} {w' : AlertWorld}
        (hend : EndsOpen A w.leases (· ∈ active.kinds) r w') : (∀ e, r = .error e → A w') ∧
          ∀ result, r = .ok result → ∃ active, Q active ∧
            OpenRows w.leases (· ∈ active.kinds) w' := by
      cases r with
      | error e => exact ⟨fun _ _ => hend, fun _ hr => nomatch hr⟩
      | ok a => exact ⟨fun _ hr => (nomatch hr), fun _ _ => ⟨active, hQ active rfl, hend⟩⟩
    refine Sat.mono ?_ fun r w' (h' : EndsOpen A w.leases (· ∈ active.kinds) r w') => hend h'
    refine (sat_bind _ _ _ w₁).mpr (sat_alertRead ?_ fun _ _ _ _ => hA.covered w₁ h₁.covered)
    dsimp only
    generalize hstates : w₁.alertStates.rows.filter
      (fun row => row.resolvedAt.isNone || active.kinds.contains row.kind) = states
    refine (sat_bind _ _ _ w₁).mpr (sat_alertRead ?_ fun _ _ _ _ => hA.covered w₁ h₁.covered)
    refine sat_bind_open (sat_deliverAlerts hA states _ targets now active.alerts ⟨0, 0⟩ h₁)
      fun counts w₂ h₂ => ?_
    -- the rows that were open when they were loaded
    have hloaded : ∀ k, w.OpenKind k ↔ OpenIn states k := by
      intro k
      rw [h₁.kinds k |>.symm, ← hstates]
      constructor
      · rintro ⟨row, hrow, hopen⟩
        refine ⟨row, List.mem_filter.mpr ⟨Table.mem_of_find? hrow, ?_⟩,
          Table.key_of_find? hrow, hopen⟩
        simp [hopen]
      · rintro ⟨row, hmem, rfl, hopen⟩
        exact ⟨row, Table.find?_key (List.mem_filter.mp hmem).1, hopen⟩
    have hnodup : (states.map (·.kind)).Nodup := by
      rw [← hstates]
      exact w₁.alertStates.valid.1.sublist (List.filter_sublist.map _)
    refine sat_bind_open (sat_resolveClearedAlerts hA active.kinds now states 0 hnodup
      (h₂.congr fun k => or_congr Iff.rfl (hloaded k))) fun resolved w₃ h₃ => h₃

end Cycle

/-! ### The lease -/

/-- The lease is logged if it was acquired, and the other leases stay as they are. -/
theorem sat_tryAcquireLease (config : LeaseConfig) (job : BackgroundJob) (leaseOwnerId : String)
    (ℓ : LeaseWorld) :
    (job.tryAcquireLease config leaseOwnerId).Sat (.alone fun _ => True)
      (fun r ℓ' => (r ≠ .ok true → ℓ'.acquired = ℓ.acquired) ∧
        ∀ name, name ≠ job.leaseName → ℓ'.leases.find? name = ℓ.leases.find? name) ℓ := by
  refine (sat_bind _ _ _ ℓ).mpr ((sat_stmt _ ℓ).mpr fun ℓ₁ hℓ env _ => ⟨trivial, ?_⟩)
  obtain rfl : ℓ = ℓ₁ := hℓ
  refine (sat_tryCatch _ _ _).mpr ((sat_stmt _ _).mpr fun ℓ₂ hℓ₂ env₂ _ => ⟨trivial, ?_⟩)
  obtain rfl := hℓ₂
  cases env₂.transactionError with
  | some error =>
    -- the error leaves the function, or `false` does
    dsimp only
    split <;> exact ⟨fun _ => rfl, fun _ _ => rfl⟩
  | none =>
    dsimp only
    rcases acquireLease_cases job.leaseName leaseOwnerId env.now
      (env.now + job.getLeaseDurationMilliseconds config) ℓ.leases with
      hrefused | ⟨leases, hacquired, -, hothers⟩
    · rw [hrefused]
      exact ⟨fun _ => rfl, fun _ _ => rfl⟩
    · rw [hacquired]
      refine ⟨fun hr => absurd rfl hr, fun name hname => ?_⟩
      exact (hothers name).trans (if_neg hname)

/-- That a cycle has acquired its lease. -/
def AcquiredLease (w w' : AlertWorld) : Prop := w'.leases.acquired ≠ w.leases.acquired

section Sync

variable {permits : AlertEnv → AlertWorld → Prop} {A : AlertWorld → Prop} {api : UrlApi}
  {sha256 : Text → String} {config : AlertDeliveryConfig}

/-- A cycle that takes the lease leaves open what is active. -/
theorem sat_syncOperationalAlerts (hA : AbortsIn permits A)
    {source : AlertOp ActiveAlerts} {Q : ActiveAlerts → Prop}
    (hsource : ∀ w, source.Sat (alertContract permits)
      (fun r w' => SameAlerts w w' ∧ ∀ active, r = .ok active → Q active) w)
    (now : Int) (h : TargetsCovered w) :
    (syncOperationalAlerts api sha256 config source now).Sat (alertContract permits)
      (fun r w' => (∀ e, r = .error e → A w') ∧ ∀ result, r = .ok result → TargetsCovered w' ∧
        (AcquiredLease w w' → ∃ active, Q active ∧ OpenRows w'.leases (· ∈ active.kinds) w'))
          w := by
  -- a cycle without the lease does nothing
  have hidle {r : Except Err SyncResult} {w' : AlertWorld} (hcovered : TargetsCovered w')
      (hsame : w'.leases.acquired = w.leases.acquired) : (∀ e, r = .error e → A w') ∧
        ∀ result, r = .ok result → TargetsCovered w' ∧
          (AcquiredLease w w' → ∃ active, Q active ∧ OpenRows w'.leases (· ∈ active.kinds) w') :=
    ⟨fun _ _ => hA.covered w' hcovered,
      fun _ _ => ⟨hcovered, fun hacquired => absurd hsame hacquired⟩⟩
  unfold syncOperationalAlerts
  split
  · exact hidle h rfl
  · split
    · exact hidle h rfl
    · split
      · exact hidle h rfl
      · refine (sat_bind _ _ _ w).mpr ((sat_zoom AlertWorld.leasesLens _ _ _ w
          (sat_tryAcquireLease config.leases .alertDelivery config.leaseOwnerId w.leases)).mono ?_)
        rintro r _ ⟨r₀, ℓ, rfl, rfl, hacquired⟩
        have h₁ : TargetsCovered (AlertWorld.leasesLens.set ℓ w) := h
        -- with the lease the rest runs on the same tables
        cases r₀ with
        | error e => exact hidle h₁ (hacquired.1 fun hr => nomatch hr)
        | ok leaseAcquired =>
          cases leaseAcquired with
          | false => exact hidle h₁ (hacquired.1 fun hr => nomatch hr)
          | true =>
            refine (sat_syncWithLease hA (hsource _) _ now h₁).mono fun r w' hend => ?_
            refine ⟨hend.1, fun result hr => ?_⟩
            obtain ⟨active, hQ, hopen⟩ := hend.2 result hr
            exact ⟨hopen.covered, fun _ => ⟨active, hQ, hopen.leases ▸ hopen⟩⟩

end Sync

/-! ### Runs of cycles -/

/-- A monitoring service that finds these alerts, unless the database refuses. -/
def observe (active : ActiveAlerts) : AlertOp ActiveAlerts := readDatabase fun _ => active

/-- The observed alerts are given to the cycle as they are. -/
theorem sat_observe {permits : AlertEnv → AlertWorld → Prop} (active : ActiveAlerts)
    (w : AlertWorld) :
    (observe active).Sat (alertContract permits)
      (fun r w' => SameAlerts w w' ∧ ∀ found, r = .ok found → found = active) w := by
  have hread : (read fun _ => active).Sat (.alone fun _ => True)
      (fun r _ => ∀ found, r = .ok found → found = active) w.db := by
    refine (sat_stmt _ _).mpr fun db hdb env _ => ⟨trivial, ?_⟩
    cases env.dbError with
    | some m => exact fun _ hr => nomatch hr
    | none => exact fun _ hr => (Except.ok.inj hr).symm
  refine (sat_zoom AlertWorld.dbLens _ _ _ w hread).mono ?_
  rintro r _ ⟨r₀, db, rfl, rfl, hfound⟩
  refine ⟨⟨rfl, rfl, rfl, rfl⟩, fun found hr => ?_⟩
  cases r₀ with
  | error e => exact nomatch hr
  | ok found' => exact hfound found (congrArg _ (Except.ok.inj hr))

section Runs

variable (permits : AlertEnv → AlertWorld → Prop) (api : UrlApi) (sha256 : Text → String)

/-- The states before and after cycles, each with its own configuration and its own alerts. A cycle
    may end with an error; the other services leave the rows of the alerts alone. -/
inductive AlertRun : AlertWorld → Prop
  | start (w : AlertWorld) (hstates : w.alertStates = .empty) (htargets : w.targetStates = .empty) :
      AlertRun w
  | cycle {w w' : AlertWorld} {r : Except Err SyncResult} (hrun : AlertRun w)
      (config : AlertDeliveryConfig) (active : ActiveAlerts) (now : Int)
      (hcycle : RunsWhere permits (syncOperationalAlerts api sha256 config (observe active) now)
        w r w') :
      AlertRun w'
  | others {w w' : AlertWorld} (hrun : AlertRun w) (hstates : w'.alertStates = w.alertStates)
      (htargets : w'.targetStates = w.targetStates) : AlertRun w'

variable {permits api sha256}

/-- An abort that closes the targets may leave any covered state. -/
private theorem abortsIn_targetsCovered : AbortsIn ClosesTargets TargetsCovered :=
  ⟨fun _ => id, fun _ _ hcloses hnot => absurd hcloses hnot⟩

/-- In every reachable state the open rows are covered. -/
private theorem targetsCovered_run (hrun : AlertRun ClosesTargets api sha256 w) :
    TargetsCovered w := by
  induction hrun with
  | start w _ htargets =>
    intro kind targetKey ⟨row, hrow, _⟩
    rw [htargets] at hrow
    exact nomatch hrow
  | @cycle w w' r _ config active now hcycle ih =>
    have hend := (sat_syncOperationalAlerts abortsIn_targetsCovered (sat_observe active) now
      ih).runsWhere hcycle
    cases r with
    | error e => exact hend.1 e rfl
    | ok result => exact (hend.2 result rfl).1
  | others _ hstates htargets ih =>
    unfold TargetsCovered AlertWorld.OpenTarget AlertWorld.OpenKind
    rw [hstates, htargets]
    exact ih

/-- The alerts with an open row are the active ones, and the open rows of targets belong to them. -/
def MirrorsActive (active : ActiveAlerts) (w : AlertWorld) : Prop :=
  (∀ kind, (∃ row ∈ w.alertStates.rows, row.kind = kind ∧ row.resolvedAt = none) ↔
      kind ∈ active.kinds) ∧
    ∀ row ∈ w.targetStates.rows, row.resolvedAt = none → row.alertKind ∈ active.kinds

/-- As long as rows of targets are not left open for want of the statement that closes them, the
    open rows mirror the active alerts after each cycle that completes with its lease. -/
theorem alertStates_mirror (hrun : AlertRun ClosesTargets api sha256 w)
    {config : AlertDeliveryConfig} {active : ActiveAlerts} {now : Int} {result : SyncResult}
    {w' : AlertWorld}
    (hcycle : RunsWhere ClosesTargets (syncOperationalAlerts api sha256 config (observe active) now)
      w
      (.ok result) w') (hacquired : AcquiredLease w w') : MirrorsActive active w' := by
  have hcovered := targetsCovered_run hrun
  obtain ⟨-, hend⟩ := (sat_syncOperationalAlerts abortsIn_targetsCovered (sat_observe active) now
    hcovered).runsWhere hcycle
  obtain ⟨_, rfl, hopen⟩ := (hend result rfl).2 hacquired
  refine ⟨fun kind => ?_, fun row hrow hresolved => ?_⟩
  · rw [← hopen.kinds]
    constructor
    · rintro ⟨row, hmem, rfl, hresolved⟩
      exact ⟨row, Table.find?_key hmem, hresolved⟩
    · rintro ⟨row, hrow, hresolved⟩
      exact ⟨row, Table.mem_of_find? hrow, Table.key_of_find? hrow, hresolved⟩
  · exact hopen.targets row.alertKind row.targetKey ⟨row, Table.find?_key hrow, hresolved⟩

end Runs

/-! ### A sample -/

def AlertWorld.empty : AlertWorld := ⟨.empty, ⟨.empty, 0, []⟩, .empty, .empty, .empty, []⟩

/-- Alerts go to `https://api.example/v1`, and again after 15 minutes. -/
def sampleAlertConfig : AlertDeliveryConfig where
  alertDeliveryEnabled := true
  alertDeliveryWebhookUrl := some "https://api.example/v1".toList
  configuredTargets := []
  alertDeliveryCooldownSeconds := 900
  allowPrivateNetworkTargets := true
  leases := ⟨10, 60, 300, 60, 60, 300⟩
  leaseOwnerId := "server"

def sampleAlert (message : String) : OperationalAlert :=
  ⟨usageIngestFailedJobsKind, .danger, "Usage ingest has failed jobs", message, none⟩

/-- This alert alone. -/
def alertAlone (alert : OperationalAlert) : ActiveAlerts := ⟨[alert], List.nodup_singleton _⟩

def noAlerts : ActiveAlerts := ⟨[], List.nodup_nil⟩

/-- The target accepts the notifications, or no connection to it can be made. -/
def sampleAlertEnv (accepts : Bool) (refuses : AlertStatement → Option String) : AlertEnv where
  db := .available 0 "uuid"
  lease := ⟨0, none⟩
  net := { lookup := fun _ _ => none, remote := fun _ =>
    if accepts then some ⟨200, none, none⟩ else none }
  refuses := refuses

/-- One cycle of the sample configuration, with texts for their digests. -/
def sampleCycle (env : AlertEnv) (active : ActiveAlerts) (now : Int) (w : AlertWorld) :
    Except Err SyncResult × AlertWorld :=
  (syncOperationalAlerts sampleUrlApi String.ofList sampleAlertConfig (observe active) now).exec env
    w

/-- The sample cycle is a run. -/
theorem runsWhere_sampleCycle (env : AlertEnv) (active : ActiveAlerts) (now : Int)
    (w : AlertWorld) :
    RunsWhere (fun _ _ => True) (syncOperationalAlerts sampleUrlApi String.ofList sampleAlertConfig
      (observe active) now) w (sampleCycle env active now w).1 (sampleCycle env active now w).2 :=
  runsWhere_exec env (fun _ => trivial) _ w

/-- The alert is observed and sent. -/
def observedWorld : AlertWorld :=
  (sampleCycle (sampleAlertEnv true fun _ => none) (alertAlone (sampleAlert "1 job")) 0 .empty).2

/-- One alert that is active, and open. -/
theorem alertStates_mirror_sample : MirrorsActive (alertAlone (sampleAlert "1 job"))
    observedWorld := by
  have hpermits : ∀ w, ClosesTargets (sampleAlertEnv true fun _ => none) w := fun _ _ _ _ => rfl
  have hcycle := runsWhere_exec (sampleAlertEnv true fun _ => none) hpermits
    (syncOperationalAlerts sampleUrlApi String.ofList sampleAlertConfig
      (observe (alertAlone (sampleAlert "1 job"))) 0) .empty
  have hok : (sampleCycle (sampleAlertEnv true fun _ => none) (alertAlone (sampleAlert "1 job")) 0
      .empty).1 = .ok ⟨⟨1, 0⟩, 0⟩ := by decide +kernel
  unfold sampleCycle at hok
  rw [hok] at hcycle
  have hlogged : observedWorld.leases.acquired.length = 1 := by decide +kernel
  refine alertStates_mirror (.start .empty rfl rfl) hcycle fun hsame => ?_
  exact absurd (congrArg List.length hsame) (by
    show ¬observedWorld.leases.acquired.length = 0
    omega)

/-- The alert is over, but the row of its target is not closed. -/
def abortedWorld : AlertWorld :=
  (sampleCycle (sampleAlertEnv true fun statement =>
    if statement = .resolveTargetStates usageIngestFailedJobsKind then some "timeout" else none)
    noAlerts 60000 observedWorld).2

/-- It stays open: the later cycles do not look at it. -/
theorem not_alertStates_mirror :
    ¬∀ (api : UrlApi) (sha256 : Text → String) (w : AlertWorld) (config : AlertDeliveryConfig)
        (active : ActiveAlerts) (now : Int) (result : SyncResult) (w' : AlertWorld),
      AlertRun (fun _ _ => True) api sha256 w →
      RunsWhere (fun _ _ => True) (syncOperationalAlerts api sha256 config (observe active) now) w
        (.ok result) w' → AcquiredLease w w' → MirrorsActive active w' := by
  intro h
  -- a cycle that is refused between the two closings, after one that has told the target
  have hrun : AlertRun (fun _ _ => True) sampleUrlApi String.ofList abortedWorld :=
    .cycle (.cycle (.start .empty rfl rfl) _ _ _ (runsWhere_sampleCycle _ _ _ _)) _ _ _
      (runsWhere_sampleCycle _ _ _ _)
  have hlast := runsWhere_sampleCycle (sampleAlertEnv true fun _ => none) noAlerts 120000
    abortedWorld
  generalize hend : sampleCycle (sampleAlertEnv true fun _ => none) noAlerts 120000 abortedWorld =
    last at hlast
  -- the last cycle finds nothing active, and returns
  have hok : last.1 = .ok ⟨⟨0, 0⟩, 0⟩ := by
    rw [← hend]
    decide +kernel
  rw [hok] at hlast
  have hlogged : (last.2.leases.acquired.length, abortedWorld.leases.acquired.length) = (3, 2) := by
    rw [← hend]
    decide +kernel
  -- a row of a target is still open
  have hopen : last.2.targetStates.rows.any (·.resolvedAt.isNone) = true := by
    rw [← hend]
    decide +kernel
  obtain ⟨row, hmem, hresolved⟩ := List.any_eq_true.mp hopen
  refine absurd ((h _ _ _ _ _ _ _ _ hrun hlast fun hsame => ?_).2 row hmem
    (Option.isNone_iff_eq_none.mp hresolved)) List.not_mem_nil
  have hlength := congrArg List.length hsame
  simp only [Prod.mk.injEq] at hlogged
  omega

end HivePoint
