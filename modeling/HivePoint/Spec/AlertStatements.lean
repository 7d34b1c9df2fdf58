import HivePoint.ForStd.RelyGuarantee
import HivePoint.Native.OperationalAlertDelivery

/-!
# The statements of the alert delivery

What each statement of a cycle does to the rows of the alerts and of their targets. A cycle runs
alone; `permits` says which answers its statements may get.
-/

namespace HivePoint

open Prog

/-- The contract of a cycle. -/
abbrev alertContract (permits : AlertEnv → AlertWorld → Prop) : Contract AlertWorld AlertEnv :=
  .aloneWhere permits

variable {permits : AlertEnv → AlertWorld → Prop} {α : Type} {w : AlertWorld}

/-! ### Rules -/

/-- A statement is executed, or refused without effect. -/
private theorem sat_alertStatement {statement : AlertStatement}
    {f : AlertWorld → Except Err (α × AlertWorld)} {post : Except Err α → AlertWorld → Prop}
    (hok : ∀ a w', f w = .ok (a, w') → post (.ok a) w')
    (herror : ∀ e, f w = .error e → post (.error e) w)
    (hrefused : ∀ env m, permits env w → env.refuses statement = some m →
      post (.error (.database m)) w) :
    (alertStatement statement f).Sat (alertContract permits) post w := by
  refine (sat_stmt _ w).mpr fun w' hw' env hpermits => ⟨trivial, ?_⟩
  obtain rfl : w = w' := hw'
  split
  · rename_i hm
    exact hrefused env _ hpermits hm
  · split
    · rename_i hf
      exact hok _ _ hf
    · rename_i hf
      exact herror _ hf

/-- A read is answered or refused. -/
theorem sat_alertRead {statement : AlertStatement} {f : AlertWorld → α}
    {post : Except Err α → AlertWorld → Prop} (hok : post (.ok (f w)) w)
    (hrefused : ∀ env m, permits env w → env.refuses statement = some m →
      post (.error (.database m)) w) :
    (alertRead statement f).Sat (alertContract permits) post w := by
  refine sat_alertStatement (fun a w' h => ?_) (fun e h => nomatch h) hrefused
  obtain ⟨rfl, rfl⟩ := Prod.mk.inj (Except.ok.inj h)
  exact hok

/-- A write of the states is carried out or refused. -/
private theorem sat_writeStates {statement : AlertStatement}
    {f : Table OperationalAlertState → Option (Table OperationalAlertState)}
    {post : Except Err Unit → AlertWorld → Prop} {states : Table OperationalAlertState}
    (hf : f w.alertStates = some states) (hok : post (.ok ()) { w with alertStates := states })
    (hrefused : ∀ env m, permits env w → env.refuses statement = some m →
      post (.error (.database m)) w) :
    (writeStates statement f).Sat (alertContract permits) post w := by
  refine sat_alertStatement (fun _ w' h => ?_) (fun e h => ?_) hrefused
  · rw [hf] at h
    obtain ⟨-, rfl⟩ := Prod.mk.inj (Except.ok.inj h)
    exact hok
  · rw [hf] at h
    exact nomatch h

/-- A write of the target states is carried out or refused. -/
private theorem sat_writeTargetStates {statement : AlertStatement}
    {f : Table OperationalAlertDeliveryTargetState →
      Option (Table OperationalAlertDeliveryTargetState)}
    {post : Except Err Unit → AlertWorld → Prop}
    {states : Table OperationalAlertDeliveryTargetState} (hf : f w.targetStates = some states)
    (hok : post (.ok ()) { w with targetStates := states })
    (hrefused : ∀ env m, permits env w → env.refuses statement = some m →
      post (.error (.database m)) w) :
    (writeTargetStates statement f).Sat (alertContract permits) post w := by
  refine sat_alertStatement (fun _ w' h => ?_) (fun e h => ?_) hrefused
  · rw [hf] at h
    obtain ⟨-, rfl⟩ := Prod.mk.inj (Except.ok.inj h)
    exact hok
  · rw [hf] at h
    exact nomatch h

/-! ### What is left alone -/

/-- The rows of the alerts and of their targets, what has been sent, and the leases. -/
structure SameAlerts (w w' : AlertWorld) : Prop where
  alertStates : w'.alertStates = w.alertStates
  targetStates : w'.targetStates = w.targetStates
  notifications : w'.notifications = w.notifications
  leases : w'.leases = w.leases

/-- The alerts are the same as themselves. -/
theorem SameAlerts.refl (w : AlertWorld) : SameAlerts w w := ⟨rfl, rfl, rfl, rfl⟩

/-- Alerts that are the same twice are the same. -/
theorem SameAlerts.trans {w₁ w₂ w₃ : AlertWorld} (h : SameAlerts w₁ w₂) (h' : SameAlerts w₂ w₃) :
    SameAlerts w₁ w₃ :=
  ⟨h'.alertStates.trans h.alertStates, h'.targetStates.trans h.targetStates,
    h'.notifications.trans h.notifications, h'.leases.trans h.leases⟩

/-- A program on another part of the state leaves the alerts alone. -/
theorem sat_zoom_sameAlerts {σ ι ε : Type} (l : Lens AlertWorld σ)
    (hl : ∀ s w, SameAlerts w (l.set s w)) (env : AlertEnv → ι) (err : ε → Err) (p : Prog σ ι ε α) :
    (p.zoom l env err).Sat (alertContract permits) (fun _ w' => SameAlerts w w') w := by
  refine (eachStep_zoom l env err p).sat (fun s s' h heq => heq ▸ h) (fun s s' _ h _ hstep => ?_)
    (SameAlerts.refl w)
  obtain ⟨t, rfl⟩ := hstep
  exact ⟨trivial, h.trans (hl t s)⟩

/-! ### The rows of the alerts -/

/-- A write of one row of `alertStates`. -/
def WritesState (kind : AlertKind) (row : Option OperationalAlertState)
    (w w' : AlertWorld) : Prop :=
  ∃ states, w' = { w with alertStates := states } ∧
    ∀ k, states.find? k = if k = kind then row else w.alertStates.find? k

/-- An observed alert is open under its kind. -/
theorem sat_upsertObservedState {alert : OperationalAlert} {fingerprint : String}
    {firstObservedAt now : Int} {post : Except Err Unit → AlertWorld → Prop}
    (hok : ∀ row w', row.resolvedAt = none → WritesState alert.kind (some row) w w' →
      post (.ok ()) w')
    (hrefused : ∀ env m, permits env w → env.refuses (.upsertObservedState alert.kind) = some m →
      post (.error (.database m)) w) :
    (upsertObservedState alert fingerprint firstObservedAt now).Sat (alertContract permits)
      post w := by
  obtain ⟨states, hstates⟩ := w.alertStates.upsert?_of_uniques_nil rfl
    (observedState alert fingerprint firstObservedAt now)
    (f := fun row => { row with
      fingerprint := fingerprint, severity := alert.severity, title := alert.title
      message := alert.message, details := alert.details, firstObservedAt := firstObservedAt
      lastObservedAt := now, resolvedAt := none }) (fun _ => rfl)
  refine sat_writeStates hstates
    (hok _ _ ?_ ⟨states, rfl, Table.find?_upsert? hstates fun _ => rfl⟩)
    hrefused
  cases w.alertStates.find? (Row.key (observedState alert fingerprint firstObservedAt now)) <;> rfl

/-- An update changes the row of its kind, if there is one. -/
theorem sat_updateState {statement : AlertStatement} {kind : AlertKind}
    {data : OperationalAlertState → OperationalAlertState}
    (hdata : ∀ row, (data row).kind = row.kind) {post : Except Err Unit → AlertWorld → Prop}
    (hok : ∀ row w', w.alertStates.find? kind = some row → WritesState kind (some (data row)) w w' →
      post (.ok ()) w')
    (hnone : w.alertStates.find? kind = none → post (.error .recordNotFound) w)
    (hrefused : ∀ env m, permits env w → env.refuses statement = some m →
      post (.error (.database m)) w) :
    (updateState statement kind data).Sat (alertContract permits) post w := by
  -- the table has no unique fields, so the update is always valid
  obtain ⟨states, hstates⟩ := Table.update?_of_preserves (t := w.alertStates) (k := kind)
    (f := data)
    hdata fun _ hmem => nomatch hmem
  cases hrow : w.alertStates.find? kind with
  | none =>
    refine sat_alertStatement (fun _ w' h => ?_) (fun e h => ?_) hrefused
    · simp [hrow] at h
    · obtain rfl : Err.recordNotFound = e := by simpa [hrow] using h
      exact hnone hrow
  | some row =>
    refine sat_alertStatement (fun _ w' h => ?_) (fun e h => ?_) hrefused
    · obtain rfl : { w with alertStates := states } = w' := by simpa [hrow, hstates] using h
      refine hok row _ hrow ⟨states, rfl, fun k => ?_⟩
      rw [Table.find?_update? hstates hdata, hrow]
      rfl
    · simp [hrow, hstates] at h

/-! ### The rows of the targets -/

/-- A write of one row of `targetStates`. -/
def WritesTargetState (kind : AlertKind) (targetKey : String)
    (row : OperationalAlertDeliveryTargetState) (w w' : AlertWorld) : Prop :=
  ∃ states, w' = { w with targetStates := states } ∧
    ∀ k, states.find? k = if k = (kind, targetKey) then some row else w.targetStates.find? k

/-- A delivery is recorded in the row of its target, with the instant of the last one. -/
theorem sat_upsertTargetState {statement : AlertStatement}
    {create : OperationalAlertDeliveryTargetState}
    {update : OperationalAlertDeliveryTargetState → OperationalAlertDeliveryTargetState}
    (hkey : ∀ row, Row.key (update row) = Row.key row)
    {post : Except Err Unit → AlertWorld → Prop}
    (hok : ∀ w', WritesTargetState create.alertKind create.targetKey
      (((w.targetStates.find? (create.alertKind, create.targetKey)).map update).getD create) w w' →
      post (.ok ()) w')
    (hrefused : ∀ env m, permits env w → env.refuses statement = some m →
      post (.error (.database m)) w) :
    (writeTargetStates statement fun states => states.upsert? create update).Sat
      (alertContract permits) post w := by
  obtain ⟨states, hstates⟩ := w.targetStates.upsert?_of_uniques_nil rfl create hkey
  exact sat_writeTargetStates hstates (hok _ ⟨states, rfl, Table.find?_upsert? hstates hkey⟩)
    hrefused

/-- The row of a target, once its alert has been resolved. -/
def OperationalAlertDeliveryTargetState.closed (row : OperationalAlertDeliveryTargetState)
    (now : Int) :
    OperationalAlertDeliveryTargetState :=
  if row.resolvedAt.isNone then { row with resolvedAt := some now } else row

/-- The target states of a kind are closed together. -/
theorem sat_resolveTargetStates {kind : AlertKind} {now : Int}
    {post : Except Err Unit → AlertWorld → Prop}
    (hok : ∀ states, (∀ k, states.find? k =
        (w.targetStates.find? k).map fun row => if k.1 = kind then row.closed now else row) →
      post (.ok ()) { w with targetStates := states })
    (hrefused : ∀ env m, permits env w → env.refuses (.resolveTargetStates kind) = some m →
      post (.error (.database m)) w) :
    (resolveTargetStates kind now).Sat (alertContract permits) post w := by
  refine sat_writeTargetStates rfl (hok _ fun k => ?_) hrefused
  rw [closeTargetStates, Table.find?_mapRows]
  refine Option.map_congr fun row hrow => ?_
  have hkind : row.alertKind = k.1 := congrArg Prod.fst (Table.key_of_find? hrow)
  by_cases hk : k.1 = kind
  · simp [hk, hkind.trans hk, OperationalAlertDeliveryTargetState.closed]
  · simp [hk, hkind]

end HivePoint
